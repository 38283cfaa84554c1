import Mathlib
import TabletopRobot.Text.Layout
import TabletopRobot.Text.Upper

/-!
An upper case is its own upper case, and upper-casing neither makes nor removes a blank.

Above U+007F both are properties of the tables: no code point that a character maps to has an
upper case of its own, and no blank stands on either side. The sets are compared as the bits
of one number each.
-/

namespace TabletopRobot.Text

/-! ### Both sides of the tables -/

namespace CaseRun

def sources (r : CaseRun) : List Nat := (List.range r.count).map fun k => r.first + k * r.step

def images (r : CaseRun) : List Nat := (List.range r.count).map fun k => r.image + k * r.step

lemma mem_of_shift? {r : CaseRun} {n m : Nat} (h : r.shift? n = some m) :
    n ∈ r.sources ∧ m ∈ r.images := by
  simp only [shift?, Option.ite_none_right_eq_some, Bool.and_eq_true, decide_eq_true_eq,
    beq_iff_eq, Option.some.injEq] at h
  obtain ⟨⟨⟨hfirst, hlast⟩, hstep⟩, rfl⟩ := h
  obtain ⟨k, hk⟩ := Nat.dvd_of_mod_eq_zero hstep
  have hcount : k < r.count := by
    by_contra hc
    have : r.step * r.count ≤ r.step * k := Nat.mul_le_mul_left _ (by omega)
    rw [Nat.mul_comm r.count] at hlast
    omega
  rw [hk]
  exact ⟨List.mem_map.mpr ⟨k, List.mem_range.mpr hcount, by rw [Nat.mul_comm]; omega⟩,
    List.mem_map.mpr ⟨k, List.mem_range.mpr hcount, by rw [Nat.mul_comm]⟩⟩

end CaseRun

/-- The code points above U+007F that have an upper case. -/
def caseSources : List Nat := caseRuns.flatMap CaseRun.sources ++ caseSequences.map (·.1)

/-- The code points that those are mapped to. -/
def caseImages : List Nat := caseRuns.flatMap CaseRun.images ++ caseSequences.flatMap (·.2)

/-- The blank characters by code point. -/
def blankPoints : List Nat :=
  [9, 10, 11, 12, 13, 0x20, 0x85, 0xA0, 0x1680, 0x2000, 0x2001, 0x2002, 0x2003, 0x2004, 0x2005,
    0x2006, 0x2007, 0x2008, 0x2009, 0x200A, 0x2028, 0x2029, 0x202F, 0x205F, 0x3000]

lemma isBlank_iff (c : Char) : isBlank c = true ↔ c.toNat ∈ blankPoints := by
  simp only [isBlank, blankPoints, List.mem_cons, List.not_mem_nil, Bool.or_eq_true,
    Bool.and_eq_true, decide_eq_true_eq, beq_iff_eq, or_false]
  omega

/-- A set of numbers as the bits of one. -/
def bits (ns : List Nat) : Nat := ns.foldr (fun n m => 1 <<< n ||| m) 0

lemma testBit_bits (ns : List Nat) (n : Nat) : (bits ns).testBit n = true ↔ n ∈ ns := by
  induction ns with
  | nil => simp [bits]
  | cons a ns ih =>
    rw [bits, List.foldr_cons, ← bits, Nat.testBit_or, Bool.or_eq_true, ih, Nat.one_shiftLeft,
      Nat.testBit_two_pow, decide_eq_true_eq, List.mem_cons, eq_comm]

lemma disjoint_of_bits {ns ms : List Nat} (h : bits ns &&& bits ms = 0) : ns.Disjoint ms := by
  intro n hn hm
  have hbit : (bits ns &&& bits ms).testBit n = true := by
    rw [Nat.testBit_and, (testBit_bits ns n).mpr hn, (testBit_bits ms n).mpr hm]; rfl
  rw [h] at hbit
  simp at hbit

lemma sources_disjoint : caseSources.Disjoint (caseImages ++ blankPoints) :=
  disjoint_of_bits (by decide +kernel)

/-- The points from 97 on are the letters `a` to `z`. -/
lemma images_disjoint : caseImages.Disjoint (blankPoints ++ List.range' 97 26) :=
  disjoint_of_bits (by decide +kernel)

lemma runs_valid : ∀ r ∈ caseRuns, r.image + r.count * r.step < 0xD800 ∨
    0xE000 ≤ r.image ∧ r.image + r.count * r.step < 0x110000 := by decide +kernel

lemma sequences_valid : ∀ p ∈ caseSequences, p.2 ≠ [] ∧ ∀ n ∈ p.2, n < 0xD800 := by
  decide +kernel

lemma images_valid {n : Nat} (h : n ∈ caseImages) : n.isValidChar := by
  rcases List.mem_append.mp h with h | h
  · obtain ⟨r, hr, hn⟩ := List.mem_flatMap.mp h
    obtain ⟨k, hk, rfl⟩ := List.mem_map.mp hn
    have hk' := List.mem_range.mp hk
    have : k * r.step + r.step ≤ r.count * r.step := by
      rw [← Nat.succ_mul]; exact Nat.mul_le_mul_right _ hk'
    have := runs_valid r hr
    unfold Nat.isValidChar
    omega
  · obtain ⟨p, hp, hn⟩ := List.mem_flatMap.mp h
    exact Or.inl ((sequences_valid p hp).2 n hn)

lemma toNat_ofNat_image {n : Nat} (h : n ∈ caseImages) : (Char.ofNat n).toNat = n := by
  rw [Char.ofNat, dif_pos (images_valid h)]; rfl

/-! ### One character -/

/-- What holds of the first 128 code points holds of the characters below U+0080. -/
lemma ascii_all {P : Char → Prop} (h : ∀ n < 0x80, P (Char.ofNat n)) {c : Char}
    (hc : c.toNat < 0x80) : P c := by
  have := h c.toNat hc
  rwa [Char.ofNat_toNat] at this

lemma toUpper_ascii {c : Char} (h : c.toNat < 0x80) :
    c.toUpper.toNat < 0x80 ∧ c.toUpper.toUpper = c.toUpper ∧ isBlank c.toUpper = isBlank c :=
  ascii_all (P := fun c => c.toUpper.toNat < 0x80 ∧ c.toUpper.toUpper = c.toUpper ∧
    isBlank c.toUpper = isBlank c) (by decide) h

lemma toUpper_of_not_lower {c : Char} (h : c.toNat < 0x80) (hc : c.toNat ∉ List.range' 97 26) :
    c.toUpper = c :=
  ascii_all (P := fun c => c.toNat ∉ List.range' 97 26 → c.toUpper = c) (by decide) h hc

lemma toUpper_of_not_ascii {c : Char} (h : 0x80 ≤ c.toNat) : c.toUpper = c := by
  have hnot : ¬('a'.val ≤ c.val ∧ c.val ≤ 'z'.val) := by
    rintro ⟨-, hle⟩
    have : c.toNat ≤ 122 := UInt32.le_iff_toNat_le.mp hle
    omega
  exact dif_neg hnot

lemma upperChar_ascii {c : Char} (h : c.toNat < 0x80) : upperChar c = [c.toUpper] := if_pos h

/-- Above U+007F the tables decide: either the character is its own upper case or its upper
case is on the other side of them. -/
lemma upperChar_tables {c : Char} (h : 0x80 ≤ c.toNat) :
    upperChar c = [c] ∨
      c.toNat ∈ caseSources ∧ upperChar c ≠ [] ∧ ∀ d ∈ upperChar c, d.toNat ∈ caseImages := by
  rw [upperChar, if_neg (by omega)]
  cases hrun : caseRuns.findSome? (·.shift? c.toNat) with
  | some n =>
    right
    obtain ⟨r, hr, hshift⟩ := List.exists_of_findSome?_eq_some hrun
    obtain ⟨hsource, himage⟩ := CaseRun.mem_of_shift? hshift
    have himage : n ∈ caseImages := List.mem_append_left _ (List.mem_flatMap.mpr ⟨r, hr, himage⟩)
    refine ⟨List.mem_append_left _ (List.mem_flatMap.mpr ⟨r, hr, hsource⟩), by simp, ?_⟩
    intro d hd
    rw [List.mem_singleton.mp hd, toNat_ofNat_image himage]
    exact himage
  | none =>
    cases hseq : caseSequences.find? (·.1 == c.toNat) with
    | none => exact Or.inl rfl
    | some p =>
      right
      have hmem := List.mem_of_find?_eq_some hseq
      have hp : p.1 = c.toNat := by simpa using List.find?_some hseq
      refine ⟨?_, ?_, fun d hd => ?_⟩
      · exact List.mem_append_right _ (List.mem_map.mpr ⟨p, hmem, hp⟩)
      · simpa using (sequences_valid p hmem).1
      · obtain ⟨n, hn, rfl⟩ := List.mem_map.mp hd
        have himage : n ∈ caseImages :=
          List.mem_append_right _ (List.mem_flatMap.mpr ⟨p, hmem, hn⟩)
        rwa [toNat_ofNat_image himage]

lemma upperChar_of_not_source {c : Char} (h : 0x80 ≤ c.toNat) (hc : c.toNat ∉ caseSources) :
    upperChar c = [c] := by
  rcases upperChar_tables h with hself | ⟨hsource, -⟩
  · exact hself
  · exact absurd hsource hc

lemma upperChar_of_image {c : Char} (h : c.toNat ∈ caseImages) : upperChar c = [c] := by
  rcases Nat.lt_or_ge c.toNat 0x80 with hc | hc
  · have hlower : c.toNat ∉ List.range' 97 26 := fun hl =>
      images_disjoint h (List.mem_append_right _ hl)
    rw [upperChar_ascii hc, toUpper_of_not_lower hc hlower]
  · exact upperChar_of_not_source hc fun hs =>
      sources_disjoint hs (List.mem_append_left _ h)

lemma upperChar_ne_nil (c : Char) : upperChar c ≠ [] := by
  rcases Nat.lt_or_ge c.toNat 0x80 with hc | hc
  · simp [upperChar_ascii hc]
  · rcases upperChar_tables hc with h | ⟨-, h, -⟩
    · simp [h]
    · exact h

/-- An upper case is its own upper case. -/
lemma upperChar_of_mem {c d : Char} (hd : d ∈ upperChar c) : upperChar d = [d] := by
  rcases Nat.lt_or_ge c.toNat 0x80 with hc | hc
  · obtain ⟨hlt, hidem, -⟩ := toUpper_ascii hc
    rw [upperChar_ascii hc, List.mem_singleton] at hd
    rw [hd, upperChar_ascii hlt, hidem]
  · rcases upperChar_tables hc with h | ⟨-, -, h⟩
    · rw [h, List.mem_singleton] at hd
      rw [hd, h]
    · exact upperChar_of_image (h d hd)

/-- An upper case is blank exactly if the character is. -/
lemma isBlank_of_mem_upperChar {c d : Char} (hd : d ∈ upperChar c) : isBlank d = isBlank c := by
  rcases Nat.lt_or_ge c.toNat 0x80 with hc | hc
  · rw [upperChar_ascii hc, List.mem_singleton] at hd
    rw [hd, (toUpper_ascii hc).2.2]
  · rcases upperChar_tables hc with h | ⟨hsource, -, h⟩
    · rw [h, List.mem_singleton] at hd
      rw [hd]
    · have hc' : ¬isBlank c = true := fun hb =>
        sources_disjoint hsource (List.mem_append_right _ ((isBlank_iff c).mp hb))
      have hd' : ¬isBlank d = true := fun hb =>
        images_disjoint (h d hd) (List.mem_append_left _ ((isBlank_iff d).mp hb))
      rw [Bool.eq_false_iff.mpr hc', Bool.eq_false_iff.mpr hd']

/-! ### Texts -/

/-- What is ASCII with its letters raised is raised letter by letter. -/
lemma upper_of_map {s t : List Char} (h : s.map Char.toUpper = t) (ht : ∀ c ∈ t, c.toNat < 0x80) :
    upper s = t := by
  induction s generalizing t with
  | nil => exact h
  | cons c s ih =>
    subst h
    obtain ⟨hhead, htail⟩ := List.forall_mem_cons.mp ht
    have hc : c.toNat < 0x80 := by
      by_contra hc
      rw [toUpper_of_not_ascii (not_lt.mp hc)] at hhead
      exact hc hhead
    rw [upper_cons, upperChar_ascii hc, ih rfl htail, List.map_cons, List.singleton_append]

@[simp] lemma blank_nil : blank [] = true := rfl
@[simp] lemma blank_cons (c : Char) (s : List Char) : blank (c :: s) = (isBlank c && blank s) := rfl
@[simp] lemma blank_append (s t : List Char) : blank (s ++ t) = (blank s && blank t) :=
  List.all_append

lemma blank_upperChar (c : Char) : blank (upperChar c) = isBlank c := by
  rw [Bool.eq_iff_iff, blank, List.all_eq_true]
  constructor
  · intro h
    obtain ⟨d, hd⟩ := List.exists_mem_of_ne_nil _ (upperChar_ne_nil c)
    rw [← isBlank_of_mem_upperChar hd, h d hd]
  · intro h d hd
    rw [isBlank_of_mem_upperChar hd, h]

@[simp] lemma blank_upper (s : List Char) : blank (upper s) = blank s := by
  induction s with
  | nil => rfl
  | cons c s ih => rw [upper_cons, blank_append, blank_upperChar, ih, blank_cons]

end TabletopRobot.Text
