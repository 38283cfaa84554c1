import Mathlib
import TabletopRobot.Text.Layout
import TabletopRobot.Text.Numeral

/-!
Numerals: their digits, and the number they stand for.
-/

namespace TabletopRobot.Text

lemma natText_ne_nil (n : Nat) : natText n ≠ [] := Nat.toDigits_ne_nil

lemma isDigit_natText (n : Nat) : ∀ c ∈ natText n, c.isDigit = true := fun _ hc =>
  Nat.isDigit_of_mem_toDigits (by decide) (by decide) hc

@[simp] lemma digitsValue_natText (n : Nat) : digitsValue (natText n) = n := by
  have h : Nat.ofDigitChars 10 (natText n) 0 = n := Nat.ofDigitChars_ten_toDigits
  rw [Nat.ofDigitChars_eq_foldl] at h
  exact h

/-- Integers are shown in the usual way. -/
lemma showInt_eq (i : ℤ) : showInt i = toString i := by
  cases i with
  | ofNat n => rfl
  | negSucc n => exact String.ofList_cons

lemma range_of_isDigit {c : Char} (h : c.isDigit = true) : 48 ≤ c.toNat ∧ c.toNat ≤ 57 := by
  simp only [Char.isDigit, Bool.and_eq_true, decide_eq_true_eq, ge_iff_le,
    UInt32.le_iff_toNat_le] at h
  exact h

lemma isBlank_of_isDigit {c : Char} (h : c.isDigit = true) : isBlank c = false := by
  have hrange := range_of_isDigit h
  simp [isBlank]
  omega

lemma isDigits_iff {ds : List Char} :
    isDigits ds = true ↔ ds ≠ [] ∧ ∀ c ∈ ds, c.isDigit = true := by
  simp [isDigits]

/-- A numeral without a minus sign is a run of digits, after a plus sign or without it. -/
lemma natural?_eq_some_iff {s : List Char} {n : ℕ} :
    natural? s = some n ↔ ∃ ds, (s = ds ∨ s = '+' :: ds) ∧ ds ≠ [] ∧
      (∀ c ∈ ds, c.isDigit = true) ∧ Nat.ofDigitChars 10 ds 0 = n := by
  have hread (ds : List Char) : (if isDigits ds then some (digitsValue ds) else none) = some n ↔
      (ds ≠ [] ∧ ∀ c ∈ ds, c.isDigit = true) ∧ Nat.ofDigitChars 10 ds 0 = n := by
    rw [Option.ite_none_right_eq_some, isDigits_iff, Option.some_inj]
    rfl
  have hplus : ('+' : Char).isDigit = false := by decide
  unfold natural?
  dsimp only
  split
  · next r =>
    rw [hread]
    constructor
    · rintro ⟨⟨hne, hds⟩, hn⟩
      exact ⟨r, Or.inr rfl, hne, hds, hn⟩
    · rintro ⟨ds, rfl | hds, hne, hdigits, hn⟩
      · simp [hplus] at hdigits
      · obtain rfl := (List.cons.inj hds).2
        exact ⟨⟨hne, hdigits⟩, hn⟩
  · next hnot =>
    rw [hread]
    constructor
    · rintro ⟨⟨hne, hds⟩, hn⟩
      exact ⟨s, Or.inl rfl, hne, hds, hn⟩
    · rintro ⟨ds, rfl | rfl, hne, hdigits, hn⟩
      · exact ⟨⟨hne, hdigits⟩, hn⟩
      · exact absurd rfl (hnot ds)

/-- Only zero starts with a zero. -/
lemma head_natText {n : Nat} (hn : n ≠ 0) : (natText n).head? ≠ some '0' := by
  induction n using Nat.strong_induction_on with
  | _ n ih =>
    rw [natText, Nat.toDigits_eq_if (by decide)]
    split
    · have hdigit : ∀ k < 10, k ≠ 0 → Nat.digitChar k ≠ '0' := by decide
      simpa using hdigit n ‹_› hn
    · have hrest := ih (n / 10) (by omega) (by omega)
      rw [List.head?_append_of_ne_nil _ Nat.toDigits_ne_nil]
      exact hrest

/-! ### Numerals of a given width -/

lemma isDigit_padded (width n : Nat) : ∀ c ∈ padded width n, c.isDigit = true := by
  intro c hc
  rcases List.mem_append.mp hc with hzero | hdigit
  · rw [List.eq_of_mem_replicate hzero]
    rfl
  · exact isDigit_natText n c hdigit

lemma padded_ne_nil (width n : Nat) : padded width n ≠ [] :=
  List.append_ne_nil_of_right_ne_nil _ (natText_ne_nil n)

/-- Zeros in front do not change the number. -/
@[simp] lemma digitsValue_padded (width n : Nat) : digitsValue (padded width n) = n := by
  have hzeros : ∀ k, digitsValue (List.replicate k '0') = 0 := by
    intro k
    induction k with
    | zero => rfl
    | succ k ih => exact ih
  have hvalue : digitsValue (natText n) = n := digitsValue_natText n
  unfold digitsValue at hzeros hvalue ⊢
  rw [padded, List.foldl_append, hzeros, hvalue]

lemma length_padded {width n : Nat} (hpos : 0 < width) (hn : n < 10 ^ width) :
    (padded width n).length = width := by
  have hle : (natText n).length ≤ width := Nat.toDigits_length 10 n width hpos hn
  rw [padded, List.length_append, List.length_replicate]
  omega

/-! ### Numerals inside a text -/

/-- What comes after a numeral does not go on with it. -/
def Stops (rest : List Char) : Prop := ∀ c ∈ rest.head?, c.isDigit = false

lemma trimStart_cons {c : Char} (hc : isBlank c = false) (s : List Char) :
    trimStart (c :: s) = c :: s :=
  List.dropWhile_cons_of_neg (by simp [hc])

lemma trimStart_digits {ds : List Char} (hds : ∀ c ∈ ds, c.isDigit = true) (hne : ds ≠ [])
    (rest : List Char) : trimStart (ds ++ rest) = ds ++ rest := by
  obtain ⟨d, ds, rfl⟩ := List.exists_cons_of_ne_nil hne
  exact trimStart_cons (isBlank_of_isDigit (hds d List.mem_cons_self)) (ds ++ rest)

lemma takeWhile_digits {ds rest : List Char} (hds : ∀ c ∈ ds, c.isDigit = true)
    (hrest : Stops rest) : (ds ++ rest).takeWhile Char.isDigit = ds := by
  have hstop : rest.takeWhile Char.isDigit = [] := by
    cases rest with
    | nil => rfl
    | cons c rest => exact List.takeWhile_cons_of_neg (by simp [hrest c rfl])
  rw [List.takeWhile_append_of_pos hds, hstop, List.append_nil]

lemma dropWhile_digits {ds rest : List Char} (hds : ∀ c ∈ ds, c.isDigit = true)
    (hrest : Stops rest) : (ds ++ rest).dropWhile Char.isDigit = rest := by
  have hsplit := List.takeWhile_append_dropWhile (p := Char.isDigit) (l := ds ++ rest)
  rw [takeWhile_digits hds hrest] at hsplit
  exact List.append_cancel_left hsplit

end TabletopRobot.Text
