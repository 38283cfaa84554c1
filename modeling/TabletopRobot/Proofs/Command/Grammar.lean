import TabletopRobot.Proofs.Text.Fields

/-!
The grammar of lines. A line is read as a placement exactly if it has the form of one, with the
integers that stand in it brought into 64 bits.
-/

namespace TabletopRobot

namespace Command

/-- The words that are a command by themselves. -/
def keywords : List (String × Command) :=
  [("MOVE", .move), ("LEFT", .turn .left), ("RIGHT", .turn .right), ("REPORT", .report)]

/-- An integer in decimal digits, after one sign at most. -/
inductive Spells : List Char → ℤ → Prop
  | bare {ds : List Char} (hne : ds ≠ []) (hds : ∀ c ∈ ds, c.isDigit = true) :
    Spells ds (Nat.ofDigitChars 10 ds 0)
  | plus {ds : List Char} (hne : ds ≠ []) (hds : ∀ c ∈ ds, c.isDigit = true) :
    Spells ('+' :: ds) (Nat.ofDigitChars 10 ds 0)
  | minus {ds : List Char} (hne : ds ≠ []) (hds : ∀ c ∈ ds, c.isDigit = true) :
    Spells ('-' :: ds) (-Nat.ofDigitChars 10 ds 0)

/-- The nearest integer of 64 bits. -/
def clamp (i : ℤ) : ℤ := max (-2 ^ 63) (min (2 ^ 63 - 1) i)

/-- A line that places the robot, piece by piece. -/
inductive Places (line : List Char) (x y : Int64) (f : Direction) : Prop
  | mk {w₀ tx w₁ w₂ ty w₃ w₄ : List Char} {i j : ℤ}
    (hline : line = "PLACE".toList ++ (w₀ ++ tx ++ w₁ ++ ',' :: (w₂ ++ ty ++ w₃ ++
      ',' :: (w₄ ++ f.name.toList))))
    (hsep : w₀ ≠ []) (hblank : ∀ w ∈ [w₀, w₁, w₂, w₃, w₄], ∀ c ∈ w, Text.isBlank c = true)
    (htx : Spells tx i) (hx : x.toInt = clamp i) (hty : Spells ty j) (hy : y.toInt = clamp j)

/-! ### Coordinates -/

lemma toInt_saturate (i : ℤ) : (saturate i).toInt = clamp i := by
  have hmin : Int64.minValue.toInt = -2 ^ 63 := by decide
  have hmax : Int64.maxValue.toInt = 2 ^ 63 - 1 := by decide
  rw [saturate, hmin, hmax]
  exact Int64.toInt_ofInt_of_le (by omega) (by omega)

/-- A sign is one character in front, or it is not there. -/
lemma sign_cases (s : List Char) :
    (∃ ds, s = '-' :: ds ∧ sign s = (true, ds)) ∨ (∃ ds, s = '+' :: ds ∧ sign s = (false, ds)) ∨
      sign s = (false, s) := by
  unfold sign
  split
  · exact Or.inl ⟨_, rfl, rfl⟩
  · exact Or.inr (Or.inl ⟨_, rfl, rfl⟩)
  · exact Or.inr (Or.inr rfl)

lemma sign_of_digits {ds : List Char} (h : ∀ c ∈ ds, c.isDigit = true) : sign ds = (false, ds) := by
  rcases sign_cases ds with ⟨r, rfl, -⟩ | ⟨r, rfl, -⟩ | hsign
  · exact absurd (h '-' List.mem_cons_self) (by decide)
  · exact absurd (h '+' List.mem_cons_self) (by decide)
  · exact hsign

lemma coordinate?_of_sign {s ds : List Char} {negative : Bool} (h : sign s = (negative, ds)) :
    coordinate? s = if Text.isDigits ds then
      some (saturate (if negative then -Nat.ofDigitChars 10 ds 0 else Nat.ofDigitChars 10 ds 0))
    else none := by
  rw [coordinate?, h]
  rfl

lemma coordinate?_eq_some_iff {s : List Char} {x : Int64} :
    coordinate? s = some x ↔ ∃ i, Spells s i ∧ x.toInt = clamp i := by
  have hsame (i : ℤ) : saturate i = x ↔ x.toInt = clamp i := by
    rw [← toInt_saturate, Int64.toInt_inj, eq_comm]
  simp only [← hsame]
  constructor
  · intro h
    rcases sign_cases s with ⟨ds, rfl, hsign⟩ | ⟨ds, rfl, hsign⟩ | hsign
    all_goals
      rw [coordinate?_of_sign hsign, Option.ite_none_right_eq_some, Text.isDigits_iff,
        Option.some_inj] at h
      obtain ⟨⟨hne, hds⟩, hx⟩ := h
    · exact ⟨_, .minus hne hds, hx⟩
    · exact ⟨_, .plus hne hds, hx⟩
    · exact ⟨_, .bare hne hds, hx⟩
  · rintro ⟨i, hspells, rfl⟩
    cases hspells with
    | bare hne hds =>
      rw [coordinate?_of_sign (sign_of_digits hds)]
      exact if_pos (Text.isDigits_iff.mpr ⟨hne, hds⟩)
    | plus hne hds => exact if_pos (Text.isDigits_iff.mpr ⟨hne, hds⟩)
    | minus hne hds => exact if_pos (Text.isDigits_iff.mpr ⟨hne, hds⟩)

lemma Spells.solid {t : List Char} {i : ℤ} (h : Spells t i) :
    ∀ c ∈ t, Text.isBlank c = false ∧ c ≠ ',' := by
  have hdigit {ds : List Char} (hds : ∀ c ∈ ds, c.isDigit = true) :
      ∀ c ∈ ds, Text.isBlank c = false ∧ c ≠ ',' := by
    intro c hc
    refine ⟨Text.isBlank_of_isDigit (hds c hc), ?_⟩
    rintro rfl
    exact absurd (hds ',' hc) (by decide)
  cases h with
  | bare _ hds => exact hdigit hds
  | plus _ hds => exact List.forall_mem_cons.mpr ⟨by decide, hdigit hds⟩
  | minus _ hds => exact List.forall_mem_cons.mpr ⟨by decide, hdigit hds⟩

/-- Numbers are ASCII and have no letters. -/
lemma Spells.plain {t : List Char} {i : ℤ} (h : Spells t i) :
    ∀ c ∈ t, c.toNat < 0x80 ∧ c.toUpper = c := by
  have hdigit {ds : List Char} (hds : ∀ c ∈ ds, c.isDigit = true) :
      ∀ c ∈ ds, c.toNat < 0x80 ∧ c.toUpper = c := by
    intro c hc
    have hrange := Text.range_of_isDigit (hds c hc)
    have hlow : c.toNat < 0x80 := by omega
    refine ⟨hlow, Text.toUpper_of_not_lower hlow fun hletter => ?_⟩
    rw [List.mem_range'_1] at hletter
    omega
  cases h with
  | bare _ hds => exact hdigit hds
  | plus _ hds => exact List.forall_mem_cons.mpr ⟨by decide, hdigit hds⟩
  | minus _ hds => exact List.forall_mem_cons.mpr ⟨by decide, hdigit hds⟩

lemma Spells.ne_nil {t : List Char} {i : ℤ} (h : Spells t i) : t ≠ [] := by
  cases h with
  | bare hne _ => exact hne
  | plus _ _ => exact List.cons_ne_nil _ _
  | minus _ _ => exact List.cons_ne_nil _ _

/-! ### Directions -/

/-- A text in which every ASCII letter is in upper case. -/
def Raised (s : List Char) : Prop := ∀ c ∈ s, c.toUpper = c

lemma raised_normalize (raw : String) : Raised (normalize raw).toList := by
  intro c hc
  rcases Nat.lt_or_ge c.toNat 0x80 with hlow | hhigh
  · have hself := upperChar_of_mem_normalize hc
    rw [Text.upperChar_ascii hlow] at hself
    exact List.singleton_inj.mp hself
  · exact Text.toUpper_of_not_ascii hhigh

lemma ofText?_name (f : Direction) : Direction.ofText? f.name.toList = some f := by
  cases f <;> decide +kernel

/-- In upper case, only its name names a direction. -/
lemma trim_of_ofText? {s : List Char} (hs : Raised s) {f : Direction}
    (h : Direction.ofText? s = some f) : Text.trim s = f.name.toList := by
  obtain ⟨u, v, -, -, hsurround⟩ := Text.exists_surround s
  have hraised : (Text.trim s).map Char.toUpper = Text.trim s := by
    refine (List.map_congr_left fun c hc => hs c ?_).trans (List.map_id _)
    rw [hsurround]
    exact List.mem_append_left _ (List.mem_append_right _ hc)
  rw [Direction.ofText?, hraised] at h
  simpa using List.find?_some h

/-! ### Placements -/

lemma placementOf_eq_ok_iff {tx ty tf : List Char} {c : Command} :
    placementOf tx ty tf = .ok c ↔ ∃ x y f, coordinate? tx = some x ∧ coordinate? ty = some y ∧
      Direction.ofText? tf = some f ∧ c = place x y f := by
  constructor
  · intro h
    unfold placementOf at h
    split at h
    · rename_i x y f hx hy hf
      exact ⟨x, y, f, hx, hy, hf, (Except.ok.inj h).symm⟩
    · cases h
  · rintro ⟨x, y, f, hx, hy, hf, rfl⟩
    rw [placementOf, hx, hy, hf]

/-- A placement that is not read has a flaw. -/
lemma flaws_of_placementOf {tx ty tf : List Char} {fs : List Flaw}
    (h : placementOf tx ty tf = .error fs) : fs ≠ [] := by
  unfold placementOf at h
  split at h
  · cases h
  · rename_i hnone
    cases h
    intro hempty
    simp only [List.append_eq_nil_iff, ite_eq_right_iff, reduceCtorEq, imp_false,
      Option.isNone_iff_eq_none] at hempty
    obtain ⟨⟨hx, hy⟩, hf⟩ := hempty
    obtain ⟨x, hx⟩ := Option.ne_none_iff_exists'.mp hx
    obtain ⟨y, hy⟩ := Option.ne_none_iff_exists'.mp hy
    obtain ⟨f, hf⟩ := Option.ne_none_iff_exists'.mp hf
    exact hnone x y f hx hy hf

/-- What is read as a placement: three fields after a blank, each of which is read. -/
lemma placement_eq_ok_iff {rest : List Char} {c : Command} :
    placement rest = .ok c ↔ ∃ a b d x y f, (∃ e ∈ rest.head?, Text.isBlank e = true) ∧
      Text.splitAt ',' rest = [a, b, d] ∧ coordinate? (Text.trim a) = some x ∧
      coordinate? (Text.trim b) = some y ∧ Direction.ofText? (Text.trim d) = some f ∧
      c = place x y f := by
  constructor
  · intro h
    unfold placement at h
    split_ifs at h with hblank hhead
    split at h
    · rename_i tx ty tf hfields
      obtain ⟨a, l, hsplit, rfl, hl⟩ := List.map_eq_cons_iff.mp hfields
      obtain ⟨b, m, rfl, rfl, hm⟩ := List.map_eq_cons_iff.mp hl
      obtain ⟨d, n, rfl, rfl, hn⟩ := List.map_eq_cons_iff.mp hm
      obtain rfl := List.map_eq_nil_iff.mp hn
      obtain ⟨x, y, f, hx, hy, hf, rfl⟩ := placementOf_eq_ok_iff.mp h
      refine ⟨a, b, d, x, y, f, ?_, hsplit, hx, hy, hf, rfl⟩
      cases hrest : rest.head? with
      | none => simp [hrest] at hhead
      | some e => exact ⟨e, rfl, by simpa [hrest] using hhead⟩
    · cases h
  · rintro ⟨a, b, d, x, y, f, ⟨e, he, hspace⟩, hsplit, hx, hy, hf, rfl⟩
    have hblank : ¬Text.blank rest = true := by
      intro hall
      have hcomma := Text.blank_iff.mp hall ',' (by simp [Text.eq_of_splitAt_three hsplit])
      exact absurd hcomma (by decide)
    have hhead : (rest.head?.map Text.isBlank).getD false = true := by
      rw [Option.mem_def.mp he]
      exact hspace
    rw [placement, if_neg hblank, if_pos hhead, hsplit]
    exact placementOf_eq_ok_iff.mpr ⟨x, y, f, hx, hy, hf, rfl⟩

lemma flaws_of_placement {rest : List Char} {fs : List Flaw} (h : placement rest = .error fs) :
    fs ≠ [] := by
  unfold placement at h
  split_ifs at h with hblank hhead
  · cases h
    simp
  · split at h
    · exact flaws_of_placementOf h
    · cases h
      simp
  · cases h
    simp

/-- The name of a direction is one word. -/
lemma solid_name (f : Direction) : ∀ c ∈ f.name.toList, Text.isBlank c = false ∧ c ≠ ',' := by
  cases f <;> simp [Direction.name, Text.isBlank]

lemma Places.placement_eq {rest : List Char} {x y : Int64} {f : Direction}
    (h : Places ("PLACE".toList ++ rest) x y f) : placement rest = .ok (place x y f) := by
  obtain @⟨w₀, tx, w₁, w₂, ty, w₃, w₄, i, j, hline, hsep, hblank, htx, hx, hty, hy⟩ := h
  have hrest := List.append_cancel_left hline
  have hcomma : ∀ w ∈ [w₀, w₁, w₂, w₃, w₄], ',' ∉ w := fun w hw hmem =>
    absurd (hblank w hw ',' hmem) (by decide)
  simp only [List.forall_mem_cons] at hblank hcomma
  obtain ⟨h₀, h₁, h₂, h₃, h₄, -⟩ := hblank
  obtain ⟨hc₀, hc₁, hc₂, hc₃, hc₄, -⟩ := hcomma
  have htrim {u t v : List Char} (hu : ∀ c ∈ u, Text.isBlank c = true)
      (ht : ∀ c ∈ t, Text.isBlank c = false ∧ c ≠ ',') (hv : ∀ c ∈ v, Text.isBlank c = true) :
      Text.trim (u ++ t ++ v) = t := by
    rw [Text.trim_surround (Text.blank_iff.mpr hu) (Text.blank_iff.mpr hv),
      Text.trim_of_solid fun c hc => (ht c hc).1]
  have hname : Text.trim (w₄ ++ f.name.toList) = f.name.toList := by
    simpa using htrim h₄ (solid_name f) (v := []) (by simp)
  have hmiss {t : List Char} (ht : ∀ c ∈ t, Text.isBlank c = false ∧ c ≠ ',') : ',' ∉ t :=
    fun hmem => (ht ',' hmem).2 rfl
  refine placement_eq_ok_iff.mpr ⟨w₀ ++ tx ++ w₁, w₂ ++ ty ++ w₃, w₄ ++ f.name.toList, x, y, f,
    ?_, ?_, ?_, ?_, ?_, rfl⟩
  · obtain ⟨e, w, rfl⟩ := List.exists_cons_of_ne_nil hsep
    exact ⟨e, by simp [hrest], h₀ e List.mem_cons_self⟩
  · rw [hrest]
    refine Text.splitAt_three ?_ ?_ ?_
    · simp [hc₀, hc₁, hmiss htx.solid]
    · simp [hc₂, hc₃, hmiss hty.solid]
    · simp [hc₄, hmiss (solid_name f)]
  · rw [htrim h₀ htx.solid h₁]
    exact coordinate?_eq_some_iff.mpr ⟨i, htx, hx⟩
  · rw [htrim h₂ hty.solid h₃]
    exact coordinate?_eq_some_iff.mpr ⟨j, hty, hy⟩
  · rw [hname]
    exact ofText?_name f

lemma places_of_placement {rest : List Char} {c : Command} (hraised : Raised rest)
    (hlast : ∀ e ∈ rest.getLast?, Text.isBlank e = false) (h : placement rest = .ok c) :
    ∃ x y f, c = place x y f ∧ Places ("PLACE".toList ++ rest) x y f := by
  obtain ⟨a, b, d, x, y, f, ⟨e, he, hspace⟩, hsplit, hx, hy, hf, rfl⟩ :=
    placement_eq_ok_iff.mp h
  have hrest := Text.eq_of_splitAt_three hsplit
  obtain ⟨i, htx, hxi⟩ := coordinate?_eq_some_iff.mp hx
  obtain ⟨j, hty, hyj⟩ := coordinate?_eq_some_iff.mp hy
  obtain ⟨w₀, w₁, h₀, h₁, ha⟩ := Text.exists_surround a
  obtain ⟨w₂, w₃, h₂, h₃, hb⟩ := Text.exists_surround b
  obtain ⟨w₄, w₅, h₄, h₅, hd⟩ := Text.exists_surround d
  have hname : Text.trim d = f.name.toList := by
    have hupper : Raised (Text.trim d) := fun c hc => hraised c (by
      rw [hrest, hd]
      simp [hc])
    rw [← trim_of_ofText? hupper hf, Text.trim_of_trimmed (Text.trimmed_trim d)]
  -- the line ends in no blank, so none comes after the name
  have hend : w₅ = [] := by
    refine Text.eq_nil_of_blank_end (s := a ++ ',' :: (b ++ ',' :: (w₄ ++ Text.trim d))) h₅ ?_
    have hpre : rest = (a ++ ',' :: (b ++ ',' :: (w₄ ++ Text.trim d))) ++ w₅ := by
      rw [hrest]
      conv_lhs => rw [hd]
      simp
    rwa [← hpre]
  -- the first field begins with a blank, and its number does not
  have hsep : w₀ ≠ [] := by
    refine Text.ne_nil_of_blank_head (fun c hc => (htx.solid c hc).1) htx.ne_nil
      (t := w₁ ++ ',' :: (b ++ ',' :: d)) ⟨e, ?_, hspace⟩
    rw [← List.append_assoc, ← ha, ← hrest]
    exact he
  have hd' : w₄ ++ f.name.toList = d := by
    rw [hend, List.append_nil, hname] at hd
    exact hd.symm
  refine ⟨x, y, f, rfl, @Places.mk _ _ _ _ w₀ (Text.trim a) w₁ w₂ (Text.trim b) w₃ w₄ i j ?_ hsep
    ?_ htx hxi hty hyj⟩
  · rw [← ha, ← hb, hd', ← hrest]
  · simp only [List.forall_mem_cons]
    exact ⟨Text.blank_iff.mp h₀, Text.blank_iff.mp h₁, Text.blank_iff.mp h₂, Text.blank_iff.mp h₃,
      Text.blank_iff.mp h₄, List.forall_mem_nil _⟩

/-! ### Lines -/

lemma ofLine_keyword : ∀ p ∈ keywords, ofLine p.1.toList = .ok p.2 := by
  simp only [keywords, List.forall_mem_cons]
  exact ⟨rfl, rfl, rfl, rfl, List.forall_mem_nil _⟩

lemma ofLine_place (rest : List Char) :
    ofLine ("PLACE".toList ++ rest) =
      (placement rest).mapError (Malformed.mk (.ofList ("PLACE".toList ++ rest))) := by
  have hword : ofWord? ("PLACE".toList ++ rest) = none := rfl
  rw [ofLine, hword, Text.after?_eq_some_iff.mpr rfl]

lemma text_keyword {p : String × Command} (hp : p ∈ keywords) : p.2.text = p.1 := by
  simp only [keywords, List.mem_cons, List.not_mem_nil, or_false] at hp
  rcases hp with rfl | rfl | rfl | rfl <;> rfl

lemma ofLine_other {line : List Char} (hword : ∀ p ∈ keywords, line ≠ p.1.toList)
    (hplace : ¬"PLACE".toList <+: line) : ofLine line = .ok (.unknown (.ofList line)) := by
  have hnone : ofWord? line = none := by
    refine List.find?_eq_none.mpr fun c hc => ?_
    obtain ⟨p, hp, rfl⟩ : ∃ p ∈ keywords, p.2 = c := List.mem_map.mp hc
    rw [text_keyword hp]
    simpa using hword p hp
  have hafter : Text.after? "PLACE".toList line = none :=
    Option.eq_none_iff_forall_ne_some.mpr fun rest h =>
      hplace ⟨rest, (Text.after?_eq_some_iff.mp h).symm⟩
  rw [ofLine, hnone, hafter]

lemma not_place_keyword : ∀ p ∈ keywords, ¬"PLACE".toList <+: p.1.toList := by
  simp [keywords]

lemma Places.isPrefix {line : List Char} {x y : Int64} {f : Direction} (h : Places line x y f) :
    "PLACE".toList <+: line := by
  obtain ⟨hline, -⟩ := h
  exact ⟨_, hline.symm⟩

lemma Places.ofLine_eq {line : List Char} {x y : Int64} {f : Direction} (h : Places line x y f) :
    ofLine line = .ok (place x y f) := by
  obtain ⟨rest, rfl⟩ := h.isPrefix
  rw [ofLine_place, h.placement_eq]
  rfl

/-- What a line can be, by its form, and how it is read. -/
lemma ofLine_cases {line : List Char} (hraised : Raised line) (htrimmed : Text.Trimmed line) :
    (∃ p ∈ keywords, line = p.1.toList ∧ ofLine line = .ok p.2) ∨
    (∃ x y f, Places line x y f ∧ ofLine line = .ok (place x y f)) ∨
    ("PLACE".toList <+: line ∧ (∀ x y f, ¬Places line x y f) ∧
      ∃ flaws, flaws ≠ [] ∧ ofLine line = .error ⟨.ofList line, flaws⟩) ∨
    ((∀ p ∈ keywords, line ≠ p.1.toList) ∧ ¬"PLACE".toList <+: line ∧
      ofLine line = .ok (.unknown (.ofList line))) := by
  by_cases hword : ∃ p ∈ keywords, line = p.1.toList
  · obtain ⟨p, hp, rfl⟩ := hword
    exact Or.inl ⟨p, hp, rfl, ofLine_keyword p hp⟩
  by_cases hplace : "PLACE".toList <+: line
  · obtain ⟨rest, rfl⟩ := hplace
    have hread := ofLine_place rest
    cases hplacement : placement rest with
    | ok c =>
      have hlast : ∀ e ∈ rest.getLast?, Text.isBlank e = false := fun e he =>
        htrimmed.2 e (List.mem_getLast?_append_of_mem_getLast? he)
      obtain ⟨x, y, f, rfl, hplaces⟩ :=
        places_of_placement (fun c hc => hraised c (List.mem_append_right _ hc)) hlast hplacement
      exact Or.inr (Or.inl ⟨x, y, f, hplaces, hplaces.ofLine_eq⟩)
    | error flaws =>
      rw [hplacement] at hread
      refine Or.inr (Or.inr (Or.inl ⟨⟨rest, rfl⟩, fun x y f h => ?_, flaws,
        flaws_of_placement hplacement, hread⟩))
      rw [h.placement_eq] at hplacement
      cases hplacement
  · have hother : ∀ p ∈ keywords, line ≠ p.1.toList := fun p hp h => hword ⟨p, hp, h⟩
    exact Or.inr (Or.inr (Or.inr ⟨hother, hplace, ofLine_other hother hplace⟩))

/-- The words stand for different commands, which are neither placements nor unknown. -/
lemma keyword_unique {p : String × Command} (hp : p ∈ keywords) :
    (∀ x y f, p.2 ≠ place x y f) ∧ (∀ l, p.2 ≠ unknown l) ∧
      ∀ q ∈ keywords, p.2 = q.2 → p.1 = q.1 := by
  simp only [keywords, List.mem_cons, List.not_mem_nil, or_false] at hp
  rcases hp with rfl | rfl | rfl | rfl <;> simp [keywords]

section

variable {line : List Char} (hraised : Raised line) (htrimmed : Text.Trimmed line)

include hraised htrimmed

lemma ofLine_eq_place_iff {x y : Int64} {f : Direction} :
    ofLine line = .ok (place x y f) ↔ Places line x y f := by
  refine ⟨fun h => ?_, Places.ofLine_eq⟩
  rcases ofLine_cases hraised htrimmed with ⟨p, hp, -, hread⟩ | ⟨x', y', f', hplaces, hread⟩ |
    ⟨-, -, flaws, -, hread⟩ | ⟨-, -, hread⟩
  all_goals rw [hread] at h
  · exact absurd (Except.ok.inj h) ((keyword_unique hp).1 x y f)
  · cases h
    exact hplaces
  · cases h
  · cases h

lemma ofLine_eq_keyword_iff {p : String × Command} (hp : p ∈ keywords) :
    ofLine line = .ok p.2 ↔ line = p.1.toList := by
  refine ⟨fun h => ?_, fun h => h ▸ ofLine_keyword p hp⟩
  obtain ⟨hplace, hunknown, hword⟩ := keyword_unique hp
  rcases ofLine_cases hraised htrimmed with ⟨q, hq, rfl, hread⟩ | ⟨x, y, f, -, hread⟩ |
    ⟨-, -, flaws, -, hread⟩ | ⟨-, -, hread⟩
  all_goals rw [hread] at h
  · rw [hword q hq (Except.ok.inj h).symm]
  · exact absurd (Except.ok.inj h).symm (hplace x y f)
  · cases h
  · exact absurd (Except.ok.inj h).symm (hunknown _)

lemma ofLine_eq_unknown_iff {l : String} :
    ofLine line = .ok (.unknown l) ↔
      l = .ofList line ∧ (∀ p ∈ keywords, line ≠ p.1.toList) ∧ ¬"PLACE".toList <+: line := by
  constructor
  · intro h
    rcases ofLine_cases hraised htrimmed with ⟨p, hp, -, hread⟩ | ⟨x, y, f, -, hread⟩ |
      ⟨-, -, flaws, -, hread⟩ | ⟨hword, hplace, hread⟩
    all_goals rw [hread] at h
    · exact absurd (Except.ok.inj h) ((keyword_unique hp).2.1 l)
    · cases h
    · cases h
    · cases h
      exact ⟨rfl, hword, hplace⟩
  · rintro ⟨rfl, hword, hplace⟩
    exact ofLine_other hword hplace

lemma ofLine_eq_error_iff :
    (∃ flaws, flaws ≠ [] ∧ ofLine line = .error ⟨.ofList line, flaws⟩) ↔
      "PLACE".toList <+: line ∧ ∀ x y f, ¬Places line x y f := by
  rcases ofLine_cases hraised htrimmed with ⟨p, hp, rfl, hread⟩ | ⟨x, y, f, hplaces, hread⟩ |
    ⟨hplace, hnot, hflaws⟩ | ⟨-, hplace, hread⟩
  · simp only [hread, reduceCtorEq, and_false, exists_false, false_iff]
    exact fun h => not_place_keyword p hp h.1
  · simp only [hread, reduceCtorEq, and_false, exists_false, false_iff]
    exact fun h => h.2 x y f hplaces
  · exact ⟨fun _ => ⟨hplace, hnot⟩, fun _ => hflaws⟩
  · simp only [hread, reduceCtorEq, and_false, exists_false, false_iff]
    exact fun h => hplace h.1

end

end Command

open Command

/-- **The parser accepts exactly its grammar.** In normal form a line is read as a placement
exactly if it has the form of one, as a command without arguments exactly if it is the word for
it, and as an unknown command exactly if it is no such word and does not begin with `PLACE`. It
is malformed, with a flaw at least, exactly if it begins with `PLACE` and is no placement. -/
theorem parse_iff_grammar (raw : String) :
    (∀ x y f, parse raw = .ok (.place x y f) ↔ Places (normalize raw).toList x y f) ∧
      (∀ p ∈ keywords, parse raw = .ok p.2 ↔ normalize raw = p.1) ∧
      (∀ l, parse raw = .ok (.unknown l) ↔
        l = normalize raw ∧ (∀ p ∈ keywords, normalize raw ≠ p.1) ∧
          ¬"PLACE".toList <+: (normalize raw).toList) ∧
      ((∃ flaws, flaws ≠ [] ∧ parse raw = .error ⟨normalize raw, flaws⟩) ↔
        "PLACE".toList <+: (normalize raw).toList ∧
          ∀ x y f, ¬Places (normalize raw).toList x y f) := by
  have hraised : Raised (normalize raw).toList := raised_normalize raw
  have htrimmed : Text.Trimmed (normalize raw).toList := trimmed_normalize raw
  have hparse : parse raw = ofLine (normalize raw).toList := rfl
  have hline : normalize raw = .ofList (normalize raw).toList := String.ofList_toList.symm
  have hsame (w : String) : normalize raw = w ↔ (normalize raw).toList = w.toList :=
    String.toList_inj.symm
  have hwords : (∀ p ∈ keywords, normalize raw ≠ p.1) ↔
      ∀ p ∈ keywords, (normalize raw).toList ≠ p.1.toList := by
    simp only [ne_eq, hsame]
  refine ⟨fun x y f => ?_, fun p hp => ?_, fun l => ?_, ?_⟩
  · rw [hparse]
    exact ofLine_eq_place_iff hraised htrimmed
  · rw [hparse, hsame]
    exact ofLine_eq_keyword_iff hraised htrimmed hp
  · have hunknown := ofLine_eq_unknown_iff hraised htrimmed (l := l)
    rwa [← hparse, ← hline, ← hwords] at hunknown
  · have hmalformed := ofLine_eq_error_iff hraised htrimmed
    rwa [← hparse, ← hline] at hmalformed

example : (parse " place\t+007 , -99999999999999999999,east ").toOption =
    some (.place 7 Int64.minValue .east) := by
  decide +kernel

end TabletopRobot
