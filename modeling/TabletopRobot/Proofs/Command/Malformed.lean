import TabletopRobot.Proofs.Command.Grammar

/-!
What a malformed line is told to have wrong with it. The first check that a line fails decides
which flaw it is, but the three fields of a placement are all checked, and each that is no
integer or no direction is named.
-/

namespace TabletopRobot

namespace Command

/-- The text begins with a blank. -/
def StartsBlank (s : List Char) : Prop := ∃ c ∈ s.head?, Text.isBlank c = true

/-- The flaws of three fields: those of the fields that are not what they should be, in order,
each with the text of its field. -/
structure FlawsOf (tx ty tf : List Char) (fs : List Flaw) : Prop where
  ne_nil : fs ≠ []
  ordered : fs.Sublist
    [.notInteger .x (.ofList tx), .notInteger .y (.ofList ty), .notDirection (.ofList tf)]
  x_iff : .notInteger .x (.ofList tx) ∈ fs ↔ ∀ i, ¬Spells tx i
  y_iff : .notInteger .y (.ofList ty) ∈ fs ↔ ∀ i, ¬Spells ty i
  facing_iff : .notDirection (.ofList tf) ∈ fs ↔ ∀ f : Direction, tf ≠ f.name.toList

/-! ### Fields -/

lemma coordinate?_eq_none_iff {t : List Char} : coordinate? t = none ↔ ∀ i, ¬Spells t i := by
  constructor
  · intro h i hspells
    have hread := coordinate?_eq_some_iff.mpr ⟨i, hspells, toInt_saturate i⟩
    simp [h] at hread
  · intro h
    by_contra hne
    obtain ⟨x, hx⟩ := Option.ne_none_iff_exists'.mp hne
    obtain ⟨i, hspells, -⟩ := coordinate?_eq_some_iff.mp hx
    exact h i hspells

lemma ofText?_eq_none_iff {t : List Char} (hraised : Raised t) (htrimmed : Text.Trimmed t) :
    Direction.ofText? t = none ↔ ∀ f : Direction, t ≠ f.name.toList := by
  constructor
  · rintro h f rfl
    simp [ofText?_name] at h
  · intro h
    by_contra hne
    obtain ⟨f, hf⟩ := Option.ne_none_iff_exists'.mp hne
    have hname := trim_of_ofText? hraised hf
    rw [Text.trim_of_trimmed htrimmed] at hname
    exact h f hname

/-- Each field is checked, whatever becomes of the others. -/
lemma flaws_eq_of_placementOf {tx ty tf : List Char} {fs : List Flaw}
    (h : placementOf tx ty tf = .error fs) :
    fs = (if coordinate? tx = none then [Flaw.notInteger .x (.ofList tx)] else []) ++
      (if coordinate? ty = none then [Flaw.notInteger .y (.ofList ty)] else []) ++
      (if Direction.ofText? tf = none then [Flaw.notDirection (.ofList tf)] else []) := by
  unfold placementOf at h
  split at h
  · cases h
  · simpa using (Except.error.inj h).symm

lemma flawsOf_placementOf {tx ty tf : List Char} {fs : List Flaw} (hraised : Raised tf)
    (htrimmed : Text.Trimmed tf) (h : placementOf tx ty tf = .error fs) :
    FlawsOf tx ty tf fs := by
  have hfs := flaws_eq_of_placementOf h
  refine ⟨flaws_of_placementOf h, ?_, ?_, ?_, ?_⟩
  · rw [hfs]
    split_ifs <;> simp
  · rw [hfs, ← coordinate?_eq_none_iff]
    split_ifs <;> simp_all
  · rw [hfs, ← coordinate?_eq_none_iff]
    split_ifs <;> simp_all
  · rw [hfs, ← ofText?_eq_none_iff hraised htrimmed]
    split_ifs <;> simp_all

/-- Such flaws are about single fields. -/
lemma FlawsOf.of_field {tx ty tf : List Char} {fs : List Flaw} (h : FlawsOf tx ty tf fs)
    {flaw : Flaw} (hflaw : flaw ∈ fs) :
    (∃ a t, flaw = .notInteger a t) ∨ ∃ t, flaw = .notDirection t := by
  have hmem := h.ordered.subset hflaw
  simp only [List.mem_cons, List.not_mem_nil, or_false] at hmem
  rcases hmem with rfl | rfl | rfl
  · exact Or.inl ⟨_, _, rfl⟩
  · exact Or.inl ⟨_, _, rfl⟩
  · exact Or.inr ⟨_, rfl⟩

/-! ### Arguments -/

/-- **What can be wrong after `PLACE`**, check by check. -/
lemma placement_eq_error {rest : List Char} {fs : List Flaw} (h : placement rest = .error fs) :
    (Text.blank rest = true ∧ fs = [.missingArguments]) ∨
    (Text.blank rest = false ∧ ¬StartsBlank rest ∧ fs = [.missingSeparator (.ofList rest)]) ∨
    (Text.blank rest = false ∧ StartsBlank rest ∧ rest.count ',' ≠ 2 ∧
      fs = [.wrongArity (rest.count ',' + 1)]) ∨
    (Text.blank rest = false ∧ StartsBlank rest ∧ rest.count ',' = 2 ∧
      ∃ a b d, Text.splitAt ',' rest = [a, b, d] ∧
        placementOf (Text.trim a) (Text.trim b) (Text.trim d) = .error fs) := by
  have hstarts : (rest.head?.map Text.isBlank).getD false = true ↔ StartsBlank rest := by
    unfold StartsBlank
    cases rest.head? <;> simp
  have hcount := Text.length_splitAt ',' rest
  unfold placement at h
  split_ifs at h with hblank hhead
  · exact Or.inl ⟨hblank, (Except.error.inj h).symm⟩
  · have hblank' : Text.blank rest = false := by simpa using hblank
    split at h
    · next tx ty tf hfields =>
      obtain ⟨a, l, hsplit, rfl, hl⟩ := List.map_eq_cons_iff.mp hfields
      obtain ⟨b, m, rfl, rfl, hm⟩ := List.map_eq_cons_iff.mp hl
      obtain ⟨d, n, rfl, rfl, hn⟩ := List.map_eq_cons_iff.mp hm
      obtain rfl := List.map_eq_nil_iff.mp hn
      have htwo : rest.count ',' = 2 := by simp [hsplit] at hcount; omega
      exact Or.inr (Or.inr (Or.inr ⟨hblank', hstarts.mp hhead, htwo, a, b, d, hsplit, h⟩))
    · next hnot =>
      have htwo : rest.count ',' ≠ 2 := by
        intro htwo
        rw [htwo] at hcount
        obtain ⟨a, b, d, hsplit⟩ := List.length_eq_three.mp hcount
        exact hnot _ _ _ (by rw [hsplit]; rfl)
      have hfs := (Except.error.inj h).symm
      rw [List.length_map, hcount] at hfs
      exact Or.inr (Or.inr (Or.inl ⟨hblank', hstarts.mp hhead, htwo, hfs⟩))
  · have hblank' : Text.blank rest = false := by simpa using hblank
    have hnot : ¬StartsBlank rest := fun hs => hhead (hstarts.mpr hs)
    exact Or.inr (Or.inl ⟨hblank', hnot, (Except.error.inj h).symm⟩)

/-- A line is malformed for what comes after `PLACE`. -/
lemma parse_eq_error {raw : String} {m : Malformed} (h : parse raw = .error m) :
    m.line = normalize raw ∧ ∃ rest, (normalize raw).toList = "PLACE".toList ++ rest ∧
      placement rest = .error m.flaws := by
  have hline : String.ofList (normalize raw).toList = normalize raw := String.ofList_toList
  unfold parse ofLine at h
  split at h
  · cases h
  · split at h
    · next rest hafter =>
      have hrest := Text.after?_eq_some_iff.mp hafter
      cases hplacement : placement rest with
      | ok c => simp [hplacement, Except.mapError] at h
      | error fs =>
        rw [hplacement] at h
        obtain rfl := Except.error.inj h
        exact ⟨hline, rest, hrest, hplacement⟩
    · cases h

end Command

open Command

/-- **A malformed line is told everything that is wrong with it, and nothing else.** The line is
kept in normal form; let `rest` be what comes after `PLACE`. If it is blank, the arguments are
missing. If it begins with anything but a blank, it is named as the text that stands in place of a
separator. If it has not two commas, the number of fields is named. In all other cases the three
fields between the commas are checked: whatever is no integer or no direction is named, in order. -/
theorem malformed_names_every_flaw {raw : String} {m : Malformed} (h : parse raw = .error m) :
    ∃ rest : List Char, (normalize raw).toList = "PLACE".toList ++ rest ∧
      m.line = normalize raw ∧
      (m.flaws = [.missingArguments] ↔ Text.blank rest = true) ∧
      (m.flaws = [.missingSeparator (.ofList rest)] ↔
        Text.blank rest = false ∧ ¬StartsBlank rest) ∧
      (m.flaws = [.wrongArity (rest.count ',' + 1)] ↔
        Text.blank rest = false ∧ StartsBlank rest ∧ rest.count ',' ≠ 2) ∧
      (Text.blank rest = false ∧ StartsBlank rest ∧ rest.count ',' = 2 →
        ∃ a b d, rest = a ++ ',' :: (b ++ ',' :: d) ∧ (∀ s ∈ [a, b, d], ',' ∉ s) ∧
          FlawsOf (Text.trim a) (Text.trim b) (Text.trim d) m.flaws) := by
  obtain ⟨hline, rest, hrest, hplacement⟩ := parse_eq_error h
  refine ⟨rest, hrest, hline, ?_⟩
  rcases placement_eq_error hplacement with ⟨hblank, hfs⟩ | ⟨hblank, hstarts, hfs⟩ |
    ⟨hblank, hstarts, htwo, hfs⟩ | ⟨hblank, hstarts, htwo, a, b, d, hsplit, hfields⟩
  · simp [hblank, hfs]
  · simp [hblank, hstarts, hfs]
  · simp [hblank, hstarts, htwo, hfs]
  · have hfields' := Text.eq_of_splitAt_three hsplit
    have hfree : ∀ s ∈ [a, b, d], ',' ∉ s := by
      rw [← hsplit]
      exact fun s => Text.not_mem_of_mem_splitAt
    have hraised : Raised (Text.trim d) := by
      intro c hc
      have hmem : c ∈ (normalize raw).toList := by
        rw [hrest, hfields']
        simp [Text.mem_of_mem_trim hc]
      exact raised_normalize raw c hmem
    have hflaws := flawsOf_placementOf hraised (Text.trimmed_trim d) hfields
    -- none of the other flaws is one of a field
    have hother {flaw : Flaw} (hfield : ¬((∃ a t, flaw = .notInteger a t) ∨
        ∃ t, flaw = .notDirection t)) : m.flaws ≠ [flaw] := fun heq =>
      hfield (hflaws.of_field (heq ▸ List.mem_singleton_self flaw))
    refine ⟨iff_of_false (hother (by simp)) (by simp [hblank]),
      iff_of_false (hother (by simp)) (by simp [hstarts]),
      iff_of_false (hother (by simp)) (by simp [htwo]), fun _ => ?_⟩
    exact ⟨a, b, d, hfields', hfree, hflaws⟩

/-- A digit of another script is no integer, and a sign in front of a digit does no harm. -/
theorem malformed_names_every_flaw_two_of_three :
    let m : Malformed := ⟨"PLACE\t٣ , -2,UP", [.notInteger .x "٣", .notDirection "UP"]⟩
    parse " place\t٣ , -2,up" = .error m ∧
      ∃ a b d, "\t٣ , -2,UP".toList = a ++ ',' :: (b ++ ',' :: d) ∧ (∀ s ∈ [a, b, d], ',' ∉ s) ∧
        FlawsOf (Text.trim a) (Text.trim b) (Text.trim d) m.flaws := by
  intro m
  have h : parse " place\t٣ , -2,up" = .error m := rfl
  obtain ⟨rest, hrest, -, -, -, -, hfields⟩ := malformed_names_every_flaw h
  have hline : (normalize " place\t٣ , -2,up").toList =
      "PLACE".toList ++ "\t٣ , -2,UP".toList := by decide +kernel
  obtain rfl := List.append_cancel_left (hrest.symm.trans hline)
  exact ⟨h, hfields ⟨by decide, ⟨'\t', by decide, by decide⟩, by decide⟩⟩

end TabletopRobot
