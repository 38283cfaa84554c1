import TabletopRobot.Proofs.Json.Yields

/-!
Every token and every bracket leaves less of the text than there was.
-/

namespace TabletopRobot.Json

/-! ### Tokens -/

lemma length_skipSpace (s : List Char) : (skipSpace s).length ≤ s.length :=
  List.length_dropWhile_le _ _

lemma length_lt_of_skipSpace {s t : List Char} {c : Char} (h : skipSpace s = c :: t) :
    t.length < s.length := by
  have hle := length_skipSpace s
  rw [h, List.length_cons] at hle
  omega

lemma word_length {w s r : List Char} (h : word w s = .ok ((), r)) : r.length ≤ s.length := by
  induction w generalizing s with
  | nil =>
    cases h
    exact le_rfl
  | cons a w ih =>
    cases s with
    | nil => cases h
    | cons c s =>
      rw [word] at h
      split_ifs at h
      have hle := ih h
      rw [List.length_cons]
      omega

lemma emit_eq_ok {c : Char} {x : Except Error (List Char × List Char)} {t r : List Char}
    (h : emit c x = .ok (t, r)) : ∃ u, x = .ok (u, r) := by
  obtain ⟨⟨u, r'⟩, hx, hpair⟩ := map_eq_ok.mp h
  cases hpair
  exact ⟨u, hx⟩

/-- A character either closes the string, or the reading goes on after it. -/
lemma stringFrom_cons {checked : Bool} {cur : Cursor} {c : Char} {s t r : List Char}
    (h : stringFrom checked cur (c :: s) = .ok (t, r)) :
    r = s ∨ ∃ cur' u, stringFrom checked cur' s = .ok (u, r) := by
  cases cur with
  | plain =>
    rw [stringFrom] at h
    split_ifs at h
    · cases h
      exact .inl rfl
    · exact .inr ⟨_, _, h⟩
    · obtain ⟨u, hu⟩ := emit_eq_ok h
      exact .inr ⟨_, u, hu⟩
  | escaped =>
    rw [stringFrom] at h
    split_ifs at h
    · exact .inr ⟨_, _, h⟩
    · split at h
      · obtain ⟨u, hu⟩ := emit_eq_ok h
        exact .inr ⟨_, u, hu⟩
      · cases h
  | hex high count n =>
    rw [stringFrom] at h
    split at h
    · cases h
    · dsimp only at h
      cases high with
      | some high =>
        dsimp only at h
        split_ifs at h
        · exact .inr ⟨_, _, h⟩
        · obtain ⟨u, hu⟩ := emit_eq_ok h
          exact .inr ⟨_, u, hu⟩
      | none =>
        dsimp only at h
        split_ifs at h
        · exact .inr ⟨_, _, h⟩
        · exact .inr ⟨_, _, h⟩
        · obtain ⟨u, hu⟩ := emit_eq_ok h
          exact .inr ⟨_, u, hu⟩
  | paired high =>
    rw [stringFrom] at h
    split_ifs at h
    exact .inr ⟨_, _, h⟩
  | pairedEscaped high =>
    rw [stringFrom] at h
    split_ifs at h
    exact .inr ⟨_, _, h⟩

lemma stringFrom_length {checked : Bool} {cur : Cursor} {s t r : List Char}
    (h : stringFrom checked cur s = .ok (t, r)) : r.length < s.length := by
  induction s generalizing cur t with
  | nil => cases cur <;> cases h
  | cons c s ih =>
    rw [List.length_cons]
    obtain rfl | ⟨cur', u, hu⟩ := stringFrom_cons h
    · exact Nat.lt_succ_self _
    · exact (ih hu).trans (Nat.lt_succ_self _)

lemma string_length {s r : List Char} {t : String} (h : string s = .ok (t, r)) :
    r.length < s.length := by
  obtain ⟨⟨u, r'⟩, hread, hpair⟩ := map_eq_ok.mp h
  cases hpair
  exact stringFrom_length hread

lemma digits_length {s ds r : List Char} (h : digits s = .ok (ds, r)) : r.length < s.length := by
  have hsplit := congrArg List.length (List.takeWhile_append_dropWhile (p := Char.isDigit) (l := s))
  rw [List.length_append] at hsplit
  unfold digits at h
  split at h
  · cases h
  · cases h
  · next hne _ =>
    cases h
    have hpos := List.length_pos_iff.mpr hne
    omega

lemma wholeDigits_length {s ds r : List Char} (h : wholeDigits s = .ok (ds, r)) :
    r.length < s.length := by
  obtain ⟨⟨ds', r'⟩, hdigits, h⟩ := bind_eq_ok.mp h
  dsimp only at h
  split at h
  · cases h
  · cases h
    exact digits_length hdigits

lemma fractionDigits_length {s r : List Char} {f : Option (List Char)}
    (h : fractionDigits s = .ok (f, r)) : r.length ≤ s.length := by
  unfold fractionDigits at h
  split at h
  · obtain ⟨⟨ds, r'⟩, hdigits, hpair⟩ := map_eq_ok.mp h
    cases hpair
    have hlt := digits_length hdigits
    rw [List.length_cons]
    omega
  · cases h
    exact le_rfl

lemma exponentDigits_length {s r : List Char} {e : Option Int}
    (h : exponentDigits s = .ok (e, r)) : r.length ≤ s.length := by
  cases s with
  | nil =>
    cases h
    exact le_rfl
  | cons c s =>
    unfold exponentDigits at h
    by_cases he : (decide (c = 'e') || decide (c = 'E')) = true
    · simp only [he, if_true] at h
      obtain ⟨⟨ds, r'⟩, hdigits, hpair⟩ := map_eq_ok.mp h
      cases hpair
      have hlt := digits_length hdigits
      split at hlt <;> simp only [List.length_cons] at hlt ⊢ <;> omega
    · simp only [he] at h
      cases h
      exact le_rfl

lemma numeral_length {s r : List Char} {a : Numeral} (h : numeral s = .ok (a, r)) :
    r.length < s.length := by
  unfold numeral at h
  obtain ⟨⟨whole, r₁⟩, hwhole, h⟩ := bind_eq_ok.mp h
  obtain ⟨⟨fraction, r₂⟩, hfraction, h⟩ := bind_eq_ok.mp h
  obtain ⟨⟨exponent, r₃⟩, hexponent, h⟩ := bind_eq_ok.mp h
  cases h
  have h₁ := wholeDigits_length hwhole
  have h₂ := fractionDigits_length hfraction
  have h₃ := exponentDigits_length hexponent
  split at h₁ <;> simp only [List.length_cons] at h₁ ⊢ <;> omega

lemma number_length {s r : List Char} {n : Number} (h : number s = .ok (n, r)) :
    r.length < s.length := by
  obtain ⟨⟨a, r'⟩, hnumeral, h⟩ := bind_eq_ok.mp h
  obtain ⟨m, -, h⟩ := bind_eq_ok.mp h
  cases h
  exact numeral_length hnumeral

/-! ### Brackets -/

/-- What stands at the front of a text: one token, which is neither an array nor an object, or a
bracket with the text after it. -/
inductive Fronts (s : List Char) : Opening → Prop
  | scalar {v : Value} {r : List Char} (hr : r.length < s.length) (harr : ∀ vs, v ≠ .arr vs)
    (hobj : ∀ ms, v ≠ .obj ms) : Fronts s (.scalar v r)
  | array {r : List Char} (hr : skipSpace s = '[' :: r) : Fronts s (.array r)
  | object {r : List Char} (hr : skipSpace s = '{' :: r) : Fronts s (.object r)

lemma fronts_of_opening {s : List Char} {o : Opening} (h : opening s = .ok o) : Fronts s o := by
  unfold opening at h
  split at h
  · cases h
  · next c t hs =>
    have hlt := length_lt_of_skipSpace hs
    have hle := length_skipSpace s
    have hword {w r : List Char} {u : Unit} (hw : word w t = .ok (u, r)) : r.length < s.length :=
      (word_length hw).trans_lt hlt
    split_ifs at h with hn ht hf hq hd ha ho
    · obtain ⟨⟨u, r⟩, hw, rfl⟩ := map_eq_ok.mp h
      exact .scalar (hword hw) (by simp) (by simp)
    · obtain ⟨⟨u, r⟩, hw, rfl⟩ := map_eq_ok.mp h
      exact .scalar (hword hw) (by simp) (by simp)
    · obtain ⟨⟨u, r⟩, hw, rfl⟩ := map_eq_ok.mp h
      exact .scalar (hword hw) (by simp) (by simp)
    · obtain ⟨⟨u, r⟩, hstring, rfl⟩ := map_eq_ok.mp h
      exact .scalar ((string_length hstring).trans hlt) (by simp) (by simp)
    · obtain ⟨⟨n, r⟩, hnumber, rfl⟩ := map_eq_ok.mp h
      exact .scalar ((number_length hnumber).trans_le (hs ▸ hle)) (by simp) (by simp)
    · cases h
      exact .array (ha ▸ hs)
    · cases h
      exact .object (ho ▸ hs)

lemma nextItem_eq_ok {first : Bool} {s : List Char} {next : Next (List Char)}
    (h : nextItem first s = .ok next) :
    (∃ r, next = .stop r ∧ r.length < s.length) ∨ ∃ r, next = .more r ∧ r.length ≤ s.length := by
  have hle := length_skipSpace s
  unfold nextItem at h
  split at h
  · cases h
  · next c t hs =>
    rw [hs, List.length_cons] at hle
    split_ifs at h
    · cases h
      exact .inl ⟨t, rfl, hle⟩
    · cases h
      exact .inr ⟨c :: t, rfl, hle⟩
    · split at h
      · cases h
      · next d u hu =>
        split_ifs at h
        cases h
        refine .inr ⟨d :: u, rfl, ?_⟩
        rw [← hu]
        exact (length_skipSpace t).trans (Nat.le_of_lt hle)

lemma memberName_eq_ok {s : List Char} {next : Next (String × List Char)}
    (h : memberName string s = .ok next) :
    ∃ k r, next = .more (k, r) ∧ r.length < s.length := by
  cases s with
  | nil => cases h
  | cons c s =>
    rw [memberName] at h
    split_ifs at h
    obtain ⟨⟨k, r⟩, hstring, rfl⟩ := map_eq_ok.mp h
    exact ⟨k, r, rfl, (string_length hstring).trans (Nat.lt_succ_self _)⟩

lemma nextMember_eq_ok {first : Bool} {s : List Char} {next : Next (String × List Char)}
    (h : nextMember string first s = .ok next) :
    (∃ r, next = .stop r ∧ r.length < s.length) ∨
      ∃ k r, next = .more (k, r) ∧ r.length < s.length := by
  have hle := length_skipSpace s
  unfold nextMember at h
  split at h
  · cases h
  · next c t hs =>
    rw [hs] at hle
    split_ifs at h
    · cases h
      exact .inl ⟨t, rfl, hle⟩
    · obtain ⟨k, r, hnext, hlt⟩ := memberName_eq_ok h
      exact .inr ⟨k, r, hnext, hlt.trans_le hle⟩
    · obtain ⟨k, r, hnext, hlt⟩ := memberName_eq_ok h
      have hskip := (length_skipSpace t).trans_lt (Nat.lt_of_succ_le hle)
      exact .inr ⟨k, r, hnext, hlt.trans hskip⟩

lemma colon_length {s r : List Char} (h : colon s = .ok r) : r.length < s.length := by
  unfold colon at h
  split at h
  · cases h
  · next c t hs =>
    split_ifs at h
    cases h
    exact length_lt_of_skipSpace hs

/-- The name of a member and its colon take up a part of the text. -/
lemma length_lt_of_nextMember {first : Bool} {s t t' : List Char} {k : String}
    (h : nextMember string first s = .ok (.more (k, t))) (hcolon : colon t = .ok t') :
    t'.length < s.length := by
  obtain ⟨r, hr, -⟩ | ⟨k', r, hr, hlt⟩ := nextMember_eq_ok h <;> cases hr
  exact (colon_length hcolon).trans hlt

end TabletopRobot.Json
