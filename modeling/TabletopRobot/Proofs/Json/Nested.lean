import TabletopRobot.Proofs.Json.Reads

/-!
Readers of values inside others: optional values, alternatives, arrays and records.
-/

namespace TabletopRobot.Json

/-! ### Brackets and commas -/

section Layout

variable (L : Layout) (level : Nat)

lemma closed_line {c : Char} (hc : c.isDigit = false ∧ c ≠ '.' ∧ c ≠ 'e' ∧ c ≠ 'E')
    (rest : List Char) : Closed (L.line level ++ c :: rest) := by
  refine .blanks (L.line_blanks level) fun d hd => ?_
  obtain rfl : c = d := by simpa using hd
  exact hc

lemma closed_items (vs : List Value) (rest : List Char) :
    Closed (Value.moreItems L (level + 1) vs ++ (L.line level ++ ']' :: rest)) := by
  cases vs with
  | nil => simpa [Value.moreItems] using closed_line L level (c := ']') (by decide) rest
  | cons v vs =>
    intro d hd
    obtain rfl : ',' = d := by simpa [Value.moreItems] using hd
    decide

lemma closed_members (ms : List (String × Value)) (rest : List Char) :
    Closed (Value.moreMembers L (level + 1) ms ++ (L.line level ++ '}' :: rest)) := by
  cases ms with
  | nil => simpa [Value.moreMembers] using closed_line L level (c := '}') (by decide) rest
  | cons m ms =>
    obtain ⟨k, v⟩ := m
    intro d hd
    obtain rfl : ',' = d := by simpa [Value.moreMembers] using hd
    decide

lemma length_moreItems (vs : List Value) : vs.length ≤ (Value.moreItems L level vs).length := by
  induction vs with
  | nil => exact Nat.zero_le _
  | cons v vs ih =>
    rw [Value.moreItems]
    simp only [List.length_cons, List.length_append]
    omega

lemma length_moreMembers (ms : List (String × Value)) :
    ms.length ≤ (Value.moreMembers L level ms).length := by
  induction ms with
  | nil => exact Nat.zero_le _
  | cons m ms ih =>
    obtain ⟨k, v⟩ := m
    rw [Value.moreMembers]
    simp only [List.length_cons, List.length_append]
    omega

variable {L level}

/-! The texts of arrays and objects, taken apart at the end of their first item or member. -/

lemma written_arr_append (v : Value) (vs : List Value) (rest : List Char) :
    (Value.arr (v :: vs)).written L level ++ rest =
      '[' :: (L.line (level + 1) ++ v.written L (level + 1) ++
        (Value.moreItems L (level + 1) vs ++ (L.line level ++ ']' :: rest))) := by
  simp [Value.written]

lemma written_obj_append (k : String) (v : Value) (ms : List (String × Value))
    (rest : List Char) :
    (Value.obj ((k, v) :: ms)).written L level ++ rest =
      '{' :: (L.line (level + 1) ++ quote k.toList ++ ':' :: (L.gap ++ v.written L (level + 1) ++
        (Value.moreMembers L (level + 1) ms ++ (L.line level ++ '}' :: rest)))) := by
  simp [Value.written]

lemma moreMembers_append (k : String) (v : Value) (ms : List (String × Value))
    (rest : List Char) :
    Value.moreMembers L level ((k, v) :: ms) ++ rest =
      ',' :: (L.line level ++ quote k.toList ++ ':' :: (L.gap ++ v.written L level ++
        (Value.moreMembers L level ms ++ rest))) := by
  simp [Value.moreMembers]

lemma nextItem_stop (first : Bool) (rest : List Char) :
    nextItem first (L.line level ++ ']' :: rest) = .ok (.stop rest) := by
  rw [nextItem, skipSpace_blanks (L.line_blanks level)]
  rfl

lemma nextItem_first {v : Value} (hv : v.Opens) (rest : List Char) :
    nextItem true (L.line level ++ v.written L level ++ rest) =
      .ok (.more (v.written L level ++ rest)) := by
  obtain ⟨c, s, hs, hspace, hc⟩ := hv L level
  rw [nextItem, List.append_assoc, skipSpace_blanks (L.line_blanks level), hs, List.cons_append,
    skipSpace_cons hspace]
  dsimp only
  rw [if_neg hc, if_pos rfl]

lemma nextItem_more {v : Value} (hv : v.Opens) (rest : List Char) :
    nextItem false (',' :: (L.line level ++ v.written L level ++ rest)) =
      .ok (.more (v.written L level ++ rest)) := by
  obtain ⟨c, s, hs, hspace, hc⟩ := hv L level
  rw [nextItem, skipSpace_cons (by decide)]
  dsimp only
  rw [if_neg (by decide), if_neg (by decide), if_pos rfl, List.append_assoc,
    skipSpace_blanks (L.line_blanks level), hs, List.cons_append, skipSpace_cons hspace]
  dsimp only
  rw [if_neg hc]

lemma nextMember_stop (first : Bool) (rest : List Char) :
    nextMember string first (L.line level ++ '}' :: rest) = .ok (.stop rest) := by
  rw [nextMember, skipSpace_blanks (L.line_blanks level)]
  rfl

lemma quote_append (k : String) (rest : List Char) :
    quote k.toList ++ rest = '"' :: (k.toList.flatMap escapeChar ++ '"' :: rest) := by
  simp [quote]

lemma nextMember_first (k : String) (rest : List Char) :
    nextMember string true (L.line level ++ quote k.toList ++ rest) =
      .ok (.more (k, rest)) := by
  rw [nextMember, List.append_assoc, skipSpace_blanks (L.line_blanks level), quote_append,
    skipSpace_cons (by decide)]
  dsimp only
  rw [if_neg (by decide), if_pos rfl]
  change (string _).map _ = _
  rw [string_quoted]
  rfl

lemma nextMember_more (k : String) (rest : List Char) :
    nextMember string false (',' :: (L.line level ++ quote k.toList ++ rest)) =
      .ok (.more (k, rest)) := by
  rw [nextMember, skipSpace_cons (by decide)]
  dsimp only
  rw [if_neg (by decide), if_neg (by decide), if_pos rfl, List.append_assoc,
    skipSpace_blanks (L.line_blanks level), quote_append, skipSpace_cons (by decide)]
  change (string _).map _ = _
  rw [string_quoted]
  rfl

end Layout

namespace Reads

variable {α : Type} {read : Reader α} {v : Value} {a : α}

/-! ### Optional values and alternatives -/

lemma nullable_none (read : Reader α) : Reads (nullable read) .null none where
  opens := Value.opens_null
  reads L level sp rest hsp hrest := by
    rw [nullable, List.append_assoc, skipSpace_blanks hsp]
    rfl

lemma nullable_some (h : Reads read v a)
    (hv : ∀ L level s, v.written L level ≠ 'n' :: s) : Reads (nullable read) v (some a) where
  opens := h.opens
  reads L level sp rest hsp hrest := by
    obtain ⟨c, s, hs, hspace, -⟩ := h.opens L level
    have hread := h.reads L level [] rest .nil hrest
    have hc : c ≠ 'n' := by
      rintro rfl
      exact hv L level s hs
    rw [List.nil_append, hs, List.cons_append] at hread
    rw [nullable, List.append_assoc, skipSpace_blanks hsp, hs, List.cons_append,
      skipSpace_cons hspace]
    split
    · rename_i h
      exact absurd (List.cons.inj h).1 hc
    · rw [Reader.map, hread]
      rfl

/-- An alternative that is written as its name. -/
lemma oneOf {known : List (String × α)} {name : String} (h : known.lookup name = some a) :
    Reads (oneOf known) (.str name) a where
  opens := Value.opens_str name
  reads L level sp rest hsp hrest := by
    have hread := (stringOf "variant identifier" name).reads L level [] rest .nil hrest
    have htext : (Value.str name).written L level ++ rest =
        '"' :: (name.toList.flatMap escapeChar ++ '"' :: rest) := by
      rw [← quote_append, Value.written, Value.compact]
      all_goals simp
    rw [List.nil_append, htext] at hread
    rw [Json.oneOf, List.append_assoc, skipSpace_blanks hsp, htext, skipSpace_cons (by decide)]
    dsimp only
    rw [if_pos rfl, variantName, hread]
    change (variant known name >>= _) = _
    rw [variant, h]
    rfl

/-! ### Arrays -/

variable {f : α → Value} {as : List α}

lemma itemsOf_cons {b : Char} {first : Bool} {bound s t u rest : List Char}
    (hnext : nextItem first s = .ok (.more t)) (hread : read t = .ok (a, u))
    (hmore : Json.itemsOf read bound false u = .ok (as, rest)) :
    Json.itemsOf read (b :: bound) first s = .ok (a :: as, rest) := by
  rw [Json.itemsOf, hnext]
  change (read t >>= _) = _
  rw [hread]
  change (Json.itemsOf read bound false u >>= _) = _
  rw [hmore]
  rfl

lemma itemsOf {L : Layout} {level : Nat} {bound rest : List Char}
    (h : ∀ a ∈ as, Reads read (f a) a) (hbound : as.length < bound.length) :
    Json.itemsOf read bound false
        (Value.moreItems L (level + 1) (as.map f) ++ (L.line level ++ ']' :: rest)) =
      .ok (as, rest) := by
  induction as generalizing bound with
  | nil =>
    obtain ⟨b, bound, rfl⟩ := List.exists_cons_of_length_pos hbound
    rw [List.map_nil, Value.moreItems, List.nil_append, Json.itemsOf, nextItem_stop]
    rfl
  | cons a as ih =>
    obtain ⟨b, bound, rfl⟩ := List.exists_cons_of_length_pos (Nat.zero_lt_of_lt hbound)
    obtain ⟨ha, has⟩ := List.forall_mem_cons.mp h
    have hread := ha.reads L (level + 1) [] _ .nil (closed_items L level (as.map f) rest)
    rw [List.map_cons, Value.moreItems, List.cons_append, List.append_assoc]
    exact itemsOf_cons (nextItem_more ha.opens _) hread (ih has (by simpa using hbound))

lemma listOf (h : ∀ a ∈ as, Reads read (f a) a) : Reads (listOf read) (.arr (as.map f)) as where
  opens := Value.opens_arr _
  reads L level sp rest hsp hrest := by
    rw [Json.listOf, List.append_assoc, skipSpace_blanks hsp]
    cases as with
    | nil => rfl
    | cons a as =>
      obtain ⟨ha, has⟩ := List.forall_mem_cons.mp h
      obtain ⟨c, s, hs, -⟩ := ha.opens L (level + 1)
      have hread := ha.reads L (level + 1) [] _ .nil (closed_items L level (as.map f) rest)
      have hlength := length_moreItems L (level + 1) (as.map f)
      rw [List.map_cons, written_arr_append]
      -- the text itself is the bound, and longer than the items are many
      obtain ⟨b, bound, hbound⟩ := List.exists_cons_of_length_pos (l := L.line (level + 1) ++
        (f a).written L (level + 1) ++ (Value.moreItems L (level + 1) (as.map f) ++
          (L.line level ++ ']' :: rest))) (by simp)
      have hlong := congrArg List.length hbound
      simp only [List.length_append, List.length_cons, hs, List.length_map] at hlong hlength
      change Json.itemsOf read _ true _ = _
      conv_lhs => arg 2; rw [hbound]
      exact itemsOf_cons (nextItem_first ha.opens _) hread (itemsOf has (by omega))

end Reads

/-! ### Records -/

/-- Members that fill in a record, one field after the other. -/
inductive Fills {σ : Type} (sh : Shape σ) : σ → List (String × Value) → σ → Prop
  | nil (d : σ) : Fills sh d [] d
  | cons {d d₁ d₂ : σ} {k : String} {v : Value} {ms : List (String × Value)} {f : Field σ}
    (hfind : sh.fields.find? (·.name == k) = some f) (hset : f.isSet d = false)
    (hread : Reads (f.read d) v d₁) (hms : Fills sh d₁ ms d₂) : Fills sh d ((k, v) :: ms) d₂

namespace Fills

variable {σ : Type} {sh : Shape σ} {d d₁ d₂ : σ} {ms : List (String × Value)}

lemma member {k : String} {v : Value} {f : Field σ} {L : Layout} {level : Nat} {u : List Char}
    (hfind : sh.fields.find? (·.name == k) = some f) (hset : f.isSet d = false)
    (hread : Reads (f.read d) v d₁) (hu : Closed u) :
    sh.member d k (':' :: (L.gap ++ v.written L level ++ u)) = .ok (d₁, u) := by
  rw [Shape.member, hfind]
  dsimp only
  rw [if_neg (by rw [hset]; exact Bool.false_ne_true), colon, skipSpace_cons (by decide)]
  exact hread.reads L level L.gap u L.gap_blanks hu

lemma members_cons {k : String} {b : Char} {first : Bool} {bound s t u rest : List Char}
    (hnext : nextMember string first s = .ok (.more (k, t)))
    (hmember : sh.member d k t = .ok (d₁, u))
    (hmore : sh.members bound false d₁ u = .ok (d₂, rest)) :
    sh.members (b :: bound) first d s = .ok (d₂, rest) := by
  rw [Shape.members, hnext]
  change (sh.member d k t >>= _) = _
  rw [hmember]
  exact hmore

lemma members {L : Layout} {level : Nat} {bound rest : List Char} (h : Fills sh d ms d₂)
    (hbound : ms.length < bound.length) :
    sh.members bound false d
        (Value.moreMembers L (level + 1) ms ++ (L.line level ++ '}' :: rest)) =
      .ok (d₂, rest) := by
  induction h generalizing bound with
  | nil d =>
    obtain ⟨b, bound, rfl⟩ := List.exists_cons_of_length_pos hbound
    rw [Value.moreMembers, List.nil_append, Shape.members, nextMember_stop]
    rfl
  | @cons d d₁ d₂ k v ms f hfind hset hread _ ih =>
    obtain ⟨b, bound, rfl⟩ := List.exists_cons_of_length_pos (Nat.zero_lt_of_lt hbound)
    rw [moreMembers_append]
    exact members_cons (nextMember_more k _)
      (member hfind hset hread (closed_members L level ms rest)) (ih (by simpa using hbound))

/-- A field that is stored by `put`. -/
lemma field {α : Type} {a : α} {k : String} {v : Value} {get : σ → Option α} {put : σ → α → σ}
    {read : Reader α} (hfind : sh.fields.find? (·.name == k) = some (.of k get put read))
    (hget : (get d).isSome = false) (hread : Reads read v a) (hms : Fills sh (put d a) ms d₂) :
    Fills sh d ((k, v) :: ms) d₂ :=
  .cons hfind hget (hread.map (put d)) hms

/-- A record is read off an object that has its fields. -/
lemma reads (h : Fills sh d ms d₂) : Reads (sh.read d) (.obj ms) d₂ where
  opens := Value.opens_obj ms
  reads L level sp rest hsp hrest := by
    rw [Shape.read, List.append_assoc, skipSpace_blanks hsp]
    cases h with
    | nil d => rfl
    | @cons _ d₁ _ k v ms f hfind hset hread hms =>
      have hlength := length_moreMembers L (level + 1) ms
      rw [written_obj_append]
      -- the text itself is the bound, and longer than the members are many
      obtain ⟨b, bound, hbound⟩ := List.exists_cons_of_length_pos (l := L.line (level + 1) ++
        quote k.toList ++ ':' :: (L.gap ++ v.written L (level + 1) ++
          (Value.moreMembers L (level + 1) ms ++ (L.line level ++ '}' :: rest)))) (by simp)
      have hlong := congrArg List.length hbound
      simp only [List.length_append, List.length_cons] at hlong
      change sh.members _ true d _ = _
      conv_lhs => arg 2; rw [hbound]
      exact members_cons (nextMember_first k _)
        (member hfind hset hread (closed_members L level ms rest)) (members hms (by omega))

end Fills

/-! ### Texts -/

/-- What a reader reads off a value it decodes off every text of it, blanks at the end aside. -/
lemma Reads.decode_written {α : Type} {read : Reader α} {v : Value} {a : α} (h : Reads read v a)
    (L : Layout) {sp : List Char} (hsp : Blanks sp) :
    Json.decode read (.ofList (v.written L 0 ++ sp)) = .ok a := by
  have hclosed : Closed sp := by simpa using Closed.blanks hsp .nil
  have hread := h.reads L 0 [] sp .nil hclosed
  have hend := skipSpace_blanks hsp []
  rw [List.append_nil] at hend
  rw [List.nil_append] at hread
  rw [Json.decode, String.toList_ofList, hread]
  change (endText sp >>= _) = _
  rw [endText, hend]
  rfl

lemma Reads.decode {α : Type} {read : Reader α} {v : Value} {a : α} (h : Reads read v a) :
    Json.decode read v.compactText = .ok a ∧ Json.decode read v.prettyText = .ok a := by
  have hcompact := h.decode_written .compact .nil
  have hpretty := h.decode_written .pretty .nil
  rw [List.append_nil, Value.written_compact] at hcompact
  rw [List.append_nil, Value.written_pretty] at hpretty
  exact ⟨hcompact, hpretty⟩

/-- The indented text may be a line of its own. -/
lemma Reads.decode_line {α : Type} {read : Reader α} {v : Value} {a : α} (h : Reads read v a) :
    Json.decode read (v.prettyText ++ "\n") = .ok a := by
  have hblank : Blanks ['\n'] := by simp [Blanks, isSpace]
  have hline := h.decode_written .pretty hblank
  rw [Value.written_pretty, String.ofList_append] at hline
  exact hline

end TabletopRobot.Json
