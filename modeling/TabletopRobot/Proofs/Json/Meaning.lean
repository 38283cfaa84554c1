import TabletopRobot.Proofs.Json.Nested
import TabletopRobot.Proofs.Json.Progress

/-!
What a text denotes as a value, without fuel. Values are read exactly so, and a printed value
without floating-point numbers denotes itself.
-/

namespace TabletopRobot.Json

mutual

/-- A text that starts with a value in at most `d` levels of brackets, and the text after it. -/
inductive Denotes : ℕ → List Char → Value → List Char → Prop
  | scalar {d : ℕ} {s r : List Char} {v : Value} (h : opening s = .ok (.scalar v r)) :
    Denotes d s v r
  | array {d : ℕ} {s t r : List Char} {vs : List Value} (h : opening s = .ok (.array t))
    (hvs : DenotesItems d true t vs r) : Denotes (d + 1) s (.arr vs) r
  | object {d : ℕ} {s t r : List Char} {ms : List (String × Value)}
    (h : opening s = .ok (.object t)) (hms : DenotesMembers d true t ms r) :
    Denotes (d + 1) s (.obj ms) r

/-- The items of an array up to its end, from the first one or from a comma on. -/
inductive DenotesItems : ℕ → Bool → List Char → List Value → List Char → Prop
  | stop {d : ℕ} {first : Bool} {s r : List Char} (h : nextItem first s = .ok (.stop r)) :
    DenotesItems d first s [] r
  | more {d : ℕ} {first : Bool} {s t u r : List Char} {v : Value} {vs : List Value}
    (h : nextItem first s = .ok (.more t)) (hv : Denotes d t v u)
    (hvs : DenotesItems d false u vs r) : DenotesItems d first s (v :: vs) r

/-- The members of an object up to its end, from the first one or from a comma on. -/
inductive DenotesMembers : ℕ → Bool → List Char → List (String × Value) → List Char → Prop
  | stop {d : ℕ} {first : Bool} {s r : List Char} (h : nextMember string first s = .ok (.stop r)) :
    DenotesMembers d first s [] r
  | more {d : ℕ} {first : Bool} {s t t' u r : List Char} {k : String} {v : Value}
    {ms : List (String × Value)} (h : nextMember string first s = .ok (.more (k, t)))
    (hcolon : colon t = .ok t') (hv : Denotes d t' v u) (hms : DenotesMembers d false u ms r) :
    DenotesMembers d first s ((k, v) :: ms) r

end

/-- Whatever the fuel, what is read is what the text denotes. By induction on the fuel, for the
three readers at once, as each calls the others with less. -/
lemma denotes_of_read (n : ℕ) :
    (∀ d s v r, readValue n d s = .ok (v, r) → Denotes d s v r) ∧
      (∀ d first s vs r, readItems n d first s = .ok (vs, r) → DenotesItems d first s vs r) ∧
      ∀ d first s ms r, readMembers n d first s = .ok (ms, r) → DenotesMembers d first s ms r := by
  induction n with
  | zero =>
    refine ⟨?_, ?_, ?_⟩ <;> intros <;> contradiction
  | succ n ih =>
    obtain ⟨ihvalue, ihitems, ihmembers⟩ := ih
    refine ⟨fun d s v r h => ?_, fun d first s vs r h => ?_, fun d first s ms r h => ?_⟩
    · obtain ⟨o, ho, h⟩ := bind_eq_ok.mp h
      cases o with
      | scalar w t =>
        cases h
        exact .scalar ho
      | array t =>
        cases d with
        | zero => cases h
        | succ d =>
          obtain ⟨⟨vs, r'⟩, hvs, hpair⟩ := map_eq_ok.mp h
          cases hpair
          exact .array ho (ihitems d true t vs _ hvs)
      | object t =>
        cases d with
        | zero => cases h
        | succ d =>
          obtain ⟨⟨ms, r'⟩, hms, hpair⟩ := map_eq_ok.mp h
          cases hpair
          exact .object ho (ihmembers d true t ms _ hms)
    · obtain ⟨next, hnext, h⟩ := bind_eq_ok.mp h
      cases next with
      | stop t =>
        cases h
        exact .stop hnext
      | more t =>
        obtain ⟨⟨v, u⟩, hv, h⟩ := bind_eq_ok.mp h
        obtain ⟨⟨ws, r'⟩, hws, h⟩ := bind_eq_ok.mp h
        cases h
        exact .more hnext (ihvalue d t v u hv) (ihitems d false u ws _ hws)
    · obtain ⟨next, hnext, h⟩ := bind_eq_ok.mp h
      cases next with
      | stop t =>
        cases h
        exact .stop hnext
      | more m =>
        obtain ⟨k, t⟩ := m
        obtain ⟨t', hcolon, h⟩ := bind_eq_ok.mp h
        obtain ⟨⟨v, u⟩, hv, h⟩ := bind_eq_ok.mp h
        obtain ⟨⟨ws, r'⟩, hws, h⟩ := bind_eq_ok.mp h
        cases h
        exact .more hnext hcolon (ihvalue d t' v u hv) (ihmembers d false u ws _ hws)

mutual

/-- A value takes up a part of the text. -/
lemma Denotes.length {d : ℕ} {s r : List Char} {v : Value} :
    Denotes d s v r → r.length < s.length
  | .scalar h => by
    cases fronts_of_opening h with
    | scalar hr => exact hr
  | .array h hvs => by
    cases fronts_of_opening h with
    | array hr => exact hvs.length.trans (length_lt_of_skipSpace hr)
  | .object h hms => by
    cases fronts_of_opening h with
    | object hr => exact hms.length.trans (length_lt_of_skipSpace hr)

lemma DenotesItems.length {d : ℕ} {first : Bool} {s r : List Char} {vs : List Value} :
    DenotesItems d first s vs r → r.length < s.length
  | .stop h => by
    obtain ⟨r', hr, hlt⟩ | ⟨r', hr, -⟩ := nextItem_eq_ok h <;> cases hr
    exact hlt
  | .more h hv hvs => by
    obtain ⟨r', hr, -⟩ | ⟨r', hr, hle⟩ := nextItem_eq_ok h <;> cases hr
    exact (hvs.length.trans hv.length).trans_le hle

lemma DenotesMembers.length {d : ℕ} {first : Bool} {s r : List Char} {ms : List (String × Value)} :
    DenotesMembers d first s ms r → r.length < s.length
  | .stop h => by
    obtain ⟨r', hr, hlt⟩ | ⟨k, r', hr, -⟩ := nextMember_eq_ok h <;> cases hr
    exact hlt
  | .more h hcolon hv hms =>
    (hms.length.trans hv.length).trans (length_lt_of_nextMember h hcolon)

end

mutual

-- a character pays for two calls: one for the value it starts, one for the items it is among
/-- What a text denotes is read with any fuel that its length allows. -/
lemma Denotes.read {d : ℕ} {s r : List Char} {v : Value} :
    Denotes d s v r → ∀ n, 2 * s.length + 1 ≤ n → readValue n d s = .ok (v, r)
  | .scalar h, n + 1, _ => by
    rw [readValue, h]
    rfl
  | .array h hvs, n + 1, hn => by
    cases fronts_of_opening h with
    | array ht =>
      have hlt := length_lt_of_skipSpace ht
      rw [readValue, h]
      change (readItems n _ true _).map _ = _
      rw [Nat.add_sub_cancel, hvs.read n (by omega)]
      rfl
  | .object h hms, n + 1, hn => by
    cases fronts_of_opening h with
    | object ht =>
      have hlt := length_lt_of_skipSpace ht
      rw [readValue, h]
      change (readMembers n _ true _).map _ = _
      rw [Nat.add_sub_cancel, hms.read n (by omega)]
      rfl

lemma DenotesItems.read {d : ℕ} {first : Bool} {s r : List Char} {vs : List Value} :
    DenotesItems d first s vs r →
      ∀ n, 2 * s.length + 2 ≤ n → readItems n d first s = .ok (vs, r)
  | .stop h, n + 1, _ => by
    rw [readItems, h]
    rfl
  | .more h hv hvs, n + 1, hn => by
    obtain ⟨r', hr, -⟩ | ⟨r', hr, hle⟩ := nextItem_eq_ok h <;> cases hr
    have hlt := hv.length
    rw [readItems, h]
    change (readValue n d _ >>= _) = _
    rw [hv.read n (by omega)]
    change (readItems n d false _ >>= _) = _
    rw [hvs.read n (by omega)]
    rfl

lemma DenotesMembers.read {d : ℕ} {first : Bool} {s r : List Char} {ms : List (String × Value)} :
    DenotesMembers d first s ms r →
      ∀ n, 2 * s.length + 2 ≤ n → readMembers n d first s = .ok (ms, r)
  | .stop h, n + 1, _ => by
    rw [readMembers, h]
    rfl
  | .more h hcolon hv hms, n + 1, hn => by
    have hmember := length_lt_of_nextMember h hcolon
    have hlt := hv.length
    rw [readMembers, h]
    change (colon _ >>= _) = _
    rw [hcolon]
    change (readValue n d _ >>= _) = _
    rw [hv.read n (by omega)]
    change (readMembers n d false _ >>= _) = _
    rw [hms.read n (by omega)]
    rfl

end

/-- The fuel never shows: values are read as the text denotes them. -/
lemma value_eq_ok_iff {outer : ℕ} {s r : List Char} {v : Value} :
    value outer s = .ok (v, r) ↔ Denotes (maxDepth - outer) s v r :=
  ⟨(denotes_of_read _).1 _ _ _ _, fun h => h.read _ (by omega)⟩

/-! ### Printed values -/

/-- A value in at most `d` levels of brackets without floating-point numbers, its integers of at
most 64 bits. Floating-point numbers are left out as not all of them are read back: reading rounds
the digits and their power of ten apart, and then once more. -/
inductive Plain : ℕ → Value → Prop
  | null {d : ℕ} : Plain d .null
  | bool {d : ℕ} (b : Bool) : Plain d (.bool b)
  | int {d : ℕ} {i : Int} (hi : Wide i) : Plain d (.int i)
  | str {d : ℕ} (s : String) : Plain d (.str s)
  | arr {d : ℕ} {vs : List Value} (hvs : ∀ v ∈ vs, Plain d v) : Plain (d + 1) (.arr vs)
  | obj {d : ℕ} {ms : List (String × Value)} (hms : ∀ m ∈ ms, Plain d m.2) :
    Plain (d + 1) (.obj ms)

/-- A number that is printed is read as the one before it. -/
example : (Number.float false ⟨8940696716308594, 26⟩).text = "6e+23".toList ∧
    number "6e+23".toList = .ok (.float false ⟨8940696716308593, 26⟩, []) := by
  decide +kernel

lemma Plain.opens {d : ℕ} {v : Value} (h : Plain d v) : v.Opens := by
  cases h with
  | null => exact Value.opens_null
  | bool b => exact Value.opens_bool b
  | int => exact Value.opens_int _
  | str s => exact Value.opens_str s
  | arr => exact Value.opens_arr _
  | obj => exact Value.opens_obj _

lemma Denotes.blanks {d : ℕ} {sp s r : List Char} {v : Value} (hsp : Blanks sp)
    (h : Denotes d s v r) : Denotes d (sp ++ s) v r := by
  cases h with
  | scalar h => exact .scalar ((opening_blanks hsp s).trans h)
  | array h hvs => exact .array ((opening_blanks hsp s).trans h) hvs
  | object h hms => exact .object ((opening_blanks hsp s).trans h) hms

/-- In every layout the text of the value denotes it, before any text that does not go on with a
numeral. -/
def Printable (d : ℕ) (v : Value) : Prop :=
  ∀ L level rest, Closed rest → Denotes d (v.written L level ++ rest) v rest

lemma Scalar.printable {d : ℕ} {v : Value} (h : Scalar v) : Printable d v :=
  fun L level rest hrest => .scalar (h L level rest hrest)

section Layout

variable {d : ℕ} {L : Layout} {level : ℕ} {rest : List Char}

lemma denotes_moreItems {vs : List Value} (hvs : ∀ v ∈ vs, v.Opens ∧ Printable d v) :
    DenotesItems d false
      (Value.moreItems L (level + 1) vs ++ (L.line level ++ ']' :: rest)) vs rest := by
  induction vs with
  | nil => exact .stop (nextItem_stop false rest)
  | cons v vs ih =>
    obtain ⟨⟨hopens, hv⟩, hvs⟩ := List.forall_mem_cons.mp hvs
    rw [Value.moreItems, List.cons_append, List.append_assoc]
    exact .more (nextItem_more hopens _) (hv L (level + 1) _ (closed_items L level vs rest)) (ih hvs)

/-- The value of a member, after the gap that follows its colon. -/
lemma denotes_member {v : Value} {u : List Char} (hv : Printable d v) (hu : Closed u) :
    Denotes d (L.gap ++ v.written L level ++ u) v u := by
  rw [List.append_assoc]
  exact (hv L level u hu).blanks L.gap_blanks

lemma colon_gap (s : List Char) : colon (':' :: s) = .ok s := by
  rw [colon, skipSpace_cons (by decide)]
  rfl

lemma denotes_moreMembers {ms : List (String × Value)} (hms : ∀ m ∈ ms, Printable d m.2) :
    DenotesMembers d false
      (Value.moreMembers L (level + 1) ms ++ (L.line level ++ '}' :: rest)) ms rest := by
  induction ms with
  | nil => exact .stop (nextMember_stop false rest)
  | cons m ms ih =>
    obtain ⟨k, v⟩ := m
    obtain ⟨hv, hms⟩ := List.forall_mem_cons.mp hms
    rw [moreMembers_append]
    exact .more (nextMember_more k _) (colon_gap _)
      (denotes_member hv (closed_members L level ms rest)) (ih hms)

end Layout

lemma Plain.printable {d : ℕ} {v : Value} (h : Plain d v) : Printable d v := by
  induction h with
  | null => exact fun L level rest _ => .scalar rfl
  | bool b => exact (scalar_bool b).printable
  | int hi => exact (scalar_int hi).printable
  | str s => exact (scalar_str s).printable
  | @arr d vs hvs ih =>
    intro L level rest _
    cases vs with
    | nil => exact .array rfl (.stop rfl)
    | cons v vs =>
      obtain ⟨hv, -⟩ := List.forall_mem_cons.mp hvs
      obtain ⟨hprint, hmore⟩ := List.forall_mem_cons.mp ih
      rw [written_arr_append]
      refine .array rfl (.more (nextItem_first hv.opens _)
        (hprint L (level + 1) _ (closed_items L level vs rest)) (denotes_moreItems fun w hw => ?_))
      exact ⟨(hvs w (List.mem_cons_of_mem v hw)).opens, hmore w hw⟩
  | @obj d ms hms ih =>
    intro L level rest _
    cases ms with
    | nil => exact .object rfl (.stop rfl)
    | cons m ms =>
      obtain ⟨k, v⟩ := m
      obtain ⟨hprint, hmore⟩ := List.forall_mem_cons.mp ih
      rw [written_obj_append]
      exact .object rfl (.more (nextMember_first k _) (colon_gap _)
        (denotes_member hprint (closed_members L level ms rest)) (denotes_moreMembers hmore))

/-- Such a value is read back from its text. -/
lemma Plain.reads {outer : ℕ} {v : Value} (h : Plain (maxDepth - outer) v) :
    Reads (value outer) v v where
  opens := h.opens
  reads L level sp rest hsp hrest := by
    rw [value_eq_ok_iff, List.append_assoc]
    exact (h.printable L level rest hrest).blanks hsp

end TabletopRobot.Json
