import TabletopRobot.Json.Decode
import TabletopRobot.Proofs.Json.Token

/-!
Readers that read back what was written, in any layout and whatever text comes after it.
-/

namespace TabletopRobot.Json

namespace Value

/-- The text of a value starts with a character that is neither passed over nor closes an
array. -/
def Opens (v : Value) : Prop :=
  ∀ L level, ∃ c s, v.written L level = c :: s ∧ isSpace c = false ∧ c ≠ ']'

lemma opens_null : null.Opens := fun _ _ => ⟨'n', _, rfl, by decide, by decide⟩

lemma opens_bool (b : Bool) : (bool b).Opens := by
  intro L level
  cases b
  · exact ⟨'f', _, rfl, by decide, by decide⟩
  · exact ⟨'t', _, rfl, by decide, by decide⟩

lemma opens_str (s : String) : (str s).Opens := fun _ _ => ⟨'"', _, rfl, by decide, by decide⟩

lemma written_int (L : Layout) (level : Nat) (i : Int) :
    (int i).written L level = Text.intText i := by
  simp [int, written, compact, Number.text]

lemma opens_int (i : Int) : (int i).Opens := by
  intro L level
  obtain ⟨c, s, hs, hc⟩ := exists_intText i
  exact ⟨c, s, (written_int L level i).trans hs, not_space_of_numeral hc,
    ne_of_numeral hc (by decide)⟩

lemma opens_arr (vs : List Value) : (arr vs).Opens := by
  intro L level
  cases vs
  · exact ⟨'[', [']'], by rw [written], by decide, by decide⟩
  · exact ⟨'[', _, by rw [written], by decide, by decide⟩

lemma opens_obj (ms : List (String × Value)) : (obj ms).Opens := by
  intro L level
  cases ms
  · exact ⟨'{', ['}'], by rw [written], by decide, by decide⟩
  · exact ⟨'{', _, by rw [written], by decide, by decide⟩

end Value

/-- The reader reads `a` off the text of `v`. -/
structure Reads {α : Type} (read : Reader α) (v : Value) (a : α) : Prop where
  opens : v.Opens
  reads : ∀ (L : Layout) (level : Nat) (sp rest : List Char), Blanks sp → Closed rest →
    read (sp ++ v.written L level ++ rest) = .ok (a, rest)

/-! ### Scalars -/

/-- The text of a value is one token. -/
def Scalar (v : Value) : Prop :=
  ∀ L level rest, Closed rest → opening (v.written L level ++ rest) = .ok (.scalar v rest)

lemma scalar_bool (b : Bool) : Scalar (.bool b) := by
  intro L level rest _
  cases b <;> rfl

lemma scalar_str (s : String) : Scalar (.str s) := by
  intro L level rest _
  have htext : (Value.str s).written L level ++ rest =
      '"' :: (s.toList.flatMap escapeChar ++ '"' :: rest) := by
    simp [Value.written, Value.compact, quote]
  rw [htext]
  change (string _).map _ = _
  rw [string_quoted]
  rfl

lemma scalar_int {i : Int} (hi : Wide i) : Scalar (.int i) := by
  intro L level rest hrest
  obtain ⟨c, s, hs, hc⟩ := exists_intText i
  have hnumber := number_intText hi hrest
  rw [Value.written_int]
  rw [hs, List.cons_append] at hnumber ⊢
  rw [opening, skipSpace_cons (not_space_of_numeral hc)]
  dsimp only
  rw [if_neg (ne_of_numeral hc (by decide)), if_neg (ne_of_numeral hc (by decide)),
    if_neg (ne_of_numeral hc (by decide)), if_neg (ne_of_numeral hc (by decide)),
    if_pos (by simpa using hc), hnumber]
  rfl

lemma opening_blanks {sp : List Char} (hsp : Blanks sp) (s : List Char) :
    opening (sp ++ s) = opening s := by
  rw [opening, skipSpace_blanks hsp, ← opening]

namespace Reads

variable {α β : Type} {read : Reader α} {v : Value} {a : α}

/-- A reader that looks at one token. -/
lemma scalar (hopens : v.Opens) (hscalar : Scalar v)
    (hread : ∀ s rest, opening s = .ok (.scalar v rest) → read s = .ok (a, rest)) :
    Reads read v a where
  opens := hopens
  reads L level sp rest hsp hrest := by
    refine hread _ _ ?_
    rw [List.append_assoc, opening_blanks hsp]
    exact hscalar L level rest hrest

lemma boolean (b : Bool) : Reads boolean (.bool b) b :=
  scalar (Value.opens_bool b) (scalar_bool b) fun s rest h => by rw [Json.boolean, h]; rfl

lemma stringOf (expected s : String) : Reads (stringOf expected) (.str s) s :=
  scalar (Value.opens_str s) (scalar_str s) fun t rest h => by rw [Json.stringOf, h]; rfl

lemma text (s : String) : Reads text (.str s) s := stringOf "a string" s

lemma parsed {expected s : String} {parse? : String → Option α} (h : parse? s = some a) :
    Reads (parsed expected parse?) (.str s) a where
  opens := Value.opens_str s
  reads L level sp rest hsp hrest := by
    rw [Json.parsed, (stringOf expected s).reads L level sp rest hsp hrest]
    simp only [bind, Except.bind, h]

lemma integer {low high i : Int} {expected : String} (hlow : Int64.minValue.toInt ≤ low)
    (hhigh : high < UInt64.size) (hi : low ≤ i ∧ i ≤ high) :
    Reads (integer low high expected) (.int i) i :=
  scalar (Value.opens_int i) (scalar_int ⟨hlow.trans hi.1, hi.2.trans_lt hhigh⟩)
    fun s rest h => by rw [Json.integer, h]; exact if_pos hi

lemma map (f : α → β) (h : Reads read v a) : Reads (read.map f) v (f a) where
  opens := h.opens
  reads L level sp rest hsp hrest := by
    rw [Reader.map, h.reads L level sp rest hsp hrest]
    rfl

lemma andThen {check : α → Except Error β} {b : β} (h : Reads read v a) (hb : check a = .ok b) :
    Reads (read.andThen check) v b where
  opens := h.opens
  reads L level sp rest hsp hrest := by
    rw [Reader.andThen, h.reads L level sp rest hsp hrest]
    change (check a >>= _) = _
    rw [hb]
    rfl

lemma uint64 (n : UInt64) : Reads uint64 (.nat n.toNat) n := by
  have hn := n.toNat_lt_size
  have h : Reads Json.uint64 (.nat n.toNat) (UInt64.ofNat ((n.toNat : Int).toNat)) :=
    (integer (by decide) (by omega) ⟨by omega, by omega⟩).map _
  simpa using h

lemma uint32 (n : UInt32) : Reads uint32 (.nat n.toNat) n := by
  have hn := n.toNat_lt_size
  have hsize : UInt32.size = 4294967296 := rfl
  have h : Reads Json.uint32 (.nat n.toNat) (UInt32.ofNat ((n.toNat : Int).toNat)) :=
    (integer (by decide) (by decide) ⟨by omega, by omega⟩).map _
  simpa using h

lemma int32 (n : Int32) : Reads int32 (.int n.toInt) n := by
  have h : Reads Json.int32 (.int n.toInt) (Int32.ofInt n.toInt) :=
    (integer (by decide) (by decide) ⟨n.minValue_le_toInt, n.toInt_le⟩).map _
  simpa using h

end Reads

end TabletopRobot.Json
