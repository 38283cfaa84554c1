import TabletopRobot.Command.Json
import TabletopRobot.Proofs.Json.Meaning

/-!
Commands are read back from JSON: the tag may stand anywhere among the members, the others may
come in any order, and members with other names are passed over. They are read all the same, so
that a command is refused if one of them has a value that cannot be.
-/

namespace TabletopRobot.Command

open Json (Value Denotes DenotesMembers Plain)

variable {c : Command} {k : Kind} {fields extra ms os : List (String × Value)}

/-! ### The tag apart -/

/-- After the tag that was read so far, the members give the tag and, in order, the others. -/
inductive Sorts : Option Kind → List (String × Value) → Option Kind → List (String × Value) → Prop
  | nil (tag : Option Kind) : Sorts tag [] tag []
  | tag {k : Kind} {name : String} {ms os : List (String × Value)} {tag : Option Kind}
    (hk : kinds.lookup name = some k) (h : Sorts (some k) ms tag os) :
    Sorts none (("kind", .str name) :: ms) tag os
  | other {name : String} {v : Value} {ms os : List (String × Value)} {tag tag' : Option Kind}
    (hname : name ≠ "kind") (h : Sorts tag ms tag' os) :
    Sorts tag ((name, v) :: ms) tag' ((name, v) :: os)

lemma variantName_of_denotes {d : ℕ} {name : String} {s r : List Char}
    (hk : kinds.lookup name = some k) (h : Denotes d s (.str name) r) :
    Json.variantName kinds s = .ok (k, r) := by
  cases h with
  | scalar h =>
    have hname : Json.stringOf "variant identifier" s = .ok (name, r) := by
      rw [Json.stringOf, h]
      rfl
    rw [Json.variantName, hname]
    change (Json.variant kinds name >>= _) = _
    rw [Json.variant, hk]
    rfl

/-- The members are read as the text denotes them, and sorted. -/
lemma Sorts.members {tag tag' : Option Kind} (h : Sorts tag ms tag' os) {first : Bool}
    {bound s r : List Char} (hms : DenotesMembers (Json.maxDepth - 1) first s ms r)
    (hbound : s.length ≤ bound.length) : members bound first tag s = .ok ((tag', os), r) := by
  induction h generalizing first bound s with
  | nil tag =>
    obtain ⟨b, bound, rfl⟩ := List.exists_cons_of_length_pos (hms.length.pos.trans_le hbound)
    cases hms with
    | stop h =>
      rw [Command.members, h]
      rfl
  | tag hk _ ih =>
    obtain ⟨b, bound, rfl⟩ := List.exists_cons_of_length_pos (hms.length.pos.trans_le hbound)
    cases hms with
    | more h hcolon hv hms =>
      have hlt := (hv.length.trans (Json.length_lt_of_nextMember h hcolon)).trans_le hbound
      rw [Command.members, h]
      change (Json.colon _ >>= _) = _
      rw [hcolon]
      change (Json.variantName kinds _ >>= _) = _
      rw [variantName_of_denotes hk hv]
      exact ih hms (Nat.le_of_lt_succ hlt)
  | other hname _ ih =>
    obtain ⟨b, bound, rfl⟩ := List.exists_cons_of_length_pos (hms.length.pos.trans_le hbound)
    cases hms with
    | more h hcolon hv hms =>
      have hlt := (hv.length.trans (Json.length_lt_of_nextMember h hcolon)).trans_le hbound
      have hmore := ih hms (Nat.le_of_lt_succ hlt)
      rw [Command.members, h]
      simp only [bind, Except.bind, if_neg hname, hcolon, Json.value_eq_ok_iff.mpr hv, hmore]

/-! ### The members of a command -/

/-- The command is read off every text of an object whose members sort into it. -/
lemma Sorts.decode {t : String} (h : Sorts none ms (some k) os)
    (hos : Command.ofMembers k os = .ok c)
    (ht : Json.decode (Json.value 0) t = .ok (.obj ms)) : Json.decode reader t = .ok c := by
  obtain ⟨r, hread, hend⟩ := Json.decode_eq_ok.mp ht
  have hdenotes : Denotes (Json.maxDepth - 1 + 1) t.toList (.obj ms) r :=
    Json.value_eq_ok_iff.mp hread
  cases hdenotes with
  | scalar ho =>
    cases Json.fronts_of_opening ho with
    | scalar _ _ hobj => exact absurd rfl (hobj ms)
  | object ho hms =>
    cases Json.fronts_of_opening ho with
    | object hfront =>
      have hreader : reader t.toList = .ok (c, r) := by
        rw [reader, hfront]
        change (Command.members _ true none _ >>= _) = _
        rw [h.members hms le_rfl]
        change (Command.ofMembers k os >>= _) = _
        rw [hos]
        rfl
      exact Json.decode_eq_ok.mpr ⟨r, hreader, hend⟩

end TabletopRobot.Command
