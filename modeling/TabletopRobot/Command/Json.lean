import TabletopRobot.Command
import TabletopRobot.Json.Decode
import TabletopRobot.Json.Print

/-!
Commands in JSON: an object with the tag `kind`, which may stand anywhere in it, or an array
with the tag in front. The other members are set aside until the tag is known.
-/

namespace TabletopRobot.Command

open Json (Value Reader Error Mismatch Found)

/-- What a tag calls for. -/
inductive Kind
  | place | unknown
  | bare (c : Command)

def kinds : List (String × Kind) := [
  ("place", .place), ("move", .bare .move), ("left", .bare (.turn .left)),
  ("right", .bare (.turn .right)), ("report", .bare .report), ("unknown", .unknown)]

def toValue : Command → Value
  | place x y f => .obj [
      ("kind", .str "place"), ("x", .int x.toInt), ("y", .int y.toInt), ("facing", .str f.name)]
  | move => .obj [("kind", .str "move")]
  | turn .left => .obj [("kind", .str "left")]
  | turn .right => .obj [("kind", .str "right")]
  | report => .obj [("kind", .str "report")]
  | unknown line => .obj [("kind", .str "unknown"), ("raw", .str line)]

/-! ### Contents set aside -/

def foundIn : Value → Found
  | .null => .null
  | .bool b => .bool b
  | .num n => .num n
  | .str s => .str s
  | .arr _ => .arr
  | .obj _ => .obj

def unexpected {α : Type} (expected : String) (v : Value) : Except Error α :=
  .error (.mismatch (.invalidType (foundIn v) expected))

def int64 : Value → Except Error Int64
  | .num (.int i) =>
    if Int64.minValue.toInt ≤ i ∧ i ≤ Int64.maxValue.toInt then .ok (.ofInt i)
    else .error (.mismatch (.invalidValue (.num (.int i)) "i64"))
  | v => unexpected "i64" v

def string : Value → Except Error String
  | .str s => .ok s
  | v => unexpected "a string" v

/-- A direction by name, or as the name of a member without content. -/
def direction : Value → Except Error Direction
  | .str s => named s
  | .obj [(k, v)] => do
    let d ← named k
    match v with
    | .null | .obj [] => .ok d
    | v => unexpected "unit" v
  | .obj _ => .error (.mismatch (.invalidValue .obj "map with a single key"))
  | v => unexpected "string or map" v
where
  named (s : String) : Except Error Direction :=
    Json.variant (Direction.all.map fun d => (d.name, d)) s

/-- The arguments of a placement read so far. -/
structure Draft where
  x : Option Int64 := none
  y : Option Int64 := none
  facing : Option Direction := none

/-- A value stored in a place that has to be free. -/
def store {α : Type} (name : String) (old : Option α) (read : Value → Except Error α)
    (v : Value) : Except Error (Option α) :=
  if old.isSome then .error (.mismatch (.duplicateField name)) else (read v).map some

def placeMember (d : Draft) : String × Value → Except Error Draft
  | (k, v) =>
    if k = "x" then (store k d.x int64 v).map fun x => { d with x }
    else if k = "y" then (store k d.y int64 v).map fun y => { d with y }
    else if k = "facing" then (store k d.facing direction v).map fun facing => { d with facing }
    else .ok d

def rawMember (d : Option String) : String × Value → Except Error (Option String)
  | (k, v) => if k = "raw" then store k d string v else .ok d

def tooMany (found used : Nat) : Except Error Command :=
  .error (.mismatch (.invalidLength found
    (Text.showNat used ++ (if used = 1 then " element" else " elements") ++ " in sequence")))

def tooFew (found : Nat) (title : String) : Except Error Command :=
  .error (.mismatch (.invalidLength found title))

/-- A command from its tag and the other members of its object. -/
def ofMembers (k : Kind) (ms : List (String × Value)) : Except Error Command :=
  match k with
  | .bare c => .ok c
  | .place => do
    let d ← ms.foldlM placeMember {}
    let x ← Json.required "x" d.x
    let y ← Json.required "y" d.y
    let f ← Json.required "facing" d.facing
    .ok (place x y f)
  | .unknown => do
    let d ← ms.foldlM rawMember none
    let line ← Json.required "raw" d
    .ok (unknown line)

/-- A command from its tag and the other items of its array. -/
def ofItems (k : Kind) (vs : List Value) : Except Error Command :=
  match k with
  | .bare c => if vs.isEmpty then .ok c else tooMany vs.length 0
  | .place => do
    let title := "struct variant Command::Place with 3 elements"
    match vs with
    | [] => tooFew 0 title
    | vx :: vs =>
      let x ← int64 vx
      match vs with
      | [] => tooFew 1 title
      | vy :: vs =>
        let y ← int64 vy
        match vs with
        | [] => tooFew 2 title
        | vf :: vs =>
          let f ← direction vf
          if vs.isEmpty then .ok (place x y f) else tooMany (vs.length + 3) 3
  | .unknown =>
    match vs with
    | [] => tooFew 0 "struct variant Command::Unknown with 1 element"
    | v :: vs => do
      let line ← string v
      if vs.isEmpty then .ok (unknown line) else tooMany (vs.length + 1) 1

/-! ### Tags -/

/-- The members of an object up to its end, with the tag apart. Each member gives up a
character of `bound`, a text that is no shorter than the one that is read. -/
def members : List Char → Bool → Option Kind → Reader (Option Kind × List (String × Value))
  | [], _, _, _ => .error .truncated
  | _ :: bound, first, tag, s => do
    match ← Json.nextMember Json.string first s with
    | .stop r => .ok ((tag, []), r)
    | .more (name, r) =>
      if name = "kind" then
        if tag.isSome then .error (.mismatch (.duplicateField "kind"))
        else
          let (k, r) ← Json.variantName kinds (← Json.colon r)
          members bound false (some k) r
      else
        let (v, r) ← Json.value 1 (← Json.colon r)
        let ((tag, ms), r) ← members bound false tag r
        .ok ((tag, (name, v) :: ms), r)

def reader : Reader Command := fun s =>
  match Json.skipSpace s with
  | '[' :: r => do
    match ← Json.nextItem true r with
    | .stop _ => .error (.mismatch (.missingField "kind"))
    | .more r =>
      let (k, r) ← Json.variantName kinds r
      let (vs, r) ← Json.itemsOf (Json.value 1) r false r
      let c ← ofItems k vs
      .ok (c, r)
  | '{' :: r => do
    let ((tag, ms), r) ← members r true none r
    let k ← Json.required "kind" tag
    let c ← ofMembers k ms
    .ok (c, r)
  | r => Json.unexpected "internally tagged enum Command" r

end TabletopRobot.Command
