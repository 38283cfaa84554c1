import TabletopRobot.Json.Read

/-!
Readers of JSON text for the types a document is made of.

Each reader goes through the text once and stops at the first thing that is wrong, so a value
of the wrong type is found before a fault in the text after it.
-/

namespace TabletopRobot.Json

/-- What stands at the front of the text, instead of what was expected. -/
def found (s : List Char) : Except Error Found := do
  match ← opening s with
  | .scalar .null _ => .ok .null
  | .scalar (.bool b) _ => .ok (.bool b)
  | .scalar (.num n) _ => .ok (.num n)
  | .scalar (.str t) _ => .ok (.str t)
  | .scalar _ _ | .array _ => .ok .arr
  | .object _ => .ok .obj

/-- The failure of a reader that met something else than `expected`. -/
def unexpected {α : Type} (expected : String) (s : List Char) : Except Error α := do
  let f ← found s
  .error (.mismatch (.invalidType f expected))

/-- An integer from `low` to `high`. -/
def integer (low high : Int) (expected : String) : Reader Int := fun s => do
  match ← opening s with
  | .scalar (.num (.int i)) r =>
    if low ≤ i ∧ i ≤ high then .ok (i, r)
    else .error (.mismatch (.invalidValue (.num (.int i)) expected))
  | _ => unexpected expected s

def int32 : Reader Int32 :=
  (integer Int32.minValue.toInt Int32.maxValue.toInt "i32").map Int32.ofInt

def uint32 : Reader UInt32 :=
  (integer 0 (UInt32.size - 1) "u32").map fun i => .ofNat i.toNat

def uint64 : Reader UInt64 :=
  (integer 0 (UInt64.size - 1) "u64").map fun i => .ofNat i.toNat

/-- A count of things. -/
def count : Reader Nat := (integer 0 (UInt64.size - 1) "usize").map Int.toNat

def boolean : Reader Bool := fun s => do
  match ← opening s with
  | .scalar (.bool b) r => .ok (b, r)
  | _ => unexpected "a boolean" s

def stringOf (expected : String) : Reader String := fun s => do
  match ← opening s with
  | .scalar (.str t) r => .ok (t, r)
  | _ => unexpected expected s

def text : Reader String := stringOf "a string"

/-- A string that `parse?` understands. -/
def parsed {α : Type} (expected : String) (parse? : String → Option α) : Reader α := fun s => do
  let (t, r) ← stringOf expected s
  match parse? t with
  | some a => .ok (a, r)
  | none => .error (.mismatch (.refused none))

/-- A value or `null`. -/
def nullable {α : Type} (read : Reader α) : Reader (Option α) := fun s =>
  match skipSpace s with
  | 'n' :: r => (word ['u', 'l', 'l'] r).map fun (_, r) => (none, r)
  | r => read.map some r

/-- The items of an array up to its end. Each item gives up a character of `bound`, a text
that is no shorter than the one that is read. -/
def itemsOf {α : Type} (read : Reader α) : List Char → Bool → Reader (List α)
  | [], _, _ => .error .truncated
  | _ :: bound, first, s => do
    match ← nextItem first s with
    | .stop r => .ok ([], r)
    | .more r =>
      let (a, r) ← read r
      let (as, r) ← itemsOf read bound false r
      .ok (a :: as, r)

def listOf {α : Type} (read : Reader α) : Reader (List α) := fun s =>
  match skipSpace s with
  | '[' :: r => itemsOf read r true r
  | r => unexpected "a sequence" r

/-! ### Names of alternatives -/

/-- One of `known`, by name. -/
def variant {α : Type} (known : List (String × α)) (name : String) : Except Error α :=
  match known.lookup name with
  | some a => .ok a
  | none => .error (.mismatch (.unknownVariant name (known.map (·.1))))

/-- The name of an alternative. -/
def variantName {α : Type} (known : List (String × α)) : Reader α := fun s => do
  let (t, r) ← stringOf "variant identifier" s
  let a ← variant known t
  .ok (a, r)

/-- The name of an alternative as that of a member. -/
def onlyName {α : Type} (known : List (String × α)) : Reader α
  | [] => .error .truncated
  | c :: r => if c = '"' then variantName known (c :: r) else .error .malformed

/-- The empty content of an alternative. -/
def unit : Reader Unit := fun s => do
  match ← opening s with
  | .scalar .null r => .ok ((), r)
  | _ => unexpected "unit" s

/-- An alternative: its name, or an object whose only member has that name and no content. -/
def oneOf {α : Type} (known : List (String × α)) : Reader α := fun s =>
  match skipSpace s with
  | [] => .error .truncated
  | c :: r =>
    if c = '"' then variantName known (c :: r)
    else if c = '{' then do
      let (a, r) ← onlyName known (skipSpace r)
      let (_, r) ← unit (← colon r)
      let r ← endObject r
      .ok (a, r)
    else .error .malformed

/-! ### Records -/

/-- A field of a record that is filled in as it is read. -/
structure Field (σ : Type) where
  name : String
  isSet : σ → Bool
  read : σ → Reader σ

/-- A field stored by `put`. -/
def Field.of {σ α : Type} (name : String) (get : σ → Option α) (put : σ → α → σ)
    (read : Reader α) : Field σ :=
  ⟨name, fun d => (get d).isSome, fun d => read.map (put d)⟩

/-- The fields of a record in order, and what it is called. -/
structure Shape (σ : Type) where
  title : String
  fields : List (Field σ)

namespace Shape

variable {σ : Type}

/-- A member of an object: a field that was not set before, or one that nobody reads. -/
def member (sh : Shape σ) (d : σ) (name : String) (s : List Char) : Except Error (σ × List Char) :=
  match sh.fields.find? (·.name == name) with
  | some f =>
    if f.isSet d then .error (.mismatch (.duplicateField name))
    else do f.read d (← colon s)
  | none => do
    let r ← skip (← colon s)
    .ok (d, r)

/-- The members of an object up to its end. Each member gives up a character of `bound`, a
text that is no shorter than the one that is read. -/
def members (sh : Shape σ) : List Char → Bool → σ → List Char → Except Error (σ × List Char)
  | [], _, _, _ => .error .truncated
  | _ :: bound, first, d, s => do
    match ← nextMember string first s with
    | .stop r => .ok (d, r)
    | .more (k, r) =>
      let (d, r) ← sh.member d k r
      members sh bound false d r

/-- The fields as the items of an array, all of them and no more. -/
def items (sh : Shape σ) : List (Field σ) → Bool → σ → List Char → Except Error (σ × List Char)
  | [], _, d, s => (endArray s).map (d, ·)
  | f :: fs, first, d, s => do
    match ← nextItem first s with
    | .stop _ =>
      .error (.mismatch (.invalidLength (sh.fields.length - (fs.length + 1))
        (sh.title ++ " with " ++ Text.showNat sh.fields.length ++ " elements")))
    | .more r =>
      let (d, r) ← f.read d r
      items sh fs false d r

/-- A record, as an object or as an array. -/
def read (sh : Shape σ) (empty : σ) : Reader σ := fun s =>
  match skipSpace s with
  | '[' :: r => sh.items sh.fields true empty r
  | '{' :: r => sh.members r true empty r
  | r => unexpected sh.title r

end Shape

/-- A field that has to be there. -/
def required {α : Type} (name : String) : Option α → Except Error α
  | some a => .ok a
  | none => .error (.mismatch (.missingField name))

/-- A reader whose result is checked. -/
def Reader.andThen {α β : Type} (read : Reader α) (check : α → Except Error β) : Reader β :=
  fun s => do
    let (a, r) ← read s
    let b ← check a
    .ok (b, r)

end TabletopRobot.Json
