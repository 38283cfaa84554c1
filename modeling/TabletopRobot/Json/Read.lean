import TabletopRobot.Json.Layout

/-!
JSON text as values. Brackets may be nested 127 deep.
-/

namespace TabletopRobot.Json

/-- A value that is not in brackets, or what kind of bracket opens it. -/
inductive Opening
  | scalar (v : Value) (rest : List Char)
  | array (rest : List Char)
  | object (rest : List Char)

def opening (s : List Char) : Except Error Opening :=
  match skipSpace s with
  | [] => .error .truncated
  | c :: r =>
    if c = 'n' then (word ['u', 'l', 'l'] r).map fun (_, r) => .scalar .null r
    else if c = 't' then (word ['r', 'u', 'e'] r).map fun (_, r) => .scalar (.bool true) r
    else if c = 'f' then (word ['a', 'l', 's', 'e'] r).map fun (_, r) => .scalar (.bool false) r
    else if c = '"' then (string r).map fun (t, r) => .scalar (.str t) r
    else if c = '-' || c.isDigit then (number (c :: r)).map fun (n, r) => .scalar (.num n) r
    else if c = '[' then .ok (.array r)
    else if c = '{' then .ok (.object r)
    else .error .malformed

mutual

/-- A value with at most `depth` levels of brackets; `fuel` bounds its length. -/
def readValue : Nat → Nat → Reader Value
  | 0, _, _ => .error .truncated
  | fuel + 1, depth, s => do
    match ← opening s with
    | .scalar v r => .ok (v, r)
    | .array r =>
      if depth = 0 then .error .malformed
      else (readItems fuel (depth - 1) true r).map fun (vs, r) => (.arr vs, r)
    | .object r =>
      if depth = 0 then .error .malformed
      else (readMembers fuel (depth - 1) true r).map fun (ms, r) => (.obj ms, r)

def readItems : Nat → Nat → Bool → Reader (List Value)
  | 0, _, _, _ => .error .truncated
  | fuel + 1, depth, first, s => do
    match ← nextItem first s with
    | .stop r => .ok ([], r)
    | .more r =>
      let (v, r) ← readValue fuel depth r
      let (vs, r) ← readItems fuel depth false r
      .ok (v :: vs, r)

def readMembers : Nat → Nat → Bool → Reader (List (String × Value))
  | 0, _, _, _ => .error .truncated
  | fuel + 1, depth, first, s => do
    match ← nextMember string first s with
    | .stop r => .ok ([], r)
    | .more (k, r) =>
      let (v, r) ← readValue fuel depth (← colon r)
      let (ms, r) ← readMembers fuel depth false r
      .ok ((k, v) :: ms, r)

end

/-- The most levels of brackets around a value that is read. -/
def maxDepth : Nat := 127

/-- A value inside `outer` levels of brackets. -/
def value (outer : Nat) : Reader Value := fun s =>
  readValue (2 * s.length + 2) (maxDepth - outer) s

/-- A whole text read by `r`. -/
def decode {α : Type} (r : Reader α) (text : String) : Except Error α := do
  let (a, rest) ← r text.toList
  endText rest
  .ok a

end TabletopRobot.Json
