import TabletopRobot.Json.Scan

/-!
The brackets, commas and colons of JSON, and values that are skipped.
-/

namespace TabletopRobot.Json

/-- What comes next inside brackets: their end with the text after it, or something more. -/
inductive Next (α : Type)
  | stop (rest : List Char)
  | more (a : α)

/-- The next item of an array, the first one or one after a comma. -/
def nextItem (first : Bool) (s : List Char) : Except Error (Next (List Char)) :=
  match skipSpace s with
  | [] => .error .truncated
  | c :: r =>
    if c = ']' then .ok (.stop r)
    else if first then .ok (.more (c :: r))
    else if c = ',' then
      match skipSpace r with
      | [] => .error .truncated
      | d :: r => if d = ']' then .error .malformed else .ok (.more (d :: r))
    else .error .malformed

/-- The name of a member, read by `name` after its opening quote. -/
def memberName {α : Type} (name : List Char → Except Error α) :
    List Char → Except Error (Next α)
  | [] => .error .truncated
  | c :: r => if c = '"' then (name r).map .more else .error .malformed

/-- The next member of an object, the first one or one after a comma. -/
def nextMember {α : Type} (name : List Char → Except Error α) (first : Bool) (s : List Char) :
    Except Error (Next α) :=
  match skipSpace s with
  | [] => .error .truncated
  | c :: r =>
    if c = '}' then .ok (.stop r)
    else if first then memberName name (c :: r)
    else if c = ',' then memberName name (skipSpace r)
    else .error .malformed

/-- The colon between a name and its value. -/
def colon (s : List Char) : Except Error (List Char) :=
  match skipSpace s with
  | [] => .error .truncated
  | c :: r => if c = ':' then .ok r else .error .malformed

/-- The end of an array of which no more items are read. -/
def endArray (s : List Char) : Except Error (List Char) :=
  match skipSpace s with
  | [] => .error .truncated
  | c :: r => if c = ']' then .ok r else .error .malformed

/-- The end of an object of which no more members are read. -/
def endObject (s : List Char) : Except Error (List Char) :=
  match skipSpace s with
  | [] => .error .truncated
  | c :: r => if c = '}' then .ok r else .error .malformed

/-- The end of the text: only blanks are left. -/
def endText (s : List Char) : Except Error Unit :=
  if (skipSpace s).isEmpty then .ok () else .error .malformed

mutual

/-- Past a value that nobody reads, nested to any depth; `fuel` bounds its length. -/
def skipValue : Nat → List Char → Except Error (List Char)
  | 0, _ => .error .truncated
  | fuel + 1, s =>
    match skipSpace s with
    | [] => .error .truncated
    | c :: r =>
      if c = 'n' then (word ['u', 'l', 'l'] r).map (·.2)
      else if c = 't' then (word ['r', 'u', 'e'] r).map (·.2)
      else if c = 'f' then (word ['a', 'l', 's', 'e'] r).map (·.2)
      else if c = '"' then skipString r
      else if c = '-' || c.isDigit then skipNumber (c :: r)
      else if c = '[' then skipItems fuel true r
      else if c = '{' then skipMembers fuel true r
      else .error .malformed

def skipItems : Nat → Bool → List Char → Except Error (List Char)
  | 0, _, _ => .error .truncated
  | fuel + 1, first, s => do
    match ← nextItem first s with
    | .stop r => .ok r
    | .more r => skipItems fuel false (← skipValue fuel r)

def skipMembers : Nat → Bool → List Char → Except Error (List Char)
  | 0, _, _ => .error .truncated
  | fuel + 1, first, s => do
    match ← nextMember skipString first s with
    | .stop r => .ok r
    | .more r => skipMembers fuel false (← skipValue fuel (← colon r))

end

/-- Past a value that nobody reads. -/
def skip (s : List Char) : Except Error (List Char) := skipValue (2 * s.length + 2) s

end TabletopRobot.Json
