import TabletopRobot.Command
import TabletopRobot.Text.Layout
import TabletopRobot.Text.Upper

/-!
Lines read as commands. A line that begins with `PLACE` but is no placement is malformed, with
every flaw of its arguments; any other line that is no command is kept as an unknown one.
-/

namespace TabletopRobot

inductive Axis
  | x | y
  deriving DecidableEq

def Axis.name : Axis → String
  | x => "x"
  | y => "y"

/-- What is wrong with the arguments of a placement. -/
inductive Flaw
  | missingArguments
  | missingSeparator (found : String)
  | wrongArity (found : Nat)
  | notInteger (axis : Axis) (token : String)
  | notDirection (token : String)
  deriving DecidableEq

def Flaw.message : Flaw → String
  | missingArguments => "missing arguments, expected x,y,FACING"
  | missingSeparator found => "expected whitespace after PLACE, found '" ++ found ++ "'"
  | wrongArity n => "expected 3 comma-separated arguments, found " ++ Text.showNat n
  | notInteger a t => a.name ++ " coordinate '" ++ t ++ "' is not an integer"
  | notDirection t => Direction.unknownMessage t.toList

def Flaw.messages (fs : List Flaw) : String := "; ".intercalate (fs.map message)

/-- A line that begins with `PLACE` and is no placement. -/
structure Malformed where
  line : String
  flaws : List Flaw
  deriving DecidableEq

def Malformed.message (m : Malformed) : String :=
  "malformed PLACE command '" ++ m.line ++ "': " ++ Flaw.messages m.flaws

/-- A line without the blanks around it, in upper case. -/
def normalize (raw : String) : String := .ofList (Text.upper (Text.trim raw.toList))

namespace Command

/-- The nearest 64-bit integer. -/
def saturate (i : Int) : Int64 := .ofInt (max Int64.minValue.toInt (min Int64.maxValue.toInt i))

/-- A sign, if there is one, and the rest. -/
def sign : List Char → Bool × List Char
  | '-' :: r => (true, r)
  | '+' :: r => (false, r)
  | r => (false, r)

/-- An optionally signed run of digits, saturated. -/
def coordinate? (s : List Char) : Option Int64 :=
  let (negative, ds) := sign s
  if Text.isDigits ds then
    some (saturate (if negative then -Text.digitsValue ds else Text.digitsValue ds))
  else none

/-- The three fields of a placement, or what is wrong with each of them. -/
def placementOf (tx ty tf : List Char) : Except (List Flaw) Command :=
  match coordinate? tx, coordinate? ty, Direction.ofText? tf with
  | some x, some y, some f => .ok (place x y f)
  | x, y, f => .error <|
    (if x.isNone then [.notInteger .x (.ofList tx)] else []) ++
    (if y.isNone then [.notInteger .y (.ofList ty)] else []) ++
    (if f.isNone then [.notDirection (.ofList tf)] else [])

/-- What follows the word `PLACE`. -/
def placement (rest : List Char) : Except (List Flaw) Command :=
  if Text.blank rest then .error [.missingArguments]
  else if (rest.head?.map Text.isBlank).getD false then
    match (Text.splitAt ',' rest).map Text.trim with
    | [tx, ty, tf] => placementOf tx ty tf
    | fields => .error [.wrongArity fields.length]
  else .error [.missingSeparator (.ofList rest)]

/-- A normalized line as a command. -/
def ofLine (line : List Char) : Except Malformed Command :=
  match ofWord? line with
  | some c => .ok c
  | none =>
    match Text.after? "PLACE".toList line with
    | some rest => (placement rest).mapError (Malformed.mk (.ofList line))
    | none => .ok (unknown (.ofList line))

def parse (raw : String) : Except Malformed Command := ofLine (normalize raw).toList

end Command

/-- The lines of a script that are not blank, as they stand. -/
def nonBlankLines (script : String) : List String :=
  (Text.lines script.toList).filterMap fun l => if Text.blank l then none else some (.ofList l)

/-- The lines of a script. -/
def scriptLines (script : String) : List String := (Text.lines script.toList).map .ofList

end TabletopRobot
