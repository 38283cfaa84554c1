import TabletopRobot.Number.Shortest

/-!
JSON values. Members keep their order, and a name may occur more than once.
-/

namespace TabletopRobot.Json

/-- A number: an integer of at most 64 bits, or a floating-point number with its sign. -/
inductive Number
  | int (i : Int)
  | float (negative : Bool) (magnitude : Binary64)
  deriving DecidableEq

def Number.text : Number → List Char
  | int i => Text.intText i
  | float negative x => (if negative then ['-'] else []) ++ x.write Binary64.style

inductive Value
  | null
  | bool (b : Bool)
  | num (n : Number)
  | str (s : String)
  | arr (items : List Value)
  | obj (members : List (String × Value))

namespace Value

def nat (n : Nat) : Value := num (.int n)

def int (i : Int) : Value := num (.int i)

/-- A value that may be absent. -/
def nullable {α : Type} (f : α → Value) : Option α → Value
  | none => null
  | some a => f a

end Value

end TabletopRobot.Json
