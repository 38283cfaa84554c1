import TabletopRobot.Text.Layout

/-!
The four directions, in clockwise order, and turns.
-/

namespace TabletopRobot

inductive Direction
  | north | east | south | west
  deriving DecidableEq, Repr

inductive Turn
  | left | right
  deriving DecidableEq, Repr

namespace Direction

def all : List Direction := [north, east, south, west]

/-- The place in clockwise order, counted from north. -/
def index : Direction → Int
  | north => 0
  | east => 1
  | south => 2
  | west => 3

def ofIndex (i : Int) : Direction :=
  match i % 4 with
  | 0 => north
  | 1 => east
  | 2 => south
  | _ => west

@[simp] theorem ofIndex_index (d : Direction) : ofIndex d.index = d := by cases d <;> rfl

/-- Turn clockwise by a number of quarters, counterclockwise if it is negative. -/
def rotate (d : Direction) (quarters : Int) : Direction := ofIndex (d.index + quarters)

/-- The same by a word of 32 bits, which is added to the index in 32 bits; nothing if the sum does
not fit. -/
def rotate? (d : Direction) (quarters : Int32) : Option Direction :=
  let i := Int32.ofInt d.index
  if i.toBitVec.saddOverflow quarters.toBitVec then none
  else some (ofIndex (i + quarters).toInt)

/-- The step to the neighbouring cell. -/
def delta : Direction → Int × Int
  | north => (0, 1)
  | east => (1, 0)
  | south => (0, -1)
  | west => (-1, 0)

def name : Direction → String
  | north => "NORTH"
  | east => "EAST"
  | south => "SOUTH"
  | west => "WEST"

/-- The direction a text names, blanks around it and the case of ASCII letters aside. -/
def ofText? (s : List Char) : Option Direction :=
  all.find? fun d => (Text.trim s).map Char.toUpper == d.name.toList

/-- Why `s` names no direction. -/
def unknownMessage (s : List Char) : String :=
  "unknown direction '" ++ .ofList (Text.trim s) ++ "'"

end Direction

namespace Turn

def quarters : Turn → Int
  | left => -1
  | right => 1

def name : Turn → String
  | left => "LEFT"
  | right => "RIGHT"

end Turn

def Direction.turn (d : Direction) (t : Turn) : Direction := d.rotate t.quarters

end TabletopRobot
