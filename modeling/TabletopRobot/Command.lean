import TabletopRobot.Direction
import TabletopRobot.Text.Numeral

/-!
The commands of the robot and their written form.
-/

namespace TabletopRobot

/-- Coordinates are 64-bit and need not be on the table. -/
inductive Command
  | place (x y : Int64) (facing : Direction)
  | move
  | turn (t : Turn)
  | report
  | unknown (line : String)
  deriving DecidableEq

namespace Command

def keyword? : Command → Option String
  | place .. => some "PLACE"
  | move => some "MOVE"
  | turn t => some t.name
  | report => some "REPORT"
  | unknown _ => none

def text : Command → String
  | place x y f =>
    "PLACE " ++ Text.showInt x.toInt ++ "," ++ Text.showInt y.toInt ++ "," ++ f.name
  | move => "MOVE"
  | turn t => t.name
  | report => "REPORT"
  | unknown line => line

/-- The commands that are one word. -/
def words : List Command := [move, turn .left, turn .right, report]

/-- The command that consists of the given word alone. -/
def ofWord? (s : List Char) : Option Command := words.find? fun c => s == c.text.toList

end Command

end TabletopRobot
