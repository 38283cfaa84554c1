import TabletopRobot.Text.Layout

/-!
The scripts that come with the program.
-/

namespace TabletopRobot

inductive Preset
  | a | b | c
  deriving DecidableEq

namespace Preset

def all : List Preset := [a, b, c]

def name : Preset → String
  | a => "a"
  | b => "b"
  | c => "c"

def script : Preset → String
  | a => "PLACE 0,0,NORTH\nMOVE\nREPORT"
  | b => "PLACE 0,0,NORTH\nLEFT\nREPORT"
  | c => "PLACE 1,2,EAST\nMOVE\nMOVE\nLEFT\nMOVE\nREPORT"

/-- What the script reports. -/
def expected : Preset → String
  | a => "0,1,NORTH"
  | b => "0,0,WEST"
  | c => "3,3,NORTH"

/-- The preset that a text names, blanks around it and the case of ASCII letters aside. -/
def ofText? (s : String) : Option Preset :=
  all.find? fun p => (Text.trim s.toList).map Char.toLower == p.name.toList

def unknownMessage (s : String) : String :=
  "unknown example '" ++ s ++ "', expected one of " ++ ", ".intercalate (all.map name)

end Preset

end TabletopRobot
