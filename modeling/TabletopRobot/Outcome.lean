import TabletopRobot.Command.Parse
import TabletopRobot.Journal
import TabletopRobot.Table

/-!
What became of a line, how serious it is and how it is told.
-/

namespace TabletopRobot

inductive Outcome
  | placed (pose : Pose)
  | moved (cell : Position)
  | turned (turn : Turn) (facing : Direction)
  | reported (pose : Pose)
  /-- A placement on a cell that is not there. -/
  | offTable (x y : Int64)
  /-- A move that would leave the table. -/
  | blocked (pose : Pose)
  | notPlaced
  | malformed (flaws : List Flaw)
  | unknown (line : String)
  deriving DecidableEq

namespace Outcome

def severity : Outcome → Severity
  | placed _ | moved _ | turned .. => .success
  | reported _ => .report
  | blocked _ | notPlaced => .warning
  | offTable .. | malformed _ | unknown _ => .error

def isRejection : Outcome → Bool
  | placed _ | moved _ | turned .. | reported _ => false
  | _ => true

/-- The value that goes to the output. -/
def report? : Outcome → Option String
  | reported p => some p.report
  | _ => none

def message : Outcome → String
  | placed p => "Placed robot at " ++ p.position.text ++ " facing " ++ p.facing.name
  | moved p => "Moved to " ++ p.text
  | turned t f => "Turned " ++ t.name ++ ", now facing " ++ f.name
  | reported p => "REPORT: " ++ p.report
  | offTable x y => "Invalid PLACE: " ++ offTableMessage x.toInt y.toInt
  | blocked _ => "Move ignored: would fall off table"
  | notPlaced => "Command ignored: robot not placed yet"
  | malformed fs => "Invalid PLACE command format: " ++ Flaw.messages fs
  | unknown line => "Unknown command: " ++ line

end Outcome

end TabletopRobot
