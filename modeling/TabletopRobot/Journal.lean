import TabletopRobot.Text.Numeral

/-!
The journal of a session: one numbered entry for each line that was executed.
-/

namespace TabletopRobot

inductive Severity
  | success | error | warning | info | report
  deriving DecidableEq

namespace Severity

def all : List Severity := [success, error, warning, info, report]

def name : Severity → String
  | success => "success"
  | error => "error"
  | warning => "warning"
  | info => "info"
  | report => "report"

end Severity

structure Entry where
  sequence : UInt64
  command : String
  message : String
  severity : Severity
  deriving DecidableEq

def Entry.text (e : Entry) : String :=
  "#" ++ Text.showNat e.sequence.toNat ++ " [" ++ e.severity.name ++ "] " ++ e.command ++ ": " ++
    e.message

/-- Entries in the order in which they were recorded. -/
abbrev Journal := List Entry

namespace Journal

/-- The number of the entry at a place, counted from zero. -/
def numberAt (i : Nat) : UInt64 := .ofNat (i + 1)

/-- The entry that is next in line. -/
def next (j : Journal) (command message : String) (severity : Severity) : Entry :=
  ⟨numberAt j.length, command, message, severity⟩

def count (j : Journal) (s : Severity) : Nat := j.countP (·.severity == s)

end Journal

end TabletopRobot
