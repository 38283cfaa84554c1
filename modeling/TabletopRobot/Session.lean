import TabletopRobot.Robot

/-!
A session: the robot, the journal, the output, and batches of lines run against them.

A batch belongs to the epoch in which it began. Each reset and each new batch begins another
epoch, and a batch of an older one can no longer touch the session.
-/

namespace TabletopRobot

structure Session where
  robot : Robot := .unplaced
  journal : Journal := []
  /-- The values of all reports, in order. -/
  output : List String := []
  /-- The number of fresh starts, without a bound. A counter of 64 bits agrees with it as long as
  there are fewer than `2 ^ 64` of them. -/
  epoch : Nat := 0
  /-- The epoch of the batch that is being run, if one is. -/
  active : Option Nat := none
  deriving DecidableEq

/-- A batch that has begun. -/
structure Batch where
  epoch : Nat
  pending : List String
  applied : Nat := 0
  deriving DecidableEq

/-- How a batch ended. -/
structure Summary where
  epoch : Nat
  applied : Nat
  skipped : Nat
  cancelled : Bool
  deriving DecidableEq

/-- What one step of a batch did. -/
inductive Step
  | applied (entry : Entry)
  | finished
  | cancelled
  deriving DecidableEq

/-- A line of nothing but blanks. -/
def isBlankLine (line : String) : Bool := Text.blank line.toList

namespace Batch

def isDone (b : Batch) : Bool := b.pending.isEmpty

def remaining (b : Batch) : Nat := b.pending.length

/-- A batch counts as cancelled if lines of it are left. -/
def summary (b : Batch) : Summary := ⟨b.epoch, b.applied, b.remaining, !b.isDone⟩

end Batch

namespace Session

def isRunning (s : Session) : Bool := s.active.isSome

/-- Whether a batch may still apply lines. -/
def isCurrent (s : Session) (b : Batch) : Bool := b.epoch == s.epoch

/-- The entry that a line adds to the journal. -/
def entryOf (s : Session) (raw : String) : Entry :=
  let o := (s.robot.applyLine raw).2
  s.journal.next (normalize raw) o.message o.severity

/-- A line against the robot; its outcome goes to the journal, and a report to the output. -/
def execute (s : Session) (raw : String) : Session :=
  let (robot, o) := s.robot.applyLine raw
  { s with
    robot
    output := s.output ++ o.report?.toList
    journal := s.journal ++ [s.entryOf raw] }

/-- A fresh start in the next epoch. -/
def reset (s : Session) : Session := { epoch := s.epoch + 1 }

/-- One line at once; a blank one is ignored. -/
def enter (s : Session) (raw : String) : Option Entry × Session :=
  if isBlankLine raw then (none, s) else (some (s.entryOf raw), s.execute raw)

/-- A fresh start with a batch of the lines that are not blank. -/
def begin (s : Session) (lines : List String) : Batch × Session :=
  (⟨s.epoch + 1, lines.filter (!isBlankLine ·), 0⟩, { s.reset with active := some (s.epoch + 1) })

/-- The next line of a batch. A batch of an older epoch touches nothing. -/
def step (s : Session) (b : Batch) : Step × Batch × Session :=
  if s.isCurrent b then
    match b.pending with
    | [] => (.finished, b, { s with active := none })
    | l :: ls => (.applied (s.entryOf l), ⟨b.epoch, ls, b.applied + 1⟩, s.execute l)
  else (.cancelled, b, s)

/-- The end of a batch. Only the batch that is being run clears the running mark. -/
def finish (s : Session) (b : Batch) : Summary × Session :=
  (b.summary, if s.active = some b.epoch then { s with active := none } else s)

/-- Step until nothing is applied; as many steps as there are lines, and one more. -/
def stepAll (s : Session) : Nat → Batch → Batch × Session
  | 0, b => (b, s)
  | n + 1, b =>
    match s.step b with
    | (.applied _, b, s) => s.stepAll n b
    | (_, b, s) => (b, s)

/-- A batch from beginning to end. -/
def runAll (s : Session) (lines : List String) : Summary × Session :=
  let (b, s) := s.begin lines
  let (b, s) := s.stepAll (b.remaining + 1) b
  s.finish b

end Session

end TabletopRobot
