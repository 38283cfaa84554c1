import TabletopRobot.Proofs.Session.Reachable
import TabletopRobot.Session.Schedule

/-!
What the calls on a session come to, written down as a list of events, and what is read off
such a list.
-/

namespace TabletopRobot

/-- What one call, or one step of a batch within it, came to. Batches are told apart by their
epochs. -/
inductive Event
  | restarted
  /-- A batch began with the lines that it queued. -/
  | began (epoch : Nat) (lines : List String)
  /-- A line was executed, for a batch or by itself. -/
  | applied (epoch : Option Nat) (line : String)
  | finished (epoch : Nat)
  | cancelled (epoch : Nat)
  | closed (summary : Summary)
  deriving DecidableEq

namespace Event

/-- Whether another epoch begins. -/
def startsOver : Event → Bool
  | restarted | began .. => true
  | _ => false

/-- The lines executed since the last fresh start, after one more event. -/
def collect (ls : List String) : Event → List String
  | restarted | began .. => []
  | applied _ l => ls ++ [l]
  | _ => ls

/-- The line, if it was executed for the batch of the given epoch. -/
def appliedFor? (e : Nat) : Event → Option String
  | applied (some e') l => if e' = e then some l else none
  | _ => none

def begun? : Event → Option Nat
  | began e _ => some e
  | _ => none

/-- An event that neither begins a batch nor is the work of one. -/
def isAside : Event → Bool
  | began .. | applied (some _) _ => false
  | _ => true

end Event

open Event

/-- The lines executed since the last fresh start. -/
def linesSince (tr : List Event) : List String := tr.foldl collect []

/-- The lines executed for the batch of the given epoch. -/
def appliedBy (e : Nat) (tr : List Event) : List String := tr.filterMap (appliedFor? e)

/-- The epochs of all batches that began. -/
def begun (tr : List Event) : List Nat := tr.filterMap begun?

/-- The last fresh start is that of the batch of the given epoch. -/
def CurrentIn (e : Nat) (tr : List Event) : Prop :=
  ∃ pre ls mid, tr = pre ++ began e ls :: mid ∧ ∀ ev ∈ mid, ev.startsOver = false

/-! ### Events of a desk -/

namespace Session

variable (s : Session) (b : Batch)

def stepEvents : List Event :=
  match (s.step b).1 with
  | .applied _ => (b.pending.take 1).map (applied (some b.epoch))
  | .finished => [finished b.epoch]
  | .cancelled => [cancelled b.epoch]

/-- The events of `stepAll`. -/
def stepAllEvents (s : Session) : Nat → Batch → List Event
  | 0, _ => []
  | n + 1, b =>
    s.stepEvents b ++
      match s.step b with
      | (.applied _, b, s) => s.stepAllEvents n b
      | _ => []

/-- The events of `runAll`. -/
def runEvents (lines : List String) : List Event :=
  let (b, s) := s.begin lines
  began b.epoch (queued lines) :: s.stepAllEvents (b.remaining + 1) b ++
    [closed (s.stepAll (b.remaining + 1) b).1.summary]

end Session

namespace Desk

def events (d : Desk) : Task → List Event
  | .line raw => (queued [raw]).map (applied none)
  | .batch ls => d.session.runEvents ls
  | .reset => [restarted]
  | .begin _ ls => [began (d.session.begin ls).1.epoch (queued ls)]
  | .step name => (d.batch? name).elim [] d.session.stepEvents
  | .finish name => (d.batch? name).elim [] fun b => [closed b.summary]

/-- The events of a run, in order. -/
def trace (d : Desk) : List Task → List Event
  | [] => []
  | t :: ts => d.events t ++ (d.perform t).2.trace ts

end Desk

end TabletopRobot
