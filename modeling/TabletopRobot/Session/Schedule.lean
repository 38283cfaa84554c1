import TabletopRobot.Session

/-!
Any number of open batches, by name, worked on one session in any order.
-/

namespace TabletopRobot

/-- A session and its open batches, the newest of a name in front. -/
structure Desk where
  session : Session := {}
  batches : List (String × Batch) := []

/-- What can be asked of a desk. -/
inductive Task
  | line (raw : String)
  | batch (lines : List String)
  | reset
  | begin (name : String) (lines : List String)
  | step (name : String)
  | finish (name : String)

inductive Reply
  | entry (e : Option Entry)
  | summary (s : Summary)
  | done
  | began (b : Batch)
  | stepped (r : Step) (b : Batch)
  | noBatch

namespace Desk

def batch? (d : Desk) (name : String) : Option Batch := d.batches.lookup name

/-- The open batches but the one of the given name. -/
def others (d : Desk) (name : String) : List (String × Batch) := d.batches.filter (·.1 != name)

/-- One task. A batch that is begun takes the place of one of its name, and a finished one is
put away. -/
def perform (d : Desk) : Task → Reply × Desk
  | .line raw =>
    let (e, s) := d.session.enter raw
    (.entry e, { d with session := s })
  | .batch ls =>
    let (r, s) := d.session.runAll ls
    (.summary r, { d with session := s })
  | .reset => (.done, { d with session := d.session.reset })
  | .begin name ls =>
    let (b, s) := d.session.begin ls
    (.began b, ⟨s, (name, b) :: d.others name⟩)
  | .step name =>
    match d.batch? name with
    | none => (.noBatch, d)
    | some b =>
      let (r, b, s) := d.session.step b
      (.stepped r b, ⟨s, (name, b) :: d.others name⟩)
  | .finish name =>
    match d.batch? name with
    | none => (.noBatch, d)
    | some b =>
      let (r, s) := d.session.finish b
      (.summary r, ⟨s, d.others name⟩)

def run (d : Desk) (ts : List Task) : Desk := ts.foldl (fun d t => (d.perform t).2) d

@[simp] theorem run_nil (d : Desk) : d.run [] = d := rfl
@[simp] theorem run_cons (d : Desk) (t : Task) (ts : List Task) :
    d.run (t :: ts) = (d.perform t).2.run ts := rfl
theorem run_append (d : Desk) (ts us : List Task) : d.run (ts ++ us) = (d.run ts).run us := by
  simp [run, List.foldl_append]

end Desk

end TabletopRobot
