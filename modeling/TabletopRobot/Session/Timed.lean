import TabletopRobot.Session
import TabletopRobot.Time.Moment

/-!
Summaries of batches with the times at which they began and ended, as documents.
-/

namespace TabletopRobot

structure TimedSummary where
  summary : Summary
  startedAt : Moment
  finishedAt : Moment
  deriving DecidableEq

namespace TimedSummary

/-- Seconds and nanoseconds from start to finish, unless the finish comes first. -/
def duration? (s : TimedSummary) : Option (Nat × Nat) := s.startedAt.until? s.finishedAt

def toValue (s : TimedSummary) : Json.Value := .obj [
  ("epoch", .nat s.summary.epoch),
  ("applied", .nat s.summary.applied),
  ("skipped", .nat s.summary.skipped),
  ("cancelled", .bool s.summary.cancelled),
  ("started_at", .str (.ofList s.startedAt.text)),
  ("finished_at", .str (.ofList s.finishedAt.text))]

structure Draft where
  epoch : Option UInt64 := none
  applied : Option Nat := none
  skipped : Option Nat := none
  cancelled : Option Bool := none
  startedAt : Option Moment := none
  finishedAt : Option Moment := none

def shape : Json.Shape Draft where
  title := "struct RunSummary"
  fields := [
    .of "epoch" Draft.epoch (fun d a => { d with epoch := some a }) Json.uint64,
    .of "applied" Draft.applied (fun d a => { d with applied := some a }) Json.count,
    .of "skipped" Draft.skipped (fun d a => { d with skipped := some a }) Json.count,
    .of "cancelled" Draft.cancelled (fun d a => { d with cancelled := some a }) Json.boolean,
    .of "started_at" Draft.startedAt (fun d a => { d with startedAt := some a }) Moment.reader,
    .of "finished_at" Draft.finishedAt (fun d a => { d with finishedAt := some a }) Moment.reader]

def Draft.finish (d : Draft) : Except Json.Error TimedSummary := do
  let epoch ← Json.required "epoch" d.epoch
  let applied ← Json.required "applied" d.applied
  let skipped ← Json.required "skipped" d.skipped
  let cancelled ← Json.required "cancelled" d.cancelled
  let startedAt ← Json.required "started_at" d.startedAt
  let finishedAt ← Json.required "finished_at" d.finishedAt
  .ok ⟨⟨epoch.toNat, applied, skipped, cancelled⟩, startedAt, finishedAt⟩

def reader : Json.Reader TimedSummary := (shape.read {}).andThen Draft.finish

end TimedSummary

end TabletopRobot
