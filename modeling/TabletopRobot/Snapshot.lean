import TabletopRobot.Journal.Json
import TabletopRobot.Robot.View
import TabletopRobot.Session
import TabletopRobot.Time.Moment
import TabletopRobot.Time.Uuid

/-!
Snapshots: a session at one point in time, as a document.

A snapshot is read back only if it is consistent: its entries are numbered from one, and its
output holds one value for each report.
-/

namespace TabletopRobot

structure Snapshot where
  version : UInt32
  sessionId : Uuid
  takenAt : Moment
  epoch : UInt64
  running : Bool
  robot : Robot
  output : List String
  journal : Journal
  deriving DecidableEq

/-- The version of the documents that can be read. -/
def snapshotVersion : UInt32 := 1

/-- The session as it stands, with the given identifier and time. -/
def Session.snapshot (s : Session) (sessionId : Uuid) (takenAt : Moment) : Snapshot :=
  { version := snapshotVersion, sessionId, takenAt, epoch := .ofNat s.epoch, running := s.isRunning,
    robot := s.robot, output := s.output, journal := s.journal }

namespace Snapshot

def toValue (s : Snapshot) : Json.Value := .obj [
  ("version", .nat s.version.toNat),
  ("session_id", .str (.ofList s.sessionId.text)),
  ("taken_at", .str (.ofList s.takenAt.text)),
  ("epoch", .nat s.epoch.toNat),
  ("running", .bool s.running),
  ("robot", s.robot.toValue),
  ("output", .arr (s.output.map .str)),
  ("history", s.journal.toValue)]

def text (s : Snapshot) : String := s.toValue.compactText

def prettyText (s : Snapshot) : String := s.toValue.prettyText

structure Draft where
  version : Option UInt32 := none
  sessionId : Option Uuid := none
  takenAt : Option Moment := none
  epoch : Option UInt64 := none
  running : Option Bool := none
  robot : Option Robot := none
  output : Option (List String) := none
  journal : Option Journal := none

def shape : Json.Shape Draft where
  title := "struct Snapshot"
  fields := [
    .of "version" Draft.version (fun d a => { d with version := some a }) Json.uint32,
    .of "session_id" Draft.sessionId (fun d a => { d with sessionId := some a }) Uuid.reader,
    .of "taken_at" Draft.takenAt (fun d a => { d with takenAt := some a }) Moment.reader,
    .of "epoch" Draft.epoch (fun d a => { d with epoch := some a }) Json.uint64,
    .of "running" Draft.running (fun d a => { d with running := some a }) Json.boolean,
    .of "robot" Draft.robot (fun d a => { d with robot := some a }) Robot.reader,
    .of "output" Draft.output (fun d a => { d with output := some a }) (Json.listOf Json.text),
    .of "history" Draft.journal (fun d a => { d with journal := some a }) Journal.reader]

def Draft.finish (d : Draft) : Except Json.Error Snapshot := do
  let version ← Json.required "version" d.version
  let sessionId ← Json.required "session_id" d.sessionId
  let takenAt ← Json.required "taken_at" d.takenAt
  let epoch ← Json.required "epoch" d.epoch
  let running ← Json.required "running" d.running
  let robot ← Json.required "robot" d.robot
  let output ← Json.required "output" d.output
  let journal ← Json.required "history" d.journal
  .ok { version, sessionId, takenAt, epoch, running, robot, output, journal }

def reader : Json.Reader Snapshot := (shape.read {}).andThen Draft.finish

/-- Why a document is not read back. -/
inductive Error
  | decode (e : Json.Error)
  | unsupportedVersion (found : UInt32)
  | sequenceGap (index : Nat) (found expected : UInt64)
  | outputMismatch (reports outputs : Nat)
  deriving DecidableEq

/-- The wording of the errors other than those of decoding. -/
def Error.message? : Error → Option String
  | decode _ => none
  | unsupportedVersion v => some
    ("snapshot version " ++ Text.showNat v.toNat ++ " is not readable, expected version " ++
      Text.showNat snapshotVersion.toNat)
  | sequenceGap i n e => some
    ("history[" ++ Text.showNat i ++ "].sequence is " ++ Text.showNat n.toNat ++ ", expected " ++
      Text.showNat e.toNat)
  | outputMismatch r o => some
    ("history has " ++ Text.showNat r ++ " report entries but output holds " ++ Text.showNat o ++
      " values")

/-- The first entry, from place `i` on, that has not the number of its place. -/
def gap? : Nat → Journal → Option (Nat × UInt64)
  | _, [] => none
  | i, e :: j => if e.sequence = Journal.numberAt i then gap? (i + 1) j else some (i, e.sequence)

/-- The version first, then the numbering, then the output. -/
def check (s : Snapshot) : Except Error Snapshot :=
  if s.version ≠ snapshotVersion then .error (.unsupportedVersion s.version)
  else
    match gap? 0 s.journal with
    | some (i, n) => .error (.sequenceGap i n (Journal.numberAt i))
    | none =>
      let reports := s.journal.count .report
      if reports = s.output.length then .ok s
      else .error (.outputMismatch reports s.output.length)

def ofText (text : String) : Except Error Snapshot :=
  match Json.decode reader text with
  | .ok s => s.check
  | .error e => .error (.decode e)

end Snapshot

end TabletopRobot
