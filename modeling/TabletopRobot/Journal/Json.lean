import TabletopRobot.Journal
import TabletopRobot.Json.Decode

/-!
Journals in JSON.
-/

namespace TabletopRobot

namespace Severity

def reader : Json.Reader Severity := Json.oneOf (all.map fun s => (s.name, s))

end Severity

namespace Entry

def toValue (e : Entry) : Json.Value := .obj [
  ("sequence", .nat e.sequence.toNat),
  ("command", .str e.command),
  ("message", .str e.message),
  ("severity", .str e.severity.name)]

structure Draft where
  sequence : Option UInt64 := none
  command : Option String := none
  message : Option String := none
  severity : Option Severity := none

def shape : Json.Shape Draft where
  title := "struct HistoryEntry"
  fields := [
    .of "sequence" Draft.sequence (fun d a => { d with sequence := some a }) Json.uint64,
    .of "command" Draft.command (fun d a => { d with command := some a }) Json.text,
    .of "message" Draft.message (fun d a => { d with message := some a }) Json.text,
    .of "severity" Draft.severity (fun d a => { d with severity := some a }) Severity.reader]

def Draft.finish (d : Draft) : Except Json.Error Entry := do
  let sequence ← Json.required "sequence" d.sequence
  let command ← Json.required "command" d.command
  let message ← Json.required "message" d.message
  let severity ← Json.required "severity" d.severity
  .ok { sequence, command, message, severity }

def reader : Json.Reader Entry := (shape.read {}).andThen Draft.finish

end Entry

def Journal.toValue (j : Journal) : Json.Value := .arr (j.map Entry.toValue)

def Journal.reader : Json.Reader Journal := Json.listOf Entry.reader

end TabletopRobot
