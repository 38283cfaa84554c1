import TabletopRobot.CommandLine.Arguments
import TabletopRobot.Files
import TabletopRobot.Pacer
import TabletopRobot.Settings
import TabletopRobot.Snapshot

/-!
The program: from its arguments and what it reads to what it prints.
-/

namespace TabletopRobot.CommandLine

/-- What the program reads and how it understands it, and the stamp of the snapshot it prints. -/
structure Surroundings where
  formats : Settings.Formats
  sources : Settings.Sources
  stdin : String
  /-- Whether a path leads to standard input. -/
  isStdin : String → Bool := fun _ => false
  sessionId : Uuid := .zero
  now : Moment := .epoch

namespace Surroundings

/-- The text at a path. -/
def file (w : Surroundings) (path : String) : Except Settings.FileError String :=
  if w.isStdin path then .ok w.stdin else w.sources.file path

def loadSettings (w : Surroundings) (o : Options) : Except Settings.Error Settings :=
  Settings.load w.formats { w.sources with file := w.file } o.config o.delay

/-- What is left to read once the settings are loaded: standard input is empty if they came
from it. -/
def afterSettings (w : Surroundings) (o : Options) : Surroundings :=
  if o.config.any w.isStdin then { w with stdin := "" } else w

end Surroundings

structure Printed where
  stdout : String := ""
  stderr : String := ""
  deriving DecidableEq

inductive Failure
  | misuse
  | settings (e : Settings.Error)
  | script (path : String) (cause : Settings.FileError)
  deriving DecidableEq

namespace Failure

def code : Failure → Nat
  | misuse => 2
  | _ => 1

/-- What failed, and its causes from the nearest on. -/
def chain : Failure → String × List String
  | misuse => ("arguments not understood", [])
  | settings (.read path cause) =>
    ("failed to load settings", [(Settings.Error.read path cause).message, cause.message])
  | settings e => ("failed to load settings", [e.message])
  | script path cause => ("failed to read script " ++ path, [cause.message])

/-- A text with blanks in front of each line but the first. -/
def hang (width : Nat) (s : String) : List Char :=
  s.toList.flatMap fun c => if c = '\n' then '\n' :: List.replicate width ' ' else [c]

/-- Causes are indented, and numbered if there are several. -/
def causeLines : List String → List Char
  | [] => []
  | [cause] => "\n\nCaused by:\n    ".toList ++ hang 4 cause
  | causes => "\n\nCaused by:".toList ++
    (causes.zipIdx.flatMap fun (cause, i) =>
      "\n    ".toList ++ Text.natText i ++ ": ".toList ++ hang 7 cause)

def report (f : Failure) : String :=
  let (what, causes) := f.chain
  "Error: " ++ what ++ .ofList (causeLines causes) ++ "\n"

end Failure

def versionText : String := "toy-robot 0.1.0\n"

def helpText : String :=
  "Drive a toy robot around a 5x5 table\n\n" ++
  "Usage: toy-robot [--config FILE] [--delay-ms N] [--history] [--json] MODE\n\n" ++
  "Modes:\n  run [PATH]\n  example NAME\n  repl\n"

def unlines (ls : List String) : String := String.join (ls.map (· ++ "\n"))

/-- What is printed of a session at the end. -/
def closing (s : Session) (o : Options) (isRepl : Bool) (w : Surroundings) : String :=
  if o.json then (s.snapshot w.sessionId w.now).prettyText ++ "\n"
  else
    (if o.history then unlines (s.journal.map Entry.text) else "") ++
      if isRepl then "" else unlines s.output

/-- A script as one batch of a new session, paced to its end. -/
def runToEnd (script : String) : Session :=
  let (_, p) := ({} : Pacer).perform (.start "script" (scriptLines script))
  (p.await "script").session

/-- A session that takes its lines one by one, with what it has printed. -/
structure Dialogue where
  session : Session := {}
  printed : Printed := {}

namespace Dialogue

/-- A line, and its entry: a report goes to standard output and anything else to standard
error. -/
def step (d : Dialogue) (line : String) : Dialogue :=
  match d.session.enter line with
  | (none, s) => { d with session := s }
  | (some e, s) =>
    if e.severity = .report then
      ⟨s, { d.printed with stdout := d.printed.stdout ++ unlines s.output.getLast?.toList }⟩
    else ⟨s, { d.printed with stderr := d.printed.stderr ++ unlines [e.text] }⟩

def run (d : Dialogue) (lines : List String) : Dialogue := lines.foldl step d

@[simp] theorem run_nil (d : Dialogue) : d.run [] = d := rfl
@[simp] theorem run_cons (d : Dialogue) (l : String) (ls : List String) :
    d.run (l :: ls) = (d.step l).run ls := rfl

end Dialogue

/-- The file that a script is in, unless it comes from standard input: that is what no path and
a dash stand for. -/
def scriptFile? (path : Option String) : Option String := path.filter (!Path.isDash ·.toList)

def script (w : Surroundings) (path : Option String) : Except Failure String :=
  match scriptFile? path with
  | none => .ok w.stdin
  | some p => (w.file p).mapError (.script p)

/-- A mode, once the settings are known to be good. -/
def perform (w : Surroundings) (o : Options) : Mode → Except Failure Printed
  | .run path => do
    let s := runToEnd (← script w path)
    .ok { stdout := closing s o false w }
  | .sample p => .ok { stdout := closing (runToEnd p.script) o false w }
  | .repl =>
    let d := Dialogue.run {} (scriptLines w.stdin)
    let printed := if o.json then {} else d.printed
    .ok { printed with stdout := printed.stdout ++ closing d.session o true w }

def run (args : List String) (w : Surroundings) : Except Failure Printed :=
  match parse args with
  | .error _ => .error .misuse
  | .ok .version => .ok { stdout := versionText }
  | .ok .help => .ok { stdout := helpText }
  | .ok (.perform mode o) => do
    let _ ← (w.loadSettings o).mapError .settings
    perform (w.afterSettings o) o mode

end TabletopRobot.CommandLine
