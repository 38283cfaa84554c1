import TabletopRobot.Text.Layout
import TabletopRobot.Text.Numeral
import TabletopRobot.Text.Quoted

/-!
Settings, from four layers: the defaults, a document, the environment and the command line.
Each layer overrides those before it, and only the result has to be valid.

What text is a document, and which filters there are, is left open.
-/

namespace TabletopRobot

structure Settings where
  /-- The pause before each line of a batch, in milliseconds. -/
  stepDelay : Nat := 300
  logFilter : String := "info"
  deriving DecidableEq

namespace Settings

def maxStepDelay : Nat := 60000

/-- The document that is read if no other is named. -/
def defaultFile : String := "toy-robot.toml"

def delayVariable : String := "TOY_ROBOT_STEP_DELAY_MS"

def filterVariable : String := "TOY_ROBOT_LOG"

/-! ### Documents -/

/-- A value in a document. -/
inductive Value
  | integer (i : Int)
  | string (s : String)
  /-- A value of another type, which no setting has. -/
  | other

/-- The keys of a document with their values. -/
abbrev Table := List (String × Value)

/-- How texts are understood that are not written in a format of the program's own. -/
structure Formats where
  /-- The table that a text is, if it is a document. -/
  table? : String → Option Table
  /-- What is wrong with a filter, if it is refused. -/
  refusal? : String → Option String

/-- What a document sets. -/
structure Document where
  stepDelay : Option Nat := none
  logFilter : Option String := none

namespace Document

/-- One more key: one of two that is not set yet, with a value of its type. A delay is not
negative and has at most 64 bits. -/
def store? (d : Document) : String × Value → Option Document
  | (key, .integer i) =>
    if key = "step_delay_ms" ∧ d.stepDelay = none ∧ 0 ≤ i ∧ i < UInt64.size then
      some { d with stepDelay := some i.toNat }
    else none
  | (key, .string s) =>
    if key = "log_filter" ∧ d.logFilter = none then some { d with logFilter := some s } else none
  | (_, .other) => none

/-- A table with other keys, or with values of other types, sets nothing. -/
def ofTable? (t : Table) : Option Document := t.foldlM store? {}

end Document

/-! ### Rules and failures -/

/-- A rule that settings break. -/
inductive Violation
  | delayTooLong (delay : Nat)
  | emptyFilter
  | badFilter (filter reason : String)
  deriving DecidableEq

def Violation.message : Violation → String
  | delayTooLong n =>
    "step delay " ++ Text.showNat n ++ "ms exceeds maximum of " ++ Text.showNat maxStepDelay ++ "ms"
  | emptyFilter => "log filter is empty"
  | badFilter f reason => "log filter '" ++ f ++ "' is invalid: " ++ reason

/-- Why a file was not read. -/
inductive FileError
  | notFound
  | isDirectory
  | notDirectory
  | nameTooLong
  /-- No file has a name with a zero character in it. -/
  | zeroInName
  | notText
  deriving DecidableEq

def FileError.message : FileError → String
  | notFound => "No such file or directory (os error 2)"
  | isDirectory => "Is a directory (os error 21)"
  | notDirectory => "Not a directory (os error 20)"
  | nameTooLong => "File name too long (os error 36)"
  | zeroInName => "file name contained an unexpected NUL byte"
  | notText => "stream did not contain valid UTF-8"

/-- Why settings were not loaded. -/
inductive Error
  | read (path : String) (cause : FileError)
  | document
  | environment (key value : String)
  | invalid (violations : List Violation)
  deriving DecidableEq

def Error.message : Error → String
  | read path _ => "failed to read settings file " ++ path
  | document => "failed to parse settings"
  | environment k v => "environment variable " ++ k ++ "=" ++ Text.quoted v ++ " is not valid"
  | invalid vs => "invalid settings: " ++ "; ".intercalate (vs.map Violation.message)

/-! ### Layers -/

variable (formats : Formats)

/-- Every rule that is broken. -/
def violations (s : Settings) : List Violation :=
  let filter := Text.trim s.logFilter.toList
  (if maxStepDelay < s.stepDelay then [.delayTooLong s.stepDelay] else []) ++
    if filter.isEmpty then [.emptyFilter]
    else (formats.refusal? (.ofList filter)).toList.map (.badFilter (.ofList filter))

/-- A number of milliseconds in the environment. -/
def delay? (value : String) : Option Nat :=
  (Text.natural? (Text.trim value.toList)).filter (· < UInt64.size)

/-- Settings with what a document overrides. -/
def withDocument (s : Settings) (d : Document) : Settings :=
  ⟨d.stepDelay.getD s.stepDelay, d.logFilter.getD s.logFilter⟩

def ofDocument (text : String) : Except Error Settings :=
  match (formats.table? text).bind Document.ofTable? with
  | some d => .ok (withDocument {} d)
  | none => .error .document

/-- Settings with what the environment overrides. -/
def withEnvironment (s : Settings) (env : String → Option String) : Except Error Settings := do
  let stepDelay ← match env delayVariable with
    | none => .ok s.stepDelay
    | some v =>
      match delay? v with
      | some n => .ok n
      | none => .error (.environment delayVariable v)
  .ok { stepDelay, logFilter := (env filterVariable).getD s.logFilter }

/-- The settings themselves, if they break no rule. -/
def checked (s : Settings) : Except Error Settings :=
  if (s.violations formats).isEmpty then .ok s else .error (.invalid (s.violations formats))

/-- What settings are loaded from. -/
structure Sources where
  file : String → Except FileError String
  env : String → Option String

/-- The document to read: the one that is named, or the default one if there is one. -/
def file? (src : Sources) (path : Option String) : Option String :=
  match path with
  | some p => some p
  | none =>
    match src.file defaultFile with
    | .error .notFound => none
    | _ => some defaultFile

def ofFile (src : Sources) (path : String) : Except Error Settings :=
  match src.file path with
  | .ok text => ofDocument formats text
  | .error e => .error (.read path e)

/-- All four layers, with the delay that the command line asks for. -/
def load (src : Sources) (path : Option String) (delay : Option Nat) : Except Error Settings := do
  let base ← match file? src path with
    | some p => ofFile formats src p
    | none => .ok {}
  let s ← base.withEnvironment src.env
  checked formats { s with stepDelay := delay.getD s.stepDelay }

end Settings

end TabletopRobot
