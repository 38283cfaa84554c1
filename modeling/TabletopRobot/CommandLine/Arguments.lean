import TabletopRobot.Preset
import TabletopRobot.Text.Layout
import TabletopRobot.Text.Numeral

/-!
Arguments of the program: options, a mode and what belongs to the mode.

Options may stand before the mode or after it. On each side an option may be given once, and
after the mode it overrides what was given before.
-/

namespace TabletopRobot.CommandLine

/-- What the program is asked to do. -/
inductive Mode
  /-- A script from a file, or from standard input. -/
  | run (path : Option String)
  | sample (preset : Preset)
  /-- Lines from standard input, each at once. -/
  | repl
  deriving DecidableEq

structure Options where
  config : Option String := none
  delay : Option Nat := none
  history : Bool := false
  json : Bool := false
  deriving DecidableEq

/-- Options with what later ones override. -/
def Options.override (o later : Options) : Options :=
  ⟨later.config <|> o.config, later.delay <|> o.delay, o.history || later.history,
    o.json || later.json⟩

/-- What the arguments call for. -/
inductive Request
  | perform (mode : Mode) (options : Options)
  | version
  | help
  deriving DecidableEq

/-- Arguments that call for nothing the program can do. -/
inductive Misuse
  | misuse
  deriving DecidableEq

/-- One argument, or an option with its value. -/
inductive Item
  | option (update : Options → Except Misuse Options)
  | version
  | help
  | escape
  | plain (s : String)

/-- A text that does not look like an option. -/
def isPlain (s : String) : Bool := s == "-" || s.toList.head? != some '-'

def setConfig (v : String) (o : Options) : Except Misuse Options :=
  if v.isEmpty || o.config.isSome then .error .misuse else .ok { o with config := some v }

def setDelay (v : String) (o : Options) : Except Misuse Options :=
  match (Text.natural? v.toList).filter (· < UInt64.size) with
  | some n => if o.delay.isSome then .error .misuse else .ok { o with delay := some n }
  | none => .error .misuse

def setHistory (o : Options) : Except Misuse Options :=
  if o.history then .error .misuse else .ok { o with history := true }

def setJson (o : Options) : Except Misuse Options :=
  if o.json then .error .misuse else .ok { o with json := true }

/-- The options with a value. -/
def valued : List (String × (String → Options → Except Misuse Options)) :=
  [("--config", setConfig), ("--delay-ms", setDelay)]

/-- An option with its value after an equals sign. -/
def attached? (arg : String) : Option (Options → Except Misuse Options) :=
  valued.findSome? fun (name, set) =>
    (Text.after? (name.toList ++ ['=']) arg.toList).map fun v => set (.ofList v)

/-- The first of the arguments, with the value that belongs to it, and the others. -/
def nextItem (arg : String) (rest : List String) : Except Misuse (Item × List String) :=
  if arg = "--" then .ok (.escape, rest)
  else if isPlain arg then .ok (.plain arg, rest)
  else if arg = "--history" then .ok (.option setHistory, rest)
  else if arg = "--json" then .ok (.option setJson, rest)
  else if arg.toList.take 2 == ['-', 'V'] || arg = "--version" then .ok (.version, rest)
  else if arg.toList.take 2 == ['-', 'h'] || arg = "--help" then .ok (.help, rest)
  else
    match valued.lookup arg, rest with
    | some set, v :: rest => if isPlain v then .ok (.option (set v), rest) else .error .misuse
    | some _, [] => .error .misuse
    | none, _ =>
      match attached? arg with
      | some update => .ok (.option update, rest)
      | none => .error .misuse

def modeNames : List String := ["run", "example", "repl"]

/-- A mode by name, with the plain arguments after it. -/
def modeOf (name : String) (plain : List String) : Except Misuse Mode :=
  match name, plain with
  | "run", [] => .ok (.run none)
  | "run", [path] => if path.isEmpty then .error .misuse else .ok (.run (some path))
  | "example", [preset] =>
    match Preset.ofText? preset with
    | some p => .ok (.sample p)
    | none => .error .misuse
  | "repl", [] => .ok .repl
  | _, _ => .error .misuse

/-- Options and plain arguments after the mode `name`; `fuel` bounds their number. A plain
argument that the mode does not take is found before anything that comes after it. -/
def modeArguments (name : String) : Nat → Options → List String → List String →
    Except Misuse (Option Request × Options × List String)
  | 0, _, _, _ => .error .misuse
  | _ + 1, o, plain, [] => .ok (none, o, plain)
  | fuel + 1, o, plain, arg :: rest => do
    match ← nextItem arg rest with
    | (.option update, rest) => modeArguments name fuel (← update o) plain rest
    | (.version, _) => .error .misuse
    | (.help, _) => .ok (some .help, o, plain)
    | (.escape, rest) => .ok (none, o, plain ++ rest)
    | (.plain s, rest) =>
      let _ ← modeOf name (plain ++ [s])
      modeArguments name fuel o (plain ++ [s]) rest

/-- Help on the program, on a mode or on help itself. -/
def helpOn : List String → Except Misuse Request
  | [] => .ok .help
  | [name] => if name = "help" ∨ name ∈ modeNames then .ok .help else .error .misuse
  | _ => .error .misuse

/-- Arguments from the start; `fuel` bounds their number. -/
def arguments : Nat → Options → List String → Except Misuse Request
  | 0, _, _ => .error .misuse
  | _ + 1, _, [] => .error .misuse
  | fuel + 1, o, arg :: rest => do
    match ← nextItem arg rest with
    | (.option update, rest) => arguments fuel (← update o) rest
    | (.version, _) => .ok .version
    | (.help, _) => .ok .help
    | (.escape, _) => .error .misuse
    | (.plain "help", rest) => helpOn rest
    | (.plain name, rest) =>
      if name ∈ modeNames then
        match ← modeArguments name (rest.length + 1) {} [] rest with
        | (some r, _, _) => .ok r
        | (none, later, plain) =>
          let mode ← modeOf name plain
          .ok (.perform mode (o.override later))
      else .error .misuse

def parse (args : List String) : Except Misuse Request := arguments (args.length + 1) {} args

end TabletopRobot.CommandLine
