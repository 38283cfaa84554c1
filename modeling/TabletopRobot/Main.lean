import TabletopRobot.CommandLine.Program
import TabletopRobot.Files

/-!
The command line, for any formats of documents and filters.
-/

open TabletopRobot CommandLine

/-- The text of a file, or why there is none. -/
def readFile (path : String) : IO (Except Settings.FileError String) := do
  try
    return .ok (← IO.FS.readFile path)
  catch
    | .noFileOrDirectory .. => return .error .notFound
    | .inappropriateType _ code _ =>
      return .error (if code = 21 then .isDirectory else .notDirectory)
    | .invalidArgument .. => return .error .nameTooLong
    | _ => return .error .notText

/-- Whether a path is one of the names of standard input. -/
def isInput (path : String) : Bool := Files.isInput {} path

/-- The paths that are read, where nothing stands for standard input without a name. -/
def pathsOf (mode : Mode) (o : Options) : List (Option String) :=
  some (o.config.getD Settings.defaultFile) :: match mode with
    | .run path => [scriptFile? path]
    | .repl => [none]
    | .sample _ => []

/-- What the arguments lead to: files by their path, and standard input if it is read. -/
def readAll (args : List String) :
    IO (List (String × Except Settings.FileError String) × String) := do
  match parse args with
  | .ok (.perform mode o) =>
    let paths := pathsOf mode o
    let files ← ((paths.filterMap id).filter (!isInput ·)).mapM fun p => return (p, ← readFile p)
    let stdin ← if paths.any (·.all isInput) then (← IO.getStdin).readToEnd else pure ""
    return (files, stdin)
  | _ => return ([], "")

/-- What a program does that has settled on the formats. -/
def mainWith (formats : Settings.Formats) (args : List String) : IO UInt32 := do
  let (files, stdin) ← readAll args
  let delay ← IO.getEnv Settings.delayVariable
  let filter ← IO.getEnv Settings.filterVariable
  let env (key : String) : Option String :=
    if key = Settings.delayVariable then delay
    else if key = Settings.filterVariable then filter
    else none
  let file (p : String) := (files.lookup p).getD (.error .notFound)
  match CommandLine.run args { formats, sources := { file, env }, stdin, isStdin := isInput } with
  | .ok printed =>
    IO.print printed.stdout
    IO.eprint printed.stderr
    return 0
  | .error f =>
    IO.eprint f.report
    return .ofNat f.code
