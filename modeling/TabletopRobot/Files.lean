import TabletopRobot.Settings
import TabletopRobot.Text.Layout

/-!
Paths, a working directory as a list of files, and where paths lead from it.
-/

namespace TabletopRobot

/-! ### Paths -/

namespace Path

/-- What stands between the slashes. Empty pieces and dots lead nowhere. -/
def pieces (path : List Char) : List (List Char) := Text.splitAt '/' path

/-- A single dash, perhaps with slashes and dots after it. -/
def isDash (path : List Char) : Bool :=
  match pieces path with
  | [] => false
  | p :: ps => p == ['-'] && ps.all fun s => s.isEmpty || s == ['.']

/-- The most bytes in a name. -/
def maxName : Nat := 255

/-- Paths of this many bytes are too long. -/
def maxPath : Nat := 4096

end Path

/-! ### Files -/

/-- Files by their path in the working directory. -/
structure Files where
  entries : List (String × String) := []
  /-- How many directories lie above the working directory, the root among them. -/
  depth : Nat := 4

namespace Files

/-- Where a path has led. -/
inductive Place
  /-- The working directory or one below it, by the names that lead there. -/
  | inside (names : List (List Char))
  /-- A directory by the names that lead there from the root. -/
  | rooted (names : List (List Char))
  /-- A directory above the working directory, by the steps up to it. -/
  | above (steps : Nat)
  | file (text : String)
  /-- Standard input. -/
  | input

/-- The directories that every system has. -/
def directories : List String :=
  ["bin", "boot", "dev", "dev/pts", "dev/shm", "etc", "home", "lib", "media", "mnt", "opt", "proc",
    "proc/self", "proc/self/fd", "root", "run", "sbin", "srv", "sys", "tmp", "usr", "usr/bin",
    "usr/lib", "usr/local", "usr/share", "var", "var/lib", "var/log", "var/tmp"]

/-- What else every system has. -/
def devices : List (String × Place) := [
  ("dev/null", .file ""),
  ("dev/stdin", .input),
  ("dev/fd", .rooted ["proc".toList, "self".toList, "fd".toList]),
  ("proc/self/fd/0", .input)]

def isBelow (dir : List Char) (path : String) : Bool := (dir ++ ['/']).isPrefixOf path.toList

/-- The directory some steps above the working directory. -/
def up (fs : Files) (steps : Nat) : Place := if steps < fs.depth then .above steps else .rooted []

/-- The directory that a directory is in; the root is in itself. -/
def parent (fs : Files) : Place → Place
  | .inside [] => fs.up 1
  | .inside ns => .inside ns.dropLast
  | .rooted ns => .rooted ns.dropLast
  | .above n => fs.up (n + 1)
  | p => p

/-- What a directory holds under a name. -/
def child (fs : Files) (name : List Char) : Place → Option Place
  | .inside ns =>
    let path := ['/'].intercalate (ns ++ [name])
    match fs.entries.lookup (.ofList path) with
    | some text => some (.file text)
    | none => if fs.entries.any (isBelow path ·.1) then some (.inside (ns ++ [name])) else none
  | .rooted ns =>
    let path : String := .ofList (['/'].intercalate (ns ++ [name]))
    if path ∈ directories then some (.rooted (ns ++ [name])) else devices.lookup path
  | _ => none

/-- One piece of a path. -/
def step (fs : Files) (p : Place) (piece : List Char) : Except Settings.FileError Place :=
  match p with
  | .file _ | .input => .error .notDirectory
  | p =>
    if piece.isEmpty || piece = ['.'] then .ok p
    else if piece = ['.', '.'] then .ok (fs.parent p)
    else if Path.maxName < Text.byteLength piece then .error .nameTooLong
    else
      match fs.child piece p with
      | some q => .ok q
      | none => .error .notFound

/-- Where a path leads from the working directory or, if it begins with a slash, from the
root. -/
def follow (fs : Files) (path : List Char) : Except Settings.FileError Place :=
  if '\x00' ∈ path then .error .zeroInName
  else if path.isEmpty then .error .notFound
  else if Path.maxPath ≤ Text.byteLength path then .error .nameTooLong
  else (Path.pieces path).foldlM fs.step (if path.head? = some '/' then .rooted [] else .inside [])

/-- Whether a path leads to standard input. -/
def isInput (fs : Files) (path : String) : Bool :=
  match fs.follow path.toList with
  | .ok .input => true
  | _ => false

/-- The text of the file at a path. Standard input is no file and counts as an empty one. -/
def read (fs : Files) (path : String) : Except Settings.FileError String := do
  match ← fs.follow path.toList with
  | .file text => .ok text
  | .input => .ok ""
  | _ => .error .isDirectory

end Files

end TabletopRobot
