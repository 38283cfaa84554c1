import TabletopRobot.Json.Value

/-!
The written form of a JSON value, on one line or indented by two spaces a level.
-/

namespace TabletopRobot.Json

/-- A character inside quotes. Only quotes, backslashes and control characters are escaped. -/
def escapeChar (c : Char) : List Char :=
  if c = '"' then ['\\', '"']
  else if c = '\\' then ['\\', '\\']
  else if c = '\x08' then ['\\', 'b']
  else if c = '\x0c' then ['\\', 'f']
  else if c = '\n' then ['\\', 'n']
  else if c = '\r' then ['\\', 'r']
  else if c = '\t' then ['\\', 't']
  else if c.toNat < 0x20 then
    ['\\', 'u', '0', '0', Nat.digitChar (c.toNat / 16), Nat.digitChar (c.toNat % 16)]
  else [c]

def quote (s : List Char) : List Char := '"' :: s.flatMap escapeChar ++ ['"']

namespace Value

mutual

/-- Without any space. -/
def compact : Value → List Char
  | null => ['n', 'u', 'l', 'l']
  | bool true => ['t', 'r', 'u', 'e']
  | bool false => ['f', 'a', 'l', 's', 'e']
  | num n => n.text
  | str s => quote s.toList
  | arr vs => '[' :: compactItems vs ++ [']']
  | obj ms => '{' :: compactMembers ms ++ ['}']

def compactItems : List Value → List Char
  | [] => []
  | [v] => v.compact
  | v :: vs => v.compact ++ ',' :: compactItems vs

def compactMembers : List (String × Value) → List Char
  | [] => []
  | [(k, v)] => quote k.toList ++ ':' :: v.compact
  | (k, v) :: ms => quote k.toList ++ ':' :: v.compact ++ ',' :: compactMembers ms

end

/-- The start of an indented line. -/
def indent (level : Nat) : List Char := '\n' :: List.replicate (2 * level) ' '

mutual

/-- One item or member a line, and a space after each colon. -/
def pretty (level : Nat) : Value → List Char
  | arr [] => ['[', ']']
  | arr (v :: vs) => '[' :: prettyItems (level + 1) (v :: vs) ++ indent level ++ [']']
  | obj [] => ['{', '}']
  | obj (m :: ms) => '{' :: prettyMembers (level + 1) (m :: ms) ++ indent level ++ ['}']
  | v => v.compact

def prettyItems (level : Nat) : List Value → List Char
  | [] => []
  | [v] => indent level ++ v.pretty level
  | v :: vs => indent level ++ v.pretty level ++ ',' :: prettyItems level vs

def prettyMembers (level : Nat) : List (String × Value) → List Char
  | [] => []
  | [(k, v)] => indent level ++ quote k.toList ++ ':' :: ' ' :: v.pretty level
  | (k, v) :: ms =>
    indent level ++ quote k.toList ++ ':' :: ' ' :: v.pretty level ++ ',' :: prettyMembers level ms

end

def compactText (v : Value) : String := .ofList v.compact

def prettyText (v : Value) : String := .ofList (v.pretty 0)

end Value

end TabletopRobot.Json
