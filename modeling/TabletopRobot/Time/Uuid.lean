import TabletopRobot.Json.Decode
import TabletopRobot.Text.Numeral

/-!
Universally unique identifiers and their written forms.
-/

namespace TabletopRobot

/-- An identifier as its 32 hexadecimal digits. -/
structure Uuid where
  digits : List (Fin 16)
  length_digits : digits.length = 32 := by rfl
  deriving DecidableEq

namespace Uuid

def zero : Uuid := ⟨List.replicate 32 0, List.length_replicate⟩

def hexChars (ds : List (Fin 16)) : List Char := ds.map fun d => Nat.digitChar d.val

/-- Groups of 8, 4, 4, 4 and 12 digits with hyphens between them, in lower case. -/
def text (u : Uuid) : List Char :=
  let cs := hexChars u.digits
  cs.take 8 ++ '-' :: (cs.drop 8).take 4 ++ '-' :: (cs.drop 12).take 4 ++
    '-' :: (cs.drop 16).take 4 ++ '-' :: cs.drop 20

/-- Exactly 32 hexadecimal digits. -/
def simple? (s : List Char) : Option Uuid := do
  let ds ← s.mapM fun c => (Text.hexValue? c).map (Fin.ofNat 16)
  if h : ds.length = 32 then some ⟨ds, h⟩ else none

/-- Digits in groups, with hyphens after 8, 12, 16 and 20 of them. -/
def hyphenated? (s : List Char) : Option Uuid :=
  let hyphen (i : Nat) : Bool := s[i]? == some '-'
  if s.length = 36 && hyphen 8 && hyphen 13 && hyphen 18 && hyphen 23 then
    simple? (s.take 8 ++ (s.drop 9).take 4 ++ (s.drop 14).take 4 ++ (s.drop 19).take 4 ++ s.drop 24)
  else none

/-- Digits alone, in groups, in groups inside braces, or in groups after `urn:uuid:` in either
case. -/
def parse? (s : List Char) : Option Uuid :=
  if s.length = 32 then simple? s
  else if s.length = 38 && s.head? == some '{' && s.getLast? == some '}' then
    hyphenated? (s.drop 1).dropLast
  else if (s.take 9).map Char.toLower == "urn:uuid:".toList then hyphenated? (s.drop 9)
  else hyphenated? s

/-- An identifier in JSON, as a string. -/
def reader : Json.Reader Uuid :=
  Json.parsed "a formatted UUID string" fun s => parse? s.toList

end Uuid

end TabletopRobot
