import TabletopRobot.Json.Error
import TabletopRobot.Text.Layout

/-!
The tokens of JSON: blanks, words, strings and numerals.
-/

namespace TabletopRobot.Json

def isSpace (c : Char) : Bool := c == ' ' || c == '\t' || c == '\n' || c == '\r'

def skipSpace (s : List Char) : List Char := s.dropWhile isSpace

/-- The given word, at the front of a text. -/
def word : List Char → Reader Unit
  | [], s => .ok ((), s)
  | _ :: _, [] => .error .truncated
  | w :: ws, c :: s => if c = w then word ws s else .error .malformed

/-! ### Strings -/

def isHigh (n : Nat) : Bool := 0xD800 ≤ n && n < 0xDC00

def isLow (n : Nat) : Bool := 0xDC00 ≤ n && n < 0xE000

/-- The character of a surrogate pair. -/
def paired (high low : Nat) : Char := .ofNat (0x10000 + (high - 0xD800) * 0x400 + (low - 0xDC00))

/-- The character that an escape of one letter stands for. -/
def unescape? (c : Char) : Option Char :=
  [('"', '"'), ('\\', '\\'), ('/', '/'), ('b', '\x08'), ('f', '\x0c'), ('n', '\n'), ('r', '\r'),
    ('t', '\t')].lookup c

/-- Where in a string the reading stands: between its characters or inside an escape. -/
inductive Cursor
  | plain
  | escaped
  /-- After `count` hexadecimal digits of value `n`, with the first half of a pair if it was
  read before. -/
  | hex (high : Option Nat) (count n : Nat)
  | paired (high : Nat)
  | pairedEscaped (high : Nat)

/-- The fault at a character that is no hexadecimal digit, after `count` digits. Without four
bytes for the digits the text has ended too early. -/
def hexFault (count : Nat) (s : List Char) : Error :=
  if count + Text.byteLength (s.take (4 - count)) < 4 then .truncated else .malformed

def emit (c : Char) (t : Except Error (List Char × List Char)) :
    Except Error (List Char × List Char) := t.map fun (s, r) => (c :: s, r)

/-- A string from a place inside it to its closing quote, one character at a time. Unless
`checked`, the halves of surrogate pairs may stand alone. -/
def stringFrom (checked : Bool) : Cursor → List Char → Except Error (List Char × List Char)
  | _, [] => .error .truncated
  | .plain, c :: s =>
    if c = '"' then .ok ([], s)
    else if c = '\\' then stringFrom checked .escaped s
    else if c.toNat < 0x20 then .error .malformed
    else emit c (stringFrom checked .plain s)
  | .escaped, c :: s =>
    if c = 'u' then stringFrom checked (.hex none 0 0) s
    else
      match unescape? c with
      | some d => emit d (stringFrom checked .plain s)
      | none => .error .malformed
  | .hex high count n, c :: s =>
    match Text.hexValue? c with
    | none => .error (hexFault count (c :: s))
    | some d =>
      let n := 16 * n + d
      if count < 3 then stringFrom checked (.hex high (count + 1) n) s
      else
        match high with
        | some h =>
          if isLow n then emit (paired h n) (stringFrom checked .plain s) else .error .malformed
        | none =>
          if checked && isLow n then .error .malformed
          else if checked && isHigh n then stringFrom checked (.paired n) s
          else emit (.ofNat n) (stringFrom checked .plain s)
  | .paired h, c :: s =>
    if c = '\\' then stringFrom checked (.pairedEscaped h) s else .error .malformed
  | .pairedEscaped h, c :: s =>
    if c = 'u' then stringFrom checked (.hex (some h) 0 0) s else .error .malformed

/-- A string after its opening quote. -/
def string (s : List Char) : Except Error (String × List Char) :=
  (stringFrom true .plain s).map fun (t, r) => (.ofList t, r)

/-- Past a string that nobody reads. -/
def skipString (s : List Char) : Except Error (List Char) :=
  (stringFrom false .plain s).map (·.2)

/-! ### Numbers -/

/-- The parts of a numeral: its digits before and after the point, and its exponent. -/
structure Numeral where
  negative : Bool
  whole : List Char
  fraction : Option (List Char)
  exponent : Option Int

/-- A run of digits, at least one. -/
def digits (s : List Char) : Except Error (List Char × List Char) :=
  match s.takeWhile Char.isDigit, s.dropWhile Char.isDigit with
  | [], [] => .error .truncated
  | [], _ => .error .malformed
  | ds, r => .ok (ds, r)

/-- The digits before the point; a zero stands alone. -/
def wholeDigits (s : List Char) : Except Error (List Char × List Char) := do
  let (ds, r) ← digits s
  match ds with
  | '0' :: _ :: _ => .error .malformed
  | _ => .ok (ds, r)

def fractionDigits : List Char → Except Error (Option (List Char) × List Char)
  | '.' :: s => (digits s).map fun (ds, r) => (some ds, r)
  | s => .ok (none, s)

def exponentDigits : List Char → Except Error (Option Int × List Char)
  | c :: s =>
    if c = 'e' || c = 'E' then
      let (negative, s) := match s with
        | '-' :: r => (true, r)
        | '+' :: r => (false, r)
        | _ => (false, s)
      (digits s).map fun (ds, r) =>
        (some (if negative then -Text.digitsValue ds else Text.digitsValue ds), r)
    else .ok (none, c :: s)
  | [] => .ok (none, [])

/-- A numeral at a minus sign or a digit. -/
def numeral (s : List Char) : Except Error (Numeral × List Char) := do
  let (negative, s) := match s with
    | '-' :: r => (true, r)
    | _ => (false, s)
  let (whole, s) ← wholeDigits s
  let (fraction, s) ← fractionDigits s
  let (exponent, s) ← exponentDigits s
  .ok (⟨negative, whole, fraction, exponent⟩, s)

/-- The digits of a whole part that fit into 64 bits, as a number, and how many do not. -/
def takeWhole : Nat → List Char → Nat × Nat
  | n, [] => (n, 0)
  | n, d :: ds =>
    let n' := 10 * n + (d.toNat - 48)
    if n' < UInt64.size then takeWhole n' ds else (n, ds.length + 1)

/-- Digits of a fraction after it for as long as 64 bits suffice, and how many they are. -/
def takeFraction : Nat → List Char → Nat × Nat
  | n, [] => (n, 0)
  | n, d :: ds =>
    let n' := 10 * n + (d.toNat - 48)
    if n' < UInt64.size then
      let (m, k) := takeFraction n' ds
      (m, k + 1)
    else (n, 0)

/-- The value of a numeral. It is an integer if it has no point, no exponent and 64 bits
suffice for it; a negative zero is no integer. -/
def Numeral.value (a : Numeral) : Except Error Number :=
  let (n, dropped) := takeWhole 0 a.whole
  let isInteger := a.fraction.isNone && a.exponent.isNone && dropped = 0
  if isInteger && !a.negative then .ok (.int n)
  else if isInteger && 0 < n && Int64.minValue.toInt ≤ -(n : Int) then .ok (.int (-n))
  else
    let (m, kept) := takeFraction n (a.fraction.getD [])
    match Binary64.ofDecimal m ((dropped : Int) - kept + a.exponent.getD 0) with
    | some x => .ok (.float a.negative x)
    | none => .error .malformed

def number (s : List Char) : Except Error (Number × List Char) := do
  let (a, r) ← numeral s
  let n ← a.value
  .ok (n, r)

/-- A numeral that nobody reads may be of any size; where its digits are missing it is
malformed even at the end of the text. -/
def skipNumber (s : List Char) : Except Error (List Char) :=
  match numeral s with
  | .ok (_, r) => .ok r
  | .error _ => .error .malformed

end TabletopRobot.Json
