import TabletopRobot.Json.Decode
import TabletopRobot.Text.Layout
import TabletopRobot.Text.Numeral

/-!
Moments of universal time, in the Gregorian calendar, and their written form.
-/

namespace TabletopRobot

def isLeapYear (y : Int) : Bool := y % 4 = 0 && (y % 100 != 0 || y % 400 = 0)

def daysInMonth (y : Int) (m : Nat) : Nat :=
  if m = 2 then (if isLeapYear y then 29 else 28)
  else if m = 4 || m = 6 || m = 9 || m = 11 then 30
  else 31

structure Date where
  year : Int
  month : Nat
  day : Nat
  deriving DecidableEq

namespace Date

/-- The years that a date may have. -/
def minYear : Int := -262143
def maxYear : Int := 262142

def isValid (d : Date) : Bool :=
  minYear ≤ d.year && d.year ≤ maxYear && 1 ≤ d.month && d.month ≤ 12 && 1 ≤ d.day &&
    d.day ≤ daysInMonth d.year d.month

/-- The day after. -/
def next (d : Date) : Date :=
  if d.day < daysInMonth d.year d.month then { d with day := d.day + 1 }
  else if d.month < 12 then ⟨d.year, d.month + 1, 1⟩
  else ⟨d.year + 1, 1, 1⟩

/-- The day before. -/
def previous (d : Date) : Date :=
  if 1 < d.day then { d with day := d.day - 1 }
  else if 1 < d.month then ⟨d.year, d.month - 1, daysInMonth d.year (d.month - 1)⟩
  else ⟨d.year - 1, 12, 31⟩

/-- Days since the first of March of the year 0. -/
def number (d : Date) : Int :=
  let y := if d.month ≤ 2 then d.year - 1 else d.year
  let m : Int := (d.month + 9) % 12
  365 * y + y / 4 - y / 100 + y / 400 + (153 * m + 2) / 5 + (d.day - 1)

end Date

/-- A moment of a day in minutes, seconds and nanoseconds; a leap second is second 60. -/
structure Moment where
  date : Date
  minute : Nat
  second : Nat
  nano : Nat
  deriving DecidableEq

namespace Moment

def isValid (t : Moment) : Bool :=
  t.date.isValid && t.minute < 1440 && t.second ≤ 60 && t.nano < 1000000000

/-- The beginning of 1970. -/
def epoch : Moment := ⟨⟨1970, 1, 1⟩, 0, 0, 0⟩

/-! ### Writing -/

/-- Four digits, or a sign and at least four digits beyond the years 0 to 9999. -/
def yearText (y : Int) : List Char :=
  if 0 ≤ y ∧ y ≤ 9999 then Text.padded 4 y.toNat
  else (if y < 0 then '-' else '+') :: Text.padded 4 y.natAbs

/-- The fewest of 0, 3, 6 and 9 digits that lose nothing. -/
def nanoText (n : Nat) : List Char :=
  if n = 0 then []
  else if n % 1000000 = 0 then '.' :: Text.padded 3 (n / 1000000)
  else if n % 1000 = 0 then '.' :: Text.padded 6 (n / 1000)
  else '.' :: Text.padded 9 n

def text (t : Moment) : List Char :=
  yearText t.date.year ++ '-' :: Text.padded 2 t.date.month ++ '-' :: Text.padded 2 t.date.day ++
    'T' :: Text.padded 2 (t.minute / 60) ++ ':' :: Text.padded 2 (t.minute % 60) ++
    ':' :: Text.padded 2 t.second ++ nanoText t.nano ++ ['Z']

/-! ### Reading -/

/-- One to `width` digits, as a number. -/
def number? (width : Nat) (s : List Char) : Option (Nat × List Char) :=
  let ds := (s.take width).takeWhile Char.isDigit
  if ds.isEmpty then none else some (Text.digitsValue ds, s.drop ds.length)

/-- One or two digits after blanks. -/
def part? (s : List Char) : Option (Nat × List Char) := number? 2 (Text.trimStart s)

/-- A separator after blanks. -/
def separator? (c : Char) (s : List Char) : Option (List Char) :=
  match Text.trimStart s with
  | d :: r => if d = c then some r else none
  | [] => none

/-- Up to four digits, or a sign and any number of digits. -/
def year? (s : List Char) : Option (Int × List Char) :=
  match Text.trimStart s with
  | '-' :: r => (number? r.length r).map fun (n, r) => (-(n : Int), r)
  | '+' :: r => (number? r.length r).map fun (n, r) => ((n : Int), r)
  | r => (number? 4 r).map fun (n, r) => ((n : Int), r)

/-- A fraction of a second; digits beyond the ninth are passed over. -/
def fraction? : List Char → Option (Nat × List Char)
  | '.' :: s => do
    let (n, r) ← number? 9 s
    some (n * Nat.pow 10 (9 - (s.length - r.length)), r.dropWhile Char.isDigit)
  | s => some (0, s)

/-- Exactly two digits. -/
def pair? : List Char → Option (Nat × List Char)
  | a :: b :: r => if a.isDigit && b.isDigit then some (Text.digitsValue [a, b], r) else none
  | _ => none

/-- Hours and minutes east of universal time, in minutes. -/
def offsetMinutes? (s : List Char) : Option (Nat × List Char) := do
  let (h, r) ← pair? s
  let (m, r) ← pair? (r.dropWhile fun c => c == ':' || Text.isBlank c)
  if m < 60 then some (60 * h + m, r) else none

/-- An offset: none is written as `Z` or `UTC` in either case. -/
def offset? (s : List Char) : Option (Int × List Char) :=
  match s with
  | c :: r =>
    if (s.take 3).map Char.toUpper == ['U', 'T', 'C'] then some (0, s.drop 3)
    else if c = 'Z' || c = 'z' then some (0, r)
    else if c = '+' then (offsetMinutes? r).map fun (n, r) => ((n : Int), r)
    else if c = '-' || c = '−' then (offsetMinutes? r).map fun (n, r) => (-(n : Int), r)
    else none
  | [] => none

/-- A moment that a clock `offset` minutes ahead shows as `t`. -/
def back (t : Moment) (offset : Int) : Moment :=
  let m := t.minute - offset
  let date := if m < 0 then t.date.previous else if 1440 ≤ m then t.date.next else t.date
  { t with date, minute := (m % 1440).toNat }

def date? (s : List Char) : Option (Date × List Char) := do
  let (year, s) ← year? s
  let s ← separator? '-' s
  let (month, s) ← part? s
  let s ← separator? '-' s
  let (day, s) ← part? s
  some (⟨year, month, day⟩, s)

def clock? (s : List Char) : Option (Nat × Nat × Nat × List Char) := do
  let (hour, s) ← part? s
  let s ← separator? ':' s
  let (minute, s) ← part? s
  let s ← separator? ':' s
  let (second, s) ← part? s
  let (nano, s) ← fraction? s
  if hour < 24 && minute < 60 then some (60 * hour + minute, second, nano, s) else none

/-- A date, a letter `T` or a space, a time of day and an offset, with blanks between them. -/
def parse? (s : List Char) : Option Moment := do
  let (date, s) ← date? s
  match s with
  | c :: s =>
    if c = 'T' || c = 't' || c = ' ' then do
      let (minute, second, nano, s) ← clock? s
      let (offset, s) ← offset? (Text.trimStart s)
      let t : Moment := ⟨date, minute, second, nano⟩
      let u := t.back offset
      if Text.blank s && offset.natAbs < 1440 && t.isValid && u.isValid then some u else none
    else none
  | [] => none

/-- A moment in JSON, as a string. -/
def reader : Json.Reader Moment :=
  Json.parsed "an RFC 3339 formatted date and time string" fun s => parse? s.toList

/-! ### Durations -/

/-- Seconds and nanoseconds from `t` to `u`, unless `u` is the earlier one. A leap second
counts if it lies between them. -/
def until? (t u : Moment) : Option (Nat × Nat) :=
  let place (t : Moment) : Int := 60 * t.minute + min t.second 59
  let leap (t : Moment) : Nat := if t.second = 60 then 1 else 0
  let fine (t : Moment) : Int := (t.nano + leap t * 1000000000 : Nat)
  let passed : Int :=
    if place t < place u then leap t else if place u < place t then -(leap u : Int) else 0
  let seconds := place u - place t + passed + 86400 * (u.date.number - t.date.number)
  let total := seconds * 1000000000 + (fine u - fine t)
  if total < 0 then none else some ((total / 1000000000).toNat, (total % 1000000000).toNat)

end Moment

end TabletopRobot
