/-!
Magnitudes of 64-bit binary floating-point numbers, with their rounding in exact arithmetic.
-/

namespace TabletopRobot

/-- The number `mantissa * 2 ^ exponent`. -/
structure Binary64 where
  mantissa : Nat
  exponent : Int
  deriving DecidableEq

namespace Binary64

def zero : Binary64 := ⟨0, -1074⟩

/-- The least mantissa of 53 binary digits. -/
def leastFull : Nat := 1 <<< 52

/-- `n / d` to the nearest integer, a tie to the even one. -/
def divEven (n d : Nat) : Nat :=
  let q := n / d
  let r := n % d
  if 2 * r < d then q
  else if d < 2 * r then q + 1
  else if q % 2 = 0 then q else q + 1

/-- `n / d` with a power of two divided out, as another quotient. -/
def scaled (n d : Nat) (e : Int) : Nat × Nat :=
  if e < 0 then (n <<< (-e).toNat, d) else (n, d <<< e.toNat)

/-- The exponent of the grid that `n / d` is rounded to. -/
def gridExponent (n d : Nat) : Int :=
  let e : Int := (n.log2 : Int) - d.log2 - 52
  let (n', d') := scaled n d e
  max (-1074) (if n' < d' * leastFull then e - 1 else e)

/-- `n / d` rounded to 53 binary digits; nothing if that is too large. -/
def ofRatio (n d : Nat) : Option Binary64 :=
  if n = 0 then some zero
  else
    let e := gridExponent n d
    let (n', d') := scaled n d e
    let m := divEven n' d'
    let (m, e) := if m = 2 * leastFull then (leastFull, e + 1) else (m, e)
    if 971 < e then none else some ⟨m, e⟩

def ofNat (n : Nat) : Option Binary64 := ofRatio n 1

/-- The number as an exact quotient. -/
def ratio (x : Binary64) : Nat × Nat :=
  if x.exponent < 0 then (x.mantissa, 1 <<< (-x.exponent).toNat)
  else (x.mantissa <<< x.exponent.toNat, 1)

def mul (x y : Binary64) : Option Binary64 :=
  ofRatio (x.ratio.1 * y.ratio.1) (x.ratio.2 * y.ratio.2)

def div (x y : Binary64) : Option Binary64 :=
  ofRatio (x.ratio.1 * y.ratio.2) (x.ratio.2 * y.ratio.1)

/-- A power of ten, rounded; nothing beyond `10 ^ 308`. -/
def tenPower (k : Nat) : Option Binary64 := if k ≤ 308 then ofNat (Nat.pow 10 k) else none

/-- `x * 10 ^ e`, rounded after each factor of at most `10 ^ 308`. -/
def scaleTen : Nat → Binary64 → Int → Option Binary64
  | 0, x, _ => some x
  | fuel + 1, x, e =>
    match tenPower e.natAbs with
    | some p => if 0 ≤ e then x.mul p else x.div p
    | none =>
      if x.mantissa = 0 then some x
      else if 0 ≤ e then none
      else do
        let p ← tenPower 308
        let y ← x.div p
        scaleTen fuel y (e + 308)

/-- `significand * 10 ^ e`, rounded first as an integer and then at each scaling; three
scalings take every 64-bit integer to zero. -/
def ofDecimal (significand : Nat) (e : Int) : Option Binary64 := do
  let x ← ofNat significand
  scaleTen 4 x e

end Binary64

end TabletopRobot
