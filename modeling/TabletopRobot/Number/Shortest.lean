import TabletopRobot.Number.Binary64
import TabletopRobot.Text.Numeral

/-!
The shortest decimal that reads back as a given binary number, and how it is written.
-/

namespace TabletopRobot.Binary64

/-- The number of digits of `n / d` before the point; for `n / d < 1` less one for each zero
that follows the point. Nothing is found within `fuel` zeros if `n` is zero. -/
def pointPlace (n d : Nat) : Int :=
  if d ≤ n then (Nat.toDigits 10 (n / d)).length
  else ((List.range 330).find? fun j => d ≤ n * Nat.pow 10 (j + 1)).elim 0 fun j => -(j : Int)

/-- Whether `digits * 10 ^ e` lies in the interval of the numbers that round to `x`. The ends
belong to it if the mantissa is even. -/
def readsBack (x : Binary64) (digits : Nat) (e : Int) : Bool :=
  -- all lengths are counted in quarters of `2 ^ -a * 10 ^ -b`
  let a := (-x.exponent).toNat
  let b := (-e).toNat
  let value := (4 * x.mantissa * Nat.pow 10 b) <<< x.exponent.toNat
  let cand := (4 * digits * Nat.pow 10 e.toNat) <<< a
  let ulp := Nat.pow 10 b <<< x.exponent.toNat
  let below := if x.mantissa = leastFull ∧ -1074 < x.exponent then ulp else 2 * ulp
  let above := 2 * ulp
  if cand ≤ value then
    value - cand < below || (value - cand = below && x.mantissa % 2 = 0)
  else cand - value < above || (cand - value = above && x.mantissa % 2 = 0)

/-- The digits of the shortest decimal that reads back as `x`, and the power of ten they
count. Of two with as many digits the nearer is taken, and the even one at equal distance. -/
def shortest (x : Binary64) : Nat × Int :=
  let (n, d) := x.ratio
  let place := pointPlace n d
  let tryDigits (k : Nat) : Option (Nat × Int) :=
    let e := place - ((k : Int) + 1)
    let (n', d') := if e < 0 then (n * Nat.pow 10 (-e).toNat, d) else (n, d * Nat.pow 10 e.toNat)
    let q := n' / d'
    let twice := 2 * (n' % d')
    let nearFirst := if twice < d' || (twice = d' && q % 2 = 0) then [q, q + 1] else [q + 1, q]
    (nearFirst.find? fun c => 0 < c && x.readsBack c e).map (·, e)
  ((List.range 17).findSome? tryDigits).getD (0, 0)

/-- How a decimal is written: positionally for a range of magnitudes, otherwise with an
exponent. -/
structure DecimalStyle where
  /-- The least place of the first digit that is written positionally. -/
  least : Int
  /-- The greatest. -/
  greatest : Int
  /-- The sign of an exponent that is not negative. -/
  plus : List Char

/-- At least one decimal is written; the exponent has a sign and no leading zeros. -/
def style : DecimalStyle := ⟨-5, 15, ['+']⟩

/-- Digits without the zeros at their end, and how many there were. -/
def dropZeros : Nat → Nat → Nat → Nat × Nat
  | 0, m, z => (m, z)
  | fuel + 1, m, z => if m % 10 = 0 && m != 0 then dropZeros fuel (m / 10) (z + 1) else (m, z)

def write (st : DecimalStyle) (x : Binary64) : List Char :=
  if x.mantissa = 0 then ['0', '.', '0']
  else
    let (m, e) := x.shortest
    let (m, z) := dropZeros 20 m 0
    let e := e + z
    let ds := Text.natText m
    let first := e + ds.length - 1
    if st.least ≤ first && first ≤ st.greatest then
      if 0 ≤ e then ds ++ List.replicate e.toNat '0' ++ ['.', '0']
      else if 0 ≤ first then
        ds.take (first.toNat + 1) ++ '.' :: ds.drop (first.toNat + 1)
      else '0' :: '.' :: List.replicate (-first - 1).toNat '0' ++ ds
    else
      let mant := if ds.length = 1 then ds else ds.take 1 ++ '.' :: ds.drop 1
      let exp := if 0 ≤ first then st.plus ++ Text.natText first.toNat
        else '-' :: Text.natText first.natAbs
      mant ++ 'e' :: exp

end TabletopRobot.Binary64
