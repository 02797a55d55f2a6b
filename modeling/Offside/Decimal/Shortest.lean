import Offside.Decimal.Binary64

/-!
# The shortest decimal of a float

Among the decimals that read back as a float, the shortest has the fewest
digits and, of those, lies nearest to the float; an exact tie goes up.
`Decimal.shortest` tries one digit, then two and so on, and on each grid looks
only at the two neighbours of the float, in exact arithmetic.
-/

namespace Offside.Decimal

/-- The number `0.d₁d₂… * 10 ^ (exponent + 1)` with the decimal digits `d₁d₂…` of
`digits`; the first digit counts ones in units of `10 ^ exponent`. -/
structure Scientific where
  digits : List Char
  exponent : Int
  deriving DecidableEq

/-- The reals that round to one float, in units of `2 ^ exponent`: `low` and `high` are
`centre`'s half way points to its neighbours and belong to it when `closed`. -/
structure RoundingInterval where
  low : Nat
  centre : Nat
  high : Nat
  closed : Bool
  exponent : Int

/-- The interval of the positive float `mantissa * 2 ^ exponent`. Below a power of two the
floats lie twice as dense, save at the bottom of the range. -/
def RoundingInterval.of (mantissa : Nat) (exponent : Int) : RoundingInterval :=
  let denserBelow :=
    mantissa == Binary64.leastNormalMantissa && exponent != Binary64.leastExponent
  { low := 4 * mantissa - (if denserBelow then 1 else 2)
    centre := 4 * mantissa
    high := 4 * mantissa + 2
    closed := mantissa % 2 == 0
    exponent := exponent - 2 }

/-- The number of decimal digits of a natural number. -/
def digitCount (number : Nat) : Nat :=
  (Nat.toDigits 10 number).length

/-- The exponent of the largest power of ten that is not above a positive ratio. -/
def decimalExponent (numerator denominator : Nat) : Int :=
  if denominator ≤ numerator then (digitCount (numerator / denominator) : Int) - 1
  else -(digitCount ((denominator - 1) / numerator) : Int)

/-- The multiple of `10 ^ place` nearest to the centre among those in the interval,
counted in units of `10 ^ place`; of two equally near ones the upper. -/
def RoundingInterval.hit? (interval : RoundingInterval) (place : Int) : Option Nat :=
  let scale := power 2 interval.exponent * power 10 (-place)
  let step := power 10 place * power 2 (-interval.exponent)
  let low := interval.low * scale
  let centre := interval.centre * scale
  let high := interval.high * scale
  let below := centre / step
  let belowHits := if interval.closed then low ≤ below * step else low < below * step
  let aboveHits :=
    if interval.closed then (below + 1) * step ≤ high else (below + 1) * step < high
  if belowHits ∧ aboveHits then
    some (if centre - below * step < (below + 1) * step - centre then below else below + 1)
  else if belowHits then some below
  else if aboveHits then some (below + 1)
  else none

/-- Seventeen digits tell any two floats apart. -/
def mostDigits : Nat := 17

/-- The shortest decimal of the positive float `mantissa * 2 ^ exponent`. -/
def shortest (mantissa : Nat) (exponent : Int) : Scientific :=
  let leading :=
    decimalExponent (mantissa * power 2 exponent) (power 2 (-exponent))
  let interval := RoundingInterval.of mantissa exponent
  let found := (List.range mostDigits).findSome? fun (count : Nat) =>
    (interval.hit? (leading - count)).map fun number => (number, count)
  let (number, count) := found.getD (0, 0)
  let digits := Nat.toDigits 10 number
  -- A neighbour above may have one digit more: the next power of ten.
  { digits := (digits.reverse.dropWhile (· == '0')).reverse
    exponent := leading + digits.length - (count + 1 : Nat) }

end Offside.Decimal
