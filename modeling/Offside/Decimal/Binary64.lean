/-!
# Binary floating-point numbers as exact numbers

A float is kept as its 64 bits, so that floats which are no numbers stay apart.
A finite one is an integer times a power of two: `Binary64.decode` takes it
apart, and `Binary64.nearest` goes the other way. It is the float nearest to a
ratio of natural numbers, where a ratio half way between two floats goes to the
one with the even mantissa.
-/

namespace Offside.Decimal

/-- A power of a base, and one where the exponent is below zero. A ratio is scaled by such
a factor in the numerator and by the one of the opposite exponent in the denominator. -/
def power (base : Nat) (exponent : Int) : Nat :=
  Nat.pow base exponent.toNat

/-- A float of the format binary64. -/
structure Binary64 where
  bits : UInt64
  deriving DecidableEq, Repr

namespace Binary64

/-- What the bits of a float stand for. -/
inductive Decoded where
  | nan
  | infinite (negative : Bool)
  /-- The number `mantissa * 2 ^ exponent`, or its negative. -/
  | finite (negative : Bool) (mantissa : Nat) (exponent : Int)
  deriving DecidableEq

/-- The exponent of the smallest positive float, which all subnormal floats share. -/
def leastExponent : Int := -1074

/-- The mantissa of every normal float is at least this and less than twice this. -/
def leastNormalMantissa : Nat := 0x10000000000000

/-- The largest value of the exponent field, which marks the values that are not finite. -/
def specialExponent : Nat := 0x7FF

/-- What a float stands for. -/
def decode (float : Binary64) : Decoded :=
  let bits := float.bits.toNat
  let fraction := bits % leastNormalMantissa
  let biased := bits / leastNormalMantissa % (specialExponent + 1)
  let negative := bits / leastNormalMantissa / (specialExponent + 1) % 2 == 1
  if biased = specialExponent then
    if fraction = 0 then .infinite negative else .nan
  else if biased = 0 then .finite negative fraction leastExponent
  else .finite negative (leastNormalMantissa + fraction) (leastExponent + (biased - 1 : Nat))

/-- The bits of a float that can be calculated with. -/
def ofFloat (value : Float) : Binary64 :=
  ⟨value.toBits⟩

/-- The float to calculate with. -/
def toFloat (float : Binary64) : Float :=
  Float.ofBits float.bits

/-- The quotient rounded to the nearest natural number, a half to the even one. -/
def roundHalfEven (numerator denominator : Nat) : Nat :=
  let quotient := numerator / denominator
  let twice := 2 * (numerator % denominator)
  if twice < denominator then quotient
  else if denominator < twice then quotient + 1
  else quotient + quotient % 2

/-- Rounding moves a quotient by half a unit at most. -/
theorem roundHalfEven_near (numerator : Nat) {denominator : Nat} (positive : 0 < denominator) :
    2 * numerator ≤ 2 * (denominator * roundHalfEven numerator denominator) + denominator ∧
      2 * (denominator * roundHalfEven numerator denominator) ≤ 2 * numerator + denominator := by
  have whole := Nat.div_add_mod numerator denominator
  have below := Nat.mod_lt numerator positive
  unfold roundHalfEven
  simp only
  split
  · omega
  · split
    · rw [Nat.mul_add]
      omega
    · rw [Nat.mul_add]
      rcases Nat.mod_two_eq_zero_or_one (numerator / denominator) with even | odd
      · rw [even]
        omega
      · rw [odd]
        omega

/-- `numerator / denominator` as a ratio in units of `2 ^ exponent`. -/
def inUnits (numerator denominator : Nat) (exponent : Int) : Nat × Nat :=
  (numerator * power 2 (-exponent), denominator * power 2 exponent)

/-- The exponent at which a positive ratio has a mantissa of 53 bits, or the least
exponent where it has fewer. -/
def exponentFor (numerator denominator : Nat) : Int :=
  let guess := (Nat.log2 numerator : Int) - Nat.log2 denominator - 53
  let (scaled, unit) := inUnits numerator denominator guess
  max leastExponent (if scaled / unit < 2 * leastNormalMantissa then guess else guess + 1)

/-- The bits of the positive float nearest to a ratio. A mantissa that rounds up to the
next power of two carries into the exponent field, and one past the largest float
carries into the pattern of infinity, where the result stays. -/
def nearestBits (numerator denominator : Nat) : Nat :=
  if numerator = 0 then 0
  else
    let exponent := exponentFor numerator denominator
    let (scaled, unit) := inUnits numerator denominator exponent
    let carried :=
      (exponent - leastExponent).toNat * leastNormalMantissa + roundHalfEven scaled unit
    min carried (specialExponent * leastNormalMantissa)

/-- The float nearest to a ratio of natural numbers. -/
def nearest (numerator denominator : Nat) : Binary64 :=
  ⟨UInt64.ofNat (nearestBits numerator denominator)⟩

end Binary64

end Offside.Decimal
