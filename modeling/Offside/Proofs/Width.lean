import Mathlib.Algebra.Ring.Int.Defs

/-!
# Integers of a width

The program counts in integers without bounds where a machine has words of some width. `Width`
says which integers a word holds, and each of its operations gives the exact result or, where the
word does not hold that, nothing. A computation that is made of such operations gives a result
exactly when none of them leaves its word, and then it is the exact one.
-/

namespace Offside

/-- The integers that a word holds, from the least to the greatest. -/
structure Width where
  least : Int
  greatest : Int

namespace Width

/-- Words of 64 bits with a sign. -/
def int64 : Width := ⟨-2 ^ 63, 2 ^ 63 - 1⟩

/-- Words of 128 bits with a sign. -/
def int128 : Width := ⟨-2 ^ 127, 2 ^ 127 - 1⟩

/-- Words of 64 bits without a sign. -/
def nat64 : Width := ⟨0, 2 ^ 64 - 1⟩

/-- Words of 128 bits without a sign. -/
def nat128 : Width := ⟨0, 2 ^ 128 - 1⟩

/-- Whether a word holds an integer. -/
def Holds (width : Width) (number : Int) : Prop :=
  width.least ≤ number ∧ number ≤ width.greatest

instance (width : Width) (number : Int) : Decidable (width.Holds number) :=
  inferInstanceAs (Decidable (_ ∧ _))

/-- An integer, if a word holds it. Sums, differences and products are exact in this way. -/
def exactly (width : Width) (number : Int) : Option Int :=
  if width.Holds number then some number else none

/-- The quotient of two integers, rounded towards zero, if there is one and a word holds it. -/
def divide (width : Width) (dividend divisor : Int) : Option Int :=
  if divisor = 0 then none else width.exactly (dividend.tdiv divisor)

/-- What the quotient rounded towards zero leaves over. It needs the quotient to be there. -/
def remainder (width : Width) (dividend divisor : Int) : Option Int :=
  (width.divide dividend divisor).map fun _ => dividend.tmod divisor

variable {width : Width} {number dividend divisor : Int}

/-- An integer that a word holds passes the check. -/
theorem exactly_of_holds (holds : width.Holds number) : width.exactly number = some number :=
  if_pos holds

/-- An integer that a word does not hold is lost. -/
theorem exactly_of_not_holds (lost : ¬ width.Holds number) : width.exactly number = none :=
  if_neg lost

/-- A word has the quotient of two integers when it holds that. -/
theorem divide_of_holds (nonzero : divisor ≠ 0) (holds : width.Holds (dividend.tdiv divisor)) :
    width.divide dividend divisor = some (dividend.tdiv divisor) := by
  rw [divide, if_neg nonzero, exactly_of_holds holds]

/-- A word that holds the quotient of two integers has what the quotient leaves over. -/
theorem remainder_of_holds (nonzero : divisor ≠ 0) (holds : width.Holds (dividend.tdiv divisor)) :
    width.remainder dividend divisor = some (dividend.tmod divisor) := by
  rw [remainder, divide_of_holds nonzero holds, Option.map_some]

/-- Words of 64 bits hold their values. -/
theorem holds_int64_toInt (value : Int64) : int64.Holds value.toInt :=
  ⟨value.le_toInt, Int.le_sub_one_of_lt value.toInt_lt⟩

/-- Words of 64 bits without a sign hold their numbers. -/
theorem holds_nat64_iff {size : Nat} : nat64.Holds size ↔ size < UInt64.size := by
  simp only [Holds, nat64, UInt64.size]
  omega

/-- Only zero has the value zero. -/
theorem toInt_ne_zero {value : Int64} (nonzero : value ≠ 0) : value.toInt ≠ 0 :=
  fun zero => nonzero (Int64.toInt_inj.mp zero)

/-- An integer that 64 bits hold keeps its value in them. -/
theorem toInt_ofInt (holds : int64.Holds number) : (Int64.ofInt number).toInt = number :=
  Int64.toInt_ofInt_of_le holds.1 (Int.lt_of_le_sub_one holds.2)

end Width

end Offside
