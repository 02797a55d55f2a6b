import Offside.Proofs.Remainder
import Offside.Proofs.Width

/-!
# The quotient of integers

`//` rounds quotients down. Machines round them towards zero, which is one too many where the
division leaves something over and the signs differ. `BinaryOp.roundDown` finds the quotient in this
way in words of 64 bits, where the only one that does not fit is that of the least integer and -1.
What `%` leaves over, where it finds that, belongs to the quotient of `//`.
-/

namespace Offside

open Width

namespace Number

/-- What fits is what words of 64 bits hold. -/
theorem fits_iff_holds (number : Int) : Fits number ↔ int64.Holds number := by
  have least : Int64.minValue.toInt = -2 ^ 63 := by decide
  have greatest : Int64.maxValue.toInt = 2 ^ 63 - 1 := by decide
  rw [Fits, least, greatest]
  exact Iff.rfl

/-- An integer is fitted into a word exactly if the word holds it. -/
theorem fit?_eq_map_exactly (number : Int) :
    fit? number = (int64.exactly number).map Int64.ofInt := by
  by_cases holds : int64.Holds number
  · rw [exactly_of_holds holds, Option.map_some]
    exact if_pos ((fits_iff_holds number).mpr holds)
  · rw [exactly_of_not_holds holds, Option.map_none]
    exact if_neg fun fits => holds ((fits_iff_holds number).mp fits)

variable {dividend divisor : Int}

/-- A quotient that is rounded down is one less than the one rounded towards zero where something
is left over and the signs differ. -/
theorem fdiv_eq_tdiv_of_signs (nonzero : divisor ≠ 0) :
    dividend.fdiv divisor =
      if dividend.tmod divisor ≠ 0 ∧ ¬ (dividend < 0 ↔ divisor < 0) then
        dividend.tdiv divisor - 1
      else dividend.tdiv divisor := by
  rw [Int.fdiv_eq_tdiv]
  by_cases whole : dividend.tmod divisor = 0
  · rw [if_pos (Int.dvd_iff_tmod_eq_zero.mpr whole), if_neg fun rest => rest.1 whole, Int.sub_zero]
  · rw [if_neg fun divides => whole (Int.dvd_iff_tmod_eq_zero.mp divides)]
    rcases Int.lt_or_gt_of_ne nonzero with negative | positive
    · rw [Int.sign_eq_neg_one_of_neg negative]
      split_ifs <;> omega
    · rw [Int.sign_eq_one_of_pos positive]
      split_ifs <;> omega

/-- By one or minus one nothing is left over. -/
theorem tdiv_of_unit (dividend : Int) (unit : divisor = 1 ∨ divisor = -1) :
    dividend.tdiv divisor = dividend * divisor ∧ dividend.tmod divisor = 0 := by
  rcases unit with rfl | rfl
  · simp
  · simp [Int.tdiv_neg, Int.tmod_neg]

/-- A divisor other than zero, one and minus one makes an integer so much smaller that one less
still fits. -/
theorem holds_tdiv (dividendHolds : int64.Holds dividend) (large : 2 ≤ divisor.natAbs) :
    int64.Holds (dividend.tdiv divisor) ∧ int64.Holds (dividend.tdiv divisor - 1) := by
  have half : (dividend.tdiv divisor).natAbs ≤ dividend.natAbs / 2 := by
    rw [Int.natAbs_tdiv]
    exact Nat.div_le_div_left large (by decide)
  simp only [Holds, int64] at dividendHolds ⊢
  omega

/-- The only quotient that a word does not hold is that of the least integer and -1. -/
theorem holds_fdiv_iff (dividendHolds : int64.Holds dividend) (nonzero : divisor ≠ 0) :
    int64.Holds (dividend.fdiv divisor) ↔ ¬ (dividend = -2 ^ 63 ∧ divisor = -1) := by
  rw [fdiv_eq_tdiv_of_signs nonzero]
  by_cases unit : divisor = 1 ∨ divisor = -1
  · obtain ⟨product, whole⟩ := tdiv_of_unit dividend unit
    rw [if_neg fun rest => rest.1 whole, product]
    simp only [Holds, int64] at dividendHolds ⊢
    rcases unit with rfl | rfl <;> omega
  · obtain ⟨holds, holdsToo⟩ := holds_tdiv dividendHolds (show 2 ≤ divisor.natAbs by omega)
    refine iff_of_true ?_ fun least => unit (.inr least.2)
    split
    · exact holdsToo
    · exact holds

end Number

namespace BinaryOp

/-- The quotient rounded down, found in words of 64 bits: the quotient rounded towards zero is
checked, and so is the step down to the one below it. There is no result if the remainder, which is
not checked, leaves its word, and none inside of the result if what is checked does. -/
def roundDown (dividend divisor : Int) : Option (Option Int) :=
  match int64.divide dividend divisor with
  | none => some none
  | some quotient => do
      let rest ← int64.remainder dividend divisor
      if rest ≠ 0 ∧ ¬ (dividend < 0 ↔ divisor < 0) then some (int64.exactly (quotient - 1))
      else some (some quotient)

/-- What `//` makes of two integers, found in words of 64 bits. -/
def floorDivInWords (dividend divisor : Int64) : Option (Except RuntimeError Value) :=
  if divisor = 0 then some (.error .divisionByZero)
  else do
    match ← roundDown dividend.toInt divisor.toInt with
    | some quotient => some (.ok (.integer (Int64.ofInt quotient)))
    | none => some (.error (.integerOverflow floorDiv.symbol))

/-- Nothing that is not checked leaves its word, and what is checked does so exactly where a word
does not hold the quotient. -/
theorem roundDown_eq {dividend divisor : Int} (dividendHolds : int64.Holds dividend)
    (nonzero : divisor ≠ 0) :
    roundDown dividend divisor = some (int64.exactly (dividend.fdiv divisor)) := by
  rw [Number.fdiv_eq_tdiv_of_signs nonzero]
  unfold roundDown
  by_cases unit : divisor = 1 ∨ divisor = -1
  · obtain ⟨-, whole⟩ := Number.tdiv_of_unit dividend unit
    rw [if_neg fun rest => rest.1 whole]
    by_cases holds : int64.Holds (dividend.tdiv divisor)
    · simp only [divide_of_holds nonzero holds, remainder_of_holds nonzero holds, whole,
        exactly_of_holds holds]
      rfl
    · simp only [divide, if_neg nonzero, exactly_of_not_holds holds]
  · obtain ⟨holds, holdsToo⟩ :=
      Number.holds_tdiv dividendHolds (show 2 ≤ divisor.natAbs by omega)
    simp only [divide_of_holds nonzero holds, remainder_of_holds nonzero holds,
      Option.bind_eq_bind, Option.bind_some]
    split
    · rfl
    · rw [exactly_of_holds holds]

variable (dividend : Int64) {divisor : Int64}

/-- Words of 64 bits give what integers without bounds give. -/
theorem floorDivInWords_eq (divisor : Int64) :
    floorDivInWords dividend divisor = some (floorDiv.applyIntegers dividend divisor) := by
  by_cases zero : divisor = 0
  · rw [floorDivInWords, if_pos zero, applyIntegers, if_pos zero]
  · simp only [floorDivInWords, applyIntegers, if_neg zero, checked, Number.fit?_eq_map_exactly,
      roundDown_eq (holds_int64_toInt dividend) (toInt_ne_zero zero)]
    cases int64.exactly (dividend.toInt.fdiv divisor.toInt) with
    | none => rfl
    | some quotient => rfl

/-- What passes is the integer itself. -/
theorem checked_eq_ok_iff {op : BinaryOp} {number : Int} {value : Int64} :
    op.checked number = .ok value ↔ value.toInt = number := by
  rw [← Number.fit?_eq_some_iff, checked]
  cases Number.fit? number with
  | none => simp only [reduceCtorEq]
  | some fitted => rw [Except.ok.injEq, Option.some.injEq]

/-- `//` gives the quotient rounded down unless that is the one that does not fit. -/
theorem applyIntegers_floorDiv_of_fits (nonzero : divisor ≠ 0)
    (fits : ¬ (dividend = Int64.minValue ∧ divisor = -1)) :
    ∃ quotient : Int64, quotient.toInt = dividend.toInt.fdiv divisor.toInt ∧
      floorDiv.applyIntegers dividend divisor = .ok (.integer quotient) := by
  have least : ¬ (dividend.toInt = -2 ^ 63 ∧ divisor.toInt = -1) :=
    fun same => fits ⟨Int64.toInt_inj.mp same.1, Int64.toInt_inj.mp same.2⟩
  rw [← Number.holds_fdiv_iff (holds_int64_toInt dividend) (toInt_ne_zero nonzero),
    ← Number.fits_iff_holds] at least
  obtain ⟨quotient, exact⟩ := least.exists_toInt
  refine ⟨quotient, exact, ?_⟩
  rw [applyIntegers, if_neg nonzero, ← exact, checked_toInt]
  rfl

/-- What `%` gives is what the quotient rounded down leaves over. -/
theorem eq_fmod_of_applyIntegers_mod (nonzero : divisor ≠ 0) {result : Value}
    (gives : mod.applyIntegers dividend divisor = .ok result) :
    ∃ remainder : Int64, remainder.toInt = dividend.toInt.fmod divisor.toInt ∧
      .integer remainder = result := by
  simp only [applyIntegers, if_neg nonzero, bind_eq_ok_iff, checked_eq_ok_iff,
    Except.ok.injEq] at gives
  obtain ⟨quotient, quotientIs, product, productIs, remainder, remainderIs, same⟩ := gives
  refine ⟨remainder, ?_, same⟩
  rw [remainderIs, productIs, quotientIs, Int.fmod_def, Int.mul_comm]

end BinaryOp

namespace Value

/-- What `//` and `%` owe to two integers. -/
structure IsFloorDivision (dividend divisor : Int64)
    (quotient remainder : Except RuntimeError Value) : Prop where
  /-- Nothing can be divided by zero. -/
  divisionByZero : quotient = .error .divisionByZero ↔ divisor = 0
  /-- Only the quotient of the least integer and -1 does not fit. -/
  overflow : quotient = .error (.integerOverflow "//") ↔ dividend = Int64.minValue ∧ divisor = -1
  /-- All quotients that exist and fit are exact and rounded down. -/
  floor : divisor ≠ 0 → ¬ (dividend = Int64.minValue ∧ divisor = -1) → ∃ value : Int64,
    quotient = .ok (integer value) ∧ value.toInt = ⌊(dividend.toInt : ℚ) / divisor.toInt⌋
  /-- Words of 64 bits are wide enough for what is not checked on the way. -/
  inWords : BinaryOp.floorDivInWords dividend divisor = some quotient
  /-- Where there is a remainder too, both make up the dividend, and the remainder is zero or has
  the sign of the divisor, and is smaller. -/
  whole : ∀ {value rest}, quotient = .ok value → remainder = .ok rest →
    ∃ exact left : Int64, value = integer exact ∧ rest = integer left ∧
      dividend.toInt = exact.toInt * divisor.toInt + left.toInt ∧
      (left.toInt = 0 ∨ left.toInt.sign = divisor.toInt.sign) ∧
      |left.toInt| < |divisor.toInt|

/-- `//` on integers and truth values is the exact quotient rounded down, found without an
overflow that is not reported, and `%` is what it leaves over where both are there. -/
theorem applyBinary_floorDiv {left right : Value} {dividend divisor : Int64}
    (leftCounts : left.integer? = some dividend) (rightCounts : right.integer? = some divisor)
    (limit? : Option Nat) (memory : Memory) :
    IsFloorDivision dividend divisor (applyBinary .floorDiv left right limit? memory)
      (applyBinary .mod left right limit? memory) := by
  rw [applyBinary_of_integer? .floorDiv leftCounts rightCounts,
    applyBinary_of_integer? .mod leftCounts rightCounts]
  have inWords := BinaryOp.floorDivInWords_eq dividend divisor
  by_cases zero : divisor = 0
  · have refused : BinaryOp.floorDiv.applyIntegers dividend divisor = .error .divisionByZero :=
      if_pos zero
    rw [refused] at inWords ⊢
    refine ⟨iff_of_true rfl zero, iff_of_false nofun fun least => ?_,
      fun nonzero => absurd zero nonzero, inWords, nofun⟩
    rw [least.2] at zero
    exact absurd zero (by decide)
  · by_cases least : dividend = Int64.minValue ∧ divisor = -1
    · have overflows : BinaryOp.floorDiv.applyIntegers dividend divisor =
          .error (.integerOverflow "//") := by
        rw [least.1, least.2]
        rfl
      rw [overflows] at inWords ⊢
      exact ⟨iff_of_false nofun zero, iff_of_true rfl least, fun _ other => absurd least other,
        inWords, nofun⟩
    · obtain ⟨quotient, quotientIs, gives⟩ :=
        BinaryOp.applyIntegers_floorDiv_of_fits dividend zero least
      rw [gives] at inWords ⊢
      refine ⟨iff_of_false nofun zero, iff_of_false nofun least, fun _ _ => ⟨quotient, rfl, ?_⟩,
        inWords, ?_⟩
      · rw [quotientIs, Number.fdiv_eq_floor]
      · rintro _ rest ⟨⟩ givesToo
        obtain ⟨left, leftIs, rfl⟩ := BinaryOp.eq_fmod_of_applyIntegers_mod dividend zero givesToo
        obtain ⟨sign, smaller⟩ :=
          Number.remainder_bounds dividend.toInt (toInt_ne_zero zero)
        refine ⟨quotient, left, rfl, rfl, ?_, leftIs ▸ sign, leftIs ▸ smaller⟩
        rw [quotientIs, leftIs, Int.mul_comm, Int.mul_fdiv_add_fmod]

/-- -7 divided by 2 is -4, and 1 is left over. -/
theorem applyBinary_floorDiv_negative :
    ((integer (-7)).integer? = some (-7) ∧ (integer 2).integer? = some 2) ∧
      IsFloorDivision (-7) 2
        (applyBinary .floorDiv (integer (-7)) (integer 2) Option.none .assumed)
        (applyBinary .mod (integer (-7)) (integer 2) Option.none .assumed) ∧
      applyBinary .floorDiv (integer (-7)) (integer 2) Option.none .assumed = .ok (integer (-4)) ∧
      applyBinary .mod (integer (-7)) (integer 2) Option.none .assumed = .ok (integer 1) :=
  ⟨⟨rfl, rfl⟩, applyBinary_floorDiv rfl rfl Option.none .assumed, rfl, rfl⟩

end Value

end Offside
