import Mathlib.Data.Rat.Floor
import Mathlib.Data.Rat.Cast.Order
import Offside.Proofs.Outcome
import Offside.Value.Arithmetic

/-!
# The remainder of integers

The remainder that belongs to the quotient rounded down is zero or has the sign of the
divisor, and is smaller than the divisor, so 64 bits always hold it. `%` finds it by way of
the quotient and of the product of divisor and quotient, which it checks too: it reports an
overflow where one of these does not fit, although the remainder does. Away from the ends of
the range that does not happen (`Value.applyBinary_mod_of_near_zero`).
-/

namespace Offside

namespace Number

/-- Whether 64 bits hold an integer. -/
def Fits (number : Int) : Prop :=
  Int64.minValue.toInt ≤ number ∧ number ≤ Int64.maxValue.toInt

instance (number : Int) : Decidable (Fits number) :=
  inferInstanceAs (Decidable (_ ∧ _))

/-- The value of an integer of 64 bits fits. -/
theorem fits_toInt (value : Int64) : Fits value.toInt :=
  ⟨value.minValue_le_toInt, value.toInt_le⟩

/-- Between two integers that fit everything fits. -/
theorem Fits.between {low number high : Int} (lowFits : Fits low) (highFits : Fits high)
    (above : low ≤ number) (below : number ≤ high) : Fits number :=
  ⟨lowFits.1.trans above, below.trans highFits.2⟩

/-- An integer that fits is the value of one of 64 bits. -/
theorem Fits.exists_toInt {number : Int} (fits : Fits number) :
    ∃ value : Int64, value.toInt = number :=
  ⟨Int64.ofInt number, fit?_eq_some_iff.mp (if_pos fits)⟩

end Number

namespace BinaryOp

/-- An integer that fits passes the check. -/
theorem checked_toInt (op : BinaryOp) (value : Int64) : op.checked value.toInt = .ok value := by
  unfold checked
  rw [Number.fit?_eq_some_iff.mpr rfl]

/-- An integer that does not fit is an overflow of the operator. -/
theorem checked_of_not_fits (op : BinaryOp) {number : Int} (wide : ¬ Number.Fits number) :
    op.checked number = .error (.integerOverflow op.symbol) := by
  have unheld : Number.fit? number = none := if_neg wide
  rw [checked, unheld]

end BinaryOp

namespace Number

/-- Quotients are rounded down. -/
theorem fdiv_eq_floor (dividend divisor : Int) :
    dividend.fdiv divisor = ⌊(dividend : ℚ) / divisor⌋ := by
  have ofNatural : ∀ (other : Int) (size : Nat), other.fdiv size = ⌊(other : ℚ) / size⌋ := by
    intro other size
    rw [Int.fdiv_eq_ediv_of_nonneg _ (Int.natCast_nonneg size), Rat.floor_intCast_div_natCast]
  obtain ⟨size, rfl | rfl⟩ := Int.eq_nat_or_neg divisor
  · simpa using ofNatural dividend size
  · rw [← Int.neg_fdiv_neg]
    simpa [div_neg, neg_div] using ofNatural (-dividend) size

/-- What is left of a dividend by the quotient rounded down is zero or has the sign of the
divisor, and is smaller than the divisor. -/
theorem remainder_bounds (dividend : Int) {divisor : Int} (nonzero : divisor ≠ 0) :
    (dividend.fmod divisor = 0 ∨ (dividend.fmod divisor).sign = divisor.sign) ∧
      |dividend.fmod divisor| < |divisor| := by
  rcases lt_or_gt_of_ne nonzero with negative | positive
  -- Turning both signs makes the divisor positive and turns the remainder.
  · have opposite : dividend.fmod divisor = -(-dividend).fmod (-divisor) := by
      rw [Int.neg_fmod_neg, Int.neg_neg]
    have least := Int.fmod_nonneg_of_pos (-dividend) (Int.neg_pos_of_neg negative)
    have most := Int.fmod_lt_of_pos (-dividend) (Int.neg_pos_of_neg negative)
    rw [abs_of_neg negative, abs_of_nonpos (by omega), Int.sign_eq_neg_one_of_neg negative,
      Int.sign_eq_neg_one_iff_neg]
    omega
  · have least := Int.fmod_nonneg_of_pos dividend positive
    have most := Int.fmod_lt_of_pos dividend positive
    rw [abs_of_pos positive, abs_of_nonneg least, Int.sign_eq_one_of_pos positive,
      Int.sign_eq_one_iff_pos]
    omega

/-- What is left of a dividend by a divisor that fits does so too. -/
theorem fits_remainder (dividend : Int) {divisor : Int} (nonzero : divisor ≠ 0)
    (divisorFits : Fits divisor) : Fits (dividend.fmod divisor) := by
  have smaller := (remainder_bounds dividend nonzero).2
  have zeroFits : Fits 0 := fits_toInt 0
  rcases (remainder_bounds dividend nonzero).1 with zero | sameSign
  · rwa [zero]
  · rcases lt_or_gt_of_ne nonzero with negative | positive
    · rw [Int.sign_eq_neg_one_of_neg negative, Int.sign_eq_neg_one_iff_neg] at sameSign
      rw [abs_of_neg negative, abs_of_neg sameSign] at smaller
      exact divisorFits.between zeroFits (by omega) (by omega)
    · rw [Int.sign_eq_one_of_pos positive, Int.sign_eq_one_iff_pos] at sameSign
      rw [abs_of_pos positive, abs_of_pos sameSign] at smaller
      exact zeroFits.between divisorFits (by omega) (by omega)

/-- The remainder by a divisor of 64 bits is itself an integer of 64 bits. -/
theorem exists_toInt_eq_fmod (dividend : Int) {divisor : Int64} (nonzero : divisor ≠ 0) :
    divisor.toInt ≠ 0 ∧ ∃ remainder : Int64, remainder.toInt = dividend.fmod divisor.toInt := by
  have valueNonzero : divisor.toInt ≠ 0 := fun zero => nonzero (Int64.toInt_inj.mp zero)
  exact ⟨valueNonzero, (fits_remainder dividend valueNonzero (fits_toInt divisor)).exists_toInt⟩

/-- Whether the way to a remainder stays within 64 bits: the quotient rounded down fits, and
so does its product with the divisor. -/
structure RemainderIsReached (dividend divisor : Int) : Prop where
  /-- The quotient fits. -/
  quotient : Fits ⌊(dividend : ℚ) / divisor⌋
  /-- The greatest multiple of the divisor that is subtracted fits. -/
  product : Fits (divisor * ⌊(dividend : ℚ) / divisor⌋)

/-- Away from the ends of the range the way to a remainder stays within 64 bits. -/
theorem remainderIsReached_of_near_zero {dividend divisor : Int} (nonzero : divisor ≠ 0)
    (near : |dividend| + |divisor| ≤ 2 ^ 63) : RemainderIsReached dividend divisor := by
  have smaller := (remainder_bounds dividend nonzero).2
  have whole : divisor * dividend.fdiv divisor = dividend - dividend.fmod divisor := by
    rw [Int.fmod_def]
    ring
  have productBound : |divisor * dividend.fdiv divisor| < 2 ^ 63 := by
    rw [whole]
    exact (abs_sub dividend (dividend.fmod divisor)).trans_lt (by omega)
  have quotientBound : |dividend.fdiv divisor| < 2 ^ 63 := by
    refine lt_of_le_of_lt ?_ productBound
    rw [abs_mul]
    exact le_mul_of_one_le_left (abs_nonneg _) (Int.one_le_abs nonzero)
  have fits : ∀ {number : Int}, |number| < 2 ^ 63 → Fits number := by
    intro number bound
    rw [abs_lt] at bound
    have least : Int64.minValue.toInt = -2 ^ 63 := by decide
    have greatest : Int64.maxValue.toInt = 2 ^ 63 - 1 := by decide
    unfold Fits
    omega
  rw [fdiv_eq_floor] at productBound quotientBound
  exact ⟨fits quotientBound, fits productBound⟩

end Number

namespace BinaryOp

/-- A remainder that is reached is the one that belongs to the quotient rounded down. -/
theorem applyIntegers_mod_of_reached {dividend divisor : Int64} (nonzero : divisor ≠ 0)
    (reached : Number.RemainderIsReached dividend.toInt divisor.toInt) {remainder : Int64}
    (exact : remainder.toInt = dividend.toInt.fmod divisor.toInt) :
    mod.applyIntegers dividend divisor = .ok (.integer remainder) := by
  obtain ⟨quotient, quotientIs⟩ := reached.quotient.exists_toInt
  obtain ⟨product, productIs⟩ := reached.product.exists_toInt
  rw [← quotientIs] at productIs
  rw [← Number.fdiv_eq_floor] at quotientIs
  simp only [applyIntegers, if_neg nonzero, bind_eq_ok_iff]
  refine ⟨quotient, quotientIs ▸ mod.checked_toInt quotient, product, ?_, remainder, ?_, rfl⟩
  · rw [Int.mul_comm, ← productIs, checked_toInt]
  · rw [productIs, quotientIs, ← Int.fmod_def, ← exact, checked_toInt]

/-- A remainder that is not reached is an overflow. -/
theorem applyIntegers_mod_of_not_reached {dividend divisor : Int64} (nonzero : divisor ≠ 0)
    (unreached : ¬ Number.RemainderIsReached dividend.toInt divisor.toInt) :
    mod.applyIntegers dividend divisor = .error (.integerOverflow "%") := by
  simp only [applyIntegers, if_neg nonzero, Number.fdiv_eq_floor]
  by_cases quotientFits : Number.Fits ⌊(dividend.toInt : ℚ) / divisor.toInt⌋
  · have productWide : ¬ Number.Fits (divisor.toInt * ⌊(dividend.toInt : ℚ) / divisor.toInt⌋) :=
      fun productFits => unreached ⟨quotientFits, productFits⟩
    obtain ⟨quotient, quotientIs⟩ := quotientFits.exists_toInt
    rw [← quotientIs, Int.mul_comm] at productWide
    rw [← quotientIs, checked_toInt]
    change (mod.checked (quotient.toInt * divisor.toInt) >>= _) = _
    rw [checked_of_not_fits mod productWide]
    rfl
  · rw [checked_of_not_fits mod quotientFits]
    rfl

end BinaryOp

namespace Value

/-- The operators on values that count as integers are those on integers. -/
theorem applyBinary_of_integer? (op : BinaryOp) {left right : Value} {first second : Int64}
    (leftCounts : left.integer? = some first) (rightCounts : right.integer? = some second)
    (limit? : Option Nat) (memory : Memory) :
    applyBinary op left right limit? memory = op.applyIntegers first second := by
  simp only [applyBinary, number?_of_integer? leftCounts, number?_of_integer? rightCounts,
    BinaryOp.applyNumbers]

/-- The remainder of integers and truth values. It always exists unless the divisor is zero, and
`%` gives it where the quotient and the product on the way to it fit. -/
theorem applyBinary_mod {left right : Value} {dividend divisor : Int64}
    (leftCounts : left.integer? = some dividend) (rightCounts : right.integer? = some divisor)
    (limit? : Option Nat) (memory : Memory) :
    (divisor = 0 → applyBinary .mod left right limit? memory = .error .divisionByZero) ∧
      (divisor ≠ 0 → ∃ remainder : Int64,
        remainder.toInt =
          dividend.toInt - divisor.toInt * ⌊(dividend.toInt : ℚ) / divisor.toInt⌋ ∧
        (remainder.toInt = 0 ∨ remainder.toInt.sign = divisor.toInt.sign) ∧
        |remainder.toInt| < |divisor.toInt| ∧
        (Number.RemainderIsReached dividend.toInt divisor.toInt →
          applyBinary .mod left right limit? memory = .ok (.integer remainder)) ∧
        (¬ Number.RemainderIsReached dividend.toInt divisor.toInt →
          applyBinary .mod left right limit? memory = .error (.integerOverflow "%"))) := by
  rw [applyBinary_of_integer? .mod leftCounts rightCounts]
  constructor
  · intro zero
    exact if_pos zero
  · intro nonzero
    obtain ⟨divisorNonzero, remainder, remainderIs⟩ :=
      Number.exists_toInt_eq_fmod dividend.toInt nonzero
    refine ⟨remainder, ?_, ?_, ?_, ?_, ?_⟩
    · rw [remainderIs, Int.fmod_def, Number.fdiv_eq_floor]
    · rw [remainderIs]
      exact (Number.remainder_bounds dividend.toInt divisorNonzero).1
    · rw [remainderIs]
      exact (Number.remainder_bounds dividend.toInt divisorNonzero).2
    · intro reached
      exact BinaryOp.applyIntegers_mod_of_reached nonzero reached remainderIs
    · intro unreached
      exact BinaryOp.applyIntegers_mod_of_not_reached nonzero unreached

/-- The least integer leaves nothing over a truth value. -/
theorem applyBinary_mod_true :
    applyBinary .mod (integer Int64.minValue) (boolean true) Option.none .assumed =
      .ok (integer 0) := by
  obtain ⟨remainder, remainderIs, -, -, reached, -⟩ :=
    (applyBinary_mod (show (integer Int64.minValue).integer? = some Int64.minValue from rfl)
      (show (boolean true).integer? = some 1 from rfl) Option.none .assumed).2 (by decide)
  have whole : ⌊(Int64.minValue.toInt : ℚ) / (1 : Int64).toInt⌋ = Int64.minValue.toInt := by
    rw [← Number.fdiv_eq_floor]
    decide
  have zero : remainder = 0 := by
    rw [← Int64.toInt_inj, remainderIs, whole]
    decide
  rw [reached ⟨by rw [whole]; decide, by rw [whole]; decide⟩, zero]

/-- The greatest integer has the remainder -2 by -3, but `%` reports an overflow. -/
theorem applyBinary_mod_maxValue :
    applyBinary .mod (integer Int64.maxValue) (integer (-3)) Option.none .assumed =
        .error (.integerOverflow "%") ∧
      Int64.maxValue.toInt -
        (-3 : Int64).toInt * ⌊(Int64.maxValue.toInt : ℚ) / (-3 : Int64).toInt⌋ = -2 := by
  rw [← Number.fdiv_eq_floor]
  exact ⟨rfl, by decide⟩

/-- Away from the ends of the range `%` gives the remainder. -/
theorem applyBinary_mod_of_near_zero {left right : Value} {dividend divisor : Int64}
    (leftCounts : left.integer? = some dividend) (rightCounts : right.integer? = some divisor)
    (nonzero : divisor ≠ 0) (near : |dividend.toInt| + |divisor.toInt| ≤ 2 ^ 63)
    (limit? : Option Nat) (memory : Memory) :
    ∃ remainder, applyBinary .mod left right limit? memory = .ok (.integer remainder) ∧
      remainder.toInt = dividend.toInt.fmod divisor.toInt := by
  obtain ⟨divisorNonzero, remainder, remainderIs⟩ :=
    Number.exists_toInt_eq_fmod dividend.toInt nonzero
  refine ⟨remainder, ?_, remainderIs⟩
  rw [applyBinary_of_integer? .mod leftCounts rightCounts]
  exact BinaryOp.applyIntegers_mod_of_reached nonzero
    (Number.remainderIsReached_of_near_zero divisorNonzero near) remainderIs

end Value

end Offside
