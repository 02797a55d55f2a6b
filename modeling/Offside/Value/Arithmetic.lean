import Offside.Run.Error
import Offside.Syntax.Expression
import Offside.Value

/-!
# Arithmetic

Operators on integers are exact or fail, and with a float on either side they
are done on floats. `//` rounds towards negative infinity, on integers and on
floats. Texts and lists can be joined by `+` and repeated by `*`, and repeating them asks for
memory.
-/

namespace Offside

/-- The integer, if 64 bits hold it. -/
def Number.fit? (number : Int) : Option Int64 :=
  if Int64.minValue.toInt ≤ number ∧ number ≤ Int64.maxValue.toInt then some (Int64.ofInt number)
  else none

/-- Exactly the integers that 64 bits hold fit, and they keep their value. -/
theorem Number.fit?_eq_some_iff {number : Int} {value : Int64} :
    Number.fit? number = some value ↔ value.toInt = number := by
  unfold Number.fit?
  constructor
  · intro fits
    split at fits
    · next bounds =>
        cases fits
        exact Int64.toInt_ofInt_of_le bounds.1 (Int.lt_add_one_of_le bounds.2)
    · cases fits
  · rintro rfl
    have bounds := And.intro value.minValue_le_toInt value.toInt_le
    rw [if_pos bounds, Int64.ofInt_toInt]

namespace BinaryOp

/-- The integer, if 64 bits hold it, and else the overflow of the operator. -/
def checked (op : BinaryOp) (number : Int) : Except RuntimeError Int64 :=
  match Number.fit? number with
  | some value => .ok value
  | none => .error (.integerOverflow op.symbol)

/-- The operator on two integers. The remainder is found by way of the quotient and of the
product of quotient and divisor, which have to fit too. -/
def applyIntegers (op : BinaryOp) (left right : Int64) : Except RuntimeError Value := do
  match op with
  | add => .ok (.integer (← op.checked (left.toInt + right.toInt)))
  | sub => .ok (.integer (← op.checked (left.toInt - right.toInt)))
  | mul => .ok (.integer (← op.checked (left.toInt * right.toInt)))
  | div =>
      if right = 0 then .error .divisionByZero
      else .ok (.float (left.toFloat / right.toFloat))
  | floorDiv =>
      if right = 0 then .error .divisionByZero
      else .ok (.integer (← op.checked (left.toInt.fdiv right.toInt)))
  | mod =>
      if right = 0 then .error .divisionByZero
      else
        let quotient ← op.checked (left.toInt.fdiv right.toInt)
        let product ← op.checked (quotient.toInt * right.toInt)
        .ok (.integer (← op.checked (left.toInt - product.toInt)))

/-- The operator on two floats. -/
def applyFloats (op : BinaryOp) (left right : Float) : Except RuntimeError Value :=
  match op with
  | add => .ok (.float (left + right))
  | sub => .ok (.float (left - right))
  | mul => .ok (.float (left * right))
  | div => if right == 0 then .error .divisionByZero else .ok (.float (left / right))
  | floorDiv =>
      if right == 0 then .error .divisionByZero else .ok (.float (left / right).floor)
  | mod =>
      if right == 0 then .error .divisionByZero
      else .ok (.float (left - right * (left / right).floor))

/-- The operator on two numbers. -/
def applyNumbers (op : BinaryOp) : Number → Number → Except RuntimeError Value
  | .integer left, .integer right => op.applyIntegers left right
  | left, right => op.applyFloats left.toFloat right.toFloat

end BinaryOp

namespace Value

/-- Makes sure that a sequence of some length may be made. -/
def checkLength (length : Nat) (limit? : Option Nat) : Except RuntimeError Unit :=
  match limit? with
  | some limit => if limit < length then .error (.sequenceTooLong length limit) else .ok ()
  | Option.none => .ok ()

/-- Some items several times over. -/
def repeated {α : Type} (items : List α) (count : Nat) : List α :=
  (List.replicate count items).flatten

/-- Repeating multiplies the length. -/
theorem length_repeated {α : Type} (items : List α) (count : Nat) :
    (repeated items count).length = items.length * count := by
  simp [repeated, Nat.mul_comm]

/-- Some items `count` times over, and none of them for a count below zero. Memory is asked for
`count` times the `size` elements that the items take up. -/
def repeatItems {α : Type} (element : Element) (size : Nat) (items : List α) (count : Int64)
    (limit? : Option Nat) (memory : Memory) : Except RuntimeError (List α) := do
  let count := count.toInt.toNat
  let length := items.length * count
  if length = 0 then .ok []
  else
    checkLength length limit?
    if memory.grants element (size * count) then .ok (repeated items count)
    else .error (.sequenceUnallocatable length)

/-- A sequence times a count, if the two values are these. -/
def times? (sequence count : Value) (limit? : Option Nat) (memory : Memory) :
    Option (Except RuntimeError Value) :=
  match sequence, count.integer? with
  | text content, some count => some do
      let made ← repeatItems .byte content.utf8ByteSize content.toList count limit? memory
      .ok (text (String.ofList made))
  | list items, some count => some do
      .ok (list (← repeatItems .item items.length items count limit? memory))
  | _, _ => Option.none

/-- One sequence after another, if the two values are sequences of one type. -/
def join? (left right : Value) (limit? : Option Nat) : Option (Except RuntimeError Value) :=
  match left, right with
  | text left, text right => some do
      checkLength (left.length + right.length) limit?
      .ok (text (left ++ right))
  | list left, list right => some do
      checkLength (left.length + right.length) limit?
      .ok (list (left ++ right))
  | _, _ => Option.none

/-- What an operator of arithmetic makes of two values; `limit?` bounds the length of a
sequence it makes, and `memory` has to have room for it. -/
def applyBinary (op : BinaryOp) (left right : Value) (limit? : Option Nat) (memory : Memory) :
    Except RuntimeError Value :=
  match left.number?, right.number? with
  | some left, some right => op.applyNumbers left right
  | _, _ =>
      let sequence? :=
        match op with
        | .add => join? left right limit?
        | .mul => (times? left right limit? memory).or (times? right left limit? memory)
        | _ => Option.none
      sequence?.getD (.error (.unsupportedOperands op.symbol left.typeName right.typeName))

/-- What an operator with one operand makes of a value. -/
def applyUnary (op : UnaryOp) (operand : Value) : Except RuntimeError Value :=
  match op, operand.number? with
  | .not, _ => .ok (boolean (!operand.isTruthy))
  | .plus, some (.integer value) => .ok (integer value)
  | .plus, some (.float value) => .ok (float value)
  | .plus, Option.none => .error (.unsupportedUnary "+" operand.typeName)
  | .negate, some (.integer value) =>
      match Number.fit? (-value.toInt) with
      | some negated => .ok (integer negated)
      | Option.none => .error (.integerOverflow "-")
  | .negate, some (.float value) => .ok (float (-value))
  | .negate, Option.none => .error (.unsupportedUnary "-" operand.typeName)

end Value

end Offside
