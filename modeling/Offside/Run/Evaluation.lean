import Offside.Run.State
import Offside.Value.Arithmetic
import Offside.Value.Comparison
import Offside.Value.Sequence

/-!
# Evaluating expressions

The operands of an expression are evaluated from the left, each at most once. A
logical operator leaves its right operand alone when the left one decides, and
a chain of comparisons ends with the first pair that does not hold.
-/

namespace Offside

/-- The integers of the bounds of a progression. -/
def integers (values : List Value) : Except RuntimeError (List Int64) :=
  values.mapM fun value =>
    match value.integer? with
    | some number => .ok number
    | none => .error (.notInteger value.typeName)

/-- Calls a value. -/
def Value.invoke (limits : Resources) (callee : Value) (arguments : List Value) : Run Value :=
  match callee with
  | .builtin .print => do
      Run.print (" ".intercalate (arguments.map display))
      pure none
  | .builtin .range => do
      let bounds ← Run.ofExcept (integers arguments)
      match Progression.ofBounds bounds limits.range? limits.memory with
      | .ok terms => pure (list (terms.map integer))
      | .error fault => Run.fail (.progression fault)
  | .method receiver called =>
      if arguments.isEmpty then pure (text (called.apply receiver))
      else Run.fail (.argumentCount called.name 0 arguments.length)
  | other => Run.fail (.notCallable other.typeName)

/-- An attribute of a value. -/
def Value.member (object : Value) (name : String) : Except RuntimeError Value :=
  match object, TextMethod.ofName? name with
  | text receiver, some called => .ok (method receiver called)
  | object, _ => .error (.unknownAttribute name object.typeName)

namespace Expression

mutual

/-- The value of an expression. -/
def eval (limits : Resources) : Expression → Run Value
  | integer value => pure (.integer value)
  | float value => pure (.float value.toFloat)
  | text content => pure (.text content)
  | boolean value => pure (.boolean value)
  | none => pure .none
  | name word => Run.lookup word
  | list elements => do pure (.list (← evalAll limits elements))
  | index object position => do
      let object ← eval limits object
      let position ← eval limits position
      Run.ofExcept (object.subscript position)
  | member object word => do
      let object ← eval limits object
      Run.ofExcept (object.member word)
  | call callee arguments => do
      let callee ← eval limits callee
      let arguments ← evalAll limits arguments
      callee.invoke limits arguments
  | unary op operand => do
      let operand ← eval limits operand
      Run.ofExcept (Value.applyUnary op operand)
  | binary left op right => do
      let left ← eval limits left
      let right ← eval limits right
      Run.ofExcept (Value.applyBinary op left right limits.sequence? limits.memory)
  | compare left links => do
      let left ← eval limits left
      pure (.boolean (← evalLinks limits left links))
  | logical left op right => do
      let left ← eval limits left
      match op, left.isTruthy with
      | .and, false | .or, true => pure left
      | _, _ => eval limits right

/-- The values of expressions, in their order. -/
def evalAll (limits : Resources) : List Expression → Run (List Value)
  | [] => pure []
  | first :: later => do
      let value ← eval limits first
      let values ← evalAll limits later
      pure (value :: values)

/-- Whether the comparisons that follow a value all hold. -/
def evalLinks (limits : Resources) (left : Value) : List (CompareOp × Expression) → Run Bool
  | [] => pure true
  | (op, right) :: later => do
      let right ← eval limits right
      if ← Run.ofExcept (Value.applyCompare op left right) then evalLinks limits right later
      else pure false

end

/-- Whether an expression that stands as a condition holds. -/
def holds (limits : Resources) (condition : Expression) : Run Bool := do
  return (← condition.eval limits).isTruthy

end Expression

end Offside
