import Offside.Progression

/-!
# Errors of a running program

Each way in which running a program can fail, with the values that its message
shows. Types stand in messages by their names.
-/

namespace Offside

/-- Why a program fails. -/
inductive RuntimeError where
  | undefinedVariable (name : String)
  | unsupportedOperands (op left right : String)
  | unsupportedUnary (op operand : String)
  | unsupportedComparison (op left right : String)
  | divisionByZero
  | integerOverflow (op : String)
  | notInteger (type : String)
  | notIterable (type : String)
  | notSubscriptable (type : String)
  | indexOutOfRange (index : Int64) (length : Nat) (type : String)
  | unknownAttribute (name type : String)
  | notCallable (type : String)
  | argumentCount (method : String) (expected found : Nat)
  | sequenceTooLong (length limit : Nat)
  | sequenceUnallocatable (length : Nat)
  | progression (fault : ProgressionFault)
  | stepLimitExceeded (limit : Nat)
  | loopControlOutsideLoop (keyword : String)
  deriving DecidableEq

/-- The message of an error. -/
def RuntimeError.message : RuntimeError → String
  | undefinedVariable name => s!"Undefined variable '{name}'"
  | unsupportedOperands op left right =>
      s!"Unsupported operand types for {op}: '{left}' and '{right}'"
  | unsupportedUnary op operand => s!"Bad operand type for unary {op}: '{operand}'"
  | unsupportedComparison op left right =>
      s!"'{op}' not supported between '{left}' and '{right}'"
  | divisionByZero => "Division by zero"
  | integerOverflow op => s!"Integer overflow in '{op}'"
  | notInteger type => s!"Expected integer, got {type}"
  | notIterable type => s!"Object of type {type} is not iterable"
  | notSubscriptable type => s!"Object of type {type} is not subscriptable"
  | indexOutOfRange index length type =>
      s!"Index {index.toInt} out of range for {type} of length {length}"
  | unknownAttribute name type => s!"Unknown attribute '{name}' for type {type}"
  | notCallable type => s!"Object of type {type} is not callable"
  | argumentCount method expected found =>
      s!"Method '{method}' expected {expected} arguments, got {found}"
  | sequenceTooLong length limit => s!"Sequence of length {length} exceeds limit {limit}"
  | sequenceUnallocatable length => s!"Sequence of length {length} cannot be allocated"
  | progression fault => fault.message
  | stepLimitExceeded limit => s!"Step limit of {limit} exceeded"
  | loopControlOutsideLoop keyword => s!"'{keyword}' outside loop"

end Offside
