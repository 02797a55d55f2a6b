import Offside.Run.Error
import Offside.Syntax.Expression
import Offside.Value

/-!
# Comparison

Equality is defined on all values, and looks through the types of numbers. An
order is defined on two numbers and on two texts; it is total save for floats
that are no numbers. `in` looks for an item in a list or a text in a text.
-/

namespace Offside

namespace Number

/-- Whether two numbers are equal; two integers are compared exactly. -/
def equals : Number → Number → Bool
  | integer left, integer right => left == right
  | left, right => left.toFloat == right.toFloat

/-- The order of two floats, if both are numbers. -/
def compareFloats? (left right : Float) : Option Ordering :=
  if left < right then some .lt
  else if left == right then some .eq
  else if right < left then some .gt
  else none

/-- The order of two numbers; two integers are compared exactly. -/
def compare? : Number → Number → Option Ordering
  | integer left, integer right => some (Ord.compare left.toInt right.toInt)
  | left, right => compareFloats? left.toFloat right.toFloat

end Number

namespace Value

mutual

/-- Whether two values are equal. -/
def equals : Value → Value → Bool
  | list left, list right => equalItems left right
  | text left, text right => left == right
  | builtin left, builtin right => left == right
  | method leftReceiver left, method rightReceiver right =>
      leftReceiver == rightReceiver && left == right
  | none, none => true
  | left, right =>
      match left.number?, right.number? with
      | some left, some right => left.equals right
      | _, _ => false

/-- Whether two lists have equal items at equal places. -/
def equalItems : List Value → List Value → Bool
  | [], [] => true
  | left :: laterLeft, right :: laterRight => equals left right && equalItems laterLeft laterRight
  | _, _ => false

end

/-- The order of two values, if they have one. -/
def compare? (left right : Value) : Option Ordering :=
  match left.number?, right.number?, left, right with
  | some left, some right, _, _ => left.compare? right
  | _, _, text left, text right => some (Ord.compare left right)
  | _, _, _, _ => Option.none

/-- Whether a value is in another. -/
def contains (container item : Value) : Except RuntimeError Bool :=
  match container, item with
  | text whole, text part => .ok (whole.contains part)
  | text _, item =>
      .error (.unsupportedOperands CompareOp.isIn.symbol item.typeName container.typeName)
  | list items, item => .ok (items.any (·.equals item))
  | container, _ => .error (.notIterable container.typeName)

/-- A text is in another if its characters stand there one after the other. -/
theorem contains_text_iff (whole part : String) :
    (text whole).contains (text part) = .ok true ↔ part.toList <:+: whole.toList := by
  rw [contains, Except.ok.injEq]
  exact String.contains_string_iff

/-- Whether the order of two values is one of `accepted`. -/
def ordered (op : CompareOp) (left right : Value) (accepted : List Ordering) :
    Except RuntimeError Bool :=
  match left.compare? right with
  | some ordering => .ok (accepted.contains ordering)
  | Option.none =>
      .error (.unsupportedComparison op.symbol left.typeName right.typeName)

/-- Whether a comparison of two values holds. -/
def applyCompare (op : CompareOp) (left right : Value) : Except RuntimeError Bool :=
  match op with
  | .equal => .ok (left.equals right)
  | .notEqual => .ok (!left.equals right)
  | .less => ordered op left right [.lt]
  | .lessEqual => ordered op left right [.lt, .eq]
  | .greater => ordered op left right [.gt]
  | .greaterEqual => ordered op left right [.gt, .eq]
  | .isIn => right.contains left
  | .notIn => (right.contains left).map (!·)

end Value

end Offside
