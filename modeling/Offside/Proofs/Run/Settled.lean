import Offside.Run.Evaluation

/-!
# Operations take no steps

Operations on values are done within a single step and know nothing of loops, so none of them
can exceed a limit on steps or be the control of a loop outside of one. A result that is
neither is settled.
-/

namespace Offside

/-- Whether an error comes from the course of a run and from no operation in it. -/
@[simp]
def RuntimeError.isOfCourse : RuntimeError → Bool
  | stepLimitExceeded _ | loopControlOutsideLoop _ => true
  | _ => false

/-- Whether a result is no error of the course of a run. -/
def Settled {α : Type} (result : Except RuntimeError α) : Prop :=
  ∀ error, result = .error error → error.isOfCourse = false

namespace Settled

variable {α β : Type}

/-- A value is settled. -/
theorem ok (value : α) : Settled (.ok value) :=
  fun _ same => nomatch same

/-- An error that is not of the course of a run is settled. -/
theorem error {error : RuntimeError} (other : error.isOfCourse = false) :
    Settled (.error error : Except RuntimeError α) := by
  rintro _ ⟨⟩
  exact other

/-- Two settled operations one after the other are settled. -/
theorem bind {first : Except RuntimeError α} {next : α → Except RuntimeError β}
    (firstSettled : Settled first) (nextSettled : ∀ value, Settled (next value)) :
    Settled (first >>= next) := by
  cases first with
  | ok value => exact nextSettled value
  | error error => exact .error (firstSettled error rfl)

/-- A choice between settled results is settled. -/
theorem ite {condition : Prop} [Decidable condition] {first second : Except RuntimeError α}
    (firstSettled : Settled first) (secondSettled : Settled second) :
    Settled (if condition then first else second) := by
  split
  · exact firstSettled
  · exact secondSettled

/-- What is made of the value of a settled result is settled. -/
theorem map {result : Except RuntimeError α} (settled : Settled result) (make : α → β) :
    Settled (result.map make) :=
  settled.bind fun value => .ok (make value)

end Settled

/-! ### Single values -/

/-- What `range` makes of its bounds. -/
def Progression.value (bounds : List Int64) (limit? : Option Nat) (memory : Memory) :
    Except RuntimeError Value :=
  match Progression.ofBounds bounds limit? memory with
  | .ok terms => .ok (.list (terms.map .integer))
  | .error fault => .error (.progression fault)

/-- No progression is an excess of steps. -/
theorem Progression.settled_value (bounds : List Int64) (limit? : Option Nat) (memory : Memory) :
    Settled (Progression.value bounds limit? memory) := by
  unfold Progression.value
  split
  · exact .ok _
  · exact .error (by simp)

/-- Bounds of a progression are integers or not. -/
theorem settled_integers (values : List Value) : Settled (integers values) := by
  unfold integers
  induction values with
  | nil => exact .ok []
  | cons value later inductionHypothesis =>
      rw [List.mapM_cons]
      refine .bind ?_ fun number => inductionHypothesis.bind fun numbers => .ok _
      split
      · exact .ok _
      · exact .error (by simp)

namespace Value

/-- Attributes are there or not. -/
theorem settled_member (object : Value) (name : String) : Settled (object.member name) := by
  unfold member
  split
  · exact .ok _
  · exact .error (by simp)

/-- A value can be iterated over or not. -/
theorem settled_iterate (value : Value) : Settled value.iterate := by
  unfold iterate
  split
  · exact .ok _
  · exact .error (by simp)

/-- An item is there or not. -/
theorem settled_subscript (value index : Value) : Settled (value.subscript index) := by
  unfold subscript
  split
  · exact .error (by simp)
  · split
    · exact .error (by simp)
    · split
      · exact .ok _
      · exact .error (by simp)

/-- An operator with one operand is defined or not. -/
theorem settled_applyUnary (op : UnaryOp) (operand : Value) : Settled (applyUnary op operand) := by
  unfold applyUnary
  split
  case h_5 =>
    split
    · exact .ok _
    · exact .error (by simp)
  case h_4 | h_7 => exact .error (by simp)
  all_goals exact .ok _

/-- Values can be compared or not. -/
theorem settled_applyCompare (op : CompareOp) (left right : Value) :
    Settled (applyCompare op left right) := by
  have ordered : ∀ accepted, Settled (Value.ordered op left right accepted) := by
    intro accepted
    unfold Value.ordered
    split
    · exact .ok _
    · exact .error (by simp)
  have contains : Settled (right.contains left) := by
    unfold Value.contains
    split
    · exact .ok _
    · exact .error (by simp)
    · exact .ok _
    · exact .error (by simp)
  cases op with
  | equal | notEqual => exact .ok _
  | less | lessEqual | greater | greaterEqual => exact ordered _
  | isIn => exact contains
  | notIn => exact contains.map _

end Value

/-! ### Arithmetic -/

namespace BinaryOp

variable (op : BinaryOp)

/-- An integer fits or overflows. -/
theorem settled_checked (number : Int) : Settled (op.checked number) := by
  unfold checked
  split
  · exact .ok _
  · exact .error (by simp)

/-- Arithmetic on integers overflows or divides by zero at worst. -/
theorem settled_applyIntegers (left right : Int64) : Settled (op.applyIntegers left right) := by
  have fits : ∀ (op : BinaryOp) (number : Int),
      Settled (do .ok (Value.integer (← op.checked number))) :=
    fun op number => (op.settled_checked number).bind fun _ => .ok _
  have zero : Settled (.error .divisionByZero : Except RuntimeError Value) := .error (by simp)
  unfold applyIntegers
  split
  case h_1 | h_2 | h_3 => exact fits _ _
  case h_4 => exact .ite zero (.ok _)
  case h_5 => exact .ite zero (fits _ _)
  case h_6 =>
    refine .ite zero ((settled_checked _ _).bind fun quotient => ?_)
    exact (settled_checked _ _).bind fun product => fits _ _

/-- Arithmetic on floats divides by zero at worst. -/
theorem settled_applyFloats (left right : Float) : Settled (op.applyFloats left right) := by
  have zero : Settled (.error .divisionByZero : Except RuntimeError Value) := .error (by simp)
  unfold applyFloats
  split
  case h_1 | h_2 | h_3 => exact .ok _
  case h_4 | h_5 | h_6 => exact .ite zero (.ok _)

/-- Arithmetic on numbers is done on integers or on floats. -/
theorem settled_applyNumbers (left right : Number) : Settled (op.applyNumbers left right) := by
  unfold applyNumbers
  split
  · exact op.settled_applyIntegers _ _
  · exact op.settled_applyFloats _ _

end BinaryOp

namespace Value

variable {limit? : Option Nat} {memory : Memory}

/-- A length is allowed or not. -/
theorem settled_checkLength (length : Nat) : Settled (checkLength length limit?) := by
  unfold checkLength
  split
  · exact .ite (.error (by simp)) (.ok _)
  · exact .ok _

/-- Items can be repeated or are too many. -/
theorem settled_repeatItems {α : Type} (element : Element) (size : Nat) (items : List α)
    (count : Int64) : Settled (repeatItems element size items count limit? memory) := by
  unfold repeatItems
  refine .ite (.ok _) ((settled_checkLength _).bind fun _ => ?_)
  exact .ite (.ok _) (.error (by simp))

/-- A sequence times a count is settled where it is defined. -/
theorem settled_times? {sequence count : Value} {result : Except RuntimeError Value}
    (found : times? sequence count limit? memory = some result) : Settled result := by
  unfold times? at found
  split at found
  · cases found
    exact (settled_repeatItems _ _ _ _).bind fun _ => .ok _
  · cases found
    exact (settled_repeatItems _ _ _ _).bind fun _ => .ok _
  · cases found

/-- One sequence after another is settled where that is defined. -/
theorem settled_join? {left right : Value} {result : Except RuntimeError Value}
    (found : join? left right limit? = some result) : Settled result := by
  unfold join? at found
  split at found
  · cases found
    exact (settled_checkLength _).bind fun _ => .ok _
  · cases found
    exact (settled_checkLength _).bind fun _ => .ok _
  · cases found

/-- What an operator of arithmetic makes of two sequences, if it is defined there. -/
def sequence? (op : BinaryOp) (left right : Value) (limit? : Option Nat) (memory : Memory) :
    Option (Except RuntimeError Value) :=
  match op with
  | .add => join? left right limit?
  | .mul => (times? left right limit? memory).or (times? right left limit? memory)
  | _ => Option.none

/-- Operators are tried on numbers before sequences. -/
theorem applyBinary_eq (op : BinaryOp) (left right : Value) (limit? : Option Nat)
    (memory : Memory) : applyBinary op left right limit? memory =
      match left.number?, right.number? with
      | some left, some right => op.applyNumbers left right
      | _, _ => (sequence? op left right limit? memory).getD
          (.error (.unsupportedOperands op.symbol left.typeName right.typeName)) := by
  unfold applyBinary sequence?
  rfl

/-- Operators of arithmetic are settled. -/
theorem settled_applyBinary (op : BinaryOp) (left right : Value) :
    Settled (applyBinary op left right limit? memory) := by
  rw [applyBinary_eq]
  split
  · exact op.settled_applyNumbers _ _
  · cases found : sequence? op left right limit? memory with
    | none => exact .error (by simp)
    | some result =>
        unfold sequence? at found
        split at found
        · exact settled_join? found
        · rcases Option.or_eq_some_iff.mp found with here | ⟨-, here⟩
          · exact settled_times? here
          · exact settled_times? here
        · cases found

end Value

end Offside
