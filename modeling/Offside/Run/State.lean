import Offside.Run.Error
import Offside.Value

/-!
# The state of a running program

A running program has variables, lines that it has printed, and a count of the
steps it has taken, of which a counter shows what 64 bits can hold. A `Run` reads
and changes this state and gives a result, or stops: with an error, or unfinished
because it was not given enough rounds. Either way the state it stopped in is
kept.
-/

namespace Offside

/-- The variables of a program with their values, each name at most once. -/
structure Scope where
  bindings : List (String × Value) := []

namespace Scope

/-- The value that a name is bound to. -/
def find? (name : String) : List (String × Value) → Option Value
  | [] => none
  | (other, value) :: later => if name = other then some value else find? name later

/-- The bindings with one name bound to a value. -/
def bind (name : String) (value : Value) : List (String × Value) → List (String × Value)
  | [] => [(name, value)]
  | (other, old) :: later =>
      if name = other then (name, value) :: later else (other, old) :: bind name value later

/-- The value of a variable. -/
def get? (scope : Scope) (name : String) : Option Value :=
  find? name scope.bindings

/-- The scope after a variable has been given a value. -/
def set (scope : Scope) (name : String) (value : Value) : Scope :=
  ⟨bind name value scope.bindings⟩

/-- A variable has the value it was given last, and the others keep theirs. -/
theorem get?_set (scope : Scope) (name other : String) (value : Value) :
    (scope.set name value).get? other =
      if other = name then some value else scope.get? other := by
  simp only [get?, set]
  induction scope.bindings with
  | nil => rfl
  | cons first later inductionHypothesis =>
      obtain ⟨word, old⟩ := first
      by_cases found : name = word
      · subst found
        by_cases same : other = name <;> simp [bind, find?, same]
      · by_cases here : other = word
        · subst here
          simp [bind, find?, found, Ne.symm found]
        · simp [bind, find?, found, here, inductionHypothesis]

end Scope

/-- The state of a run. -/
structure State where
  scope : Scope := {}
  /-- The printed lines, latest first. -/
  printed : List String := []
  /-- The number of all steps taken. -/
  steps : Nat := 0

/-- The most steps that the counter of a run can show. -/
def mostSteps : Nat := UInt64.size - 1

namespace State

/-- The printed lines in their order. -/
def output (state : State) : List String :=
  state.printed.reverse

/-- What the counter of 64 bits shows of the steps; behind the most it can show it starts again
at zero. -/
def counter (state : State) : UInt64 :=
  .ofNat state.steps

/-- The counter never shows more steps than were taken. -/
theorem counter_le (state : State) : state.counter.toNat ≤ state.steps := by
  rw [counter, UInt64.toNat_ofNat']
  exact Nat.mod_le _ _

/-- The counter never shows more than it can. -/
theorem counter_le_mostSteps (state : State) : state.counter.toNat ≤ mostSteps :=
  Nat.le_pred_of_lt state.counter.toNat_lt

/-- As long as it can, the counter shows the steps. -/
theorem counter_of_le {state : State} (few : state.steps ≤ mostSteps) :
    state.counter.toNat = state.steps :=
  UInt64.toNat_ofNat_of_lt (Nat.lt_of_le_pred (by decide) few)

example : counter { steps := mostSteps + 1 } = 0 := by decide

end State

/-- Why a run stops before its end. -/
inductive Stop where
  | failed (error : RuntimeError)
  | unfinished

/-- A part of a run. -/
abbrev Run := EStateM Stop State

namespace Run

/-- Stops with an error. -/
def fail {α : Type} (error : RuntimeError) : Run α :=
  throw (.failed error)

/-- Goes on with a result, or stops with its error. -/
def ofExcept {α : Type} : Except RuntimeError α → Run α
  | .ok result => pure result
  | .error error => fail error

/-- Counts a step, and stops when the counter shows more than the limit. -/
def tick (limits : Resources) : Run Unit := do
  modify fun state => { state with steps := state.steps + 1 }
  match limits.steps? with
  | some limit => if limit < (← get).counter.toNat then fail (.stepLimitExceeded limit)
  | none => pure ()

/-- Prints a line. -/
def print (line : String) : Run Unit :=
  modify fun state => { state with printed := line :: state.printed }

/-- Gives a variable a value. -/
def assign (name : String) (value : Value) : Run Unit :=
  modify fun state => { state with scope := state.scope.set name value }

/-- The value of a name: a variable, or else a function that needs no definition. -/
def lookup (name : String) : Run Value := do
  match (← get).scope.get? name with
  | some value => pure value
  | none =>
      match Builtin.ofName? name with
      | some function => pure (.builtin function)
      | none => fail (.undefinedVariable name)

end Run

end Offside
