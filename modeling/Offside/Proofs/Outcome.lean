/-!
# Steps that may fail

A computation that is made of two steps gives a result exactly when both steps
do. `bind_eq_ok_iff` takes such a computation apart. Two computations that go side
by side agree when they end alike; `Agree.bind` puts agreeing steps together.
-/

namespace Offside

/-- Two steps give a result exactly when the first gives a value and the second, from that
value, the result. -/
theorem bind_eq_ok_iff {ε α β : Type} {first : Except ε α} {next : α → Except ε β} {result : β} :
    (first >>= next) = .ok result ↔ ∃ value, first = .ok value ∧ next value = .ok result := by
  cases first with
  | error error => simp [bind, Except.bind]
  | ok value => simp [bind, Except.bind]

/-- Two computations agree when both give results that `values` relates, or both fail with errors
that `errors` relates. -/
inductive Agree {ε η α β : Type} (errors : ε → η → Prop) (values : α → β → Prop) :
    Except ε α → Except η β → Prop where
  | ok {value : α} {other : β} (related : values value other) :
      Agree errors values (.ok value) (.ok other)
  | error {error : ε} {other : η} (related : errors error other) :
      Agree errors values (.error error) (.error other)

namespace Agree

section

variable {ε η α β γ δ : Type} {errors : ε → η → Prop} {middle : α → β → Prop}
  {values : γ → δ → Prop} {first : Except ε α} {other : Except η β}

/-- Computations whose first steps agree, and whose further steps agree then, agree. -/
theorem bind (agree : Agree errors middle first other) {next : α → Except ε γ}
    {otherNext : β → Except η δ}
    (further : ∀ value otherValue, middle value otherValue →
      Agree errors values (next value) (otherNext otherValue)) :
    Agree errors values (first >>= next) (other >>= otherNext) := by
  cases agree with
  | ok related => exact further _ _ related
  | error related => exact .error related

/-- Computations that agree also agree in what follows from that. -/
theorem mono (agree : Agree errors middle first other) {further : ε → η → Prop}
    {wider : α → β → Prop} (forErrors : ∀ error other, errors error other → further error other)
    (forValues : ∀ value other, middle value other → wider value other) :
    Agree further wider first other := by
  cases agree with
  | ok related => exact .ok (forValues _ _ related)
  | error related => exact .error (forErrors _ _ related)

/-- What agrees with a result is a result. -/
theorem of_ok {value : α} (agree : Agree errors middle (.ok value) other) :
    ∃ otherValue, other = .ok otherValue ∧ middle value otherValue := by
  cases agree with
  | ok related => exact ⟨_, rfl, related⟩

/-- What agrees with a failure is a failure. -/
theorem of_error {error : ε} (agree : Agree errors middle (.error error) other) :
    ∃ otherError, other = .error otherError ∧ errors error otherError := by
  cases agree with
  | error related => exact ⟨_, rfl, related⟩

end

/-- What agrees with a computation up to functions on results and errors is given by these. -/
theorem eq_map {ε η α β : Type} {first : Except ε α} {other : Except η β} {onErrors : ε → η}
    {onValues : α → β} (agree : Agree (fun error otherError => otherError = onErrors error)
      (fun value otherValue => otherValue = onValues value) first other) :
    other = (first.map onValues).mapError onErrors := by
  cases agree with
  | ok related => exact congrArg Except.ok related
  | error related => exact congrArg Except.error related

/-- Computations that agree in everything are the same. -/
theorem eq {ε α : Type} {first other : Except ε α} (agree : Agree Eq Eq first other) :
    first = other := by
  cases agree with
  | ok related => rw [related]
  | error related => rw [related]

end Agree

end Offside
