import Offside.Proofs.Run.Related

/-!
# Evaluating an expression only prints

What an expression evaluates to, and which lines it prints meanwhile, depends on the variables
alone: neither the lines that are there already nor the steps that have been taken are looked
at, and nothing but lines is left behind. `Run.EndsWith` says this of a part of a run in
states with some variables, and it is carried through every expression
(`Expression.onlyPrints_eval`).
-/

namespace Offside

/-- Whether two states have the same variables with the same values. -/
def State.SameVariables (state other : State) : Prop :=
  ∀ name, other.scope.get? name = state.scope.get? name

/-- The state with some more lines printed. -/
def State.printing (state : State) (lines : List String) : State :=
  { state with printed := lines.reverse ++ state.printed }

namespace State

variable (state : State) (lines more : List String)

@[simp]
theorem output_printing : (state.printing lines).output = state.output ++ lines := by
  rw [output, output, printing, List.reverse_append, List.reverse_reverse]

/-- Lines are printed one after the other. -/
theorem printing_printing :
    (state.printing lines).printing more = state.printing (lines ++ more) := by
  simp only [printing, List.reverse_append, List.append_assoc]

variable {state} {lines more}

/-- A state has its own variables. -/
theorem SameVariables.refl : state.SameVariables state :=
  fun _ => rfl

/-- Printing leaves the variables alone. -/
theorem SameVariables.printing {other : State} (same : state.SameVariables other) :
    state.SameVariables (other.printing lines) :=
  same

end State

namespace Run

variable {α β : Type} {part : Run α} {next : α → Run β} {state other : State}
  {result : Except RuntimeError α} {lines more : List String}

/-- The value that a part of a run gives in a state, or why it stops there. -/
def outcome (part : Run α) (state : State) : Except Stop α :=
  match part state with
  | .ok value _ => .ok value
  | .error stop _ => .error stop

/-- The lines that a part of a run adds to those of a state. -/
def printed (part : Run α) (state : State) : List String :=
  (stateOf (part state)).output.drop state.output.length

/-- Whether a part of a run has a result and prints some lines in every state with the variables of
`state`, and does nothing else there. -/
def EndsWith (part : Run α) (state : State) (result : Except RuntimeError α)
    (lines : List String) : Prop :=
  ∀ other, state.SameVariables other → part other = ofExcept result (other.printing lines)

/-- Whether a part of a run does nothing but print, and looks at nothing but variables. -/
def OnlyPrints (part : Run α) : Prop :=
  ∀ state, ∃ result lines, part.EndsWith state result lines

namespace EndsWith

/-- A part of a run that is fixed in a state ends so in that state. -/
theorem here (ends : part.EndsWith state result lines) :
    part state = ofExcept result (state.printing lines) :=
  ends state .refl

/-- A part of a run that is fixed changes the state by printing its lines. -/
theorem stateOf_eq (ends : part.EndsWith state result lines) :
    stateOf (part state) = state.printing lines := by
  rw [ends.here]
  cases result <;> rfl

/-- The result of a part of a run that is fixed is its outcome. -/
theorem outcome_eq (ends : part.EndsWith state result lines) :
    part.outcome state = result.mapError .failed := by
  rw [outcome, ends.here]
  cases result <;> rfl

/-- The lines of a part of a run that is fixed are those that it adds. -/
theorem printed_eq (ends : part.EndsWith state result lines) : part.printed state = lines := by
  rw [printed, ends.stateOf_eq, State.output_printing, List.drop_left]

/-- A part that is fixed by its result and its lines is known in each state. -/
theorem eq_of_same {other : Run α} (ends : part.EndsWith state result lines)
    (same : other.EndsWith state result lines) : part state = other state :=
  ends.here.trans same.here.symm

/-- An operation has its result and prints nothing. -/
theorem ofExcept (result : Except RuntimeError α) (state : State) :
    EndsWith (Run.ofExcept result) state result [] :=
  fun _ _ => rfl

/-- Where the first of two parts fails, nothing more is done. -/
theorem bind_error {error : RuntimeError} (first : part.EndsWith state (.error error) lines)
    (next : α → Run β) : EndsWith (part >>= next) state (.error error) lines := by
  intro other same
  exact bind_eq_of_error (first other same)

/-- Behind the value of the first of two parts, the second one goes on printing. -/
theorem bind_ok {value : α} {result : Except RuntimeError β}
    (first : part.EndsWith state (.ok value) lines)
    (second : (next value).EndsWith state result more) :
    EndsWith (part >>= next) state result (lines ++ more) := by
  intro other same
  have rest := second (other.printing lines) same.printing
  rw [State.printing_printing] at rest
  exact (bind_eq_of_ok (first other same)).trans rest

/-- Where the second of two parts prints nothing, the lines of the first one are all. -/
theorem bind_silent {value : α} {result : Except RuntimeError β}
    (first : part.EndsWith state (.ok value) lines)
    (second : (next value).EndsWith state result []) :
    EndsWith (part >>= next) state result lines := by
  have both := first.bind_ok second
  rwa [List.append_nil] at both

/-- Where an operation fails, nothing more is done. -/
theorem ofExcept_error {operation : Except RuntimeError α} {error : RuntimeError}
    (fails : operation = .error error) (state : State) (next : α → Run β) :
    EndsWith (Run.ofExcept operation >>= next) state (.error error) [] := by
  rw [fails]
  exact fun _ _ => rfl

/-- Behind the value of an operation, what is done with the value ends the two. -/
theorem ofExcept_ok {operation : Except RuntimeError α} {value : α}
    {result : Except RuntimeError β} (gives : operation = .ok value)
    (second : (next value).EndsWith state result lines) :
    EndsWith (Run.ofExcept operation >>= next) state result lines := by
  rw [gives]
  exact second

end EndsWith

namespace OnlyPrints

/-- An operation prints nothing. -/
theorem ofExcept (result : Except RuntimeError α) : OnlyPrints (Run.ofExcept result) :=
  fun state => ⟨result, [], .ofExcept result state⟩

/-- Two parts that only print do so one after the other. -/
theorem bind {has : α → Prop} (first : part.OnlyPrints) (gives : Gives has part)
    (second : ∀ value, has value → (next value).OnlyPrints) : OnlyPrints (part >>= next) := by
  intro state
  obtain ⟨result, lines, ends⟩ := first state
  cases result with
  | error error => exact ⟨.error error, lines, ends.bind_error next⟩
  | ok value =>
      obtain ⟨result, more, rest⟩ := second value (gives state value _ ends.here) state
      exact ⟨result, lines ++ more, ends.bind_ok rest⟩

/-- A line is printed. -/
theorem print (line : String) : OnlyPrints (Run.print line) :=
  fun _ => ⟨.ok (), [line], fun _ _ => rfl⟩

/-- A name is looked up among the variables. -/
theorem lookup (word : String) : OnlyPrints (Run.lookup word) := by
  intro state
  cases bound : state.scope.get? word with
  | some value =>
      refine ⟨.ok value, [], fun other same => ?_⟩
      exact lookup_of_variable ((same word).trans bound)
  | none =>
      cases known : Builtin.ofName? word with
      | some function =>
          refine ⟨.ok (.builtin function), [], fun other same => ?_⟩
          exact lookup_of_builtin ((same word).trans bound) known
      | none =>
          refine ⟨.error (.undefinedVariable word), [], fun other same => ?_⟩
          exact lookup_of_undefined ((same word).trans bound) known

/-- Printing is all that is done where expressions are evaluated. -/
theorem carries (limits : Resources) : CarriesExpressions limits limits Anything Anything
    fun _ has part _ => part.OnlyPrints ∧ Gives has part where
  toClosed := .anything
  pure holds := ⟨ofExcept (.ok _), .pure holds⟩
  fail _ := ⟨ofExcept (.error _), .fail⟩
  bind := by
    rintro α β has further first - next - ⟨prints, gives⟩ later
    exact ⟨prints.bind gives fun value holds => (later value holds).1,
      gives.bind fun value holds => (later value holds).2⟩
  print line := ⟨print line, .anything⟩
  lookup _ := ⟨lookup _, .anything⟩
  binary _ _ _ _ _ := ⟨ofExcept _, .anything⟩
  range _ := ⟨ofExcept _, .anything⟩

end OnlyPrints

end Run

namespace Expression

variable (limits : Resources) (expression : Expression)

/-- Evaluating an expression does nothing but print. -/
theorem onlyPrints_eval : (expression.eval limits).OnlyPrints :=
  ((Run.OnlyPrints.carries limits).eval expression fun _ _ => trivial).1

/-- Evaluating an expression leaves the variables and the count of steps as they are, and adds lines
to what has been printed. In every state with the same variables it gives the same value or
fails with the same error, and prints the same lines. -/
theorem eval_sameVariables (state : State) :
    (Run.stateOf (expression.eval limits state)).scope = state.scope ∧
      (Run.stateOf (expression.eval limits state)).steps = state.steps ∧
      ∃ lines, (Run.stateOf (expression.eval limits state)).output = state.output ++ lines ∧
        ∀ other : State, (∀ name, other.scope.get? name = state.scope.get? name) →
          (∀ value after, expression.eval limits state = .ok value after →
            expression.eval limits other = .ok value (other.printing lines)) ∧
          ∀ stop after, expression.eval limits state = .error stop after →
            (∃ error, stop = .failed error) ∧
              expression.eval limits other = .error stop (other.printing lines) := by
  obtain ⟨result, lines, ends⟩ := onlyPrints_eval limits expression state
  rw [ends.here]
  cases result with
  | ok value =>
      refine ⟨rfl, rfl, lines, state.output_printing lines, fun other same => ⟨?_, ?_⟩⟩
      · rintro _ _ ⟨⟩
        exact ends other same
      · rintro _ _ ⟨⟩
  | error error =>
      refine ⟨rfl, rfl, lines, state.output_printing lines, fun other same => ⟨?_, ?_⟩⟩
      · rintro _ _ ⟨⟩
      · rintro _ _ ⟨⟩
        exact ⟨⟨error, rfl⟩, ends other same⟩

/-- Variables in another order, lines printed before and steps taken before make no difference: with
them a variable is printed and another one is found alike. -/
theorem eval_sameVariables_reordered :
    (∀ name, (⟨[("y", .integer 2), ("x", .integer 7)]⟩ : Scope).get? name =
      (⟨[("x", .integer 7), ("y", .integer 2)]⟩ : Scope).get? name) ∧
    (list [call (.name "print") [.name "x"], .name "y"]).eval {}
        { scope := ⟨[("y", .integer 2), ("x", .integer 7)]⟩, printed := ["before"], steps := 9 } =
      .ok (.list [.none, .integer 2])
        { scope := ⟨[("y", .integer 2), ("x", .integer 7)]⟩, printed := ["7", "before"],
          steps := 9 } := by
  have same : ∀ name, (⟨[("y", .integer 2), ("x", .integer 7)]⟩ : Scope).get? name =
      (⟨[("x", .integer 7), ("y", .integer 2)]⟩ : Scope).get? name := by
    intro name
    by_cases isX : name = "x"
    · rw [isX]
      rfl
    · simp [Scope.get?, Scope.find?, isX]
  refine ⟨same, ?_⟩
  obtain ⟨-, -, lines, output, further⟩ := eval_sameVariables {}
    (list [call (.name "print") [.name "x"], .name "y"])
    { scope := ⟨[("x", .integer 7), ("y", .integer 2)]⟩ }
  obtain rfl : ["7"] = lines := output
  exact (further _ same).1 _ _ rfl

end Expression

end Offside
