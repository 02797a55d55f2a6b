import Offside.Proofs.Run.Related

/-!
# What is known of the variables of a run

A run gives values to the targets in its program and to no other variables, and the values
are those of expressions. So a property of values that no way of making a value
breaks holds of all variables at any time, when it holds of the literals in the program.
-/

namespace Offside

/-- Whether every variable that has a value is among some, and its value is good. -/
def State.Binds (settable : String → Prop) (good : Value → Prop) (state : State) : Prop :=
  ∀ name value, state.scope.get? name = some value → settable name ∧ good value

namespace State.Binds

variable {settable : String → Prop} {good : Value → Prop}

/-- At the start no variable has a value. -/
theorem start : State.Binds settable good {} :=
  fun _ _ found => nomatch found

/-- What is known of the variables stays true when one of them gets a good value. -/
theorem assign {state : State} (binds : state.Binds settable good) {target : String}
    {value : Value} (set : settable target) (goodValue : good value) :
    State.Binds settable good { state with scope := state.scope.set target value } := by
  intro name other found
  rw [Scope.get?_set] at found
  split at found
  · next same =>
      cases found
      exact ⟨same ▸ set, goodValue⟩
  · exact binds name other found

end State.Binds

namespace Run

/-- Whether a part of a run keeps what is known of the variables and gives values that have a
property, as a relation that can be carried through a whole run; its second part plays no
role. -/
def Keeps (settable : String → Prop) (good : Value → Prop) (α : Type) (has : α → Prop)
    (part _ : Run α) : Prop :=
  ∀ state, state.Binds settable good → (stateOf (part state)).Binds settable good ∧
    ∀ value after, part state = .ok value after → has value

namespace Keeps

variable {settable : String → Prop} {good : Value → Prop} {α β : Type} {has : α → Prop}
  {further : β → Prop}

/-- A part that gives a value leaves what is known of the variables true, and its value has the
property. -/
theorem of_ok {part other : Run α} {state after : State} {value : α}
    (keeps : Keeps settable good α has part other) (binds : state.Binds settable good)
    (gives : part state = .ok value after) : has value ∧ after.Binds settable good := by
  obtain ⟨kept, property⟩ := keeps state binds
  rw [gives] at kept
  exact ⟨property value after gives, kept⟩

/-- A part that leaves the variables alone keeps what is known of them. -/
theorem of_scope_eq {part other : Run α}
    (scope : ∀ state, (stateOf (part state)).scope = state.scope)
    (gives : ∀ state value after, state.Binds settable good → part state = .ok value after →
      has value) : Keeps settable good α has part other := by
  intro state binds
  refine ⟨fun name value found => ?_, fun value after => gives state value after binds⟩
  rw [scope state] at found
  exact binds name value found

/-- Two parts one after the other keep what each of them keeps. -/
theorem bind {first first' : Run α} {next next' : α → Run β}
    (keeps : Keeps settable good α has first first')
    (later : ∀ value, has value → Keeps settable good β further (next value) (next' value)) :
    Keeps settable good β further (first >>= next) (first' >>= next') := by
  intro state binds
  cases ends : first state with
  | ok value middle =>
      obtain ⟨holds, kept⟩ := keeps.of_ok binds ends
      rw [bind_eq_of_ok ends]
      exact later value holds middle kept
  | error stop after =>
      have kept := (keeps state binds).1
      rw [ends] at kept
      rw [bind_eq_of_error ends]
      exact ⟨kept, fun _ _ gives => nomatch gives⟩

/-- An operation keeps what is known of the variables if its values have the property. -/
theorem ofExcept {result : Except RuntimeError α} {other : Run α}
    (gives : ∀ value, result = .ok value → has value) :
    Keeps settable good α has (Run.ofExcept result) other := by
  cases result with
  | ok value =>
      refine of_scope_eq (fun _ => rfl) ?_
      rintro state _ _ - ⟨⟩
      exact gives value rfl
  | error error => exact of_scope_eq (fun _ => rfl) fun _ _ _ _ same => nomatch same

/-- A name is a variable with a good value or a function. -/
theorem lookup (builtin : ∀ function, good (.builtin function)) (word : String)
    {other : Run Value} : Keeps settable good Value good (Run.lookup word) other := by
  refine of_scope_eq (fun state => ?_) fun state value after binds found => ?_
  · obtain ⟨result, -, same⟩ := exists_lookup_eq word state
    rw [same]
    cases result <;> rfl
  · cases bound : state.scope.get? word with
    | some value =>
        cases (lookup_of_variable bound).symm.trans found
        exact (binds word _ bound).2
    | none =>
        cases known : Builtin.ofName? word with
        | some function =>
            cases (lookup_of_builtin bound known).symm.trans found
            exact builtin function
        | none => cases (lookup_of_undefined bound known).symm.trans found

variable {limits : Resources} {admitted : Expression → Prop}

/-- A run keeps what is known of its variables, if the operators that make long sequences do. -/
theorem carries (closed : Value.Closed admitted good)
    (binary : ∀ {op first second result}, good first → good second →
      Value.applyBinary op first second limits.sequence? limits.memory = .ok result → good result)
    (range : ∀ {bounds result}, Progression.value bounds limits.range? limits.memory = .ok result →
      good result) :
    Carries limits limits admitted settable good (Keeps settable good) where
  toClosed := closed
  pure holds := of_scope_eq (fun _ => rfl) (by rintro _ _ _ - ⟨⟩; exact holds)
  fail _ := of_scope_eq (fun _ => rfl) fun _ _ _ _ same => nomatch same
  bind := bind
  tick := by
    refine of_scope_eq (fun state => ?_) fun _ _ _ _ _ => trivial
    rcases tick_cases limits state with ⟨-, counts⟩ | ⟨limit, stops⟩
    · rw [counts]
      rfl
    · rw [stops]
      rfl
  print _ := of_scope_eq (fun _ => rfl) fun _ _ _ _ _ => trivial
  lookup _ := lookup (fun _ => closed.plain rfl) _
  assign set goodValue _ binds := ⟨binds.assign set goodValue, fun _ _ _ => trivial⟩
  binary _ _ _ goodFirst goodSecond := ofExcept fun _ made => binary goodFirst goodSecond made
  range _ := ofExcept fun _ made => range made

/-- A run with loops in it keeps what is known of its variables, too, if the operators that make
long sequences do. -/
theorem carriesLoops (carries : Carries limits limits admitted settable good (Keeps settable good))
    (rounds : Nat) :
    CarriesLoops limits limits rounds rounds admitted settable good (Keeps settable good) :=
  carries.loops (of_scope_eq (fun _ => rfl) fun _ _ _ _ same => nomatch same) rounds

end Keeps

end Run

/-- A program gives values to its targets only. -/
theorem Program.binds_targets (limits : Resources) (rounds : Nat) (program : Program) :
    (Run.stateOf (execBody limits rounds program {})).Binds (· ∈ Program.targets program)
      Run.Anything := by
  have carries : Run.Carries limits limits Run.Anything (· ∈ Program.targets program) Run.Anything
      (Run.Keeps (· ∈ Program.targets program) Run.Anything) :=
    Run.Keeps.carries .anything (fun _ _ _ => trivial) fun _ => trivial
  have meets := Program.meets program (fun _ _ => trivial) fun _ target => target
  exact ((Run.Keeps.carriesLoops carries rounds).execBody program meets {} .start).1

end Offside
