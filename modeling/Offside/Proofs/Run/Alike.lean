import Offside.Proofs.Run.Wider

/-!
# Runs that look alike

Two states look alike to a program that knows some of their variables when these have
the same values and when what has been printed differs by earlier lines only. How many steps have
been taken does not matter as long as steps are not limited. Parts of two runs do the
same (`Run.Alike`) when they lead from states that look alike to states that look
alike, with the same value, or both stop for the same reason. Every program does the same as
itself, and two programs whose statements do the same end with the same result.
-/

namespace Offside

/-- Whether two states look alike to a program that knows some variables, the second of them with
more lines printed before. -/
structure State.Alike (known : String → Prop) (earlier : List String) (state state' : State) :
    Prop where
  get?_eq : ∀ name, known name → state'.scope.get? name = state.scope.get? name
  printed_eq : state'.printed = state.printed ++ earlier

namespace State.Alike

variable {known : String → Prop} {earlier : List String} {state state' : State}

/-- A state looks like itself to every program. -/
theorem refl (state : State) : state.Alike known [] state where
  get?_eq _ _ := rfl
  printed_eq := (List.append_nil _).symm

/-- States that look alike still do with other counts of steps. -/
theorem steps (alike : state.Alike known earlier state') (count count' : Nat) :
    State.Alike known earlier { state with steps := count } { state' with steps := count' } where
  get?_eq := alike.get?_eq
  printed_eq := alike.printed_eq

/-- States that look alike still do when a variable gets the same value in both. -/
theorem assign (alike : state.Alike known earlier state') (name : String) (value : Value) :
    State.Alike known earlier { state with scope := state.scope.set name value }
      { state' with scope := state'.scope.set name value } where
  get?_eq other isKnown := by
    rw [Scope.get?_set, Scope.get?_set, alike.get?_eq other isKnown]
  printed_eq := alike.printed_eq

/-- States that look alike still do when a variable that is not known gets a value in one of
them. -/
theorem assign_unknown (alike : state.Alike known earlier state') {name : String}
    (unknown : ¬ known name) (value : Value) :
    State.Alike known earlier state { state' with scope := state'.scope.set name value } where
  get?_eq other isKnown := by
    have different : other ≠ name := by
      rintro rfl
      exact unknown isKnown
    rw [Scope.get?_set, if_neg different]
    exact alike.get?_eq other isKnown
  printed_eq := alike.printed_eq

end State.Alike

namespace Run

/-- Whether two parts of runs end in the same way: they give the same value in states that look
alike, or they stop for the same reason. -/
inductive SameEnd (known : String → Prop) (earlier : List String) {α : Type} (has : α → Prop) :
    EStateM.Result Stop State α → EStateM.Result Stop State α → Prop
  | gives {value : α} {after after' : State} (holds : has value)
      (alike : after.Alike known earlier after') :
      SameEnd known earlier has (.ok value after) (.ok value after')
  | stops {stop : Stop} {after after' : State} :
      SameEnd known earlier has (.error stop after) (.error stop after')

/-- Whether two parts of runs do the same in states that look alike. -/
def Alike (known : String → Prop) (earlier : List String) (α : Type) (has : α → Prop)
    (part part' : Run α) : Prop :=
  ∀ state state', State.Alike known earlier state state' →
    SameEnd known earlier has (part state) (part' state')

namespace Alike

variable {known : String → Prop} {earlier : List String} {α β : Type} {has : α → Prop}
  {further : β → Prop}

/-- Parts of runs that do the same one after the other do the same together. -/
theorem bind {first first' : Run α} {next next' : α → Run β}
    (alike : Alike known earlier α has first first')
    (later : ∀ value, has value → Alike known earlier β further (next value) (next' value)) :
    Alike known earlier β further (first >>= next) (first' >>= next') := by
  intro state state' same
  have ends := alike state state' same
  generalize gives : first state = result, gives' : first' state' = result' at ends
  cases ends with
  | gives holds same =>
      rw [bind_eq_of_ok gives, bind_eq_of_ok gives']
      exact later _ holds _ _ same
  | stops =>
      rw [bind_eq_of_error gives, bind_eq_of_error gives']
      exact .stops

/-- Known names are looked up with the same result in states that look alike. -/
theorem lookup {word : String} (isKnown : known word) :
    Alike known earlier Value Anything (Run.lookup word) (Run.lookup word) := by
  intro state state' same
  have bound := same.get?_eq word isKnown
  cases found : state.scope.get? word with
  | some value =>
      rw [lookup_of_variable found, lookup_of_variable (bound.trans found)]
      exact .gives trivial same
  | none =>
      cases function : Builtin.ofName? word with
      | some builtin =>
          rw [lookup_of_builtin found function, lookup_of_builtin (bound.trans found) function]
          exact .gives trivial same
      | none =>
          rw [lookup_of_undefined found function, lookup_of_undefined (bound.trans found) function]
          exact .stops

variable {limits : Resources}

/-- Without a limit, steps are counted and nothing else happens. -/
theorem tick_eq (free : limits.steps? = none) (state : State) :
    Run.tick limits state = .ok () { state with steps := state.steps + 1 } := by
  refine tick_of_lt fun limit limited => ?_
  rw [free] at limited
  cases limited

/-- Counting one step more does the same as not counting it. -/
theorem tick_right (free : limits.steps? = none) {part part' : Run α}
    (alike : Alike known earlier α has part part') :
    Alike known earlier α has part (Run.tick limits >>= fun _ => part') := by
  intro state state' same
  rw [bind_eq_of_ok (tick_eq free state')]
  exact alike _ _ (same.steps state.steps _)

/-- Parts of a run that know what they look up do the same as themselves. -/
theorem carries (free : limits.steps? = none) (known : String → Prop) (earlier : List String) :
    Carries limits limits (fun part => ∀ name ∈ part.name?, known name) Anything Anything
      (Alike known earlier) where
  toClosed := .anything
  pure holds state state' same := .gives holds same
  fail _ state state' same := .stops
  bind := bind
  tick state state' same := by
    rw [tick_eq free, tick_eq free]
    exact .gives trivial (same.steps _ _)
  print line state state' same := .gives trivial {
    get?_eq := same.get?_eq
    printed_eq := congrArg (line :: ·) same.printed_eq }
  lookup isKnown := lookup (isKnown _ rfl)
  assign _ _ state state' same := .gives trivial (same.assign _ _)
  binary op first second _ _ := by
    cases first.applyBinary op second limits.sequence? limits.memory with
    | ok value => exact fun state state' same => .gives trivial same
    | error error => exact fun state state' same => .stops
  range bounds := by
    cases Progression.value bounds limits.range? limits.memory with
    | ok value => exact fun state state' same => .gives trivial same
    | error error => exact fun state state' same => .stops

/-- Statements with loops in them do the same as themselves, too, if they know what they look up. -/
theorem carriesLoops (free : limits.steps? = none) (known : String → Prop) (earlier : List String)
    (rounds : Nat) :
    CarriesLoops limits limits rounds rounds (fun part => ∀ name ∈ part.name?, known name)
      Anything Anything (Alike known earlier) :=
  (carries free known earlier).loops (fun _ _ _ => .stops) rounds

/-- A statement does the same as itself, if all names are known. -/
theorem exec_self (free : limits.steps? = none) (rounds : Nat) (statement : Statement) :
    Alike Anything earlier Signal Anything (statement.exec limits rounds)
      (statement.exec limits rounds) :=
  (carriesLoops free Anything earlier rounds).exec statement
    (statement.meets (fun _ _ _ _ => trivial) fun _ _ => trivial)

end Alike

end Run

/-! ### Results -/

namespace Program

/-- The result of a program from how its statements end; there is none where they stay
unfinished. -/
def resultOf : EStateM.Result Stop State Signal → Option (Except RuntimeError (List String))
  | .ok .done state => some (.ok state.output)
  | .ok .stop _ => some (.error (.loopControlOutsideLoop "break"))
  | .ok .next _ => some (.error (.loopControlOutsideLoop "continue"))
  | .error (.failed error) _ => some (.error error)
  | .error .unfinished _ => none

/-- The result of a program is that of its statements. -/
theorem runWithin_eq_resultOf (rounds : Nat) (limits : Resources) (program : Program) :
    program.runWithin rounds limits = resultOf (execBody limits rounds program {}) := by
  unfold runWithin exec
  cases ends : execBody limits rounds program {} with
  | ok signal after =>
      rw [Run.bind_eq_of_ok ends]
      cases signal <;> rfl
  | error stop after =>
      rw [Run.bind_eq_of_error ends]
      cases stop <;> rfl

/-- Statements that end in the same way have the same result, but for the lines that one of them
finds already printed. -/
theorem resultOf_of_sameEnd {known : String → Prop} {earlier : List String}
    {has : Signal → Prop} {ended ended' : EStateM.Result Stop State Signal}
    (same : Run.SameEnd known earlier has ended ended') :
    resultOf ended' = (resultOf ended).map (·.map (earlier.reverse ++ ·)) := by
  cases same with
  | @gives signal after after' holds alike =>
      cases signal with
      | done =>
          have lines : after'.output = earlier.reverse ++ after.output := by
            rw [State.output, alike.printed_eq, List.reverse_append]
            rfl
          simp only [resultOf, lines, Option.map_some, Except.map]
      | stop | next => rfl
  | @stops stop after after' => cases stop <;> rfl

/-- Whether a program ends with a result under some limits, after however many steps. -/
def Ends (limits : Resources) (program : Program) (result : Except RuntimeError (List String)) :
    Prop :=
  ∃ steps, program.EndsAfter limits result steps

/-- A program ends with a result exactly if it has that result with enough rounds for its loops. -/
theorem ends_iff {limits : Resources} {program : Program}
    {result : Except RuntimeError (List String)} :
    program.Ends limits result ↔ ∃ rounds, program.runWithin rounds limits = some result := by
  simp only [Ends, EndsAfter, runWithin_eq_map_ending, Option.map_eq_some_iff]
  constructor
  · rintro ⟨steps, rounds, ended⟩
    exact ⟨rounds, (result, steps), ended, rfl⟩
  · rintro ⟨rounds, ⟨_, steps⟩, ended, rfl⟩
    exact ⟨steps, rounds, ended⟩

/-- Programs whose statements do the same have the same results: with any number of rounds, and so
with enough of them. -/
theorem ends_iff_of_alike {known : String → Prop} {limits : Resources} {program program' : Program}
    (alike : ∀ rounds, Run.Alike known [] Signal Run.Anything (execBody limits rounds program)
      (execBody limits rounds program')) :
    (∀ rounds, program'.runWithin rounds limits = program.runWithin rounds limits) ∧
      ∀ result, program'.Ends limits result ↔ program.Ends limits result := by
  have same : ∀ rounds, program'.runWithin rounds limits = program.runWithin rounds limits := by
    intro rounds
    have ends := resultOf_of_sameEnd (alike rounds {} {} (.refl {}))
    rw [runWithin_eq_resultOf, runWithin_eq_resultOf, ends]
    cases resultOf (execBody limits rounds program {}) with
    | none => rfl
    | some result => cases result <;> rfl
  exact ⟨same, fun result => by simp only [ends_iff, same]⟩

/-- More rounds do not change a result. -/
theorem runWithin_of_rounds_le {limits : Resources} {program : Program} {rounds rounds' : Nat}
    {result : Except RuntimeError (List String)}
    (ended : program.runWithin rounds limits = some result) (enough : rounds ≤ rounds') :
    program.runWithin rounds' limits = some result := by
  rw [runWithin_eq_map_ending] at ended ⊢
  obtain ⟨⟨found, steps⟩, ending, rfl⟩ := Option.map_eq_some_iff.mp ended
  rw [ending_of_rounds_le ending enough]
  rfl

end Program

end Offside
