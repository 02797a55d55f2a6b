import Offside.Proofs.Run.Carried

/-!
# Two runs side by side

The same program can be run under two sets of limits. `Run.Respects` collects what a
relation between parts of the two runs must satisfy: it holds of the places where limits
are looked at, of parts that take no step, and of two related parts one after the
other. Such a relation is carried through whole runs, whatever is known of their values
(`Run.Carries`). So it holds of every expression, and of every statement if it holds of
the rounds of a `while` loop.
-/

namespace Offside

namespace Run

/-- The state that a part of a run ends or stops in. -/
def stateOf {α : Type} : EStateM.Result Stop State α → State
  | .ok _ state => state
  | .error _ state => state

section

variable {limits : Resources} {state : State}

/-- A step after which the counter shows no more than the limit is counted. -/
theorem tick_of_counter_le (allowed : ∀ limit ∈ limits.steps?,
      (State.counter { state with steps := state.steps + 1 }).toNat ≤ limit) :
    tick limits state = .ok () { state with steps := state.steps + 1 } := by
  cases limited : limits.steps? with
  | none =>
      simp only [tick, limited]
      rfl
  | some limit =>
      simp only [tick, limited]
      change (if limit < (State.counter _).toNat then _ else _ : Run Unit) _ = _
      rw [if_neg (Nat.not_lt.mpr (allowed limit limited))]
      rfl

/-- Below the limit on steps, a step is counted. -/
theorem tick_of_lt (allowed : ∀ limit ∈ limits.steps?, state.steps < limit) :
    tick limits state = .ok () { state with steps := state.steps + 1 } :=
  tick_of_counter_le fun limit limited =>
    Nat.le_trans (State.counter_le _) (allowed limit limited)

/-- A step after which the counter shows more than the limit is counted, too, but the run
stops. -/
theorem tick_of_lt_counter {limit : Nat} (limited : limits.steps? = some limit)
    (exceeds : limit < (State.counter { state with steps := state.steps + 1 }).toNat) :
    tick limits state =
      .error (.failed (.stepLimitExceeded limit)) { state with steps := state.steps + 1 } := by
  simp only [tick, limited]
  change (if limit < (State.counter _).toNat then _ else _ : Run Unit) _ = _
  rw [if_pos exceeds]
  rfl

/-- The step beyond a limit that the counter can exceed stops the run. -/
theorem tick_of_eq (limited : limits.steps? = some state.steps) (small : state.steps < mostSteps) :
    tick limits state =
      .error (.failed (.stepLimitExceeded state.steps))
        { state with steps := state.steps + 1 } := by
  refine tick_of_lt_counter limited ?_
  rw [State.counter_of_le (Nat.succ_le_of_lt small)]
  exact Nat.lt_succ_self _

/-- A step is counted, or it is the one at which the run stops. -/
theorem tick_cases (limits : Resources) (state : State) :
    ((∀ limit ∈ limits.steps?,
        (State.counter { state with steps := state.steps + 1 }).toNat ≤ limit) ∧
      tick limits state = .ok () { state with steps := state.steps + 1 }) ∨
    ∃ limit, tick limits state =
      .error (.failed (.stepLimitExceeded limit)) { state with steps := state.steps + 1 } := by
  by_cases allowed : ∀ limit ∈ limits.steps?,
      (State.counter { state with steps := state.steps + 1 }).toNat ≤ limit
  · exact .inl ⟨allowed, tick_of_counter_le allowed⟩
  · simp only [Classical.not_forall, Nat.not_le] at allowed
    obtain ⟨limit, limited, exceeds⟩ := allowed
    exact .inr ⟨limit, tick_of_lt_counter limited exceeds⟩

/-- A step is one step, whether or not the run stops there. -/
theorem steps_tick (limits : Resources) (state : State) :
    (stateOf (tick limits state)).steps = state.steps + 1 := by
  rcases tick_cases limits state with ⟨-, counts⟩ | ⟨limit, stops⟩
  · rw [counts, stateOf]
  · rw [stops, stateOf]

end

section

variable {α β : Type} {first : Run α} {next : α → Run β} {state after : State}

/-- After a part that gives a value, a run goes on from there. -/
theorem bind_eq_of_ok {value : α} (gives : first state = .ok value after) :
    (first >>= next) state = next value after := by
  simp only [bind, EStateM.bind, gives]

/-- After a part that stops, a run does nothing more. -/
theorem bind_eq_of_error {stop : Stop} (stops : first state = .error stop after) :
    (first >>= next) state = .error stop after := by
  simp only [bind, EStateM.bind, stops]

/-- Two parts give a value exactly when the second gives it, from the value of the first. -/
theorem bind_gives_iff {value : β} : (first >>= next) state = .ok value after ↔
    ∃ here middle, first state = .ok here middle ∧ next here middle = .ok value after := by
  constructor
  · intro gives
    cases ends : first state with
    | ok here middle => exact ⟨here, middle, rfl, (bind_eq_of_ok ends).symm.trans gives⟩
    | error stop middle => cases (bind_eq_of_error ends).symm.trans gives
  · rintro ⟨here, middle, ends, gives⟩
    exact (bind_eq_of_ok ends).trans gives

/-- Two parts stop exactly when the first stops, or the second behind it. -/
theorem bind_stops_iff {stop : Stop} : (first >>= next) state = .error stop after ↔
    first state = .error stop after ∨
      ∃ here middle, first state = .ok here middle ∧ next here middle = .error stop after := by
  constructor
  · intro stops
    cases ends : first state with
    | ok here middle => exact .inr ⟨here, middle, rfl, (bind_eq_of_ok ends).symm.trans stops⟩
    | error other middle =>
        cases (bind_eq_of_error ends).symm.trans stops
        exact .inl rfl
  · rintro (stops | ⟨here, middle, ends, stops⟩)
    · exact bind_eq_of_error stops
    · exact (bind_eq_of_ok ends).trans stops

end

/-! ### What parts give -/

/-- Whether every value that a part of a run can give has a property. -/
def Gives {α : Type} (property : α → Prop) (part : Run α) : Prop :=
  ∀ state value after, part state = .ok value after → property value

namespace Gives

variable {α β : Type} {property : α → Prop} {further : β → Prop}

/-- Giving a value gives only that value. -/
theorem pure {value : α} (has : property value) : Gives property (Pure.pure value) := by
  rintro state _ after ⟨⟩
  exact has

/-- Failing gives nothing. -/
theorem fail {error : RuntimeError} : Gives property (Run.fail error : Run α) :=
  fun _ _ _ gives => nomatch gives

/-- Every part of a run gives values of which nothing is asked. -/
theorem anything {part : Run α} : Gives Anything part :=
  fun _ _ _ _ => trivial

/-- Two parts one after the other give what the second one gives for the values of the first. -/
theorem bind {first : Run α} {next : α → Run β} (firstGives : Gives property first)
    (nextGives : ∀ value, property value → Gives further (next value)) :
    Gives further (first >>= next) := by
  intro state value after ends
  obtain ⟨here, middle, gives, later⟩ := bind_gives_iff.mp ends
  exact nextGives here (firstGives state here middle gives) middle value after later

/-- Two parts one after the other give what the second one gives, whatever the first one does. -/
theorem after {first : Run α} {next : α → Run β}
    (nextGives : ∀ value, Gives further (next value)) : Gives further (first >>= next) :=
  anything.bind fun value _ => nextGives value

/-- What follows a part matters only for the values that it gives. -/
theorem bind_congr {first : Run α} {next next' : α → Run β} (firstGives : Gives property first)
    (same : ∀ value, property value → next value = next' value) :
    first >>= next = first >>= next' := by
  funext state
  cases ends : first state with
  | ok value after =>
      rw [bind_eq_of_ok ends, bind_eq_of_ok ends, same value (firstGives state value after ends)]
  | error stop after => rw [bind_eq_of_error ends, bind_eq_of_error ends]

end Gives

/-! ### Parts without a step -/

/-- A part of a run that takes no step: the count stays, and the part neither stays unfinished nor
exceeds a limit on steps. -/
structure Idle {α : Type} (part : Run α) : Prop where
  steps_eq : ∀ state, (stateOf (part state)).steps = state.steps
  ne_unfinished : ∀ state after, part state ≠ .error .unfinished after
  ne_exceeded : ∀ state after limit,
    part state ≠ .error (.failed (.stepLimitExceeded limit)) after

/-- A variable has its value. -/
theorem lookup_of_variable {name : String} {state : State} {value : Value}
    (found : state.scope.get? name = some value) : Run.lookup name state = .ok value state := by
  have seen : (get : Run State) state = .ok state state := rfl
  refine (bind_eq_of_ok seen).trans ?_
  rw [found]
  rfl

/-- Where no variable has its name, a function is its value. -/
theorem lookup_of_builtin {name : String} {state : State} {function : Builtin}
    (absent : state.scope.get? name = none) (found : Builtin.ofName? name = some function) :
    Run.lookup name state = .ok (.builtin function) state := by
  have seen : (get : Run State) state = .ok state state := rfl
  refine (bind_eq_of_ok seen).trans ?_
  rw [absent, found]
  rfl

/-- A name that is neither a variable nor a function is undefined. -/
theorem lookup_of_undefined {name : String} {state : State}
    (absent : state.scope.get? name = none) (unknown : Builtin.ofName? name = none) :
    Run.lookup name state = .error (.failed (.undefinedVariable name)) state := by
  have seen : (get : Run State) state = .ok state state := rfl
  refine (bind_eq_of_ok seen).trans ?_
  rw [absent, unknown]
  rfl

/-- A name has a value or is undefined, and the state decides which. -/
theorem exists_lookup_eq (name : String) (state : State) :
    ∃ result, Settled result ∧ Run.lookup name state = Run.ofExcept result state := by
  cases bound : state.scope.get? name with
  | some value => exact ⟨.ok value, .ok value, lookup_of_variable bound⟩
  | none =>
      cases known : Builtin.ofName? name with
      | some function =>
          exact ⟨.ok (.builtin function), .ok _, lookup_of_builtin bound known⟩
      | none =>
          exact ⟨.error (.undefinedVariable name), .error (by simp),
            lookup_of_undefined bound known⟩

namespace Idle

variable {α : Type}

/-- Giving a value takes no step. -/
theorem pure (value : α) : Idle (Pure.pure value) where
  steps_eq _ := rfl
  ne_unfinished _ _ same := nomatch same
  ne_exceeded _ _ _ same := nomatch same

/-- Failing takes no step. -/
theorem fail {error : RuntimeError} (other : ∀ limit, error ≠ .stepLimitExceeded limit) :
    Idle (Run.fail error : Run α) where
  steps_eq _ := rfl
  ne_unfinished _ _ same := nomatch same
  ne_exceeded state after limit same := by
    cases same
    exact other limit rfl

/-- A settled operation takes no step. -/
theorem ofExcept {result : Except RuntimeError α} (settled : Settled result) :
    Idle (Run.ofExcept result) := by
  cases result with
  | ok value => exact .pure value
  | error error =>
      refine .fail fun limit same => ?_
      subst same
      cases settled _ rfl

/-- Printing takes no step. -/
theorem print (line : String) : Idle (Run.print line) where
  steps_eq _ := rfl
  ne_unfinished _ _ same := nomatch same
  ne_exceeded _ _ _ same := nomatch same

/-- Giving a variable a value takes no step. -/
theorem assign (name : String) (value : Value) : Idle (Run.assign name value) where
  steps_eq _ := rfl
  ne_unfinished _ _ same := nomatch same
  ne_exceeded _ _ _ same := nomatch same

/-- Looking up a name takes no step. -/
theorem lookup (name : String) : Idle (Run.lookup name) where
  steps_eq state := by
    obtain ⟨result, settled, same⟩ := exists_lookup_eq name state
    rw [same]
    exact (Idle.ofExcept settled).steps_eq state
  ne_unfinished state := by
    obtain ⟨result, settled, same⟩ := exists_lookup_eq name state
    rw [same]
    exact (Idle.ofExcept settled).ne_unfinished state
  ne_exceeded state := by
    obtain ⟨result, settled, same⟩ := exists_lookup_eq name state
    rw [same]
    exact (Idle.ofExcept settled).ne_exceeded state

end Idle

/-- Whether a part of a run takes back no steps. -/
def Grows {α : Type} (part : Run α) : Prop :=
  ∀ state, state.steps ≤ (stateOf (part state)).steps

namespace Grows

variable {α β : Type}

/-- What takes no step takes none back. -/
theorem idle {part : Run α} (idle : Idle part) : Grows part :=
  fun state => Nat.le_of_eq (idle.steps_eq state).symm

/-- A step is not taken back. -/
theorem tick (limits : Resources) : Grows (Run.tick limits) := fun state =>
  Nat.le_of_lt (Nat.lt_of_lt_of_eq (Nat.lt_succ_self _) (steps_tick limits state).symm)

/-- Two parts one after the other take back no steps if neither does. -/
theorem bind {first : Run α} {next : α → Run β} (grows : Grows first)
    (later : ∀ value, Grows (next value)) : Grows (first >>= next) := by
  intro state
  have before := grows state
  cases gives : first state with
  | ok value middle =>
      rw [gives] at before
      rw [bind_eq_of_ok gives]
      exact Nat.le_trans before (later value middle)
  | error stop middle =>
      rw [gives] at before
      rw [bind_eq_of_error gives]
      exact before

/-- A loop takes back no steps if neither its condition nor its body does. -/
theorem whileHolds (limits : Resources) {condition : Run Bool} {body : Run Signal}
    (growsCondition : Grows condition) (growsBody : Grows body) :
    ∀ rounds, Grows (Run.whileHolds limits condition body rounds)
  | 0 => fun _ => Nat.le_refl _
  | rounds + 1 => by
      refine growsCondition.bind fun holds => ?_
      cases holds with
      | false => exact idle (.pure _)
      | true =>
          refine (tick limits).bind fun _ => growsBody.bind fun signal => ?_
          cases signal with
          | stop => exact idle (.pure _)
          | done | next => exact whileHolds limits growsCondition growsBody rounds

end Grows

/-- A part of a run that takes no step and is not stopped for the control of a loop either. -/
structure Quiet {α : Type} (part : Run α) : Prop extends Idle part where
  ne_outside : ∀ state after word,
    part state ≠ .error (.failed (.loopControlOutsideLoop word)) after

namespace Quiet

variable {α : Type}

/-- Giving a value is quiet. -/
theorem pure (value : α) : Quiet (Pure.pure value) where
  toIdle := .pure value
  ne_outside _ _ _ same := nomatch same

/-- Failing is quiet, if the error is not of the course of the run. -/
theorem fail {error : RuntimeError} (other : error.isOfCourse = false) :
    Quiet (Run.fail error : Run α) where
  toIdle := .fail fun limit same => by
    subst same
    cases other
  ne_outside state after word same := by
    cases same
    cases other

/-- A settled operation is quiet. -/
theorem ofExcept {result : Except RuntimeError α} (settled : Settled result) :
    Quiet (Run.ofExcept result) := by
  cases result with
  | ok value => exact .pure value
  | error error => exact .fail (settled error rfl)

/-- Printing is quiet. -/
theorem print (line : String) : Quiet (Run.print line) where
  toIdle := .print line
  ne_outside _ _ _ same := nomatch same

/-- Giving a variable a value is quiet. -/
theorem assign (name : String) (value : Value) : Quiet (Run.assign name value) where
  toIdle := .assign name value
  ne_outside _ _ _ same := nomatch same

/-- Looking up a name is quiet. -/
theorem lookup (name : String) : Quiet (Run.lookup name) where
  toIdle := .lookup name
  ne_outside state := by
    obtain ⟨result, settled, same⟩ := exists_lookup_eq name state
    rw [same]
    exact (Quiet.ofExcept settled).ne_outside state

end Quiet

end Run

namespace Run

/-- A relation between the parts of two runs, under `left` and under `right`, that no way of
putting parts together breaks. -/
structure Respects (left right : Resources) (Related : (α : Type) → Run α → Run α → Prop) :
    Prop where
  idle : ∀ {α : Type} {part : Run α}, Quiet part → Related α part part
  bind : ∀ {α β : Type} {first first' : Run α} {next next' : α → Run β},
    Related α first first' → (∀ value, Related β (next value) (next' value)) →
      Related β (first >>= next) (first' >>= next')
  tick : Related Unit (Run.tick left) (Run.tick right)
  binary : ∀ (op : BinaryOp) (first second : Value),
    Related Value (ofExcept (first.applyBinary op second left.sequence? left.memory))
      (ofExcept (first.applyBinary op second right.sequence? right.memory))
  range : ∀ bounds : List Int64,
    Related Value (ofExcept (Progression.value bounds left.range? left.memory))
      (ofExcept (Progression.value bounds right.range? right.memory))

namespace Respects

variable {left right : Resources} {Related : (α : Type) → Run α → Run α → Prop}
  (respects : Respects left right Related)

include respects

/-- A first part may be looked at together with what it is known to give. -/
theorem bind_of_gives {α β : Type} {has : α → Prop} {first first' : Run α}
    {next next' : α → Run β} (same : Related α first first') (gives : Gives has first)
    (gives' : Gives has first')
    (later : ∀ value, has value → Related β (next value) (next' value)) :
    Related β (first >>= next) (first' >>= next') := by
  classical
  -- Where the first part cannot lead, both runs may as well fail.
  let guarded (next : α → Run β) (value : α) : Run β :=
    if has value then next value else fail .divisionByZero
  have guarded_eq : ∀ (next : α → Run β) value, has value → next value = guarded next value :=
    fun next value known => (if_pos known).symm
  rw [gives.bind_congr (guarded_eq next), gives'.bind_congr (guarded_eq next')]
  refine respects.bind same fun value => ?_
  by_cases known : has value
  · rw [← guarded_eq next value known, ← guarded_eq next' value known]
    exact later value known
  · have lost : ∀ next, guarded next value = fail .divisionByZero := fun next => if_neg known
    rw [lost, lost]
    exact respects.idle (.fail rfl)

/-- A relation that no way of putting parts together breaks is carried through a run, whatever is
known of its values. -/
theorem carries : Carries left right Anything Anything Anything fun α has part part' =>
    Related α part part' ∧ Gives has part ∧ Gives has part' where
  toClosed := .anything
  pure has := ⟨respects.idle (.pure _), .pure has, .pure has⟩
  fail other := ⟨respects.idle (.fail other), .fail, .fail⟩
  bind := by
    rintro α β has further first first' next next' ⟨same, gives, gives'⟩ later
    exact ⟨respects.bind_of_gives same gives gives' fun value known => (later value known).1,
      gives.bind fun value known => (later value known).2.1,
      gives'.bind fun value known => (later value known).2.2⟩
  tick := ⟨respects.tick, .anything, .anything⟩
  print line := ⟨respects.idle (.print line), .anything, .anything⟩
  lookup _ := ⟨respects.idle (.lookup _), .anything, .anything⟩
  assign _ _ := ⟨respects.idle (.assign _ _), .anything, .anything⟩
  binary op _ _ _ _ := ⟨respects.binary op _ _, .anything, .anything⟩
  range bounds := ⟨respects.range bounds, .anything, .anything⟩

/-- Rounds of a `while` loop are related if the condition, the body and the later rounds are. -/
theorem whileHolds_succ {condition condition' : Run Bool} {body body' : Run Signal}
    {rounds rounds' : Nat} (sameCondition : Related Bool condition condition')
    (sameBody : Related Signal body body')
    (later : Related Unit (Run.whileHolds left condition body rounds)
      (Run.whileHolds right condition' body' rounds')) :
    Related Unit (Run.whileHolds left condition body (rounds + 1))
      (Run.whileHolds right condition' body' (rounds' + 1)) :=
  (respects.carries.whileHolds_succ ⟨sameCondition, .anything, .anything⟩
    ⟨sameBody, .anything, .anything⟩ ⟨later, .anything, .anything⟩).1

end Respects

/-- A relation that no way of putting parts together breaks and that holds of `while` loops with
some rounds when it holds of their conditions and bodies. -/
structure RespectsLoops (left right : Resources) (rounds rounds' : Nat)
    (Related : (α : Type) → Run α → Run α → Prop) : Prop extends Respects left right Related where
  loop : ∀ {condition condition' : Run Bool} {body body' : Run Signal},
    Related Bool condition condition' → Related Signal body body' →
      Related Unit (whileHolds left condition body rounds)
        (whileHolds right condition' body' rounds')

namespace RespectsLoops

variable {left right : Resources} {rounds rounds' : Nat}
  {Related : (α : Type) → Run α → Run α → Prop}
  (respects : RespectsLoops left right rounds rounds' Related)

include respects

/-- Runs of statements one after the other under `left` and under `right` are related. -/
theorem execBody (body : List Statement) :
    Related Signal (Offside.execBody left rounds body) (Offside.execBody right rounds' body) := by
  have carries : CarriesLoops left right rounds rounds' Anything Anything Anything
      fun α has part part' => Related α part part' ∧ Gives has part ∧ Gives has part' :=
    { respects.carries with
      loop := fun sameCondition sameBody =>
        ⟨respects.loop sameCondition.1 sameBody.1, .anything, .anything⟩ }
  exact (carries.execBody body (Program.meets body (fun _ _ => trivial) fun _ _ => trivial)).1

/-- Runs of a program under `left` and under `right` are related, if failures for the control of a
loop outside of one are. -/
theorem execProgram (program : Program)
    (outside : ∀ word, Related Unit (Run.fail (.loopControlOutsideLoop word))
      (Run.fail (.loopControlOutsideLoop word))) :
    Related Unit (program.exec left rounds) (program.exec right rounds') := by
  refine respects.bind (respects.execBody program) fun signal => ?_
  cases signal with
  | done => exact respects.idle (.pure _)
  | stop | next => exact outside _

end RespectsLoops

end Run

end Offside
