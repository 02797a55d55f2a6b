import Offside.Proofs.Run.Wider

/-!
# A limit on steps ends every run

A run with a limit on steps is laid beside the same run without one. Up to the limit
both do the same, and where the free run takes one step more the other stops
(`Run.Cuts`), unless the limit is the greatest that there is, which the counter of steps
never exceeds. Every round of a `while` loop is paid for with a step, so the free run
cannot stay unfinished within the limit if its loops have more rounds than that: either
way the limited run ends.
-/

namespace Offside

namespace Run

/-- How a part of a run without a limit on steps goes together with the same part under a limit,
when every `while` loop has some rounds. -/
structure Cuts (limit rounds : Nat) (α : Type) (free bound : Run α) : Prop where
  /-- The part without a limit takes no steps back. -/
  grows : Grows free
  /-- Without a limit none is exceeded. -/
  ne_exceeded : ∀ state after most,
    free state ≠ .error (.failed (.stepLimitExceeded most)) after
  /-- A loop that uses up its rounds has taken as many steps. -/
  pays : ∀ state after, free state = .error .unfinished after → state.steps + rounds ≤ after.steps
  /-- Up to the limit nothing changes. -/
  within : ∀ state, (stateOf (free state)).steps ≤ limit → bound state = free state
  /-- The first step beyond a limit that the counter can exceed is the last one. -/
  beyond : limit < mostSteps → ∀ state, state.steps ≤ limit → limit < (stateOf (free state)).steps →
    ∃ after, bound state = .error (.failed (.stepLimitExceeded limit)) after ∧
      after.steps = limit + 1

namespace Cuts

variable {α β : Type} {limit rounds : Nat} {free bound : Run α}

/-- What takes no step is not cut. -/
theorem idle {part : Run α} (idle : Idle part) : Cuts limit rounds α part part where
  grows := .idle idle
  ne_exceeded := idle.ne_exceeded
  pays state after same := absurd same (idle.ne_unfinished state after)
  within _ _ := rfl
  beyond _ state reached exceeded := by
    rw [idle.steps_eq] at exceeded
    omega

/-- A part of a run that is cut with some rounds for its loops is cut with fewer of them, too. -/
theorem of_rounds_le {fewer : Nat} (cuts : Cuts limit rounds α free bound)
    (less : fewer ≤ rounds) : Cuts limit fewer α free bound where
  grows := cuts.grows
  ne_exceeded := cuts.ne_exceeded
  pays state after unfinished := by
    have paid := cuts.pays state after unfinished
    omega
  within := cuts.within
  beyond := cuts.beyond

/-- Parts one after the other are cut in the one where the limit is exceeded. -/
theorem bind {next next' : α → Run β} (cuts : Cuts limit rounds α free bound)
    (later : ∀ value, Cuts limit rounds β (next value) (next' value)) :
    Cuts limit rounds β (free >>= next) (bound >>= next') where
  grows := cuts.grows.bind fun value => (later value).grows
  ne_exceeded state after most same := by
    rcases bind_stops_iff.mp same with stops | ⟨value, middle, -, further⟩
    · exact cuts.ne_exceeded state after most stops
    · exact (later value).ne_exceeded middle after most further
  pays state after same := by
    rcases bind_stops_iff.mp same with stops | ⟨value, middle, gives, further⟩
    · exact cuts.pays state after stops
    · have before := cuts.grows state
      rw [gives] at before
      have before : state.steps ≤ middle.steps := before
      have paid := (later value).pays middle after further
      omega
  within state reached := by
    have before := cuts.within state
    cases gives : free state with
    | ok value middle =>
        rw [bind_eq_of_ok gives] at reached ⊢
        rw [gives] at before
        have same := before (Nat.le_trans ((later value).grows middle) reached)
        rw [bind_eq_of_ok same]
        exact (later value).within middle reached
    | error stop middle =>
        rw [bind_eq_of_error gives] at reached ⊢
        rw [gives] at before
        exact bind_eq_of_error (before reached)
  beyond small state start exceeded := by
    by_cases reached : (stateOf (free state)).steps ≤ limit
    · have same := cuts.within state reached
      cases gives : free state with
      | ok value middle =>
          rw [bind_eq_of_ok gives] at exceeded
          rw [gives] at reached same
          rw [bind_eq_of_ok same]
          exact (later value).beyond small middle reached exceeded
      | error stop middle =>
          rw [bind_eq_of_error gives] at exceeded
          rw [gives] at reached
          exact absurd reached (Nat.not_le_of_lt exceeded)
    · obtain ⟨after, stops, count⟩ := cuts.beyond small state start (Nat.lt_of_not_le reached)
      exact ⟨after, bind_eq_of_error stops, count⟩

variable {limits : Resources}

/-- A step is cut when the limit is reached before it, and pays for one more round behind it. -/
theorem tick_bind {next next' : Unit → Run β}
    (later : ∀ value, Cuts limit rounds β (next value) (next' value)) :
    Cuts limit (rounds + 1) β (tick { limits with steps? := none } >>= next)
      (tick { limits with steps? := some limit } >>= next') := by
  have freely : ∀ state : State, (tick { limits with steps? := none } >>= next) state =
      next () { state with steps := state.steps + 1 } := fun state =>
    bind_eq_of_ok (tick_of_lt fun _ absent => nomatch absent)
  have allowed : ∀ state : State, state.steps < limit →
      (tick { limits with steps? := some limit } >>= next') state =
        next' () { state with steps := state.steps + 1 } := by
    intro state below
    refine bind_eq_of_ok (tick_of_lt ?_)
    rintro _ ⟨⟩
    exact below
  exact {
    grows := (Grows.tick _).bind fun value => (later value).grows
    ne_exceeded := by
      intro state after most
      rw [freely]
      exact (later ()).ne_exceeded _ after most
    pays := by
      intro state after same
      rw [freely] at same
      have paid := (later ()).pays _ after same
      dsimp only at paid
      omega
    within := by
      intro state reached
      have further := (later ()).grows { state with steps := state.steps + 1 }
      rw [freely] at reached ⊢
      have below : state.steps < limit := Nat.le_trans further reached
      rw [allowed state below]
      exact (later ()).within _ reached
    beyond := by
      intro small state start exceeded
      rw [freely] at exceeded
      by_cases below : state.steps < limit
      · rw [allowed state below]
        exact (later ()).beyond small _ below exceeded
      · obtain rfl := Nat.le_antisymm start (Nat.le_of_not_lt below)
        exact ⟨_, bind_eq_of_error (tick_of_eq rfl small), rfl⟩ }

/-- Every way of putting parts of a run together keeps how they are cut. -/
theorem respects (limits : Resources) (limit rounds : Nat) :
    Respects { limits with steps? := none } { limits with steps? := some limit }
      (Cuts limit rounds) where
  idle quiet := idle quiet.toIdle
  bind := bind
  tick := by
    have alone : Cuts limit (rounds + 1) Unit (Run.tick { limits with steps? := none } >>= pure)
        (Run.tick { limits with steps? := some limit } >>= pure) :=
      tick_bind fun value => idle (.pure value)
    rw [bind_pure, bind_pure] at alone
    exact alone.of_rounds_le (Nat.le_succ rounds)
  binary _ _ _ := idle (.ofExcept (Value.settled_applyBinary _ _ _))
  range _ := idle (.ofExcept (Progression.settled_value _ _ _))

/-- A loop is cut in the round where the limit is exceeded, and every round is paid for. -/
theorem whileHolds {condition condition' : Run Bool} {body body' : Run Signal}
    (cutsCondition : Cuts limit rounds Bool condition condition')
    (cutsBody : Cuts limit rounds Signal body body') :
    Cuts limit rounds Unit (Run.whileHolds { limits with steps? := none } condition body rounds)
      (Run.whileHolds { limits with steps? := some limit } condition' body' rounds) := by
  have fewer : ∀ further ≤ rounds, Cuts limit further Unit
      (Run.whileHolds { limits with steps? := none } condition body further)
      (Run.whileHolds { limits with steps? := some limit } condition' body' further) := by
    intro further enough
    induction further with
    | zero =>
        exact {
          grows := fun _ => Nat.le_refl _
          ne_exceeded := fun _ _ _ same => nomatch same
          pays := by
            rintro state after ⟨⟩
            exact Nat.le_refl _
          within := fun _ _ => rfl
          beyond := fun _ _ start exceeded => absurd start (Nat.not_le_of_lt exceeded) }
    | succ further inductionHypothesis =>
        refine (cutsCondition.of_rounds_le enough).bind fun holds => ?_
        cases holds with
        | false => exact idle (.pure _)
        | true =>
            refine tick_bind fun _ => ?_
            refine (cutsBody.of_rounds_le (Nat.le_of_succ_le enough)).bind fun signal => ?_
            cases signal with
            | stop => exact idle (.pure _)
            | done | next => exact inductionHypothesis (Nat.le_of_succ_le enough)
  exact fewer rounds (Nat.le_refl _)

/-- Programs are cut where the limit is exceeded. -/
theorem respectsLoops (limits : Resources) (limit rounds : Nat) :
    RespectsLoops { limits with steps? := none } { limits with steps? := some limit } rounds rounds
      (Cuts limit rounds) where
  toRespects := respects limits limit rounds
  loop := whileHolds

/-- Under a limit steps are not taken back either, and there is at most one beyond the limit. -/
theorem steps_le (cuts : Cuts limit rounds α free bound) (small : limit < mostSteps)
    {state : State} (start : state.steps ≤ limit) :
    state.steps ≤ (stateOf (bound state)).steps ∧ (stateOf (bound state)).steps ≤ limit + 1 := by
  by_cases reached : (stateOf (free state)).steps ≤ limit
  · rw [cuts.within state reached]
    exact ⟨cuts.grows state, Nat.le_succ_of_le reached⟩
  · obtain ⟨after, stops, count⟩ := cuts.beyond small state start (Nat.lt_of_not_le reached)
    rw [stops]
    change state.steps ≤ after.steps ∧ after.steps ≤ limit + 1
    omega

end Cuts

/-! ### The greatest limit -/

/-- A limit that the counter never exceeds is none. -/
theorem tick_of_mostSteps_le {limits : Resources} {most : Nat} (great : mostSteps ≤ most) :
    tick { limits with steps? := some most } = tick { limits with steps? := none } := by
  have counts : ∀ (steps? : Option Nat), (∀ limit ∈ steps?, mostSteps ≤ limit) → ∀ state : State,
      tick { limits with steps? := steps? } state =
        .ok () { state with steps := state.steps + 1 } := fun _ unreached state =>
    tick_of_counter_le fun limit limited =>
      Nat.le_trans (State.counter_le_mostSteps _) (unreached limit limited)
  funext state
  rw [counts (some most) (by rintro _ ⟨⟩; exact great), counts none nofun]

/-- Runs under a limit that the counter never exceeds are those without one. -/
theorem respectsLoops_of_mostSteps_le (limits : Resources) {most : Nat} (great : mostSteps ≤ most)
    (rounds : Nat) :
    RespectsLoops { limits with steps? := some most } { limits with steps? := none } rounds rounds
      fun _ part part' => part = part' where
  idle _ := rfl
  bind := by
    rintro α β first _ next next' rfl later
    rw [funext later]
  tick := tick_of_mostSteps_le great
  binary _ _ _ := rfl
  range _ := rfl
  loop := by
    rintro condition _ body _ rfl rfl
    induction rounds with
    | zero => rfl
    | succ rounds inductionHypothesis =>
        simp only [whileHolds, tick_of_mostSteps_le great, inductionHypothesis]

end Run

namespace Program

open Run (Cuts Upto stateOf)

variable {limits : Resources} {program : Program} {most rounds : Nat}
  {result : Except RuntimeError (List String)} {steps : Nat}

/-- The counter of steps never exceeds the greatest limit, so a program does under it what it does
without a limit on steps. -/
theorem exec_of_mostSteps_le (limits : Resources) (program : Program) (great : mostSteps ≤ most)
    (rounds : Nat) :
    program.exec { limits with steps? := some most } rounds =
      program.exec { limits with steps? := none } rounds :=
  (Run.respectsLoops_of_mostSteps_le limits great rounds).execProgram program fun _ => rfl

/-- A free run that takes no more steps than its loops have rounds has a result, and that is no
excess of steps. -/
theorem exists_ending {free bound : Run Unit} (cuts : Cuts most rounds Unit free bound)
    (enough : most < rounds) {state : State} (reached : (stateOf (free state)).steps ≤ most) :
    ∃ result, ending (free state) = some (result, (stateOf (free state)).steps) ∧
      ∀ limit, result ≠ .error (.stepLimitExceeded limit) := by
  cases ended : free state with
  | ok value after => exact ⟨_, rfl, by simp⟩
  | error stop after =>
      cases stop with
      | unfinished =>
          have paid := cuts.pays state after ended
          rw [ended] at reached
          have reached : after.steps ≤ most := reached
          omega
      | failed error =>
          refine ⟨_, rfl, fun limit same => ?_⟩
          cases same
          exact cuts.ne_exceeded state after limit ended

/-- A program under a limit on steps ends like the free one, if that takes no more steps, and else
with an excess. -/
theorem ending_limited (limits : Resources) (program : Program) (small : most < mostSteps)
    (enough : most < rounds) :
    ∃ result steps, ending (program.exec { limits with steps? := some most } rounds {}) =
        some (result, steps) ∧
      ((steps ≤ most ∧ (∀ limit, result ≠ .error (.stepLimitExceeded limit)) ∧
          ending (program.exec { limits with steps? := none } rounds {}) = some (result, steps)) ∨
        (steps = most + 1 ∧ result = .error (.stepLimitExceeded most) ∧
          most < (stateOf (program.exec { limits with steps? := none } rounds {})).steps)) := by
  have cuts := (Cuts.respectsLoops limits most rounds).execProgram program fun _ =>
    .idle (.fail (by simp))
  by_cases reached :
      (stateOf (program.exec { limits with steps? := none } rounds {})).steps ≤ most
  · obtain ⟨result, ended, settled⟩ := exists_ending cuts enough reached
    exact ⟨result, _, by rw [cuts.within {} reached, ended], .inl ⟨reached, settled, ended⟩⟩
  · have exceeded := Nat.lt_of_not_le reached
    obtain ⟨after, stops, count⟩ := cuts.beyond small {} (Nat.zero_le most) exceeded
    exact ⟨_, _, by rw [stops]; rfl, .inr ⟨count, rfl, exceeded⟩⟩

/-- The number of steps is that of the state a run ended in. -/
theorem steps_of_ending {stopped : EStateM.Result Stop State Unit}
    (ended : ending stopped = some (result, steps)) : (stateOf stopped).steps = steps := by
  cases stopped with
  | ok value after =>
      cases ended
      rfl
  | error stop after =>
      cases stop with
      | unfinished => cases ended
      | failed error =>
          cases ended
          rfl

/-- A program that ends without a limit on steps does so as soon as its loops are given more rounds
than it takes steps. -/
theorem ending_of_steps_lt (ends : program.EndsAfter { limits with steps? := none } result steps)
    (enough : steps < rounds) :
    ending (program.exec { limits with steps? := none } rounds {}) = some (result, steps) := by
  obtain ⟨sufficient, ended⟩ := ends
  rcases Nat.le_total sufficient rounds with fewer | more
  · exact ending_of_rounds_le ended fewer
  · have respects : Run.Respects { limits with steps? := none } { limits with steps? := none }
        (Upto (· = .unfinished)) := Upto.respects _
    have upto := (Upto.respectsLoops respects rfl more).execProgram program fun _ =>
      .idle (.fail (by simp))
    rcases upto.same {} with same | ⟨_, after, unfinished, rfl, fewer⟩
    · rw [same, ended]
    · -- an unfinished loop has paid for all its rounds with steps
      have paid := ((Cuts.respectsLoops limits 0 rounds).execProgram program fun _ =>
        .idle (.fail (by simp))).pays {} after unfinished
      rw [steps_of_ending ended] at fewer
      have paid : 0 + rounds ≤ after.steps := paid
      omega

/-- A program that takes no more steps than a limit allows ends alike under it and without it. -/
theorem ending_limited_of_le
    (ended : ending (program.exec { limits with steps? := none } rounds {}) = some (result, steps))
    (within : steps ≤ most) :
    ending (program.exec { limits with steps? := some most } rounds {}) = some (result, steps) := by
  have cuts := (Cuts.respectsLoops limits most rounds).execProgram program fun _ =>
    .idle (.fail (by simp))
  rw [cuts.within {} (Nat.le_trans (Nat.le_of_eq (steps_of_ending ended)) within), ended]

/-- Under a limit on steps, loops are given one round more than that. -/
theorem run_limited_eq
    (ended : ending (program.exec { limits with steps? := some most } (most + 1) {}) =
      some (result, steps)) : program.run { limits with steps? := some most } = some result := by
  have rounds : program.run { limits with steps? := some most } =
      program.runWithin (most + 1) { limits with steps? := some most } := rfl
  rw [rounds, runWithin_eq_map_ending, ended]
  rfl

/-- A program under a limit on steps ends, and one round more than the limit is enough for it. -/
theorem exists_run_limited (limits : Resources) (program : Program) (small : most < mostSteps) :
    ∃ result steps, program.run { limits with steps? := some most } = some result ∧
      program.EndsAfter { limits with steps? := some most } result steps ∧ steps ≤ most + 1 ∧
      (steps = most + 1 ↔ result = .error (.stepLimitExceeded most)) := by
  obtain ⟨result, steps, ended, how⟩ :=
    ending_limited limits program small (Nat.lt_succ_self most)
  refine ⟨result, steps, run_limited_eq ended, ⟨_, ended⟩, ?_⟩
  rcases how with ⟨within, settled, -⟩ | ⟨rfl, rfl, -⟩
  · refine ⟨Nat.le_succ_of_le within, fun same => by omega, fun same => ?_⟩
    exact absurd same (settled most)
  · exact ⟨Nat.le_refl _, fun _ => rfl, fun _ => rfl⟩

/-- A program that ends without a limit on steps is run to the same end under every limit that
allows its steps. -/
theorem EndsAfter.run_limited_of_le
    (ends : program.EndsAfter { limits with steps? := none } result steps)
    (within : steps ≤ most) : program.run { limits with steps? := some most } = some result :=
  run_limited_eq (ending_limited_of_le (ending_of_steps_lt ends (Nat.lt_succ_of_le within)) within)

/-- A program that has not ended within a limit on steps exceeds it. -/
theorem run_limited_of_not_ends (small : most < mostSteps)
    (runsOn : ∀ result steps, steps ≤ most →
      ¬ program.EndsAfter { limits with steps? := none } result steps) :
    program.run { limits with steps? := some most } = some (.error (.stepLimitExceeded most)) := by
  obtain ⟨result, steps, ended, how⟩ :=
    ending_limited limits program small (Nat.lt_succ_self most)
  rcases how with ⟨within, -, freely⟩ | ⟨-, rfl, -⟩
  · exact absurd ⟨_, freely⟩ (runsOn result steps within)
  · exact run_limited_eq ended

/-- A program that ends is run to that end, as long as it takes fewer steps than any machine gets
to. -/
theorem EndsAfter.run_eq (ends : program.EndsAfter limits result steps) (fits : steps < endless) :
    program.run limits = some result := by
  cases limited : limits.steps? with
  | some most =>
      have same : limits = { limits with steps? := some most } := by rw [← limited]
      rcases Nat.lt_or_ge most mostSteps with small | great
      · obtain ⟨other, otherSteps, ran, endsToo, -⟩ := exists_run_limited limits program small
        rw [← same] at ran endsToo
        rw [ran, (ends.unique endsToo).1]
      · rw [same] at ends ⊢
        obtain ⟨rounds, ended⟩ := ends
        rw [exec_of_mostSteps_le limits program great] at ended
        refine EndsAfter.run_limited_of_le ⟨rounds, ended⟩ ?_
        exact Nat.le_trans (Nat.le_of_lt fits) (Nat.le_trans (by decide) great)
  | none =>
      have same : limits = { limits with steps? := none } := by rw [← limited]
      have rounds : program.run limits = program.runWithin endless limits := by
        rw [run, limited]
        rfl
      rw [rounds, runWithin_eq_map_ending, same]
      rw [same] at ends
      rw [ending_of_steps_lt ends fits]
      rfl

/-- With a limit on steps every program ends. No part of the run takes a step back or more than one
step beyond the limit, and that one is taken exactly when the run ends for it. -/
theorem run_limited (limits : Resources) (program : Program) (most : Nat)
    (small : most < mostSteps) :
    (∃ result steps, program.run { limits with steps? := some most } = some result ∧
      program.EndsAfter { limits with steps? := some most } result steps ∧ steps ≤ most + 1 ∧
      (steps = most + 1 ↔ result = .error (.stepLimitExceeded most))) ∧
    ∀ (body : List Statement) (rounds : Nat) (state : State), state.steps ≤ most →
      state.steps ≤
          (stateOf (execBody { limits with steps? := some most } rounds body state)).steps ∧
        (stateOf (execBody { limits with steps? := some most } rounds body state)).steps ≤
          most + 1 := by
  refine ⟨exists_run_limited limits program small, fun body rounds state start => ?_⟩
  exact ((Cuts.respectsLoops limits most rounds).execBody body).steps_le small start

/-- A loop without an end takes one step more than it is allowed, and two statements of its body
take no more than that, wherever they are reached. -/
theorem run_limited_forever : 3 < mostSteps ∧
    (∃ result steps, run { steps? := some 3 } [.whileLoop (.boolean true) [.pass]] = some result ∧
      steps ≤ 4 ∧ (steps = 4 ↔ result = .error (.stepLimitExceeded 3))) ∧
    (stateOf (execBody { steps? := some 3 } 0 [.pass, .pass] { steps := 3 })).steps ≤ 4 := by
  have small : 3 < mostSteps := by decide
  obtain ⟨⟨result, steps, ran, -, bound, exceeded⟩, parts⟩ :=
    run_limited {} [.whileLoop (.boolean true) [.pass]] 3 small
  exact ⟨small, ⟨result, steps, ran, bound, exceeded⟩,
    (parts [.pass, .pass] 0 { steps := 3 } (by decide)).2⟩

/-- Limits only turn a result into an error that names the limit. Wider limits keep every other
result; and of a limit on steps it is known which results it turns: those of programs that take
more steps, and of programs that do not end. The greatest limit turns none. -/
theorem endsAfter_limits (limits : Resources) (program : Program) :
    (∀ wider result steps, limits.IsWithin wider → program.EndsAfter limits result steps →
      (∀ error, result = .error error → ¬ error.isLimit) →
        program.EndsAfter wider result steps ∧
          (steps < endless → program.run wider = some result)) ∧
    (∀ result steps, program.EndsAfter { limits with steps? := none } result steps → ∀ most,
      (steps ≤ most → program.run { limits with steps? := some most } = some result) ∧
        (most < steps → most < mostSteps → program.run { limits with steps? := some most } =
          some (.error (.stepLimitExceeded most)))) ∧
    ((∀ result steps, ¬ program.EndsAfter { limits with steps? := none } result steps) →
      ∀ most < mostSteps, program.run { limits with steps? := some most } =
        some (.error (.stepLimitExceeded most))) ∧
    ∀ most, mostSteps ≤ most → ∀ rounds,
      program.exec { limits with steps? := some most } rounds =
        program.exec { limits with steps? := none } rounds := by
  refine ⟨fun wider result steps within ends other => ?_, fun result steps ends most => ⟨?_, ?_⟩,
    fun runsOn most small => ?_, fun most great => exec_of_mostSteps_le limits program great⟩
  · have endsWider := ends.of_isWithin within other
    exact ⟨endsWider, endsWider.run_eq⟩
  · exact ends.run_limited_of_le
  · intro exceeds small
    refine run_limited_of_not_ends small fun other otherSteps within endsToo => ?_
    rw [(ends.unique endsToo).2] at exceeds
    exact Nat.not_le_of_lt exceeds within
  · exact run_limited_of_not_ends small fun result steps _ => runsOn result steps

/-- A `while` loop whose condition stays true and whose body does nothing stays unfinished. -/
theorem not_endsAfter_forever (result : Except RuntimeError (List String)) (steps : Nat) :
    ¬ EndsAfter {} [.whileLoop (.boolean true) [.pass]] result steps := by
  rintro ⟨rounds, ended⟩
  have forever : ∀ (further : Nat) (state : State), ∃ after,
      Run.whileHolds {} (Expression.holds {} (.boolean true)) (execBody {} rounds [.pass]) further
        state = .error .unfinished after := by
    intro further
    induction further with
    | zero => exact fun state => ⟨state, rfl⟩
    | succ further inductionHypothesis =>
        intro state
        exact inductionHypothesis { state with steps := state.steps + 2 }
  obtain ⟨after, unfinished⟩ := forever rounds { steps := 1 }
  have stops : Program.exec {} rounds [.whileLoop (.boolean true) [.pass]] {} =
      .error .unfinished after := by
    have statement : Statement.exec {} rounds (.whileLoop (.boolean true) [.pass]) {} =
        .error .unfinished after :=
      (Run.bind_eq_of_ok rfl).trans (Run.bind_eq_of_error unfinished)
    exact Run.bind_eq_of_error (Run.bind_eq_of_error statement)
  rw [stops] at ended
  cases ended

/-- Two statements end after two steps under any limits that allow so many; a loop without an end
exceeds every limit that can be exceeded. -/
theorem endsAfter_limits_pass :
    EndsAfter {} [.pass, .pass] (.ok []) 2 ∧
      run { steps? := some 1 } [.pass, .pass] = some (.error (.stepLimitExceeded 1)) ∧
      run { steps? := some 3 } [.whileLoop (.boolean true) [.pass]] =
        some (.error (.stepLimitExceeded 3)) := by
  have within : Resources.IsWithin { steps? := some 5 } {} := ⟨nofun, nofun, nofun, rfl⟩
  have ends : EndsAfter { steps? := some 5 } [.pass, .pass] (.ok []) 2 := ⟨0, rfl⟩
  have endsFreely := ((endsAfter_limits { steps? := some 5 } [.pass, .pass]).1 {} _ _ within ends
    nofun).1
  have limited := ((endsAfter_limits {} [.pass, .pass]).2.1 _ _ endsFreely 1).2 (by decide)
    (by decide)
  exact ⟨endsFreely, limited,
    (endsAfter_limits {} _).2.2.1 not_endsAfter_forever 3 (by decide)⟩

/-- A loop without an end does not exceed the greatest limit, but stays unfinished under it as it
does without a limit. -/
theorem not_endsAfter_greatest :
    (∀ result steps, ¬ EndsAfter {} [.whileLoop (.boolean true) [.pass]] result steps) ∧
      ∀ result steps, ¬ EndsAfter { steps? := some 0xFFFFFFFFFFFFFFFF }
        [.whileLoop (.boolean true) [.pass]] result steps := by
  refine ⟨not_endsAfter_forever, fun result steps ends => ?_⟩
  obtain ⟨rounds, ended⟩ := ends
  have great : mostSteps ≤ 0xFFFFFFFFFFFFFFFF := by decide
  rw [exec_of_mostSteps_le {} [.whileLoop (.boolean true) [.pass]] great rounds] at ended
  exact not_endsAfter_forever result steps ⟨rounds, ended⟩

end Program

end Offside
