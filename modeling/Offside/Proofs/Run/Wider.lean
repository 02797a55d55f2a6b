import Offside.Proofs.Run.Related

/-!
# More room gives the same result

Limits are looked at in few places, and there a run goes on or stops with an error that
names the limit. So a run under wider limits does the same up to the point where the
narrower ones stop it, and a program that ends in any other way ends alike under
all wider limits. The same holds of the rounds that its `while` loops are given.
-/

namespace Offside

/-- Whether an error says that a limit is exceeded. -/
def RuntimeError.isLimit : RuntimeError → Bool
  | stepLimitExceeded _ | sequenceTooLong .. | progression (.tooLong ..) => true
  | _ => false

/-- Whether a run stops because it may not go on: at a limit, or without further rounds. -/
def Stop.isLimit : Stop → Bool
  | failed error => error.isLimit
  | unfinished => true

/-- Whether a bound allows no more than another; an absent bound allows everything. -/
def Limits.BoundWithin (narrow wide : Option Nat) : Prop :=
  ∀ most ∈ wide, ∃ less ∈ narrow, less ≤ most

/-- Whether no limit allows more than its counterpart, in the same memory. -/
structure Resources.IsWithin (narrow wide : Resources) : Prop where
  steps : Limits.BoundWithin narrow.steps? wide.steps?
  range : Limits.BoundWithin narrow.range? wide.range?
  sequence : Limits.BoundWithin narrow.sequence? wide.sequence?
  memory : narrow.memory = wide.memory

/-! ### Operations under wider limits -/

/-- Whether a result is the same as another or says that a limit is exceeded. -/
def Narrowed {α : Type} (narrow wide : Except RuntimeError α) : Prop :=
  narrow = wide ∨ ∃ error, narrow = .error error ∧ error.isLimit

namespace Narrowed

variable {α β : Type}

/-- A result is the same as itself. -/
theorem refl (result : Except RuntimeError α) : Narrowed result result :=
  .inl rfl

/-- Operations one after the other give the same, unless one of them exceeds a limit. -/
theorem bind {narrow wide : Except RuntimeError α} {next next' : α → Except RuntimeError β}
    (same : Narrowed narrow wide) (later : ∀ value, Narrowed (next value) (next' value)) :
    Narrowed (narrow >>= next) (wide >>= next') := by
  rcases same with rfl | ⟨error, rfl, isLimit⟩
  · cases narrow with
    | ok value => exact later value
    | error error => exact .refl _
  · exact .inr ⟨error, rfl, isLimit⟩

/-- A choice between two operations gives the same, unless it exceeds a limit. -/
theorem ite {condition : Prop} [Decidable condition] {first first' second second' :
    Except RuntimeError α} (same : Narrowed first first') (other : Narrowed second second') :
    Narrowed (if condition then first else second) (if condition then first' else second') := by
  split
  · exact same
  · exact other

end Narrowed

namespace Progression

variable {start stop step : Int64} {memory : Memory}

/-- A progression that no limit forbids is the one without a limit. -/
theorem between_of_allowed {limit? : Option Nat}
    (allowed : ∀ limit ∈ limit?, length start.toInt stop.toInt step.toInt ≤ limit) :
    between start stop step limit? memory = between start stop step none memory := by
  have fits : limit?.filter (· < length start.toInt stop.toInt step.toInt) = none := by
    refine Option.filter_eq_none_iff.mpr fun limit limited => ?_
    simpa using allowed limit limited
  unfold between
  dsimp only
  rw [fits]
  rfl

/-- A progression that is longer than a limit is refused. -/
theorem between_of_exceeded {limit : Nat} (moves : step ≠ 0)
    (exceeds : limit < length start.toInt stop.toInt step.toInt) :
    between start stop step (some limit) memory =
      .error (.tooLong (length start.toInt stop.toInt step.toInt) limit) := by
  have found : (some limit).filter (· < length start.toInt stop.toInt step.toInt) =
      some limit := by
    simp [Option.filter, exceeds]
  unfold between
  dsimp only
  rw [if_neg moves, found]

end Progression

section

variable {narrow wide : Option Nat} (within : Limits.BoundWithin narrow wide) (memory : Memory)

include within

namespace Value

omit memory in
/-- The check of a length gives under a limit what it gives under a wider one, unless the length
exceeds the limit. -/
theorem narrowed_checkLength (length : Nat) :
    Narrowed (checkLength length narrow) (checkLength length wide) := by
  cases narrow with
  | none =>
      cases wide with
      | none => exact .refl _
      | some most =>
          obtain ⟨_, absent, _⟩ := within most rfl
          cases absent
  | some less =>
      by_cases exceeds : less < length
      · exact .inr ⟨_, if_pos exceeds, rfl⟩
      · left
        have allowed : checkLength length (some less) = .ok () := if_neg exceeds
        rw [allowed]
        cases wide with
        | none => rfl
        | some most =>
            obtain ⟨_, same, bound⟩ := within most rfl
            cases same
            exact (if_neg (by omega)).symm

/-- Repeating items gives under a limit what it gives under a wider one, unless it exceeds the
limit. -/
theorem narrowed_repeatItems {α : Type} (element : Element) (size : Nat) (items : List α)
    (count : Int64) : Narrowed (repeatItems element size items count narrow memory)
      (repeatItems element size items count wide memory) := by
  unfold repeatItems
  exact .ite (.refl _) ((narrowed_checkLength within _).bind fun _ => .refl _)

/-- A sequence times a count has a result under a limit exactly if it has one under a wider one, and
the same one unless it exceeds the limit. -/
theorem narrowed_times? (sequence count : Value) :
    Option.Rel Narrowed (times? sequence count narrow memory)
      (times? sequence count wide memory) := by
  unfold times?
  split
  · exact .some ((narrowed_repeatItems within memory _ _ _ _).bind fun _ => .refl _)
  · exact .some ((narrowed_repeatItems within memory _ _ _ _).bind fun _ => .refl _)
  · exact .none

/-- One sequence after another has a result under a limit exactly if it has one under a wider one,
and the same one unless it exceeds the limit. -/
theorem narrowed_join? (left right : Value) :
    Option.Rel Narrowed (join? left right narrow) (join? left right wide) := by
  unfold join?
  split
  · exact .some ((narrowed_checkLength within _).bind fun _ => .refl _)
  · exact .some ((narrowed_checkLength within _).bind fun _ => .refl _)
  · exact .none

/-- An operator of arithmetic on sequences has a result under a limit exactly if it has one under a
wider one, and the same one unless it exceeds the limit. -/
theorem narrowed_sequence? (op : BinaryOp) (left right : Value) :
    Option.Rel Narrowed (sequence? op left right narrow memory)
      (sequence? op left right wide memory) := by
  unfold sequence?
  split
  · exact narrowed_join? within left right
  · have first := narrowed_times? within memory left right
    have second := narrowed_times? within memory right left
    generalize times? left right narrow memory = here,
      times? left right wide memory = here' at first ⊢
    cases first with
    | some same => exact .some same
    | none => simpa using second
  · exact .none

/-- An operator of arithmetic gives under a limit what it gives under a wider one, unless it exceeds
the limit. -/
theorem narrowed_applyBinary (op : BinaryOp) (left right : Value) :
    Narrowed (applyBinary op left right narrow memory)
      (applyBinary op left right wide memory) := by
  have sequences : ∀ default : Except RuntimeError Value,
      Narrowed ((sequence? op left right narrow memory).getD default)
        ((sequence? op left right wide memory).getD default) := by
    intro default
    have same := narrowed_sequence? within memory op left right
    generalize sequence? op left right narrow memory = here,
      sequence? op left right wide memory = here' at same ⊢
    cases same with
    | some same => exact same
    | none => exact .refl _
  rw [applyBinary_eq, applyBinary_eq]
  split
  · exact .refl _
  · exact sequences _

end Value

/-- A progression between bounds is the same under a limit and under a wider one, unless it is too
long. -/
theorem Progression.between_cases (start stop step : Int64) :
    between start stop step narrow memory = between start stop step wide memory ∨
      ∃ length limit,
        between start stop step narrow memory = .error (.tooLong length limit) := by
  by_cases zero : step = 0
  · left
    rw [between, if_pos zero, between, if_pos zero]
  · by_cases exceeded : ∃ less ∈ narrow, less < length start.toInt stop.toInt step.toInt
    · right
      obtain ⟨less, rfl, exceeds⟩ := exceeded
      exact ⟨_, less, between_of_exceeded zero exceeds⟩
    · left
      have allowed : ∀ limit ∈ narrow, length start.toInt stop.toInt step.toInt ≤ limit :=
        fun limit limited => Nat.le_of_not_lt fun exceeds => exceeded ⟨limit, limited, exceeds⟩
      have allowedToo : ∀ limit ∈ wide, length start.toInt stop.toInt step.toInt ≤ limit := by
        intro most limited
        obtain ⟨less, narrowLimited, bound⟩ := within most limited
        exact Nat.le_trans (allowed less narrowLimited) bound
      rw [between_of_allowed allowed, between_of_allowed allowedToo]

/-- A progression is the same under a limit and under a wider one, unless it exceeds the limit. -/
theorem Progression.narrowed_value (bounds : List Int64) :
    Narrowed (Progression.value bounds narrow memory) (Progression.value bounds wide memory) := by
  have cases : ofBounds bounds narrow memory = ofBounds bounds wide memory ∨
      ∃ length limit, ofBounds bounds narrow memory = .error (.tooLong length limit) := by
    unfold ofBounds
    split
    · exact between_cases within memory _ _ _
    · exact between_cases within memory _ _ _
    · exact between_cases within memory _ _ _
    · exact .inl rfl
  unfold value
  rcases cases with same | ⟨length, limit, tooLong⟩
  · rw [same]
    exact .refl _
  · rw [tooLong]
    exact .inr ⟨_, rfl, rfl⟩

end

/-! ### Runs under wider limits -/

namespace Run

/-- Whether a part of a run does the same as another, unless it stops for a reason that is lost
on it. -/
structure Upto (lost : Stop → Prop) (α : Type) (narrow wide : Run α) : Prop where
  /-- The part that is not stopped takes no steps back. -/
  grows : Grows wide
  /-- The part does what the other does, or stops where the other has taken no fewer steps. -/
  same : ∀ state, narrow state = wide state ∨ ∃ stop after, narrow state = .error stop after ∧
    lost stop ∧ after.steps ≤ (stateOf (wide state)).steps

namespace Upto

variable {lost : Stop → Prop} {α β : Type}

/-- A part of a run that takes no step does the same as itself. -/
theorem idle {part : Run α} (idle : Idle part) : Upto lost α part part :=
  ⟨.idle idle, fun _ => .inl rfl⟩

/-- Parts of a run one after the other do the same, unless one of them is stopped. -/
theorem bind {first first' : Run α} {next next' : α → Run β} (same : Upto lost α first first')
    (later : ∀ value, Upto lost β (next value) (next' value)) :
    Upto lost β (first >>= next) (first' >>= next') := by
  refine ⟨same.grows.bind fun value => (later value).grows, fun state => ?_⟩
  rcases same.same state with same | ⟨stop, after, stops, isLost, fewer⟩
  · cases gives : first' state with
    | ok value after =>
        rw [bind_eq_of_ok (same.trans gives), bind_eq_of_ok gives]
        exact (later value).same after
    | error stop after =>
        rw [bind_eq_of_error (same.trans gives), bind_eq_of_error gives]
        exact .inl rfl
  · refine .inr ⟨stop, after, bind_eq_of_error stops, isLost, ?_⟩
    cases gives : first' state with
    | ok value middle =>
        rw [gives] at fewer
        rw [bind_eq_of_ok gives]
        exact Nat.le_trans fewer ((later value).grows middle)
    | error stop middle =>
        rw [gives] at fewer
        rw [bind_eq_of_error gives]
        exact fewer

/-- Operations that give the same unless a limit is exceeded do so in a run. -/
theorem ofExcept {narrow wide : Except RuntimeError α} (same : Narrowed narrow wide)
    (settled : Settled wide) (covers : ∀ error, error.isLimit → lost (.failed error)) :
    Upto lost α (Run.ofExcept narrow) (Run.ofExcept wide) := by
  have unmoved := Idle.ofExcept settled
  rcases same with rfl | ⟨error, rfl, isLimit⟩
  · exact idle unmoved
  · exact ⟨.idle unmoved, fun state =>
      .inr ⟨_, state, rfl, covers error isLimit, Grows.idle unmoved state⟩⟩

variable {limits wider : Resources}

/-- Under wider limits a step is counted alike, unless it exceeds the limit. -/
theorem tick (within : Limits.BoundWithin limits.steps? wider.steps?)
    (covers : ∀ error, error.isLimit → lost (.failed error)) :
    Upto lost Unit (Run.tick limits) (Run.tick wider) := by
  refine ⟨.tick wider, fun state => ?_⟩
  rcases tick_cases limits state with ⟨allowed, counts⟩ | ⟨limit, stops⟩
  · left
    rw [counts, tick_of_counter_le]
    intro most limited
    obtain ⟨less, narrowLimited, bound⟩ := within most limited
    exact Nat.le_trans (allowed less narrowLimited) bound
  · exact .inr ⟨_, _, stops, covers _ rfl, Nat.le_of_eq (steps_tick wider state).symm⟩

/-- Under the same limits a run does the same. -/
theorem respects (limits : Resources) : Respects limits limits (Upto lost) where
  idle quiet := idle quiet.toIdle
  bind := bind
  tick := ⟨.tick limits, fun _ => .inl rfl⟩
  binary _ _ _ := idle (.ofExcept (Value.settled_applyBinary _ _ _))
  range _ := idle (.ofExcept (Progression.settled_value _ _ _))

/-- Under wider limits a run does the same, unless it exceeds a limit. -/
theorem respects_of_isWithin (within : limits.IsWithin wider)
    (covers : ∀ error, error.isLimit → lost (.failed error)) :
    Respects limits wider (Upto lost) where
  idle quiet := idle quiet.toIdle
  bind := bind
  tick := tick within.steps covers
  binary _ _ _ := by
    rw [within.memory]
    exact ofExcept (Value.narrowed_applyBinary within.sequence _ _ _ _)
      (Value.settled_applyBinary _ _ _) covers
  range _ := by
    rw [within.memory]
    exact ofExcept (Progression.narrowed_value within.range _ _)
      (Progression.settled_value _ _ _) covers

/-- With more rounds for its loops a run does the same, unless the rounds do not suffice. -/
theorem respectsLoops (respects : Respects limits wider (Upto lost)) (unfinished : lost .unfinished)
    {rounds rounds' : Nat} (enough : rounds ≤ rounds') :
    RespectsLoops limits wider rounds rounds' (Upto lost) where
  toRespects := respects
  loop := by
    intro condition condition' body body' sameCondition sameBody
    induction rounds generalizing rounds' with
    | zero =>
        have grows := Grows.whileHolds wider sameCondition.grows sameBody.grows rounds'
        exact ⟨grows, fun state => .inr ⟨.unfinished, state, rfl, unfinished, grows state⟩⟩
    | succ rounds inductionHypothesis =>
        cases rounds' with
        | zero => omega
        | succ rounds' =>
            exact respects.whileHolds_succ sameCondition sameBody (inductionHypothesis (by omega))

end Upto

end Run

/-! ### How programs end -/

namespace Program

open Run (Upto)

/-- The result of a run with the number of its steps; there is none where it stays unfinished. -/
def ending : EStateM.Result Stop State Unit → Option (Except RuntimeError (List String) × Nat)
  | .ok () state => some (.ok state.output, state.steps)
  | .error (.failed error) state => some (.error error, state.steps)
  | .error .unfinished _ => none

/-- Whether a program ends under some limits: with enough rounds for its loops it has this result
after this many steps. -/
def EndsAfter (limits : Resources) (program : Program) (result : Except RuntimeError (List String))
    (steps : Nat) : Prop :=
  ∃ rounds, ending (program.exec limits rounds {}) = some (result, steps)

variable {limits wider : Resources} {program : Program} {rounds rounds' : Nat}
  {result : Except RuntimeError (List String)} {steps : Nat}

/-- What a program prints is the result of its run. -/
theorem runWithin_eq_map_ending : program.runWithin rounds limits =
    (ending (program.exec limits rounds {})).map Prod.fst := by
  unfold runWithin ending
  cases program.exec limits rounds {} with
  | ok value state => rfl
  | error stop state => cases stop <;> rfl

/-- A run that ends otherwise than for a lost reason ends like one that does the same up to such
reasons. -/
theorem ending_of_upto {lost : Stop → Prop} {narrow wide : Run Unit} {state : State}
    (upto : Upto lost Unit narrow wide) (ended : ending (narrow state) = some (result, steps))
    (kept : ∀ error, result = .error error → ¬ lost (.failed error)) :
    ending (wide state) = some (result, steps) := by
  rcases upto.same state with same | ⟨stop, after, stops, isLost, -⟩
  · rw [← same, ended]
  · rw [stops] at ended
    cases stop with
    | unfinished => cases ended
    | failed error =>
        cases ended
        exact absurd isLost (kept error rfl)

/-- With more rounds for its loops a program ends alike. -/
theorem ending_of_rounds_le (ended : ending (program.exec limits rounds {}) = some (result, steps))
    (enough : rounds ≤ rounds') :
    ending (program.exec limits rounds' {}) = some (result, steps) := by
  have respects : Run.Respects limits limits (Upto (· = .unfinished)) := Upto.respects limits
  have loops := Upto.respectsLoops respects rfl enough
  refine ending_of_upto (loops.execProgram program fun _ => .idle (.fail (by simp))) ended ?_
  rintro error - same
  cases same

/-- A program ends in one way only. -/
theorem EndsAfter.unique {other : Except RuntimeError (List String)} {otherSteps : Nat}
    (ends : program.EndsAfter limits result steps)
    (endsToo : program.EndsAfter limits other otherSteps) :
    result = other ∧ steps = otherSteps := by
  obtain ⟨rounds, ended⟩ := ends
  obtain ⟨rounds', endedToo⟩ := endsToo
  have first := ending_of_rounds_le ended (Nat.le_max_left rounds rounds')
  have second := ending_of_rounds_le endedToo (Nat.le_max_right rounds rounds')
  exact Prod.mk.inj (Option.some.inj (first.symm.trans second))

/-- A program that does not end because of a limit ends alike under wider limits. -/
theorem EndsAfter.of_isWithin (ends : program.EndsAfter limits result steps)
    (within : limits.IsWithin wider) (other : ∀ error, result = .error error → ¬ error.isLimit) :
    program.EndsAfter wider result steps := by
  obtain ⟨rounds, ended⟩ := ends
  have respects : Run.Respects limits wider (Upto (·.isLimit)) :=
    Upto.respects_of_isWithin within fun error isLimit => isLimit
  have loops := Upto.respectsLoops respects rfl (Nat.le_refl rounds)
  have same := loops.execProgram program fun _ => .idle (.fail (by simp))
  exact ⟨rounds, ending_of_upto same ended other⟩

end Program

end Offside
