import Offside.Proofs.Run.Alike
import Offside.Proofs.Run.Bindings

/-!
# Programs that share no variables

The only things that a program leaves to the statements behind it are its variables and its printed
lines. Where none of its variables occurs in those statements, they are run as if they were
alone: to them the state they find looks like the one at the start of a run, apart from
the lines that are printed already. That the variables may have the names of functions
makes no difference, because then the later statements do not call these functions.
-/

namespace Offside

/-- The state that a program ends in looks like the first one to whoever knows none of its
targets. -/
theorem State.alike_of_execBody {limits : Resources} {rounds : Nat} {program : Program}
    {known : String → Prop} (apart : ∀ name ∈ Program.targets program, ¬ known name)
    {signal : Signal} {after : State}
    (ends : execBody limits rounds program {} = .ok signal after) :
    State.Alike known after.printed {} after where
  get?_eq name isKnown := by
    have binds := Program.binds_targets limits rounds program
    rw [ends] at binds
    cases found : after.scope.get? name with
    | none => rfl
    | some value => exact absurd isKnown (apart name (binds name value found).1)
  printed_eq := rfl

namespace Program

variable {limits : Resources} {first second : Program}

/-- Without a limit on steps, a program that shares no variables with the one before it prints its
lines behind the lines of that one, or fails as it does alone. If the first program fails or
stays unfinished, so do both. -/
theorem runWithin_append (free : limits.steps? = none)
    (apart : ∀ name ∈ targets first, name ∉ second.names) (rounds : Nat) :
    runWithin rounds limits (first ++ second) =
      (first.runWithin rounds limits).bind fun
        | .ok lines => (second.runWithin rounds limits).map (·.map (lines ++ ·))
        | .error error => some (.error error) := by
  simp only [runWithin_eq_resultOf, execBody_append]
  cases ends : execBody limits rounds first {} with
  | error stop after =>
      rw [Run.bind_eq_of_error ends]
      cases stop <;> rfl
  | ok signal after =>
      rw [Run.bind_eq_of_ok ends]
      cases signal with
      | stop | next => rfl
      | done =>
          have alike := State.alike_of_execBody apart ends
          have carries := Run.Alike.carriesLoops free (· ∈ second.names) after.printed rounds
          exact resultOf_of_sameEnd (carries.execBody second second.meets_names {} after alike)

/-- Without a limit on steps, independent programs compose. Let no variable that the first program
gives a value occur in the second one. If the first ends with some lines, both of them in a row
end as the second does alone, with its lines behind those of the first. If the first ends
with an error, so do both. And these are all ways in which both of them can end. -/
theorem ends_append (limits : Resources) (free : limits.steps? = none) (first second : Program)
    (apart : ∀ name ∈ targets first, name ∉ second.names) :
    (∀ lines, first.Ends limits (.ok lines) →
      (∀ more, second.Ends limits (.ok more) →
        Ends limits (first ++ second) (.ok (lines ++ more))) ∧
      ∀ error, second.Ends limits (.error error) →
        Ends limits (first ++ second) (.error error)) ∧
    (∀ error, first.Ends limits (.error error) → Ends limits (first ++ second) (.error error)) ∧
    ∀ result, Ends limits (first ++ second) result →
      (∃ error, result = .error error ∧ first.Ends limits (.error error)) ∨
      ∃ lines rest, result = rest.map (lines ++ ·) ∧
        first.Ends limits (.ok lines) ∧ second.Ends limits rest := by
  have append := runWithin_append free apart
  have behind : ∀ lines rest, first.Ends limits (.ok lines) → second.Ends limits rest →
      Ends limits (first ++ second) (rest.map (lines ++ ·)) := by
    simp only [ends_iff]
    rintro lines rest ⟨rounds, ended⟩ ⟨rounds', ended'⟩
    -- Both programs get the same number of rounds, so it has to be enough for either.
    refine ⟨max rounds rounds', ?_⟩
    rw [append, runWithin_of_rounds_le ended (Nat.le_max_left _ _),
      runWithin_of_rounds_le ended' (Nat.le_max_right _ _)]
    rfl
  refine ⟨fun lines ends => ⟨fun more => behind lines (.ok more) ends,
    fun error => behind lines (.error error) ends⟩, ?_, ?_⟩
  · simp only [ends_iff]
    rintro error ⟨rounds, ended⟩
    refine ⟨rounds, ?_⟩
    rw [append, ended]
    rfl
  · simp only [ends_iff]
    rintro result ⟨rounds, ended⟩
    rw [append] at ended
    obtain ⟨found, endedFirst, rest⟩ := Option.bind_eq_some_iff.mp ended
    cases found with
    | error error =>
        cases rest
        exact .inl ⟨error, rfl, rounds, endedFirst⟩
    | ok lines =>
        obtain ⟨found, endedSecond, rfl⟩ := Option.map_eq_some_iff.mp rest
        exact .inr ⟨lines, found, rfl, ⟨rounds, endedFirst⟩, rounds, endedSecond⟩

/-- The first program may name a variable like a function and leave it with its last value. -/
theorem ends_append_shadowing :
    let first : Program := [
      .assign "range" (.list [.text "a", .text "b"]),
      .forEach "x" (.name "range") [.expression (.call (.name "print") [.name "x"])]]
    Ends {} (first ++ [.expression (.call (.name "print") [.text "end"])]) (.ok ["a", "b", "end"]) ∧
      Ends {} (first ++ [.expression (.name "y")]) (.error (.undefinedVariable "y")) := by
  intro first
  have ended : first.Ends {} (.ok ["a", "b"]) := ⟨_, 0, rfl⟩
  constructor
  · exact ((ends_append {} rfl first _ (by decide)).1 _ ended).1 ["end"] ⟨_, 0, rfl⟩
  · exact ((ends_append {} rfl first _ (by decide)).1 _ ended).2 _ ⟨_, 0, rfl⟩

end Program

end Offside
