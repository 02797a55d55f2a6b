import Offside.Proofs.Run.Alike

/-!
# Loops run over what their sequence was at the start

A `for` loop evaluates its sequence once and then runs over the items it had at that moment. So
the sequence may just as well be kept in a variable of its own, from which the loop takes it: in
`Program.snapshot` every loop `for x in e` is `t = e` followed by `for x in t`. No other part
of the program sees the variable `t`. Whatever the bodies assign, to the target of their loop
or to the variables that `e` reads, the program ends as before.
-/

namespace Offside

mutual

/-- The sequences that the `for` loops in a statement run over, in the order of the loops. -/
def Statement.iterables : Statement → List Expression
  | .forEach _ iterable body => iterable :: Program.iterables body
  | .whileLoop _ body => Program.iterables body
  | .conditional chain => chain.iterables
  | .assign .. | .update .. | .stop | .next | .pass | .expression _ => []

/-- The sequences that the `for` loops in the branches of a conditional statement run over. -/
def Chain.iterables : Chain → List Expression
  | .done => []
  | .otherwise body => Program.iterables body
  | .branch _ body rest => Program.iterables body ++ rest.iterables

/-- The sequences that the `for` loops in a program run over, at any depth. -/
def Program.iterables : List Statement → List Expression
  | [] => []
  | statement :: later => statement.iterables ++ Program.iterables later

end

/-- The sequences of a program in two parts are those of the parts. -/
theorem Program.iterables_append (body later : List Statement) :
    iterables (body ++ later) = iterables body ++ iterables later := by
  induction body with
  | nil => rfl
  | cons statement others inductionHypothesis =>
      rw [List.cons_append, iterables, iterables, inductionHypothesis, List.append_assoc]

/-- The number of `for` loops in a program. -/
def Program.loops (program : Program) : Nat :=
  (iterables program).length

section

variable (copy : Nat → String)

mutual

/-- The statements that a statement becomes when its loops, counted from `first`, run over copies
of their sequences. -/
def Statement.snapshot (first : Nat) : Statement → List Statement
  | .forEach target iterable body =>
      [.assign (copy first) iterable,
        .forEach target (.name (copy first)) (Program.snapshot (first + 1) body)]
  | .whileLoop condition body => [.whileLoop condition (Program.snapshot first body)]
  | .conditional chain => [.conditional (chain.snapshot first)]
  | .assign target value => [.assign target value]
  | .update target op value => [.update target op value]
  | .stop => [.stop]
  | .next => [.next]
  | .pass => [.pass]
  | .expression value => [.expression value]

/-- The branches of a conditional statement with loops, counted from `first`, that run over copies
of their sequences. -/
def Chain.snapshot (first : Nat) : Chain → Chain
  | .done => .done
  | .otherwise body => .otherwise (Program.snapshot first body)
  | .branch condition body rest =>
      .branch condition (Program.snapshot first body)
        (rest.snapshot (first + (Program.iterables body).length))

/-- A program with loops, counted from `first`, that run over copies of their sequences, at any
depth. -/
def Program.snapshot (first : Nat) : List Statement → List Statement
  | [] => []
  | statement :: later =>
      statement.snapshot first ++
        Program.snapshot (first + statement.iterables.length) later

end

end

/-! ### Every loop has its copy -/

section

variable (copy : Nat → String)

mutual

/-- The loops of a statement run over the copies from `first` on. -/
theorem Statement.iterables_snapshot : (statement : Statement) → (first : Nat) →
    Program.iterables (statement.snapshot copy first) =
      (List.range' first statement.iterables.length).map fun index => .name (copy index)
  | .forEach target iterable body, first => by
      simp [Statement.snapshot, Program.iterables, Statement.iterables,
        Program.iterables_snapshot body, List.range'_succ]
  | .whileLoop condition body, first => by
      simp [Statement.snapshot, Program.iterables, Statement.iterables,
        Program.iterables_snapshot body]
  | .conditional chain, first => by
      simp [Statement.snapshot, Program.iterables, Statement.iterables,
        chain.iterables_snapshot]
  | .assign _ _, _ | .update _ _ _, _ | .stop, _ | .next, _ | .pass, _ | .expression _, _ => rfl

/-- The loops of branches run over the copies from `first` on. -/
theorem Chain.iterables_snapshot : (chain : Chain) → (first : Nat) →
    (chain.snapshot copy first).iterables =
      (List.range' first chain.iterables.length).map fun index => .name (copy index)
  | .done, _ => rfl
  | .otherwise body, first => Program.iterables_snapshot body first
  | .branch condition body rest, first => by
      rw [Chain.snapshot, Chain.iterables, Chain.iterables, Program.iterables_snapshot body,
        rest.iterables_snapshot, List.length_append, ← List.map_append, List.range'_append_1]

/-- The loops of a program run over the copies from `first` on. -/
theorem Program.iterables_snapshot : (program : List Statement) → (first : Nat) →
    Program.iterables (Program.snapshot copy first program) =
      (List.range' first (Program.iterables program).length).map fun index => .name (copy index)
  | [], _ => rfl
  | statement :: later, first => by
      rw [Program.snapshot, Program.iterables_append, Program.iterables,
        statement.iterables_snapshot, Program.iterables_snapshot later, List.length_append,
        ← List.map_append, List.range'_append_1]

end

end

/-! ### The meaning stays -/

open Run (Alike Anything)

section

variable {limits : Resources} {rounds : Nat} {known : String → Prop} {copy : Nat → String}

/-- Keeping a value in a variable that is not known and taking it from there does the same as using
it. -/
theorem Run.Alike.assign_lookup (free : limits.steps? = none) {name : String}
    (unknown : ¬ known name) {β : Type} {further : β → Prop} {part : Run β} {next : Value → Run β}
    {value : Value} (alike : Alike known [] β further part (next value)) :
    Alike known [] β further part
      (Run.assign name value >>= fun _ => Run.tick limits >>= fun _ =>
        Run.lookup name >>= next) := by
  intro state state' same
  have assigned : Run.assign name value state' =
      .ok () { state' with scope := state'.scope.set name value } := rfl
  have found : (state'.scope.set name value).get? name = some value := by
    rw [Scope.get?_set, if_pos rfl]
  rw [Run.bind_eq_of_ok assigned, Run.bind_eq_of_ok (Alike.tick_eq free _),
    Run.bind_eq_of_ok (Run.lookup_of_variable found)]
  exact alike _ _ ((same.assign_unknown unknown value).steps state.steps _)

variable (free : limits.steps? = none)

include free

mutual

/-- A statement does the same when its loops run over copies in variables that are not known. -/
theorem Statement.alike_snapshot : (statement : Statement) → (first : Nat) →
    statement.Meets (fun part => ∀ name ∈ part.name?, known name) Anything →
    (∀ index, first ≤ index → index < first + statement.iterables.length → ¬ known (copy index)) →
    Alike known [] Signal Anything (statement.exec limits rounds)
      (execBody limits rounds (statement.snapshot copy first))
  | .forEach target iterable body, first, ⟨set, meets, meetsBody⟩, unknown => by
      have carries := Alike.carriesLoops free known [] rounds
      have here : ¬ known (copy first) :=
        unknown first (Nat.le_refl _) (Nat.lt_add_of_pos_right (Nat.succ_pos _))
      have bodyAlike := Program.alike_snapshot body (first + 1) meetsBody fun index above below =>
        unknown index (Nat.le_of_succ_le above) (by
          rw [Statement.iterables, List.length_cons]
          omega)
      rw [Statement.snapshot, execBody_cons, execBody_singleton]
      simp only [Statement.exec, bind_assoc, pure_bind, Run.goOn]
      refine carries.bind carries.tick fun _ _ => ?_
      refine carries.bind (carries.eval iterable meets) fun value _ => ?_
      -- Only one of the runs keeps the sequence in a variable. Both then loop over its items.
      refine .assign_lookup free here ?_
      refine carries.bind (carries.settled value.settled_iterate) fun items _ => ?_
      exact carries.bind (carries.forEach set bodyAlike items fun _ _ => trivial) fun _ _ =>
        carries.pure trivial
  | .whileLoop condition body, first, ⟨meets, meetsBody⟩, unknown => by
      rw [Statement.snapshot, execBody_singleton]
      exact (Alike.carriesLoops free known [] rounds).exec_whileLoop meets
        (Program.alike_snapshot body first meetsBody unknown)
  | .conditional chain, first, meets, unknown => by
      rw [Statement.snapshot, execBody_singleton]
      exact (Alike.carriesLoops free known [] rounds).exec_conditional
        (chain.alike_snapshot first meets unknown)
  | .assign _ _, _, meets, _ | .update _ _ _, _, meets, _ | .stop, _, meets, _
  | .next, _, meets, _ | .pass, _, meets, _ | .expression _, _, meets, _ => by
      rw [Statement.snapshot, execBody_singleton]
      exact (Alike.carriesLoops free known [] rounds).exec _ meets

/-- Branches do the same when their loops run over copies in variables that are not known. -/
theorem Chain.alike_snapshot : (chain : Chain) → (first : Nat) →
    chain.Meets (fun part => ∀ name ∈ part.name?, known name) Anything →
    (∀ index, first ≤ index → index < first + chain.iterables.length → ¬ known (copy index)) →
    Alike known [] Signal Anything (chain.exec limits rounds)
      ((chain.snapshot copy first).exec limits rounds)
  | .done, _, meets, _ => (Alike.carriesLoops free known [] rounds).execChain .done meets
  | .otherwise body, first, meets, unknown => Program.alike_snapshot body first meets unknown
  | .branch condition body rest, first, ⟨meets, meetsBody, meetsRest⟩, unknown => by
      rw [Chain.iterables, List.length_append] at unknown
      refine (Alike.carriesLoops free known [] rounds).exec_branch meets
        (Program.alike_snapshot body first meetsBody fun index above below => ?_)
        (rest.alike_snapshot (first + (Program.iterables body).length) meetsRest
          fun index above below => ?_)
      · exact unknown index above (by omega)
      · exact unknown index (by omega) (by omega)

/-- Statements one after the other do the same when their loops run over copies in variables that
are not known. -/
theorem Program.alike_snapshot : (program : List Statement) → (first : Nat) →
    Program.Meets (fun part => ∀ name ∈ part.name?, known name) Anything program →
    (∀ index, first ≤ index → index < first + (Program.iterables program).length →
      ¬ known (copy index)) →
    Alike known [] Signal Anything (execBody limits rounds program)
      (execBody limits rounds (Program.snapshot copy first program))
  | [], _, _, _ => (Alike.carriesLoops free known [] rounds).execBody [] trivial
  | statement :: later, first, ⟨meets, meetsLater⟩, unknown => by
      rw [Program.iterables, List.length_append] at unknown
      rw [Program.snapshot, execBody_cons, execBody_append]
      refine (Alike.carriesLoops free known [] rounds).bind_goOn
        (statement.alike_snapshot first meets fun index above below => ?_)
        (Program.alike_snapshot later (first + statement.iterables.length) meetsLater
          fun index above below => ?_)
      · exact unknown index above (by omega)
      · exact unknown index (by omega) (by omega)

end

end

namespace Program

/-- Without a limit on steps, a program whose loops run over copies of their sequences ends exactly
when the program itself ends, and with the same lines or the same error, if the names of the
copies do not occur in it. The loops take their copies in order; the names need not even differ
from each other. -/
theorem ends_snapshot (limits : Resources) (free : limits.steps? = none) (program : Program)
    (copy : Nat → String) (fresh : ∀ index < loops program, copy index ∉ program.names) :
    iterables (snapshot copy 0 program) =
      (List.range (loops program)).map (fun index => .name (copy index)) ∧
    (∀ rounds, runWithin rounds limits (snapshot copy 0 program) =
      program.runWithin rounds limits) ∧
    ∀ result, Ends limits (snapshot copy 0 program) result ↔ program.Ends limits result := by
  have alike (rounds : Nat) : Alike (· ∈ program.names) [] Signal Anything
      (execBody limits rounds program) (execBody limits rounds (snapshot copy 0 program)) :=
    alike_snapshot free program 0 program.meets_names fun index _ below =>
      fresh index (by rwa [Nat.zero_add] at below)
  refine ⟨?_, ends_iff_of_alike alike⟩
  rw [iterables_snapshot, loops, List.range_eq_range']

/-- The outer loop empties its own sequence, and the inner one gives the variable that its
sequence reads another value. -/
theorem ends_snapshot_reassigned :
    let program : Program := [
      .assign "s" (.list [.text "a", .text "b"]),
      .forEach "x" (.name "s") [
        .assign "s" (.list []),
        .forEach "y" (.list [.name "x", .name "x"]) [
          .assign "x" (.text "c"),
          .expression (.call (.name "print") [.name "y"])]]]
    let copy (index : Nat) : String := if index = 0 then "t" else "u"
    Ends {} (snapshot copy 0 program) (.ok ["a", "a", "b", "b"]) := by
  intro program copy
  have fresh : ∀ index < loops program, copy index ∉ program.names := by decide
  obtain ⟨-, -, ends⟩ := ends_snapshot {} rfl program copy fresh
  exact (ends (.ok ["a", "a", "b", "b"])).mpr ⟨_, 0, rfl⟩

end Program

end Offside
