import Offside.Proofs.Run.Steps

/-!
# Programs without `while` end

How often a `for` loop goes round is known only when it is reached: a text or list can
double in each round of the loop before it. But the loop then runs over the items its
sequence had at that moment, whatever the body does to the variables. So a statement with
no `while` loop in it does the same with any number of rounds (`Statement.exec_rounds`). An
unfinished run, on the other hand, has taken as many steps as its loops have rounds, and it
cannot have done so for every number. A program without `while` therefore ends, and from some
number of steps on no limit on steps is exceeded.
-/

namespace Offside

mutual

/-- Whether a statement is a `while` loop or has one in its blocks, at any depth. -/
def Statement.hasWhile : Statement → Bool
  | .whileLoop .. => true
  | .forEach _ _ body => anyHasWhile body
  | .conditional chain => chain.hasWhile
  | .assign .. | .update .. | .stop | .next | .pass | .expression _ => false

/-- Whether a chain has a `while` loop in its blocks. -/
def Chain.hasWhile : Chain → Bool
  | .done => false
  | .otherwise body => anyHasWhile body
  | .branch _ body rest => anyHasWhile body || rest.hasWhile

/-- Whether one of some statements has a `while` loop. -/
def anyHasWhile : List Statement → Bool
  | [] => false
  | statement :: later => statement.hasWhile || anyHasWhile later

end

section

variable (limits : Resources) (rounds other : Nat)

mutual

/-- A statement without `while` does the same for every number of rounds. -/
theorem Statement.exec_rounds : (statement : Statement) → statement.hasWhile = false →
    statement.exec limits rounds = statement.exec limits other
  | .forEach target iterable body, free => by
      rw [Statement.hasWhile] at free
      rw [Statement.exec, Statement.exec, execBody_rounds body free]
  | .conditional chain, free => by
      rw [Statement.hasWhile] at free
      rw [Statement.exec, Statement.exec, chain.exec_rounds free]
  | .whileLoop .., free => nomatch free
  | .assign .., _ | .update .., _ | .stop, _ | .next, _ | .pass, _ | .expression _, _ => rfl

/-- A chain without `while` does the same for every number of rounds. -/
theorem Chain.exec_rounds : (chain : Chain) → chain.hasWhile = false →
    chain.exec limits rounds = chain.exec limits other
  | .done, _ => rfl
  | .otherwise body, free => execBody_rounds body free
  | .branch condition body rest, free => by
      obtain ⟨bodyFree, restFree⟩ := Bool.or_eq_false_iff.mp free
      rw [Chain.exec, Chain.exec, execBody_rounds body bodyFree, rest.exec_rounds restFree]

/-- Statements without `while` do the same one after the other for every number of rounds. -/
theorem execBody_rounds : (body : List Statement) → anyHasWhile body = false →
    execBody limits rounds body = execBody limits other body
  | [], _ => rfl
  | statement :: later, free => by
      obtain ⟨firstFree, laterFree⟩ := Bool.or_eq_false_iff.mp free
      rw [execBody, execBody, statement.exec_rounds firstFree, execBody_rounds later laterFree]

end

end

namespace Program

open Run (Cuts stateOf)

/-- Whether a program has a `while` loop, at any depth. -/
def hasWhile (program : Program) : Bool :=
  anyHasWhile program

variable {program : Program}

/-- A program without `while` does the same for every number of rounds. -/
theorem exec_rounds (whileFree : program.hasWhile = false) (limits : Resources)
    (rounds other : Nat) : program.exec limits rounds = program.exec limits other := by
  rw [exec, exec, execBody_rounds limits rounds other program whileFree]

/-- Without a limit on steps a program without `while` ends, in the same way for every number of
rounds and not for an excess of steps. -/
theorem exists_ending_of_whileFree (whileFree : program.hasWhile = false) (limits : Resources) :
    ∃ result steps,
      (∀ rounds, ending (program.exec { limits with steps? := none } rounds {}) =
        some (result, steps)) ∧
      ∀ most, result ≠ .error (.stepLimitExceeded most) := by
  -- The loops get one round more than the steps that are taken when they get none.
  obtain ⟨most, count⟩ :
      ∃ most, (stateOf (program.exec { limits with steps? := none } 0 {})).steps = most := ⟨_, rfl⟩
  have cuts := (Cuts.respectsLoops limits most (most + 1)).execProgram program fun _ =>
    .idle (.fail (by simp))
  rw [exec_rounds whileFree _ 0 (most + 1)] at count
  obtain ⟨result, ended, settled⟩ :=
    exists_ending cuts (Nat.lt_succ_self most) (Nat.le_of_eq count)
  rw [count] at ended
  refine ⟨result, most, fun rounds => ?_, settled⟩
  rw [exec_rounds whileFree _ rounds (most + 1), ended]

/-- A program without `while` ends, with lines or with an error, for every number of rounds its
loops are given; and no limit that allows the steps it takes is ever exceeded. -/
theorem ends_of_whileFree (whileFree : program.hasWhile = false) (limits : Resources) :
    ∃ result steps,
      program.run { limits with steps? := none } = some result ∧
      (∀ rounds, program.runWithin rounds { limits with steps? := none } = some result) ∧
      program.EndsAfter { limits with steps? := none } result steps ∧
      (∀ most, result ≠ .error (.stepLimitExceeded most)) ∧
      ∀ most, steps ≤ most → program.run { limits with steps? := some most } = some result := by
  obtain ⟨result, steps, ended, settled⟩ := exists_ending_of_whileFree whileFree limits
  have within : ∀ rounds,
      program.runWithin rounds { limits with steps? := none } = some result := by
    intro rounds
    rw [runWithin_eq_map_ending, ended]
    rfl
  have ends : program.EndsAfter { limits with steps? := none } result steps := ⟨0, ended 0⟩
  exact ⟨result, steps, within _, within, ends, settled, fun _ enough =>
    ends.run_limited_of_le enough⟩

/-- A loop over a list that each of its rounds doubles, and a loop over what became of it. -/
def doubling : Program :=
  [.assign "items" (.list [.boolean true, .boolean false]),
    .forEach "item" (.name "items") [.update "items" .add (.name "items")],
    .forEach "item" (.name "items") [.expression (.call (.name "print") [.name "item"])]]

/-- The first loop of the doubling program takes two rounds and the second one eight. -/
theorem ends_of_whileFree_doubling :
    doubling.hasWhile = false ∧
      ∃ steps, ∀ most, steps ≤ most → doubling.run { steps? := some most } = some (.ok
        ["True", "False", "True", "False", "True", "False", "True", "False"]) := by
  have whileFree : doubling.hasWhile = false := rfl
  obtain ⟨result, steps, -, within, -, -, limited⟩ := ends_of_whileFree whileFree {}
  have prints : doubling.runWithin 0 {} = some (.ok
      ["True", "False", "True", "False", "True", "False", "True", "False"]) := rfl
  rw [(within 0).symm.trans prints] at limited
  exact ⟨whileFree, steps, limited⟩

end Program

end Offside
