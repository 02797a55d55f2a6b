import Offside.Proofs.Preorder
import Offside.Proofs.Run.Alike

/-!
# Updates and branches can be spelled out

An update `target op= value` stands for the assignment `target = target op value`, and a
conditional statement with several branches for one whose last body holds the conditional
statement of the other branches. Spelling both out everywhere (`Program.desugar`) makes a
program take other steps, but it leaves alone in which order it looks up names, evaluates,
assigns and prints. So without a limit on steps the program ends as before, and does
not end if it did not.
-/

namespace Offside

/-- The last body that runs the branches of a chain as a statement of its own. -/
def Chain.asElse : Chain → Chain
  | .branch condition body rest => .otherwise [.conditional (.branch condition body rest)]
  | .otherwise body => .otherwise body
  | .done => .done

mutual

/-- A statement with its updates and branches spelled out. -/
def Statement.desugar : Statement → Statement
  | .assign target value => .assign target value
  | .update target op value => .assign target (.binary (.name target) op value)
  | .forEach target iterable body => .forEach target iterable (Program.desugar body)
  | .whileLoop condition body => .whileLoop condition (Program.desugar body)
  | .conditional chain => .conditional chain.desugar
  | .stop => .stop
  | .next => .next
  | .pass => .pass
  | .expression value => .expression value

/-- A chain of at most one branch, with the others in its last body. -/
def Chain.desugar : Chain → Chain
  | .done => .done
  | .otherwise body => .otherwise (Program.desugar body)
  | .branch condition body rest => .branch condition (Program.desugar body) rest.desugar.asElse

/-- A program with its updates and branches spelled out, at any depth. -/
def Program.desugar : List Statement → List Statement
  | [] => []
  | statement :: later => statement.desugar :: Program.desugar later

end

/-! ### Nothing is left to spell out -/

mutual

/-- Whether a statement has no update in it and no conditional statement of several branches. -/
def Statement.isSpelledOut : Statement → Bool
  | .update .. => false
  | .forEach _ _ body | .whileLoop _ body => Program.isSpelledOut body
  | .conditional chain => chain.isSpelledOut
  | .assign .. | .stop | .next | .pass | .expression _ => true

/-- Whether a chain has at most one branch, and nothing to spell out in its bodies. -/
def Chain.isSpelledOut : Chain → Bool
  | .done => true
  | .otherwise body => Program.isSpelledOut body
  | .branch _ body rest => Program.isSpelledOut body && !rest.hasBranch && rest.isSpelledOut

/-- Whether no statement of a program has anything to spell out. -/
def Program.isSpelledOut : List Statement → Bool
  | [] => true
  | statement :: later => statement.isSpelledOut && Program.isSpelledOut later

end

/-- Nothing branches behind the last body of a chain. -/
theorem Chain.hasBranch_asElse (chain : Chain) : chain.asElse.hasBranch = false := by
  cases chain <;> rfl

/-- Branches that are moved to a last body stay spelled out. -/
theorem Chain.isSpelledOut_asElse (chain : Chain) :
    chain.asElse.isSpelledOut = chain.isSpelledOut := by
  cases chain with
  | done | otherwise => rfl
  | branch condition body rest =>
      simp [asElse, isSpelledOut, Program.isSpelledOut, Statement.isSpelledOut]

mutual

/-- Spelling a statement out leaves nothing to spell out. -/
theorem Statement.isSpelledOut_desugar : (statement : Statement) →
    statement.desugar.isSpelledOut = true
  | .forEach _ _ body | .whileLoop _ body => Program.isSpelledOut_desugar body
  | .conditional chain => chain.isSpelledOut_desugar
  | .assign _ _ | .update _ _ _ | .stop | .next | .pass | .expression _ => rfl

/-- Spelling out branches leaves nothing to spell out in them. -/
theorem Chain.isSpelledOut_desugar : (chain : Chain) → chain.desugar.isSpelledOut = true
  | .done => rfl
  | .otherwise body => Program.isSpelledOut_desugar body
  | .branch condition body rest => by
      rw [Chain.desugar, Chain.isSpelledOut, Program.isSpelledOut_desugar body,
        Chain.hasBranch_asElse, Chain.isSpelledOut_asElse, rest.isSpelledOut_desugar]
      rfl

/-- Spelling out a program leaves nothing to spell out in it. -/
theorem Program.isSpelledOut_desugar : (program : List Statement) →
    Program.isSpelledOut (Program.desugar program) = true
  | [] => rfl
  | statement :: later => by
      rw [Program.desugar, Program.isSpelledOut, statement.isSpelledOut_desugar,
        Program.isSpelledOut_desugar later]
      rfl

end

/-! ### The meaning stays -/

section

open Run (Alike Anything)

variable {limits : Resources} {rounds : Nat}

/-- An update does the same as the assignment that it stands for. -/
theorem Statement.exec_update (target : String) (op : BinaryOp) (value : Expression) :
    (Statement.update target op value).exec limits rounds =
      (Statement.assign target (.binary (.name target) op value)).exec limits rounds := by
  simp only [Statement.exec, Expression.eval, bind_assoc]

/-- A conditional statement inside a last body does the same as its branches, with a step more. -/
theorem Chain.exec_asElse (free : limits.steps? = none) {part : Run Signal} {chain : Chain}
    (alike : Alike Anything [] Signal Anything part (chain.exec limits rounds)) :
    Alike Anything [] Signal Anything part (chain.asElse.exec limits rounds) := by
  cases chain with
  | done | otherwise => exact alike
  | branch condition body rest =>
      -- The statement around the branches adds its own step and nothing else.
      rw [asElse, Chain.exec, execBody_singleton, Statement.exec]
      exact .tick_right free alike

/-- Every expression uses known names only if all names are known. -/
theorem Expression.meets_known (expression : Expression) :
    expression.Meets fun part => ∀ name ∈ part.name?, Anything name :=
  fun _ _ _ _ => trivial

variable (free : limits.steps? = none)

include free

mutual

/-- A statement does the same when it is spelled out. -/
theorem Statement.alike_desugar : (statement : Statement) →
    Alike Anything [] Signal Anything (statement.exec limits rounds)
      (statement.desugar.exec limits rounds)
  | .update target op value => by
      rw [Statement.exec_update]
      exact .exec_self free rounds _
  | .forEach _ iterable body =>
      (Alike.carriesLoops free Anything [] rounds).exec_forEach trivial iterable.meets_known
        (Program.alike_desugar body)
  | .whileLoop condition body =>
      (Alike.carriesLoops free Anything [] rounds).exec_whileLoop condition.meets_known
        (Program.alike_desugar body)
  | .conditional chain =>
      (Alike.carriesLoops free Anything [] rounds).exec_conditional chain.alike_desugar
  | .assign _ _ | .stop | .next | .pass | .expression _ => .exec_self free rounds _

/-- Branches do the same when they are spelled out. -/
theorem Chain.alike_desugar : (chain : Chain) →
    Alike Anything [] Signal Anything (chain.exec limits rounds)
      (chain.desugar.exec limits rounds)
  | .done => (Alike.carriesLoops free Anything [] rounds).execChain .done trivial
  | .otherwise body => Program.alike_desugar body
  | .branch condition body rest =>
      (Alike.carriesLoops free Anything [] rounds).exec_branch condition.meets_known
        (Program.alike_desugar body) (Chain.exec_asElse free rest.alike_desugar)

/-- Statements one after the other do the same when they are spelled out. -/
theorem Program.alike_desugar : (program : List Statement) →
    Alike Anything [] Signal Anything (execBody limits rounds program)
      (execBody limits rounds (Program.desugar program))
  | [] => (Alike.carriesLoops free Anything [] rounds).execBody [] trivial
  | statement :: later => by
      rw [Program.desugar, execBody_cons, execBody_cons]
      exact (Alike.carriesLoops free Anything [] rounds).bind_goOn statement.alike_desugar
        (Program.alike_desugar later)

end

end

namespace Program

/-- Without a limit on steps, a program whose updates and branches are all spelled out ends exactly
when the program itself ends, and with the same lines or the same error. Its loops need no more
rounds for that. -/
theorem ends_desugar (limits : Resources) (free : limits.steps? = none) (program : Program) :
    isSpelledOut (desugar program) ∧
    (∀ rounds, runWithin rounds limits (desugar program) = program.runWithin rounds limits) ∧
    ∀ result, Ends limits (desugar program) result ↔ program.Ends limits result :=
  ⟨isSpelledOut_desugar program, ends_iff_of_alike fun _ => alike_desugar free program⟩

/-- The first of three branches goes on with the loop and the last one leaves it, from the same loop
as before when it is a statement deeper. -/
theorem ends_desugar_branches :
    let isItem (value : Int64) : Expression := .compare (.name "i") [(.equal, .integer value)]
    let program : Program := [
      .assign "n" (.integer 0),
      .forEach "i" (.list [.integer 1, .integer 2, .integer 3, .integer 2])
        [.conditional (.branch (isItem 1) [.next]
          (.branch (isItem 2) [.update "n" .add (.name "i")] (.otherwise [.stop])))],
      .expression (.call (.name "print") [.name "n"])]
    isSpelledOut (desugar program) ∧ Ends {} (desugar program) (.ok ["2"]) := by
  obtain ⟨spelledOut, -, ends⟩ := ends_desugar {} rfl _
  exact ⟨spelledOut, (ends (.ok ["2"])).mpr ⟨_, 0, rfl⟩⟩

end Program

end Offside
