import Offside.Run.Evaluation
import Offside.Syntax.Statement

/-!
# Running programs

Statements are run one after the other, and each of them and each round of a
loop counts as a step. A `for` loop runs over the items that its sequence had at
the start. A `while` loop may have no end, so every one of them is given a
number of rounds; `Program.runWithin` says which number, and a program whose
loops need more stays unfinished. With a limit on steps no loop can use up more
rounds than the limit allows steps, so `Program.run` always finishes then.
-/

namespace Offside

/-- How a statement ends: in the ordinary way, by leaving the loop around it, or by going
on to the next round of that loop. -/
inductive Signal where
  | done | stop | next
  deriving DecidableEq

namespace Run

/-- Runs the rounds of a loop over some items until the body stops it. -/
def forEach (limits : Resources) (target : String) (body : Run Signal) : List Value → Run Unit
  | [] => pure ()
  | item :: later => do
      tick limits
      assign target item
      match ← body with
      | .stop => pure ()
      | .done | .next => forEach limits target body later

/-- Runs at most `rounds` rounds of a loop, as long as the condition holds and until the body
stops it. -/
def whileHolds (limits : Resources) (condition : Run Bool) (body : Run Signal) : Nat → Run Unit
  | 0 => throw .unfinished
  | rounds + 1 => do
      if ← condition then
        tick limits
        match ← body with
        | .stop => pure ()
        | .done | .next => whileHolds limits condition body rounds

end Run

mutual

/-- Runs a statement. -/
def Statement.exec (limits : Resources) (rounds : Nat) : Statement → Run Signal
  | .assign target value => do
      Run.tick limits
      Run.assign target (← value.eval limits)
      pure .done
  | .update target op value => do
      Run.tick limits
      let current ← Run.lookup target
      let value ← value.eval limits
      let result := current.applyBinary op value limits.sequence? limits.memory
      Run.assign target (← Run.ofExcept result)
      pure .done
  | .forEach target iterable body => do
      Run.tick limits
      let items ← Run.ofExcept (← iterable.eval limits).iterate
      Run.forEach limits target (execBody limits rounds body) items
      pure .done
  | .whileLoop condition body => do
      Run.tick limits
      Run.whileHolds limits (condition.holds limits) (execBody limits rounds body) rounds
      pure .done
  | .conditional chain => do
      Run.tick limits
      chain.exec limits rounds
  | .stop => do
      Run.tick limits
      pure .stop
  | .next => do
      Run.tick limits
      pure .next
  | .pass => do
      Run.tick limits
      pure .done
  | .expression value => do
      Run.tick limits
      let _ ← value.eval limits
      pure .done

/-- Runs the first branch whose condition holds. -/
def Chain.exec (limits : Resources) (rounds : Nat) : Chain → Run Signal
  | .done => pure .done
  | .otherwise body => execBody limits rounds body
  | .branch condition body rest => do
      if ← condition.holds limits then execBody limits rounds body
      else rest.exec limits rounds

/-- Runs statements until one of them ends in another way than the ordinary. -/
def execBody (limits : Resources) (rounds : Nat) : List Statement → Run Signal
  | [] => pure .done
  | statement :: later => do
      match ← statement.exec limits rounds with
      | .done => execBody limits rounds later
      | signal => pure signal

end

namespace Program

/-- Runs a whole program. Leaving or going on with a loop makes no sense outside all loops. -/
def exec (limits : Resources) (rounds : Nat) (program : Program) : Run Unit := do
  match ← execBody limits rounds program with
  | .done => pure ()
  | .stop => Run.fail (.loopControlOutsideLoop "break")
  | .next => Run.fail (.loopControlOutsideLoop "continue")

/-- The lines that a program prints, or its error, if every `while` loop ends within
`rounds` rounds. -/
def runWithin (rounds : Nat) (limits : Resources) (program : Program) :
    Option (Except RuntimeError (List String)) :=
  match program.exec limits rounds {} with
  | .ok () state => some (.ok state.output)
  | .error (.failed error) _ => some (.error error)
  | .error .unfinished _ => none

/-- More rounds than any machine gets to. -/
def endless : Nat := 0x4000000000000000

/-- The lines that a program prints, or its error. One round more than the limit on steps
is enough for every loop. -/
def run (limits : Resources) (program : Program) : Option (Except RuntimeError (List String)) :=
  program.runWithin ((limits.steps?.map (· + 1)).getD endless) limits

end Program

end Offside
