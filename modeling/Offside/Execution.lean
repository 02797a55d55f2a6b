import Offside.Defect
import Offside.Outline
import Offside.Run.Program

/-!
# Running source text

A source text is run in three stages, and the first one that fails decides: no
line may have a defect, the lines must make up a program, and the program must
run to its end.
-/

namespace Offside

/-- Why a source text prints nothing. -/
inductive Failure where
  | defect (defect : Defect)
  | outline (error : OutlineError)
  | runtime (error : RuntimeError)

namespace Failure

/-- The message of a failure is that of its stage. -/
def message : Failure → String
  | defect found => found.message
  | outline error => error.message
  | runtime error => error.message

/-- The number of the line at fault, where a stage before the run failed. -/
def line? : Failure → Option Nat
  | defect found => some found.line
  | outline error => some error.line
  | runtime _ => none

/-- The number of characters of the trimmed line before the fault, where that is known. -/
def column? : Failure → Option Nat
  | outline error => error.column?
  | defect _ | runtime _ => none

end Failure

/-- The program of a source text whose lines have no defect. -/
def Program.ofSource (source : String) : Except Failure Program :=
  match Defect.first? source with
  | some found => .error (.defect found)
  | none =>
      match BlockTree.ofSource source with
      | .ok tree => .ok tree.program
      | .error error => .error (.outline error)

/-- The lines that a source text prints, or its failure; nothing if a loop does not end. -/
def execute (source : String) (limits : Resources) : Option (Except Failure (List String)) :=
  match Program.ofSource source with
  | .ok program => (program.run limits).map fun result => result.mapError .runtime
  | .error failure => some (.error failure)

end Offside
