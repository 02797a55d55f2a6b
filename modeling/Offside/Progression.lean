import Offside.Resources

/-!
# Arithmetic progressions

`Progression.ofBounds` lists the integers from a start, by a step, up to and
without a stop, or down to it for a negative step. The length is known before a
term is made, so a length over the limit costs nothing, and memory is asked for at once.
-/

namespace Offside

/-- Why bounds give no progression. -/
inductive ProgressionFault where
  | argumentCount (found : Nat)
  | zeroStep (start stop : Int64)
  | tooLong (length limit : Nat)
  | unallocatable (length : Nat)
  deriving DecidableEq

/-- The message of a fault. -/
def ProgressionFault.message : ProgressionFault → String
  | argumentCount found => s!"range expected 1 to 3 arguments, got {found}"
  | zeroStep start stop =>
      s!"range() with step 0 from {start.toInt} never reaches {stop.toInt}"
  | tooLong length limit => s!"range() of length {length} exceeds limit {limit}"
  | unallocatable length => s!"range() of length {length} cannot be allocated"

namespace Progression

/-- How often `step` leads on from `start` before `stop` is reached, for a step other than
zero: the distance divided by the step, rounded up. -/
def length (start stop step : Int) : Nat :=
  if 0 < step ∧ start < stop then ((stop - start + step - 1) / step).toNat
  else if step < 0 ∧ stop < start then ((start - stop - step - 1) / -step).toNat
  else 0

/-- The first terms of a progression. -/
def terms (start step : Int) (length : Nat) : List Int64 :=
  (List.range length).map fun (index : Nat) => Int64.ofInt (start + index * step)

/-- The progression between two bounds. A step of zero leads nowhere, so it is refused
where it would have to count down. -/
def between (start stop step : Int64) (limit? : Option Nat) (memory : Memory) :
    Except ProgressionFault (List Int64) :=
  if step = 0 then
    if stop < start then .error (.zeroStep start stop) else .ok []
  else
    let count := length start.toInt stop.toInt step.toInt
    if let some limit := limit?.filter (· < count) then .error (.tooLong count limit)
    else if memory.grants .term count then .ok (terms start.toInt step.toInt count)
    else .error (.unallocatable count)

/-- The progression of a stop, of a start and a stop, or of a start, a stop and a step. -/
def ofBounds (bounds : List Int64) (limit? : Option Nat) (memory : Memory := .assumed) :
    Except ProgressionFault (List Int64) :=
  match bounds with
  | [stop] => between 0 stop 1 limit? memory
  | [start, stop] => between start stop 1 limit? memory
  | [start, stop, step] => between start stop step limit? memory
  | _ => .error (.argumentCount bounds.length)

/-- A progression has as many terms as its length says. -/
theorem length_terms (start step : Int) (count : Nat) :
    (terms start step count).length = count := by
  simp [terms]

end Progression

end Offside
