/-!
# What a run may use

A run is bounded by limits, and before it makes a progression or repeats a sequence it asks for the
memory that this takes. `Memory` says for which sizes it is given that; nothing else is known of it.
-/

namespace Offside

/-- The limits of a run; an absent one allows everything. -/
structure Limits where
  /-- The most statements and rounds of loops. -/
  steps? : Option Nat := none
  /-- The greatest length of a progression. -/
  range? : Option Nat := none
  /-- The greatest length of a text or list that an operator makes. -/
  sequence? : Option Nat := none
  deriving DecidableEq

/-- What memory is asked for: bytes of a text, items of a list, or terms of a progression. -/
inductive Element where
  | byte | item | term
  deriving DecidableEq, Repr

/-- The numbers of elements of each kind for which there is memory; zero is one of them. -/
structure Memory where
  reserves : Element → Nat → Bool
  zero : ∀ element, reserves element 0

namespace Memory

/-- A memory for everything up to some number of elements. -/
def upTo (most : Nat) : Memory :=
  ⟨fun _ size => size ≤ most, fun _ => decide_eq_true (Nat.zero_le most)⟩

/-- Whether a size can be had. It is asked for in a word of 64 bits, so no greater one can. -/
def grants (memory : Memory) (element : Element) (size : Nat) : Bool :=
  size < UInt64.size && memory.reserves element size

/-- A size of zero can always be had. -/
theorem grants_zero (memory : Memory) (element : Element) : memory.grants element 0 :=
  memory.zero element

/-- A size that a word holds can be had if there is memory for it. -/
theorem grants_of_lt {size : Nat} (fits : size < UInt64.size) (memory : Memory)
    (element : Element) : memory.grants element size = memory.reserves element size := by
  rw [grants, decide_eq_true fits, Bool.true_and]

/-- The memory that is assumed of a machine of which nothing is said. -/
def assumed : Memory := upTo 0x40000000

end Memory

/-- What a run may use: its limits allow it, and the memory is there. -/
structure Resources extends Limits where
  memory : Memory := .assumed

instance : Coe Limits Resources where
  coe limits := { limits with }

end Offside
