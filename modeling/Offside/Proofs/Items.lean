import Offside.Proofs.Width
import Offside.Resources
import Offside.Value.Sequence

/-!
# Sequences and their items

A text or a list is told by its type and its items. In memory a text takes up its bytes, of which it
has at least as many as items.
-/

namespace Offside

open Width

namespace Value

/-- Characters are told apart by the texts that they are by themselves. -/
theorem text_toString_inj {character other : Char}
    (same : text character.toString = text other.toString) : character = other := by
  have lists := congrArg String.toList (text.inj same)
  simpa [Char.toString] using lists

/-- A sequence is its type and its items. -/
theorem eq_of_items? {left right : Value} {items : List Value}
    (type : left.typeName = right.typeName) (leftItems : left.items? = some items)
    (rightItems : right.items? = some items) : left = right := by
  have same := leftItems.trans rightItems.symm
  cases left with
  | list _ =>
      cases right with
      | list _ => rw [Option.some.inj same]
      | _ => exact absurd type (by simp [typeName])
  | text content =>
      cases right with
      | text other =>
          have characters := (List.map_inj_right fun _ _ => text_toString_inj).mp
            (Option.some.inj same)
          rw [String.toList_injective characters]
      | _ => exact absurd type (by simp [typeName])
  | _ => cases leftItems

/-- To be of a type and have some items is to be the one sequence that does. -/
theorem has_iff {sequence value : Value} {items : List Value}
    (type : value.typeName = sequence.typeName) (has : value.items? = some items)
    (other : Value) :
    other.typeName = sequence.typeName ∧ other.items? = some items ↔ other = value := by
  constructor
  · rintro ⟨typeToo, hasToo⟩
    exact eq_of_items? (typeToo.trans type.symm) hasToo has
  · rintro rfl
    exact ⟨type, has⟩

/-- What a sequence takes up in memory: a text its bytes, and a list its items. -/
def room : Value → Nat
  | text content => content.utf8ByteSize
  | list items => items.length
  | _ => 0

/-- What the memory that a sequence takes up is counted in. -/
def element : Value → Element
  | text _ => .byte
  | _ => .item

/-- Whether a memory holds a value. None holds 2^63 bytes. -/
def IsHeld (value : Value) : Prop :=
  int64.Holds value.room

/-- A text has no more characters than bytes. -/
theorem length_le_utf8ByteSize (content : String) :
    content.toList.length ≤ content.utf8ByteSize := by
  have characters : ∀ characters : List Char,
      characters.length ≤ (String.ofList characters).utf8ByteSize := by
    intro characters
    induction characters with
    | nil => exact Nat.zero_le _
    | cons first later inductionHypothesis =>
        have positive := first.utf8Size_pos
        rw [String.ofList_cons, String.utf8ByteSize_append, String.utf8ByteSize_singleton,
          List.length_cons]
        omega
  simpa using characters content.toList

/-- A sequence takes up at least as much as it has items. -/
theorem length_le_room {sequence : Value} {items : List Value}
    (has : sequence.items? = some items) : items.length ≤ sequence.room := by
  cases sequence with
  | text content =>
      cases has
      rw [List.length_map]
      exact length_le_utf8ByteSize content
  | list _ =>
      cases has
      exact Nat.le_refl _
  | _ => cases has

/-- A word holds the number of items of a sequence that a memory holds. -/
theorem IsHeld.holds_length {sequence : Value} {items : List Value} (held : sequence.IsHeld)
    (has : sequence.items? = some items) : int64.Holds items.length := by
  have fewer := length_le_room has
  simp only [IsHeld, Holds, int64] at held ⊢
  omega

end Value

end Offside
