import Offside.Run.Error
import Offside.Value

/-!
# Texts and lists as sequences

The items of a text are its characters, each a text by itself. A loop runs over
the items, and a subscript picks one of them, counted from the front or, below
zero, from the back.
-/

namespace Offside

namespace Value

/-- The items of a sequence. -/
def items? : Value → Option (List Value)
  | list items => some items
  | text content => some (content.toList.map fun character => text character.toString)
  | _ => Option.none

/-- The items that a loop over a value runs over. -/
def iterate (value : Value) : Except RuntimeError (List Value) :=
  match value.items? with
  | some items => .ok items
  | Option.none => .error (.notIterable value.typeName)

/-- The number of items of a sequence. -/
def length? : Value → Option Nat
  | list items => some items.length
  | text content => some content.length
  | _ => Option.none

/-- The length of a sequence is the number of its items. -/
theorem length?_eq (value : Value) : value.length? = value.items?.map List.length := by
  cases value <;> simp [length?, items?, ← String.length_toList]

/-- The character of a text at a place. -/
def characterAt? (content : String) (place : Nat) : Option Char :=
  (content.drop place).front?

/-- Places count the characters of a text. -/
theorem characterAt?_eq (content : String) (place : Nat) :
    characterAt? content place = content.toList[place]? := by
  rw [characterAt?, String.Slice.front?_eq]
  simp

/-- The item of a sequence at a place. -/
def item? (value : Value) (place : Nat) : Option Value :=
  match value with
  | list items => items[place]?
  | text content => (characterAt? content place).map fun character => text character.toString
  | _ => Option.none

/-- Places count the items of a sequence. -/
theorem item?_eq (value : Value) (place : Nat) :
    value.item? place = value.items?.bind (·[place]?) := by
  cases value <;> simp [item?, items?, characterAt?_eq]

/-- The place that an index means in a sequence of some length. -/
def position? (index : Int64) (length : Nat) : Option Nat :=
  let place := if index < 0 then index.toInt + length else index.toInt
  if 0 ≤ place ∧ place < length then some place.toNat else Option.none

/-- The place of an index lies in the sequence. -/
theorem position?_lt {index : Int64} {length place : Nat}
    (found : position? index length = some place) : place < length := by
  simp only [position?, Option.ite_none_right_eq_some, Option.some.injEq] at found
  obtain ⟨⟨atLeast, below⟩, equal⟩ := found
  omega

/-- The item of a sequence at an index. -/
def subscript (value index : Value) : Except RuntimeError Value :=
  match index.integer? with
  | Option.none => .error (.notInteger index.typeName)
  | some number =>
      match value.length? with
      | Option.none => .error (.notSubscriptable value.typeName)
      | some length =>
          match (position? number length).bind value.item? with
          | some item => .ok item
          | Option.none => .error (.indexOutOfRange number length value.typeName)

end Value

end Offside
