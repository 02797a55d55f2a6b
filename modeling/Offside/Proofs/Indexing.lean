import Mathlib.Data.List.Forall2
import Mathlib.Data.List.Infix
import Offside.Proofs.Items
import Offside.Run.Evaluation
import Offside.Run.Program

/-!
# Items by index, in loops and by membership

An index picks an item of a text or a list, a loop runs over the items, and `in` asks for one of
them. All three see the same items: an index counts them from the front or, below zero, from the
back; a loop could as well go through the indices from zero on; and a text of one character is in a
sequence if it is one of the items.

`Value.subscriptInWords` finds the place of an index in words of 64 bits. Nothing on that way leaves
its word.
-/

namespace Offside

open Width

namespace Value

/-! ### The place of an index -/

/-- An index means a place exactly if it is no further from the front or the back than there are
places. -/
theorem position?_eq (index : Int64) (length : Nat) :
    position? index length =
      if -length ≤ index.toInt ∧ index.toInt < length then
        some (if 0 ≤ index.toInt then index.toInt else length + index.toInt).toNat
      else Option.none := by
  have negative : index < 0 ↔ index.toInt < 0 := Int64.lt_iff_toInt_lt
  simp only [position?, negative]
  by_cases front : 0 ≤ index.toInt
  · rw [if_neg (Int.not_lt.mpr front), if_pos front]
    have same : (0 ≤ index.toInt ∧ index.toInt < length) ↔
        (-length ≤ index.toInt ∧ index.toInt < length) := by omega
    simp only [same]
  · rw [if_pos (Int.not_le.mp front), if_neg front, Int.add_comm]
    have same : (0 ≤ length + index.toInt ∧ length + index.toInt < length) ↔
        (-length ≤ index.toInt ∧ index.toInt < length) := by omega
    simp only [same]

/-- The place of an index, found in words of 64 bits. A length that does not fit has no places.
There is no result if the sum, which is not checked, leaves its word. -/
def positionInWords (index : Int64) (length : Nat) : Option (Option Nat) :=
  match int64.exactly length with
  | Option.none => some Option.none
  | some length => do
      let place ← if index < 0 then int64.exactly (index.toInt + length) else some index.toInt
      if 0 ≤ place ∧ place < length then some ((nat64.exactly place).map Int.toNat)
      else some Option.none

/-- A place is put into a word if a sequence has it. -/
theorem place_eq {place length : Int} (fits : int64.Holds length) :
    (if 0 ≤ place ∧ place < length then some ((nat64.exactly place).map Int.toNat)
      else some Option.none) =
      some (if 0 ≤ place ∧ place < length then some place.toNat else Option.none) := by
  split
  · next inside =>
      have holds : nat64.Holds place := by
        simp only [Holds, int64, nat64] at fits ⊢
        omega
      rw [exactly_of_holds holds, Option.map_some]
  · rfl

/-- Nothing on the way to a place leaves its word. -/
theorem positionInWords_eq (index : Int64) (length : Nat) :
    positionInWords index length =
      some (if int64.Holds length then position? index length else Option.none) := by
  by_cases fits : int64.Holds length
  · simp only [positionInWords, exactly_of_holds fits, if_pos fits, position?]
    by_cases below : index < 0
    · have least := index.le_toInt
      have negative := Int64.lt_iff_toInt_lt.mp below
      have sum : int64.Holds (index.toInt + length) := by
        rw [show (0 : Int64).toInt = 0 from rfl] at negative
        simp only [Holds, int64] at fits ⊢
        omega
      simp only [if_pos below, exactly_of_holds sum, Option.bind_eq_bind, Option.bind_some]
      exact place_eq fits
    · simp only [if_neg below, Option.bind_eq_bind, Option.bind_some]
      exact place_eq fits
  · simp only [positionInWords, exactly_of_not_holds fits, if_neg fits]

/-! ### The item of an index -/

variable {sequence index : Value} {items : List Value} {number : Int64}

/-- A subscript picks from the items that a loop runs over. -/
theorem subscript_eq (has : sequence.items? = some items) (counts : index.integer? = some number) :
    sequence.subscript index =
      (((position? number items.length).bind (items[·]?)).map .ok).getD
        (.error (.indexOutOfRange number items.length sequence.typeName)) := by
  have length : sequence.length? = some items.length := by
    rw [length?_eq, has, Option.map_some]
  have item : sequence.item? = (items[·]?) := by
    funext place
    rw [item?_eq, has, Option.bind_some]
  simp only [subscript, counts, length, item]
  cases (position? number items.length).bind (items[·]?) <;> rfl

/-- Inside of a sequence an index picks an item, from the front or from the back. -/
theorem subscript_of_inside (has : sequence.items? = some items)
    (counts : index.integer? = some number)
    (inside : -items.length ≤ number.toInt ∧ number.toInt < items.length) :
    ∃ item, sequence.subscript index = .ok item ∧
      items[(if 0 ≤ number.toInt then number.toInt else items.length + number.toInt).toNat]? =
        some item := by
  have place : (if 0 ≤ number.toInt then number.toInt
      else items.length + number.toInt).toNat < items.length := by
    split <;> omega
  have found := List.getElem?_eq_getElem place
  refine ⟨_, ?_, found⟩
  rw [subscript_eq has counts, position?_eq, if_pos inside, Option.bind_some, found]
  rfl

/-- Outside of a sequence an index is an error. -/
theorem subscript_of_outside (has : sequence.items? = some items)
    (counts : index.integer? = some number)
    (outside : ¬ (-items.length ≤ number.toInt ∧ number.toInt < items.length)) :
    sequence.subscript index =
      .error (.indexOutOfRange number items.length sequence.typeName) := by
  rw [subscript_eq has counts, position?_eq, if_neg outside]
  rfl

/-- What a subscript gives, found in words of 64 bits. There is no result if a place is asked for
that the sequence does not have. -/
def subscriptInWords (value index : Value) : Option (Except RuntimeError Value) :=
  match index.integer?, value.items? with
  | Option.none, _ => some (.error (.notInteger index.typeName))
  | some _, Option.none => some (.error (.notSubscriptable value.typeName))
  | some number, some items => do
      match ← positionInWords number items.length with
      | some place => items[place]?.map .ok
      | Option.none => some (.error (.indexOutOfRange number items.length value.typeName))

/-- Whatever is asked of a sequence, no word is too narrow for that, and no place is asked for that
the sequence does not have. If a memory holds the sequence, words of 64 bits give what integers
without bounds give. -/
theorem exists_subscriptInWords (has : sequence.items? = some items) (index : Value) :
    ∃ result, subscriptInWords sequence index = some result ∧
      (sequence.IsHeld → result = sequence.subscript index) := by
  cases counts : index.integer? with
  | none =>
      refine ⟨.error (.notInteger index.typeName), ?_, fun _ => ?_⟩
      · simp only [subscriptInWords, counts]
      · simp only [subscript, counts]
  | some number =>
      rw [subscript_eq has counts]
      simp only [subscriptInWords, counts, has, positionInWords_eq, Option.bind_eq_bind,
        Option.bind_some]
      by_cases fits : int64.Holds items.length
      · rw [if_pos fits]
        cases found : position? number items.length with
        | none => exact ⟨_, rfl, fun _ => rfl⟩
        | some place =>
            simp only [Option.bind_some, List.getElem?_eq_getElem (position?_lt found),
              Option.map_some, Option.getD_some]
            exact ⟨_, rfl, fun _ => rfl⟩
      · rw [if_neg fits]
        exact ⟨_, rfl, fun held => absurd (held.holds_length has) fits⟩

end Value

/-! ### Loops and membership -/

/-- Runs the rounds of a loop over some indices of a value, until the body stops it. -/
def Run.forSubscripts (limits : Resources) (target : String) (body : Run Signal) (value : Value) :
    List Int64 → Run Unit
  | [] => pure ()
  | index :: later => do
      tick limits
      assign target (← ofExcept (value.subscript (.integer index)))
      match ← body with
      | .stop => pure ()
      | .done | .next => forSubscripts limits target body value later

/-- A loop over items is a loop over indices that pick these. -/
theorem Run.forEach_eq_forSubscripts (limits : Resources) (target : String) (body : Run Signal)
    {value : Value} {items : List Value} {indices : List Int64}
    (picks : List.Forall₂ (fun index item => value.subscript (.integer index) = .ok item)
      indices items) :
    forEach limits target body items = forSubscripts limits target body value indices := by
  induction picks with
  | nil => rfl
  | cons picked _ inductionHypothesis =>
      rw [forEach, forSubscripts, inductionHypothesis, picked]
      rfl

namespace Value

variable {sequence : Value} {items : List Value}

/-- The indices from zero on pick all items in their order. -/
theorem forall₂_subscript (has : sequence.items? = some items) (held : sequence.IsHeld) :
    List.Forall₂ (fun index item => sequence.subscript (.integer index) = .ok item)
      ((List.range items.length).map Int64.ofNat) items := by
  have fits := held.holds_length has
  rw [List.forall₂_map_left_iff, List.forall₂_iff_get]
  refine ⟨List.length_range, fun place below inside => ?_⟩
  rw [List.get_eq_getElem, List.get_eq_getElem, List.getElem_range]
  have value : (Int64.ofNat place).toInt = place := by
    refine Int64.toInt_ofNat_of_lt ?_
    simp only [Holds, int64] at fits
    omega
  obtain ⟨item, picked, here⟩ :=
    subscript_of_inside has (show (integer (Int64.ofNat place)).integer? = some _ from rfl)
      (by rw [value]; omega)
  rw [value, if_pos (Int.natCast_nonneg place), Int.toNat_natCast,
    List.getElem?_eq_getElem inside, Option.some.injEq] at here
  rw [picked, here]

/-- Only a text equals a text, and only the same. -/
theorem equals_text_iff (value : Value) (content : String) :
    value.equals (text content) = true ↔ text content = value := by
  cases value with
  | text other =>
      change (other == content) = true ↔ _
      rw [beq_iff_eq, text.injEq, eq_comm]
  | _ => simp [equals, number?]

/-- A text of one character is in a sequence exactly if it is an item. -/
theorem isIn_iff_mem (has : sequence.items? = some items) (character : Char) :
    ∃ found, applyCompare .isIn (text character.toString) sequence = .ok found ∧
      (found = true ↔ text character.toString ∈ items) := by
  cases sequence with
  | text content =>
      cases has
      refine ⟨_, rfl, ?_⟩
      have infixed := contains_text_iff content character.toString
      rw [contains, Except.ok.injEq] at infixed
      rw [infixed, Char.toString, String.toList_singleton, List.singleton_infix_iff, List.mem_map]
      constructor
      · exact fun among => ⟨character, among, rfl⟩
      · rintro ⟨other, among, same⟩
        rwa [← text_toString_inj same]
  | list _ =>
      cases has
      refine ⟨_, rfl, ?_⟩
      simp only [List.any_eq_true, equals_text_iff, exists_eq_right']
  | _ => cases has

/-- How indices, loops and membership see the items of a sequence. -/
structure IsIndexed (sequence : Value) (items : List Value) : Prop where
  /-- The items of a text are its characters, each a text by itself. -/
  characters : ∀ content, sequence = text content →
    items = content.toList.map fun character => text character.toString
  /-- An index inside of the sequence picks an item, from the front or from the back. -/
  inside : ∀ {index : Value} {number : Int64}, index.integer? = some number →
    -items.length ≤ number.toInt ∧ number.toInt < items.length →
      ∃ item, sequence.subscript index = .ok item ∧
        items[(if 0 ≤ number.toInt then number.toInt else items.length + number.toInt).toNat]? =
          some item
  /-- An index outside of the sequence is reported, with the length. -/
  outside : ∀ {index : Value} {number : Int64}, index.integer? = some number →
    ¬ (-items.length ≤ number.toInt ∧ number.toInt < items.length) →
      sequence.subscript index =
        .error (.indexOutOfRange number items.length sequence.typeName)
  /-- A loop over the items is one over the indices from zero on. -/
  loops : sequence.IsHeld → ∀ limits target body, Run.forEach limits target body items =
    Run.forSubscripts limits target body sequence ((List.range items.length).map Int64.ofNat)
  /-- A text of one character is in the sequence exactly if it is an item. -/
  membership : ∀ character : Char, ∃ found,
    applyCompare .isIn (text character.toString) sequence = .ok found ∧
      (found = true ↔ text character.toString ∈ items)
  /-- No word is too narrow for the place of an index, nor is a place asked for that is not
  there. -/
  inWords : ∀ index, ∃ result, subscriptInWords sequence index = some result ∧
    (sequence.IsHeld → result = sequence.subscript index)

/-- Every text and every list has the items that a loop runs over, and indices and membership see
the same. -/
theorem isIndexed_iterate (isSequence : sequence.typeName ∈ ["str", "list"]) :
    ∃ items, sequence.iterate = .ok items ∧ IsIndexed sequence items := by
  have has : ∃ items, sequence.items? = some items := by
    cases sequence with
    | text _ | list _ => exact ⟨_, rfl⟩
    | _ => simp [typeName] at isSequence
  obtain ⟨items, has⟩ := has
  refine ⟨items, by rw [iterate, has], ?_, fun counts => subscript_of_inside has counts,
    fun counts => subscript_of_outside has counts, fun held limits target body => ?_,
    isIn_iff_mem has, exists_subscriptInWords has⟩
  · rintro content rfl
    exact (Option.some.inj has).symm
  · exact Run.forEach_eq_forSubscripts limits target body (forall₂_subscript has held)

/-- The characters of a text of two characters in three bytes. -/
theorem isIndexed_iterate_accented :
    (text "né").typeName ∈ ["str", "list"] ∧
      (text "né").iterate = .ok [text "n", text "é"] ∧
      IsIndexed (text "né") [text "n", text "é"] ∧
      (text "né").subscript (integer (-1)) = .ok (text "é") := by
  have isSequence : (text "né").typeName ∈ ["str", "list"] := by decide
  obtain ⟨items, iterates, indexed⟩ := isIndexed_iterate isSequence
  have exact : (text "né").iterate = .ok [text "n", text "é"] := rfl
  obtain rfl := Except.ok.inj (exact.symm.trans iterates)
  exact ⟨isSequence, exact, indexed, rfl⟩

end Value

end Offside
