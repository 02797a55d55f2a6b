import Offside.Proofs.Items
import Offside.Proofs.Limited
import Offside.Value.Arithmetic

/-!
# Sequences times counts, and sequences joined

A text or a list times a count has its items over and over, whichever of the two stands first, and
two sequences of one type are joined one behind the other. Both look at the limit first, and
repetition at the memory that it needs.

`Value.timesInWords` and `Value.plusInWords` find the lengths in words, and the memory that is
asked for. No word is too narrow for what a memory of less than 2^63 bytes holds.
-/

namespace Offside

open Width

/-- The errors that refuse a text or a list for its length. -/
def RuntimeError.refusals : Refusals RuntimeError where
  tooLong := .sequenceTooLong
  unallocatable := .sequenceUnallocatable
  tooLong_inj := RuntimeError.sequenceTooLong.inj
  unallocatable_inj := RuntimeError.sequenceUnallocatable.inj
  distinct := RuntimeError.noConfusion

namespace Value

/-! ### Items over and over -/

section

variable {α : Type} {items : List α} {count : Nat}

/-- Repeating once more puts the items in front. -/
theorem repeated_succ (items : List α) (count : Nat) :
    repeated items (count + 1) = items ++ repeated items count := by
  rw [repeated, List.replicate_succ, List.flatten_cons, repeated]

/-- The items come round again and again. -/
theorem getElem?_repeated {index : Nat} (inside : index < items.length * count) :
    (repeated items count)[index]? = items[index % items.length]? := by
  induction count generalizing index with
  | zero => exact absurd inside (Nat.not_lt_zero index)
  | succ count inductionHypothesis =>
      rw [repeated_succ, List.getElem?_append]
      split
      · next first => rw [Nat.mod_eq_of_lt first]
      · next later =>
          have rest : index - items.length < items.length * count := by
            rw [Nat.mul_succ] at inside
            omega
          rw [inductionHypothesis rest, ← Nat.mod_eq_sub_mod (Nat.le_of_not_lt later)]

/-- The items that come round again and again are these and no others. -/
theorem eq_repeated_iff {made : List α} :
    made = repeated items count ↔ made.length = items.length * count ∧
      ∀ index < items.length * count, made[index]? = items[index % items.length]? := by
  constructor
  · rintro rfl
    exact ⟨length_repeated items count, fun index inside => getElem?_repeated inside⟩
  · rintro ⟨length, same⟩
    refine List.ext_getElem? fun index => ?_
    by_cases inside : index < items.length * count
    · rw [same index inside, getElem?_repeated inside]
    · rw [List.getElem?_eq_none (by omega),
        List.getElem?_eq_none (by rw [length_repeated]; omega)]

end

/-! ### Steps under a limit -/

/-- A length that is allowed passes the check. -/
theorem checkLength_of_allows {length : Nat} {limit? : Option Nat}
    (allows : Allows limit? length) : checkLength length limit? = .ok () := by
  unfold checkLength
  split
  · next limit => exact if_neg (Nat.not_lt.mpr (allows limit rfl))
  · rfl

/-- Comparing a length with the limit, and then reserving memory for it, is how sequences are
made. -/
theorem limited_checkLength {β : Type} {Reserved : Prop} [Decidable Reserved] (length : Nat)
    (limit? : Option Nat) (made : β) :
    Limited RuntimeError.refusals limit? length Reserved (· = made) (do
      checkLength length limit?
      if Reserved then .ok made else .error (.sequenceUnallocatable length)) := by
  by_cases allows : Allows limit? length
  · rw [checkLength_of_allows allows]
    change Limited _ _ _ _ _ (ite _ _ _)
    split
    · next reserved => exact .of_made allows reserved fun other => eq_comm
    · next unreserved => exact .of_not_reserved allows unreserved
  · obtain ⟨limit, rfl, exceeds⟩ := Limited.exceeds_of_not_allows allows
    have refused : checkLength length (some limit) = .error (.sequenceTooLong length limit) :=
      if_pos exceeds
    rw [refused]
    exact .of_exceeds rfl exceeds

variable {α : Type} {items : List α} (count : Int64) (limit? : Option Nat)

/-- Nothing comes of a count of zero or of no items, whatever the limit and the memory. -/
theorem limited_nothing {Reserved : Prop} (empty : items.length * count.toInt.toNat = 0)
    (reserved : Reserved) :
    Limited RuntimeError.refusals limit? (items.length * count.toInt.toNat) Reserved
      (· = repeated items count.toInt.toNat) (.ok []) := by
  have nothing : repeated items count.toInt.toNat = [] := by
    rw [← List.length_eq_zero_iff, length_repeated, empty]
  rw [nothing, empty]
  exact .of_made (fun limit _ => Nat.zero_le limit) reserved fun other => eq_comm

/-- Items are repeated under the limit, as far as there is memory for them. -/
theorem limited_repeatItems (memory : Memory) (element : Element) {size : Nat}
    (bare : items.length = 0 → size = 0) :
    Limited RuntimeError.refusals limit? (items.length * count.toInt.toNat)
      (memory.grants element (size * count.toInt.toNat)) (· = repeated items count.toInt.toNat)
      (repeatItems element size items count limit? memory) := by
  by_cases empty : items.length * count.toInt.toNat = 0
  · have nothing : size * count.toInt.toNat = 0 :=
      Nat.mul_eq_zero.mpr ((Nat.mul_eq_zero.mp empty).imp_left bare)
    simp only [repeatItems, if_pos empty]
    exact limited_nothing count limit? empty (nothing ▸ memory.grants_zero element)
  · simp only [repeatItems, if_neg empty]
    exact limited_checkLength _ limit? _

end Value

/-! ### Repetition in words -/

/-- Memory is had for a size that a word holds and that it is reserved for. -/
theorem Memory.grants_iff {memory : Memory} {element : Element} {size : Nat} :
    memory.grants element size ↔ nat64.Holds size ∧ memory.reserves element size := by
  rw [grants, Bool.and_eq_true, decide_eq_true_iff, holds_nat64_iff]

namespace Value

/-- Some items `count` times over, with lengths found in words. The items take up some `size` in
memory, and memory is asked for that size as often. -/
def repeatInWords {α : Type} (memory : Memory) (element : Element) (size : Nat) (items : List α)
    (count : Int64) (limit? : Option Nat) : Option (Except RuntimeError (List α)) :=
  let count := count.toInt.toNat
  if items.length = 0 ∨ count = 0 then some (.ok [])
  else do
    let length ← nat128.exactly (items.length * count : Nat)
    match checkLength length.toNat limit? with
    | .error error => some (.error error)
    | .ok () =>
        let whole ← nat128.exactly (size * count : Nat)
        if nat64.Holds whole ∧ memory.reserves element whole.toNat then
          some (.ok (repeated items count))
        else some (.error (.sequenceUnallocatable length.toNat))

/-- A count of 64 bits times a size of less than 2^63 fits into a word of 128 bits. -/
theorem holds_product {size : Nat} (small : int64.Holds size) (count : Int64) :
    nat128.Holds (size * count.toInt.toNat : Nat) := by
  have counted := count.toInt_lt
  have bound : size * count.toInt.toNat ≤ 2 ^ 63 * 2 ^ 63 := by
    simp only [Holds, int64] at small
    exact Nat.mul_le_mul (by omega) (by omega)
  simp only [Holds, nat128]
  omega

/-- No word is too narrow to repeat what memory holds, if its items take up as much as they are. -/
theorem repeatInWords_eq {α : Type} (memory : Memory) (element : Element) {size : Nat}
    {items : List α} (small : int64.Holds size) (enough : items.length ≤ size) (count : Int64)
    (limit? : Option Nat) : repeatInWords memory element size items count limit? =
      some (repeatItems element size items count limit? memory) := by
  by_cases empty : items.length = 0 ∨ count.toInt.toNat = 0
  · simp only [repeatInWords, repeatItems, if_pos empty, Nat.mul_eq_zero]
  · have few : int64.Holds items.length := by
      simp only [Holds, int64] at small ⊢
      omega
    simp only [repeatInWords, repeatItems, if_neg empty, Nat.mul_eq_zero,
      exactly_of_holds (holds_product few count), exactly_of_holds (holds_product small count),
      Option.bind_eq_bind, Option.bind_some, Int.toNat_natCast, ← Memory.grants_iff]
    cases checkLength (items.length * count.toInt.toNat) limit? with
    | error error => rfl
    | ok _ => exact (apply_ite some _ _ _).symm

/-! ### Values -/

/-- What `*` makes of two values, with lengths found in words. Either operand may be the count. -/
def timesInWords (memory : Memory) (left right : Value) (limit? : Option Nat) :
    Option (Except RuntimeError Value) :=
  match left, right, left.integer?, right.integer? with
  | text content, _, _, some count
  | _, text content, some count, _ => do
      let made ← repeatInWords memory .byte content.utf8ByteSize content.toList count limit?
      some (made.map (text ∘ String.ofList))
  | list items, _, _, some count
  | _, list items, some count, _ => do
      let made ← repeatInWords memory .item items.length items count limit?
      some (made.map list)
  | _, _, _, _ => some (applyBinary .mul left right limit? memory)

/-- What `+` makes of two values, with lengths found in words. -/
def plusInWords (memory : Memory) (left right : Value) (limit? : Option Nat) :
    Option (Except RuntimeError Value) :=
  match left, right with
  | text left, text right => do
      let length ← nat64.exactly (left.length + right.length : Nat)
      some do
        checkLength length.toNat limit?
        .ok (text (left ++ right))
  | list left, list right => do
      let length ← nat64.exactly (left.length + right.length : Nat)
      some do
        checkLength length.toNat limit?
        .ok (list (left ++ right))
  | _, _ => some (applyBinary .add left right limit? memory)

/-- Whether a value is a sequence of the type of another with the items of that over and over. -/
structure IsRepeated (sequence : Value) (items : List Value) (count : Nat) (value : Value) :
    Prop where
  type : value.typeName = sequence.typeName
  items : ∃ made, value.items? = some made ∧ made.length = items.length * count ∧
    ∀ index < items.length * count, made[index]? = items[index % items.length]?

/-- Only one value has the items over and over. -/
theorem isRepeated_iff {sequence value : Value} {items : List Value} {count : Nat}
    (type : value.typeName = sequence.typeName)
    (has : value.items? = some (repeated items count)) (other : Value) :
    IsRepeated sequence items count other ↔ other = value := by
  rw [← has_iff type has]
  constructor
  · rintro ⟨typeToo, made, hasToo, exact⟩
    rw [← eq_repeated_iff.mpr exact]
    exact ⟨typeToo, hasToo⟩
  · rintro ⟨typeToo, hasToo⟩
    exact ⟨typeToo, _, hasToo, eq_repeated_iff.mp rfl⟩

/-- A text has the items of another over and over if it is made of the characters of that. -/
theorem isRepeated_text_iff (content : String) (count : Nat) (value : Value) :
    IsRepeated (text content) (content.toList.map fun character => text character.toString)
        count value ↔
      ∃ characters, characters = repeated content.toList count ∧
        (text ∘ String.ofList) characters = value := by
  have has : (text (String.ofList (repeated content.toList count))).items? =
      some (repeated (content.toList.map fun character => text character.toString) count) := by
    simp [items?, repeated, List.map_flatten]
  have type : (text (String.ofList (repeated content.toList count))).typeName =
    (text content).typeName := rfl
  rw [isRepeated_iff type has, exists_eq_left, Function.comp, eq_comm]

/-- A list has the items of another over and over if it is made of these. -/
theorem isRepeated_list_iff (items : List Value) (count : Nat) (value : Value) :
    IsRepeated (list items) items count value ↔
      ∃ made, made = repeated items count ∧ list made = value := by
  have type : (list (repeated items count)).typeName = (list items).typeName := rfl
  rw [isRepeated_iff type rfl, exists_eq_left, eq_comm]

section

variable {factor : Value} {count : Int64} (counts : factor.integer? = some count)
  (limit? : Option Nat) (memory : Memory)

include counts

/-- A text is repeated from either side. -/
theorem applyBinary_mul_text (content : String) :
    let made := repeatItems .byte content.utf8ByteSize content.toList count limit? memory
    applyBinary .mul (text content) factor limit? memory = made.map (text ∘ String.ofList) ∧
      applyBinary .mul factor (text content) limit? memory =
        made.map (text ∘ String.ofList) := by
  cases factor <;> cases counts <;> exact ⟨rfl, rfl⟩

/-- A list is repeated from either side. -/
theorem applyBinary_mul_list (items : List Value) :
    let made := repeatItems .item items.length items count limit? memory
    applyBinary .mul (list items) factor limit? memory = made.map list ∧
      applyBinary .mul factor (list items) limit? memory = made.map list := by
  cases factor <;> cases counts <;> exact ⟨rfl, rfl⟩

/-- In words a text is repeated from either side. -/
theorem timesInWords_text {content : String} (held : (text content).IsHeld) :
    let made := applyBinary .mul (text content) factor limit? memory
    timesInWords memory (text content) factor limit? = some made ∧
      timesInWords memory factor (text content) limit? = some made := by
  have gives := repeatInWords_eq memory .byte held (length_le_utf8ByteSize content) count limit?
  rw [(applyBinary_mul_text counts limit? memory content).1]
  rw [room] at gives
  cases factor <;> cases counts <;> simp [timesInWords, integer?, gives]

/-- In words a list is repeated from either side. -/
theorem timesInWords_list {items : List Value} (held : (list items).IsHeld) :
    let made := applyBinary .mul (list items) factor limit? memory
    timesInWords memory (list items) factor limit? = some made ∧
      timesInWords memory factor (list items) limit? = some made := by
  have gives := repeatInWords_eq memory .item held (Nat.le_refl items.length) count limit?
  rw [(applyBinary_mul_list counts limit? memory items).1]
  rw [room] at gives
  cases factor <;> cases counts <;> simp [timesInWords, integer?, gives]

end

/-! ### The laws of sequences -/

/-- What a sequence times a count owes to the items of the sequence. -/
structure IsTimes (sequence factor : Value) (items : List Value) (count : Nat)
    (limit? : Option Nat) (memory : Memory) : Prop where
  /-- The count may stand on either side. -/
  comm : applyBinary .mul sequence factor limit? memory =
    applyBinary .mul factor sequence limit? memory
  /-- The items come over and over, under the limit and as far as there is memory for them. -/
  limited : Limited RuntimeError.refusals limit? (items.length * count)
    (memory.grants sequence.element (sequence.room * count)) (IsRepeated sequence items count)
    (applyBinary .mul sequence factor limit? memory)
  /-- No word is too narrow for the lengths and for the memory that is asked for. -/
  inWords : sequence.IsHeld →
    timesInWords memory sequence factor limit? =
        some (applyBinary .mul sequence factor limit? memory) ∧
      timesInWords memory factor sequence limit? =
        some (applyBinary .mul sequence factor limit? memory)

/-- What two sequences of a type that are joined owe to the items of both. -/
structure IsPlus (left right : Value) (leftItems rightItems : List Value) (limit? : Option Nat)
    (memory : Memory) : Prop where
  /-- The items of both stand one behind the other, under the limit. -/
  limited : Limited RuntimeError.refusals limit? (leftItems.length + rightItems.length) True
    (fun value => value.typeName = left.typeName ∧ value.items? = some (leftItems ++ rightItems))
    (applyBinary .add left right limit? memory)
  /-- No word is too narrow for the length. -/
  inWords : left.IsHeld → right.IsHeld →
    plusInWords memory left right limit? = some (applyBinary .add left right limit? memory)

section

variable {factor : Value} {count : Int64} (counts : factor.integer? = some count)
  (limit? : Option Nat) (memory : Memory)

include counts

/-- A text times a count. -/
theorem isTimes_text (content : String) :
    IsTimes (text content) factor (content.toList.map fun character => text character.toString)
      count.toInt.toNat limit? memory := by
  obtain ⟨front, back⟩ := applyBinary_mul_text counts limit? memory content
  have bare : content.toList.length = 0 → content.utf8ByteSize = 0 := by
    rw [List.length_eq_zero_iff, String.toList_eq_nil_iff, String.utf8ByteSize_eq_zero_iff]
    exact id
  refine ⟨front.trans back.symm, ?_, timesInWords_text counts limit? memory⟩
  rw [front, List.length_map]
  exact (limited_repeatItems count limit? memory .byte bare).map (isRepeated_text_iff content _)

/-- A list times a count. -/
theorem isTimes_list (items : List Value) :
    IsTimes (list items) factor items count.toInt.toNat limit? memory := by
  obtain ⟨front, back⟩ := applyBinary_mul_list counts limit? memory items
  refine ⟨front.trans back.symm, ?_, timesInWords_list counts limit? memory⟩
  rw [front]
  exact (limited_repeatItems count limit? memory .item id).map (isRepeated_list_iff items _)

end

/-- Comparing a length with the limit is all that is done before sequences are joined. -/
theorem limited_join {β : Type} (length : Nat) (limit? : Option Nat) (made : β) :
    Limited RuntimeError.refusals limit? length True (· = made) (do
      checkLength length limit?
      .ok made) := by
  have limited : Limited RuntimeError.refusals limit? length True (· = made) (do
      checkLength length limit?
      if True then .ok made else .error (.sequenceUnallocatable length)) :=
    limited_checkLength length limit? made
  simpa only [if_true] using limited

/-- A length that two sequences that memory holds make up fits into a word. -/
theorem holds_sum {first second : Nat} (firstHolds : int64.Holds first)
    (secondHolds : int64.Holds second) : nat64.Holds (first + second : Nat) := by
  simp only [Holds, int64, nat64] at firstHolds secondHolds ⊢
  omega

/-- Two texts joined. -/
theorem isPlus_text (left right : String) (limit? : Option Nat) (memory : Memory) :
    IsPlus (text left) (text right) (left.toList.map fun character => text character.toString)
      (right.toList.map fun character => text character.toString) limit? memory := by
  have whole : (text (left ++ right)).items? =
      some (left.toList.map (fun character => text character.toString) ++
        right.toList.map fun character => text character.toString) := by
    simp [items?]
  have type : (text (left ++ right)).typeName = (text left).typeName := rfl
  constructor
  · rw [List.length_map, List.length_map, String.length_toList, String.length_toList]
    exact (limited_join _ limit? (text (left ++ right))).congr (has_iff type whole)
  · intro leftHeld rightHeld
    have leftFits := leftHeld.holds_length rfl
    have rightFits := rightHeld.holds_length rfl
    rw [List.length_map, String.length_toList] at leftFits rightFits
    have fits := holds_sum leftFits rightFits
    simp only [plusInWords, exactly_of_holds fits, Option.bind_eq_bind, Option.bind_some,
      Int.toNat_natCast]
    rfl

/-- Two lists joined. -/
theorem isPlus_list (left right : List Value) (limit? : Option Nat) (memory : Memory) :
    IsPlus (list left) (list right) left right limit? memory := by
  have whole : (list (left ++ right)).items? = some (left ++ right) := rfl
  have type : (list (left ++ right)).typeName = (list left).typeName := rfl
  constructor
  · exact (limited_join _ limit? (list (left ++ right))).congr (has_iff type whole)
  · intro leftHeld rightHeld
    have fits : nat64.Holds (left.length + right.length : Nat) := holds_sum leftHeld rightHeld
    simp only [plusInWords, exactly_of_holds fits, Option.bind_eq_bind, Option.bind_some,
      Int.toNat_natCast]
    rfl

/-- Sequences times counts and sequences joined are exact, and refused exactly for their lengths or
for the memory that they take. -/
theorem applyBinary_sequences {sequence : Value} {items : List Value}
    (has : sequence.items? = some items) (limit? : Option Nat) (memory : Memory) :
    (∀ {factor : Value} {count : Int64}, factor.integer? = some count →
        IsTimes sequence factor items count.toInt.toNat limit? memory) ∧
      ∀ {other : Value} {others : List Value}, other.items? = some others →
        other.typeName = sequence.typeName →
          IsPlus sequence other items others limit? memory := by
  cases sequence with
  | text content =>
      cases has
      refine ⟨fun counts => isTimes_text counts limit? memory content,
        fun {other} _ hasToo type => ?_⟩
      cases other with
      | text other =>
          cases hasToo
          exact isPlus_text content other limit? memory
      | list _ => exact absurd type (by simp [typeName])
      | _ => cases hasToo
  | list items =>
      cases has
      refine ⟨fun counts => isTimes_list counts limit? memory _, fun {other} _ hasToo type => ?_⟩
      cases other with
      | text _ => exact absurd type (by simp [typeName])
      | list _ =>
          cases hasToo
          exact isPlus_list _ _ limit? memory
      | _ => cases hasToo
  | _ => cases has

/-- A text of two characters in three bytes, three times over and joined to itself: with a limit of
five characters it is too long, and without one it takes nine bytes. -/
theorem applyBinary_sequences_accented :
    ((text "né").items? = some [text "n", text "é"] ∧ (integer 3).integer? = some 3) ∧
      IsTimes (text "né") (integer 3) [text "n", text "é"] 3 (some 5) (.upTo 8) ∧
      IsPlus (text "né") (text "né") [text "n", text "é"] [text "n", text "é"] (some 5)
        (.upTo 8) ∧
      applyBinary .mul (text "né") (integer 3) (some 5) (.upTo 8) =
        .error (.sequenceTooLong 6 5) ∧
      applyBinary .mul (text "né") (integer 3) Option.none (.upTo 8) =
        .error (.sequenceUnallocatable 6) := by
  have has : (text "né").items? = some [text "n", text "é"] := rfl
  have counts : (integer 3).integer? = some 3 := rfl
  obtain ⟨times, plus⟩ := applyBinary_sequences has (some 5) (.upTo 8)
  exact ⟨⟨has, counts⟩, times counts, plus has rfl, rfl, rfl⟩

end Value

end Offside
