import Offside.Proofs.Outcome
import Offside.Proofs.Run.Moment

/-!
# No text or list grows beyond its limits

Long texts and lists come from operators, from `range` and from what is written out in a
program. Operators and `range` look at their limits before they make something;
everything else that makes a text or a list, taking an item or cutting blanks
off, makes it of what is there already. So no value of a run, at any moment and however deep
inside of a list, is longer than the greatest of the limits and literals. Upper and lower
case are left out, since a text may be longer in the other case.
-/

namespace Offside

namespace Value

/-- The length of a text or of a list, and of the text that a method is bound to. -/
def size : Value → Nat
  | text content => content.length
  | list items => items.length
  | method receiver _ => receiver.length
  | integer _ | float _ | boolean _ | builtin _ | none => 0

mutual

/-- A value and all values in it, at any depth. -/
def parts : Value → List Value
  | list items => list items :: partsOfAll items
  | text content => [text content]
  | method receiver called => [method receiver called]
  | integer value => [integer value]
  | float value => [float value]
  | boolean value => [boolean value]
  | builtin function => [builtin function]
  | none => [none]

/-- The parts of some values. -/
def partsOfAll : List Value → List Value
  | [] => []
  | first :: later => first.parts ++ partsOfAll later

end

/-- The parts of some values are those of each of them, one after the other. -/
theorem partsOfAll_eq (values : List Value) : partsOfAll values = values.flatMap parts := by
  induction values with
  | nil => rfl
  | cons first later inductionHypothesis =>
      rw [partsOfAll, inductionHypothesis, List.flatMap_cons]

/-- Whether the method that a value is cuts blanks off its text, if it is a method. -/
def OnlyTrims : Value → Prop
  | method _ called => called = .strip ∨ called = .stripStart ∨ called = .stripEnd
  | _ => True

/-- Whether nothing in a value is longer than a bound, or can make something longer when it is
called. -/
def IsShort (most : Nat) (value : Value) : Prop :=
  ∀ part ∈ value.parts, part.size ≤ most ∧ part.OnlyTrims

variable {most : Nat}

/-- A list is short when it has few items and they are short. -/
theorem isShort_list {items : List Value} :
    IsShort most (list items) ↔ items.length ≤ most ∧ ∀ item ∈ items, item.IsShort most := by
  simp only [IsShort, parts, partsOfAll_eq, List.forall_mem_cons, List.mem_flatMap, size, OnlyTrims,
    and_true]
  constructor
  · rintro ⟨count, inside⟩
    exact ⟨count, fun item among part within => inside part ⟨item, among, within⟩⟩
  · rintro ⟨count, inside⟩
    exact ⟨count, fun part ⟨item, among, within⟩ => inside item among part within⟩

/-- A text is short when it has few characters. -/
theorem isShort_text {content : String} : IsShort most (text content) ↔ content.length ≤ most := by
  simp [IsShort, parts, size, OnlyTrims]

/-- A method is short when it cuts blanks off a short text. -/
theorem isShort_method {receiver : String} {called : TextMethod} :
    IsShort most (method receiver called) ↔
      receiver.length ≤ most ∧ OnlyTrims (method receiver called) := by
  simp [IsShort, parts, size]

/-- Plain values are short. -/
theorem isShort_of_isPlain {value : Value} (plain : value.isPlain) : value.IsShort most := by
  cases value with
  | text | list | method => cases plain
  | integer | float | boolean | builtin | none => simp [IsShort, parts, size, OnlyTrims]

end Value

/-! ### What operations yield -/

/-- Whether every value that an operation can give has a property. -/
def Yields {α : Type} (property : α → Prop) (result : Except RuntimeError α) : Prop :=
  ∀ value, result = .ok value → property value

namespace Yields

variable {α β : Type} {property : α → Prop} {further : β → Prop}

/-- A value yields itself. -/
theorem ok {value : α} (has : property value) : Yields property (.ok value) := by
  rintro _ ⟨⟩
  exact has

/-- An error yields nothing. -/
theorem error {error : RuntimeError} : Yields property (.error error) :=
  fun _ same => nomatch same

/-- Two operations yield what the second one yields for the values of the first. -/
theorem bind {first : Except RuntimeError α} {next : α → Except RuntimeError β}
    (yields : Yields property first)
    (later : ∀ value, property value → Yields further (next value)) :
    Yields further (first >>= next) := by
  intro result gives
  obtain ⟨value, given, rest⟩ := bind_eq_ok_iff.mp gives
  exact later value (yields value given) result rest

/-- Two operations yield what the second one yields, whatever the first one gives. -/
theorem after {first : Except RuntimeError α} {next : α → Except RuntimeError β}
    (later : ∀ value, Yields further (next value)) : Yields further (first >>= next) := by
  have anything : Yields Run.Anything first := fun _ _ => trivial
  exact anything.bind fun value _ => later value

/-- A choice yields what both sides yield. -/
theorem ite {condition : Prop} [Decidable condition] {first second : Except RuntimeError α}
    (yields : Yields property first) (yieldsToo : Yields property second) :
    Yields property (if condition then first else second) := by
  split
  · exact yields
  · exact yieldsToo

end Yields

namespace BinaryOp

variable (op : BinaryOp)

/-- Arithmetic on integers makes plain values. -/
theorem yields_applyIntegers (left right : Int64) :
    Yields (·.isPlain) (op.applyIntegers left right) := by
  unfold applyIntegers
  split
  case h_1 | h_2 | h_3 => exact .after fun _ => .ok rfl
  case h_4 => exact .ite .error (.ok rfl)
  case h_5 => exact .ite .error (.after fun _ => .ok rfl)
  case h_6 => exact .ite .error (.after fun _ => .after fun _ => .after fun _ => .ok rfl)

/-- Arithmetic on floats makes plain values. -/
theorem yields_applyFloats (left right : Float) :
    Yields (·.isPlain) (op.applyFloats left right) := by
  unfold applyFloats
  split
  case h_1 | h_2 | h_3 => exact .ok rfl
  case h_4 | h_5 | h_6 => exact .ite .error (.ok rfl)

/-- Arithmetic on numbers makes plain values. -/
theorem yields_applyNumbers (left right : Number) :
    Yields (·.isPlain) (op.applyNumbers left right) := by
  unfold applyNumbers
  split
  · exact op.yields_applyIntegers _ _
  · exact op.yields_applyFloats _ _

end BinaryOp

namespace Value

variable {most limit : Nat} {memory : Memory}

/-- A length that is allowed is within the limit. -/
theorem yields_checkLength (length : Nat) :
    Yields (fun _ => length ≤ limit) (checkLength length (some limit)) := by
  intro _ allowed
  simp only [checkLength] at allowed
  split at allowed
  · cases allowed
  · next within => exact Nat.le_of_not_lt within

/-- Repeated items are no others, and no more than the limit allows. -/
theorem yields_repeatItems {α : Type} (element : Element) (size : Nat) (items : List α)
    (count : Int64) :
    Yields (fun repeated => repeated.length ≤ limit ∧ ∀ item ∈ repeated, item ∈ items)
      (repeatItems element size items count (some limit) memory) := by
  refine .ite (.ok ⟨Nat.zero_le _, fun _ among => nomatch among⟩) ?_
  refine (yields_checkLength _).bind fun _ within => .ite (.ok ⟨?_, fun item among => ?_⟩) .error
  · rwa [length_repeated]
  · obtain ⟨copy, copied, here⟩ := List.mem_flatten.mp among
    rwa [List.eq_of_mem_replicate copied] at here

variable (within : limit ≤ most)

include within

/-- Repetition makes short sequences of short ones. -/
theorem yields_times? {sequence count : Value} (short : sequence.IsShort most) :
    ∀ result ∈ times? sequence count (some limit) memory, Yields (IsShort most) result := by
  intro result found
  unfold times? at found
  split at found
  · cases found
    refine (yields_repeatItems _ _ _ _).bind fun repeated ⟨length, _⟩ => .ok (isShort_text.mpr ?_)
    rw [String.length_ofList]
    exact Nat.le_trans length within
  · cases found
    refine (yields_repeatItems _ _ _ _).bind fun repeated ⟨length, same⟩ => ?_
    refine .ok (isShort_list.mpr ?_)
    exact ⟨Nat.le_trans length within, fun item among =>
      (isShort_list.mp short).2 item (same item among)⟩
  · cases found

/-- Joining makes short sequences of short ones. -/
theorem yields_join? {left right : Value} (short : left.IsShort most)
    (shortToo : right.IsShort most) :
    ∀ result ∈ join? left right (some limit), Yields (IsShort most) result := by
  intro result found
  unfold join? at found
  split at found
  · cases found
    refine (yields_checkLength _).bind fun _ length => .ok (isShort_text.mpr ?_)
    rw [String.length_append]
    exact Nat.le_trans length within
  · cases found
    refine (yields_checkLength _).bind fun _ length => .ok (isShort_list.mpr ⟨?_, ?_⟩)
    · rw [List.length_append]
      exact Nat.le_trans length within
    · exact List.forall_mem_append.mpr ⟨(isShort_list.mp short).2, (isShort_list.mp shortToo).2⟩
  · cases found

/-- An operator of arithmetic makes short values of short ones. -/
theorem yields_applyBinary (op : BinaryOp) {left right : Value} (short : left.IsShort most)
    (shortToo : right.IsShort most) :
    Yields (IsShort most) (applyBinary op left right (some limit) memory) := by
  rw [applyBinary_eq]
  split
  · exact fun value made => isShort_of_isPlain (op.yields_applyNumbers _ _ value made)
  · have sequences : ∀ result ∈ sequence? op left right (some limit) memory,
        Yields (IsShort most) result := by
      intro result found
      unfold sequence? at found
      split at found
      · exact yields_join? within short shortToo result found
      · rcases Option.or_eq_some_iff.mp found with here | ⟨-, here⟩
        · exact yields_times? within short result here
        · exact yields_times? within shortToo result here
      · cases found
    cases found : sequence? op left right (some limit) memory with
    | none => exact .error
    | some result => exact sequences result found

end Value

namespace Progression

variable {limit : Nat} {memory : Memory}

/-- A progression between bounds has no more terms than the limit allows. -/
theorem length_between_le {start stop step : Int64} {terms : List Int64}
    (made : between start stop step (some limit) memory = .ok terms) : terms.length ≤ limit := by
  unfold between at made
  dsimp only at made
  split at made
  · split at made
    · cases made
    · cases made
      exact Nat.zero_le _
  · split at made
    · cases made
    · next allowed =>
        split at made
        · cases made
          rw [length_terms]
          refine Nat.le_of_not_lt fun exceeds => allowed limit ?_
          simp [Option.filter, exceeds]
        · cases made

/-- What `range` makes is no longer than the limit allows. -/
theorem yields_value {most : Nat} (within : limit ≤ most) (bounds : List Int64) :
    Yields (Value.IsShort most) (Progression.value bounds (some limit) memory) := by
  intro value made
  unfold Progression.value at made
  split at made
  · next terms progression =>
      cases made
      have count : terms.length ≤ limit := by
        unfold ofBounds at progression
        split at progression
        · exact length_between_le progression
        · exact length_between_le progression
        · exact length_between_le progression
        · cases progression
      refine Value.isShort_list.mpr ⟨?_, ?_⟩
      · rw [List.length_map]
        exact Nat.le_trans count within
      · intro item among
        obtain ⟨term, -, rfl⟩ := List.mem_map.mp among
        exact Value.isShort_of_isPlain rfl
  · cases made

end Progression

/-! ### What programs write out -/

/-- Cutting blanks off makes a text no longer. -/
theorem TextMethod.length_apply_le {receiver : String} {called : TextMethod}
    (trims : Value.OnlyTrims (.method receiver called)) :
    (called.apply receiver).length ≤ receiver.length := by
  have start_le : ∀ characters : List Char,
      (Text.trimStart characters).length ≤ characters.length := fun characters =>
    (List.dropWhile_sublist _).length_le
  have end_le : ∀ characters : List Char,
      (Text.trimEnd characters).length ≤ characters.length := by
    intro characters
    rw [Text.trimEnd, List.length_reverse]
    exact Nat.le_trans (List.dropWhile_sublist _).length_le (Nat.le_of_eq List.length_reverse)
  unfold TextMethod.apply
  rw [String.length_ofList, ← String.length_toList]
  rcases trims with rfl | rfl | rfl
  · exact Nat.le_trans (end_le _) (start_le _)
  · exact start_le _
  · exact end_le _

namespace Expression

/-- The number of characters of a text that is written out. -/
def textLength : Expression → Nat
  | text content => content.length
  | _ => 0

/-- The number of items of a list that is written out. -/
def listLength : Expression → Nat
  | list elements => elements.length
  | _ => 0

/-- The name of the attribute that an expression asks for, if it does. -/
def attribute? : Expression → Option String
  | member _ word => some word
  | _ => Option.none

/-- Whether an expression writes nothing long out, and asks for no method but those that cut blanks
off. -/
def IsShort (most : Nat) (expression : Expression) : Prop :=
  expression.textLength ≤ most ∧ expression.listLength ≤ most ∧
    ∀ word ∈ expression.attribute?, word ∈ ["strip", "lstrip", "rstrip"]

end Expression

/-- Nothing but operators and `range` makes a value that is longer than what it is made of. -/
theorem Value.closed_isShort {most : Nat} (positive : 1 ≤ most) :
    Value.Closed (Expression.IsShort most) (Value.IsShort most) where
  plain := isShort_of_isPlain
  text short := isShort_text.mpr short.1
  list short count values := isShort_list.mpr ⟨count ▸ short.2.1, values⟩
  items := by
    intro value items sequence short item among
    cases value with
    | list others =>
        cases sequence
        exact (isShort_list.mp short).2 item among
    | text content =>
        cases sequence
        obtain ⟨character, -, rfl⟩ := List.mem_map.mp among
        exact isShort_text.mpr (by simpa using positive)
    | integer | float | boolean | builtin | method | none => cases sequence
  method := by
    intro object word receiver called short named receiverShort
    refine isShort_method.mpr ⟨isShort_text.mp receiverShort, ?_⟩
    have word_mem := short.2.2 word rfl
    simp only [List.mem_cons, List.not_mem_nil, or_false] at word_mem
    rcases word_mem with rfl | rfl | rfl <;> cases named <;> simp [OnlyTrims]
  applied := by
    intro receiver called short
    obtain ⟨length, trims⟩ := isShort_method.mp short
    exact isShort_text.mpr (Nat.le_trans (TextMethod.length_apply_le trims) length)

namespace Program

/-- The length of the longest text that is written out in a program. -/
def longestText (program : Program) : Nat :=
  ((Program.expressions program).map Expression.textLength).max?.getD 0

/-- The length of the longest list that is written out in a program. -/
def longestList (program : Program) : Nat :=
  ((Program.expressions program).map Expression.listLength).max?.getD 0

/-- The names of the attributes that a program asks for. -/
def attributes (program : Program) : List String :=
  (Program.expressions program).filterMap Expression.attribute?

/-- What a program writes out is no longer than the longest of it. -/
theorem isShort_of_mem_expressions {program : Program} {most : Nat}
    (trims : ∀ word ∈ program.attributes, word ∈ ["strip", "lstrip", "rstrip"])
    (texts : program.longestText ≤ most) (lists : program.longestList ≤ most) :
    ∀ part ∈ Program.expressions program, part.IsShort most := by
  intro part among
  refine ⟨?_, ?_, fun word asked => trims word (List.mem_filterMap.mpr ⟨part, among, asked⟩)⟩
  · exact Nat.le_trans (List.le_max?_getD_of_mem (List.mem_map_of_mem among)) texts
  · exact Nat.le_trans (List.le_max?_getD_of_mem (List.mem_map_of_mem among)) lists

/-- With limits on what operators and `range` make, and as long as a program asks for no attributes
but the methods that cut blanks off, no text and no list is ever longer than the greatest of the
limits and of what the program writes out, or than one character: at no moment of the run, in
no variable, operand or method, and at no depth. -/
theorem size_le_of_reaches (steps? : Option Nat) (range sequence rounds : Nat) (memory : Memory)
    (program : Program)
    (trims : ∀ word ∈ program.attributes, word ∈ ["strip", "lstrip", "rstrip"]) (moment : Moment)
    (reached : Moment.Reaches ⟨⟨steps?, some range, some sequence⟩, memory⟩ rounds program.start
      moment) :
    ∀ value, moment.Has value → ∀ part ∈ value.parts, part.size ≤
      max sequence (max range (max 1 (max program.longestText program.longestList))) := by
  -- All that matters of the bound is that none of its parts is greater.
  generalize bound :
    max sequence (max range (max 1 (max program.longestText program.longestList))) = most
  have carries : Run.Carries ⟨⟨steps?, some range, some sequence⟩, memory⟩
      ⟨⟨steps?, some range, some sequence⟩, memory⟩ (Expression.IsShort most) Run.Anything
      (Value.IsShort most)
      (Run.Keeps Run.Anything (Value.IsShort most)) :=
    Run.Keeps.carries (Value.closed_isShort (by omega))
      (fun short shortToo made => Value.yields_applyBinary (by omega) _ short shortToo _ made)
      fun made => Progression.yields_value (by omega) _ _ made
  have short : ∀ part ∈ expressions program, part.IsShort most :=
    isShort_of_mem_expressions trims (by omega) (by omega)
  have start : program.start.IsSound (Expression.IsShort most) Run.Anything (Value.IsShort most) :=
    ⟨Program.meets program short fun _ _ => trivial, List.forall_mem_nil _, .start⟩
  have sound := start.of_reaches (Run.Keeps.carriesLoops carries rounds) reached
  exact fun value has part inside => (sound.of_has has part inside).1

/-- A text in a list and a method that is bound to it are as long as the limit allows. -/
theorem size_le_of_reaches_strip :
    let program : Program := [
      .assign "s" (.list [.binary (.text "ab") .mul (.integer 3)]),
      .expression (.member (.index (.name "s") (.integer 0)) "strip")]
    let scope : Scope := ({} : Scope).set "s" (.list [.text "ababab"])
    let moment : Moment := ⟨.rest, [.method "ababab" .strip], { steps := 2, scope := scope }⟩
    Moment.Reaches ⟨⟨none, some 0, some 6⟩, .upTo 6⟩ 0 program.start moment ∧
      ∀ value, moment.Has value → ∀ part ∈ value.parts, part.size ≤ 6 := by
  intro program scope moment
  have assigned : (Statement.assign "s" (.list [.binary (.text "ab") .mul (.integer 3)])).exec
      ⟨⟨none, some 0, some 6⟩, .upTo 6⟩ 0 {} = .ok .done { steps := 1, scope := scope } := rfl
  have evaluated : (Expression.member (.index (.name "s") (.integer 0)) "strip").eval
      ⟨⟨none, some 0, some 6⟩, .upTo 6⟩ { steps := 2, scope := scope } =
        .ok (.method "ababab" .strip) { steps := 2, scope := scope } := rfl
  have reached : Moment.Reaches ⟨⟨none, some 0, some 6⟩, .upTo 6⟩ 0 program.start moment :=
    .tail (.tail (.tail (.tail .refl (.later assigned)) .first) (.subject rfl rfl))
      (.value evaluated)
  have most : max 6 (max 0 (max 1 (max program.longestText program.longestList))) = 6 := by decide
  have short := size_le_of_reaches none 0 6 0 (.upTo 6) program (by decide) moment reached
  rw [most] at short
  exact ⟨reached, short⟩

end Program

end Offside
