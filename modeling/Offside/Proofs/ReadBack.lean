import Offside.Proofs.Sketch.Printed

/-!
# Printed values read back

What stands for a value inside a printed list is an expression of the language, if the value is
made of integers, truth values, texts, `None` and lists of such values. `ReadsAs` says of an
operand that it is spelled like the value and has the value; lists are read item by item. An
expression nests one level, each list one more for its items, and the sign of an integer another,
so up to 98 lists inside each other always fit into one line (`Value.ofText_displayItem`).
-/

namespace Offside

open Token (Lexes)

namespace Value

mutual

/-- Whether a value can be written as a literal. The least integer cannot: its sign is no part of a
literal, and without it the number is too large. -/
def HasLiteral : Value → Prop
  | integer value => value ≠ Int64.minValue
  | boolean _ | text _ | none => True
  | list items => HaveLiterals items
  | float _ | builtin _ | method .. => False

/-- Whether values can be written as literals. -/
def HaveLiterals : List Value → Prop
  | [] => True
  | item :: later => item.HasLiteral ∧ HaveLiterals later

end

mutual

/-- The number of lists that are inside each other. -/
def depth : Value → Nat
  | list items => depthAll items + 1
  | integer _ | float _ | boolean _ | text _ | builtin _ | method .. | none => 0

/-- The largest number of lists that are inside each other in one of some values. -/
def depthAll : List Value → Nat
  | [] => 0
  | item :: later => max item.depth (depthAll later)

end

end Value

/-- Whether a text can follow every literal. -/
def EndsLiteral (rest : List Char) : Prop :=
  ∀ character ∈ rest.head?, Token.continuesName character = false ∧ character ≠ '.'

namespace EndsLiteral

variable {rest : List Char}

/-- A literal may end where the text does. -/
theorem nil : EndsLiteral [] := by
  rintro _ ⟨⟩

/-- A literal may end before a comma. -/
theorem comma : EndsLiteral (',' :: rest) := by
  rintro _ ⟨⟩
  exact ⟨by decide +kernel, by decide⟩

/-- A literal may end before a closing bracket. -/
theorem rightBracket : EndsLiteral (']' :: rest) := by
  rintro _ ⟨⟩
  exact ⟨by decide +kernel, by decide⟩

end EndsLiteral

/-- Whether an operand is spelled like what stands for the value inside a list, and has the
value. -/
structure ReadsAs (value : Value) (operand : Phrase .signed) : Prop where
  lexes : ∀ {rest : List Char} {later : List Token.Kind}, EndsLiteral rest → Lexes rest later →
    Lexes (value.displayItem.toList ++ rest) (operand.words ++ later)
  levels : operand.levels ≤ value.depth + 1
  eval : ∀ limits, operand.meaning.eval limits = pure value

/-- Whether arguments are spelled like what stands for the items between the brackets of a list, and
have these values. -/
structure ReadAllAs (items : List Value) (given : Phrase .arguments) : Prop where
  lexes : ∀ {rest : List Char} {later : List Token.Kind}, EndsLiteral rest → Lexes rest later →
    Lexes ((", ".intercalate (items.map Value.displayItem)).toList ++ rest) (given.words ++ later)
  levels : given.levels ≤ Value.depthAll items + 2
  eval : ∀ limits, Expression.evalAll limits given.meaning = pure items

namespace ReadsAs

/-- An integer is a literal, with a sign if it is negative. -/
theorem integer {value : Int64} (opposite : value ≠ Int64.minValue) :
    ReadsAs (.integer value) (Sketch.literalPhrase value) where
  lexes ends lexes := by
    refine Sketch.lexes_toString opposite (fun character isNext => ?_) lexes
    obtain ⟨noName, noPoint⟩ := ends character isNext
    refine ⟨?_, noPoint⟩
    by_contra digit
    rw [Token.continuesName_of_isDigit (by simpa using digit)] at noName
    cases noName
  levels := Sketch.levels_literalPhrase value
  eval limits := by rw [Sketch.meaning_literalPhrase, Sketch.eval_literal opposite]

/-- A value that is written as a keyword is that keyword. -/
theorem keyword {keyword : Keyword} {expression : Expression} {value : Value}
    (isAtom : IsAtom (.keyword keyword) expression)
    (shown : value.displayItem = keyword.spelling)
    (gives : ∀ limits, expression.eval limits = pure value) :
    ReadsAs value (.ofAtom (.keyword keyword) isAtom) where
  lexes ends lexes := by
    rw [shown]
    exact (Token.lexes_keyword_iff fun character isNext => (ends character isNext).1).mpr
      ⟨_, rfl, lexes⟩
  levels := Nat.zero_le _
  eval := gives

/-- A text is read between its quotes. -/
theorem text (content : String) :
    ReadsAs (.text content) (.ofAtom (.text content) (.text content)) where
  lexes {rest later} _ lexes := by
    have shown : (Value.displayItem (.text content)).toList =
        '\'' :: (Token.escaped '\'' content.toList ++ ['\'']) := String.toList_ofList
    rw [shown, List.cons_append, List.append_assoc, List.singleton_append]
    refine (Token.lexes_quoted_iff (.inl rfl) content.toList).mpr ⟨later, ?_, lexes⟩
    rw [String.ofList_toList]
    rfl
  levels := Nat.zero_le _
  eval _ := rfl

/-- A list is read as the arguments between its brackets. -/
theorem list {items : List Value} {given : Phrase .arguments} (inside : ReadAllAs items given) :
    ReadsAs (.list items) (.suffixed (.list given) .noSuffix) where
  lexes {rest later} _ lexes := by
    have closed := (Token.lexes_mark_iff .rightBracket).mpr ⟨later, rfl, lexes⟩
    have opened := (Token.lexes_mark_iff .leftBracket).mpr
      ⟨_, rfl, inside.lexes .rightBracket closed⟩
    have shown : (Value.displayItem (.list items)).toList =
        '[' :: ((", ".intercalate (items.map Value.displayItem)).toList ++ [']']) := by
      change (Value.bracketed (Value.displayItems items)).toList = _
      rw [Value.displayItems_eq_map, Value.bracketed]
      simp
    rw [shown]
    simpa [Phrase.words] using opened
  levels := by
    have bound := inside.levels
    simp only [Phrase.levels, Value.depth]
    omega
  eval limits := by
    change Expression.eval limits (.list given.meaning) = _
    rw [Expression.eval, inside.eval limits, pure_bind]

end ReadsAs

namespace ReadAllAs

/-- Without items there is no argument. -/
theorem nil : ReadAllAs [] .noArgument where
  lexes _ lexes := lexes
  levels := Nat.zero_le _
  eval _ := rfl

variable {item next : Value} {later : List Value} {operand : Phrase .signed}

/-- A single item is the last argument. -/
theorem single (first : ReadsAs item operand) :
    ReadAllAs [item] (.lastArgument (.ofSigned operand)) where
  lexes ends lexes := by
    have alone := first.lexes ends lexes
    simpa [Phrase.words] using alone
  levels := by
    have bound := first.levels
    simp only [Phrase.levels, Phrase.levels_ofSigned, Value.depthAll]
    omega
  eval limits := by
    change Expression.evalAll limits [operand.meaning] = _
    simp only [Expression.evalAll, first.eval limits, pure_bind]

/-- An item before others is an argument before theirs. -/
theorem cons {given : Phrase .arguments} (first : ReadsAs item operand)
    (others : ReadAllAs (next :: later) given) :
    ReadAllAs (item :: next :: later) (.argument (.ofSigned operand) given) where
  lexes {rest words} ends lexes := by
    have space : Text.isBlank ' ' := rfl
    have comma : ∀ text, Symbol.atStart? (',' :: text) = some .comma := fun _ => rfl
    have behind := (Token.lexes_blank_iff space).mpr (others.lexes ends lexes)
    have parted := (Token.lexes_symbol_iff (comma _)).mpr ⟨_, rfl, behind⟩
    have whole := first.lexes .comma parted
    simpa [Phrase.words] using whole
  levels := by
    have bound := first.levels
    have further := others.levels
    simp only [Phrase.levels, Phrase.levels_ofSigned, Value.depthAll] at further ⊢
    omega
  eval limits := by
    change Expression.evalAll limits (operand.meaning :: given.meaning) = _
    rw [Expression.evalAll, first.eval limits, pure_bind, others.eval limits, pure_bind]

end ReadAllAs

mutual

/-- What can be written as a literal is read as an operand. -/
theorem exists_readsAs : (value : Value) → value.HasLiteral → ∃ operand, ReadsAs value operand
  | .integer _, opposite => ⟨_, .integer opposite⟩
  | .boolean true, _ => ⟨_, .keyword .true rfl fun _ => rfl⟩
  | .boolean false, _ => ⟨_, .keyword .false rfl fun _ => rfl⟩
  | .text content, _ => ⟨_, .text content⟩
  | .none, _ => ⟨_, .keyword .none rfl fun _ => rfl⟩
  | .list items, literals => by
      obtain ⟨given, inside⟩ := exists_readAllAs items literals
      exact ⟨_, .list inside⟩

/-- Items that can be written as literals are read as arguments. -/
theorem exists_readAllAs : (items : List Value) → Value.HaveLiterals items →
    ∃ given, ReadAllAs items given
  | [], _ => ⟨_, .nil⟩
  | [item], ⟨literal, _⟩ => by
      obtain ⟨operand, first⟩ := exists_readsAs item literal
      exact ⟨_, .single first⟩
  | item :: next :: later, ⟨literal, literals⟩ => by
      obtain ⟨operand, first⟩ := exists_readsAs item literal
      obtain ⟨given, others⟩ := exists_readAllAs (next :: later) literals
      exact ⟨_, .cons first others⟩

end

/-- Printed values read back: what stands for a value inside a list is a line with one expression,
which in every state has exactly that value and changes nothing. -/
theorem Value.ofText_displayItem {value : Value} (literal : value.HasLiteral)
    (shallow : value.depth ≤ 98) (number : Nat) :
    ∃ expression, Line.ofText value.displayItem number = .ok (.simple (.expression expression)) ∧
      ∀ limits state, expression.eval limits state = .ok value state := by
  obtain ⟨operand, reads⟩ := exists_readsAs value literal
  have words := reads.lexes .nil (Token.lexes_nil_iff.mpr rfl)
  rw [List.append_nil, List.append_nil] at words
  have levels := reads.levels
  refine ⟨operand.meaning, Line.ofText_eq_ok_iff.mpr ⟨.bare (.ofSigned operand), ?_, rfl, ?_⟩, ?_⟩
  · rwa [LinePhrase.words, Phrase.words_ofSigned]
  · change (Phrase.ofSigned operand).levels ≤ 100
    rw [Phrase.levels_ofSigned]
    omega
  · intro limits state
    rw [reads.eval limits]
    rfl

/-- A list of a text with both kinds of quotes, a backslash and a newline, an empty list and a list
with a negative integer. -/
def mixedList : Value :=
  .list [.text "it's \\ \"\n", .list [], .list [.integer (-7), .none]]

/-- The quotes and the newline of the text, the sign and the empty list are read back. -/
theorem Value.ofText_displayItem_mixedList :
    mixedList.HasLiteral ∧ mixedList.depth = 2 ∧
      mixedList.displayItem = "['it\\'s \\\\ \"\n', [], [-7, None]]" ∧
      ∃ expression, Line.ofText mixedList.displayItem 1 = .ok (.simple (.expression expression)) ∧
        ∀ limits state, expression.eval limits state = .ok mixedList state := by
  have opposite : (-7 : Int64) ≠ Int64.minValue := by decide
  have literal : mixedList.HasLiteral :=
    ⟨trivial, trivial, ⟨opposite, trivial, trivial⟩, trivial⟩
  have depth : mixedList.depth = 2 := rfl
  have shown : mixedList.displayItem = "['it\\'s \\\\ \"\n', [], [-7, None]]" := by cbv
  exact ⟨literal, depth, shown, ofText_displayItem literal (by omega) 1⟩

end Offside
