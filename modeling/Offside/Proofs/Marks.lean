import Mathlib.Data.List.TakeWhile
import Offside.Proofs.Lexing

/-!
# Brackets and colons in a text

Brackets and colons are symbols of one character that is part of no other lexeme,
quoted texts and comments apart. So in a text with neither of these, the words
show each of these characters at its place: `Lexes.count_mark` counts them, and
`Lexes.of_mark` finds the words behind one.
-/

namespace Offside

/-- A list at the end of two lists is at the end of the second, or has it behind some items of the
first. -/
theorem suffix_append_cases {α : Type} {later first second : List α}
    (isSuffix : later <:+ first ++ second) :
    later <:+ second ∨ ∃ item more, item :: more <:+ first ∧ later = item :: more ++ second := by
  rcases List.suffix_or_suffix_of_suffix isSuffix (List.suffix_append first second) with
    inside | ⟨part, rfl⟩
  · exact .inl inside
  · cases part with
    | nil => exact .inl (List.suffix_refl second)
    | cons item more => exact .inr ⟨item, more, List.suffix_append_self_iff.mp isSuffix, rfl⟩

namespace Token

/-- The characters that are always a symbol by themselves. -/
inductive IsMark : Char → Symbol → Prop where
  | leftParen : IsMark '(' .leftParen
  | rightParen : IsMark ')' .rightParen
  | leftBracket : IsMark '[' .leftBracket
  | rightBracket : IsMark ']' .rightBracket
  | colon : IsMark ':' .colon

/-- Whether a text has neither quotes nor a sign that could begin a comment. -/
def IsPlain (text : List Char) : Prop :=
  ∀ character ∈ text, character ≠ '\'' ∧ character ≠ '"' ∧ character ≠ '#'

/-- A part of a plain text is plain. -/
theorem IsPlain.of_subset {text part : List Char} (plain : IsPlain text) (subset : part ⊆ text) :
    IsPlain part :=
  fun character member => plain character (subset member)

/-- A symbol that a text begins with is cut off as it is spelled. -/
theorem readSymbol_spelling {column : Nat} {first : Char} {following : List Char} {kind : Kind}
    (found : (readSymbol column first following).outcome = .ok kind) :
    ∃ symbol, kind = .symbol symbol ∧
      (readSymbol column first following).spelling = symbol.spelling.toList := by
  unfold readSymbol at found ⊢
  split at found
  · next symbol shown =>
      cases found
      refine ⟨symbol, rfl, ?_⟩
      obtain ⟨rest, whole⟩ := prefix_of_atStart? shown
      have nonempty : symbol.spelling.toList ≠ [] := by cases symbol <;> decide
      obtain ⟨sign, signs, spelling⟩ := List.exists_cons_of_ne_nil nonempty
      rw [spelling, List.cons_append] at whole
      obtain ⟨rfl, rfl⟩ := List.cons_eq_cons.mp whole
      simp [spelling]
  · cases found

section

variable {mark : Char} {symbol : Symbol}

namespace IsMark

/-- A symbol with a mark in its spelling is that mark. -/
theorem eq_of_mem_spelling (isMark : IsMark mark symbol) {other : Symbol}
    (member : mark ∈ other.spelling.toList) : other = symbol := by
  have only : Symbol.all.all (fun other =>
      !other.spelling.toList.contains mark || other == symbol) = true := by
    cases isMark <;> decide +kernel
  have here := List.all_eq_true.mp only other (Symbol.mem_all other)
  simpa [member] using here

/-- A mark is spelled as itself. -/
theorem spelling_eq (isMark : IsMark mark symbol) : symbol.spelling.toList = [mark] := by
  cases isMark <;> decide

/-- A mark is no blank. -/
theorem not_isBlank (isMark : IsMark mark symbol) : ¬ Text.isBlank mark := by
  cases isMark <;> decide

/-- No name has a mark in it. -/
theorem not_continuesName (isMark : IsMark mark symbol) : continuesName mark = false := by
  cases isMark <;> decide +kernel

/-- No name begins with a mark. -/
theorem not_startsName (isMark : IsMark mark symbol) : startsName mark = false := by
  cases isMark <;> decide +kernel

/-- No number has a mark in it. -/
theorem not_isDigit (isMark : IsMark mark symbol) : mark.isDigit = false ∧ mark ≠ '.' := by
  cases isMark <;> decide

end IsMark

/-- A character is not among those of another sort. -/
theorem notMem_takeWhile {sort : Char → Bool} {text : List Char} (other : sort mark = false) :
    mark ∉ text.takeWhile sort := by
  intro member
  have here := List.all_eq_true.mp List.all_takeWhile mark member
  rw [other] at here
  cases here

/-- The digits of a number and its point are no marks. -/
theorem notMem_readNumber (isMark : IsMark mark symbol) {column : Nat} {first : Char}
    {following : List Char} (digit : first.isDigit) :
    mark ∉ (readNumber column first following).spelling := by
  obtain ⟨noDigit, noPoint⟩ := isMark.not_isDigit
  have noFirst : ∀ {first : Char}, first.isDigit → mark ≠ first := by
    rintro first isDigit rfl
    rw [noDigit] at isDigit
    cases isDigit
  have whole : mark ∉ first :: following.takeWhile Char.isDigit := by
    simp [noFirst digit, notMem_takeWhile noDigit]
  unfold readNumber
  dsimp only
  split
  · split
    · next second rest shape isFraction =>
        simp only [List.mem_append, List.mem_cons, not_or] at whole ⊢
        exact ⟨whole, noPoint, noFirst isFraction, notMem_takeWhile noDigit⟩
    · exact whole
  · exact whole

/-- A number is no symbol. -/
theorem readNumber_ne_symbol {column : Nat} {first : Char} {following : List Char} {kind : Kind}
    (found : (readNumber column first following).outcome = .ok kind) :
    kind ≠ .symbol symbol := by
  have noSymbol : ∀ digits, integerOf column digits ≠ .ok (.symbol symbol) := by
    intro digits same
    unfold integerOf at same
    dsimp only at same
    split at same <;> cases same
  rintro rfl
  unfold readNumber at found
  dsimp only at found
  split at found
  · split at found
    · cases found
    · exact noSymbol _ found
  · exact noSymbol _ found

/-- A lexeme outside quotes is a mark by itself or has no mark in it. -/
theorem readLexeme_mark (isMark : IsMark mark symbol) {column : Nat} {first : Char}
    {following : List Char} {kind : Kind} (noQuote : first ≠ '\'' ∧ first ≠ '"')
    (found : (readLexeme column first following).outcome = .ok kind) :
    ((readLexeme column first following).spelling = [mark] ∧ kind = .symbol symbol) ∨
      (mark ∉ (readLexeme column first following).spelling ∧ kind ≠ .symbol symbol) := by
  have unquoted : ¬ (first = '\'' ∨ first = '"') := by simp [noQuote]
  unfold readLexeme at found ⊢
  rw [if_neg unquoted] at found ⊢
  split at found
  · next isName =>
      right
      rw [if_pos isName]
      constructor
      · have noFirst : mark ≠ first := by
          rintro rfl
          rw [isMark.not_startsName] at isName
          cases isName
        simp [readName, noFirst, notMem_takeWhile isMark.not_continuesName]
      · rintro rfl
        unfold readName at found
        dsimp only at found
        split at found <;> cases found
  · next noName =>
      rw [if_neg noName]
      split at found
      · next isNumber =>
          rw [if_pos isNumber]
          exact .inr ⟨notMem_readNumber isMark isNumber, readNumber_ne_symbol found⟩
      · next noNumber =>
          rw [if_neg noNumber]
          obtain ⟨other, rfl, spelling⟩ := readSymbol_spelling found
          rw [spelling]
          by_cases same : other = symbol
          · exact .inl ⟨by rw [same, isMark.spelling_eq], by rw [same]⟩
          · exact .inr ⟨mt isMark.eq_of_mem_spelling same, by simpa using same⟩

/-! ### The words of a plain text -/

variable {text : List Char} {kinds : List Kind}

/-- Blanks, the lexeme behind them and what follows that make up a text. -/
theorem eq_append_lexeme {first : Char} {following : List Char} (column : Nat)
    (shape : text.dropWhile Text.isBlank = first :: following) :
    text = text.takeWhile Text.isBlank ++ ((readLexeme column first following).spelling ++
      (readLexeme column first following).rest) := by
  obtain ⟨further, spelling, whole⟩ := readLexeme_append column first following
  rw [spelling, List.cons_append, whole, ← shape, List.takeWhile_append_dropWhile]

/-- Blanks and a lexeme make up the front of a text. -/
theorem exists_eq_append_lexeme {first : Char} {following : List Char} (column : Nat)
    (shape : text.dropWhile Text.isBlank = first :: following) :
    ∃ blanks, (∀ blank ∈ blanks, Text.isBlank blank) ∧
      text = blanks ++ ((readLexeme column first following).spelling ++
        (readLexeme column first following).rest) :=
  ⟨_, List.all_eq_true.mp List.all_takeWhile, eq_append_lexeme column shape⟩

/-- A text without quotes and comments has as many marks as its words. -/
theorem Lexes.count_mark (isMark : IsMark mark symbol) (lexes : Lexes text kinds)
    (plain : IsPlain text) : text.count mark = kinds.count (.symbol symbol) := by
  have inBlanks : ∀ {blanks : List Char}, (∀ blank ∈ blanks, Text.isBlank blank) →
      blanks.count mark = 0 := fun blank =>
    List.count_eq_zero.mpr fun member => isMark.not_isBlank (blank mark member)
  induction lexes with
  | done blank =>
      rw [List.count_nil]
      exact inBlanks (List.dropWhile_eq_nil_iff.mp blank)
  | @comment text following shape =>
      have member : '#' ∈ text := (List.dropWhile_suffix Text.isBlank).subset (by simp [shape])
      exact absurd rfl (plain '#' member).2.2
  | @lexeme text first following column kind kinds shape noComment found later
      inductionHypothesis =>
      obtain ⟨blanks, blank, whole⟩ := exists_eq_append_lexeme column shape
      have noQuote := plain first ((List.dropWhile_suffix Text.isBlank).subset (by simp [shape]))
      have rest := inductionHypothesis (plain.of_subset (by rw [whole]; simp))
      have here := inBlanks blank
      rw [whole, List.count_append, List.count_append, here, rest, Nat.zero_add]
      rcases readLexeme_mark isMark ⟨noQuote.1, noQuote.2.1⟩ found with
        ⟨spelling, rfl⟩ | ⟨absent, other⟩
      · rw [spelling, List.count_singleton_self, List.count_cons_self, Nat.add_comm]
      · rw [List.count_eq_zero.mpr absent, Nat.zero_add, List.count_cons_of_ne other]

/-- Behind a mark of a text without quotes and comments stand the words behind its symbol. -/
theorem Lexes.of_mark (isMark : IsMark mark symbol) (lexes : Lexes text kinds)
    (plain : IsPlain text) {after : List Char} (isSuffix : mark :: after <:+ text) :
    ∃ before later, kinds = before ++ .symbol symbol :: later ∧ Lexes after later := by
  induction lexes with
  | done blank =>
      have member := isSuffix.subset (List.mem_cons_self)
      exact absurd (List.dropWhile_eq_nil_iff.mp blank mark member) isMark.not_isBlank
  | @comment text following shape =>
      have member : '#' ∈ text := (List.dropWhile_suffix Text.isBlank).subset (by simp [shape])
      exact absurd rfl (plain '#' member).2.2
  | @lexeme text first following column kind kinds shape noComment found later
      inductionHypothesis =>
      obtain ⟨blanks, blank, whole⟩ := exists_eq_append_lexeme column shape
      have noQuote := plain first ((List.dropWhile_suffix Text.isBlank).subset (by simp [shape]))
      have rest := inductionHypothesis (plain.of_subset (by rw [whole]; simp))
      rw [whole] at isSuffix
      rcases suffix_append_cases isSuffix with further | ⟨item, more, isPart, same⟩
      · rcases suffix_append_cases further with further | ⟨item, more, isPart, same⟩
        · obtain ⟨before, kinds, rfl, behind⟩ := rest further
          exact ⟨kind :: before, kinds, rfl, behind⟩
        · obtain ⟨rfl, rfl⟩ := List.cons_eq_cons.mp same
          rcases readLexeme_mark isMark ⟨noQuote.1, noQuote.2.1⟩ found with
            ⟨spelling, rfl⟩ | ⟨absent, -⟩
          · rw [spelling] at isPart
            obtain rfl : more = [] := by simpa using isPart.length_le
            exact ⟨[], kinds, rfl, later⟩
          · exact absurd (isPart.subset List.mem_cons_self) absent
      · obtain ⟨rfl, -⟩ := List.cons_eq_cons.mp same
        exact absurd (blank mark (isPart.subset List.mem_cons_self)) isMark.not_isBlank

end

end Token

end Offside
