import Offside.Proofs.Marks

/-!
# Lexemes as they are spelled

A word, an integer or a symbol at the front of a text is read as that, as long as the
text behind it cannot go on with it. Each lemma says what the words of such a text
are: first the one that is spelled there, and then those of the text behind it.
-/

namespace Offside.Token

/-- Characters of a sort that others follow are taken off the front of a text. -/
theorem takeWhile_dropWhile_append {sort : Char → Bool} {front rest : List Char}
    (goes : ∀ character ∈ front, sort character)
    (ends : ∀ character ∈ rest.head?, sort character = false) :
    (front ++ rest).takeWhile sort = front ∧ (front ++ rest).dropWhile sort = rest := by
  rw [List.takeWhile_append_of_pos goes, List.dropWhile_append_of_pos goes]
  cases rest with
  | nil => simp
  | cons first more => simp [ends first rfl]

section

variable {text following rest : List Char} {first : Char} {more : List Char}
  {kind : Kind} {kinds : List Kind}

/-- A blank in front of a text is no word. -/
theorem lexes_blank_iff {blank : Char} (isBlank : Text.isBlank blank) :
    Lexes (blank :: text) kinds ↔ Lexes text kinds :=
  lexes_congr (by simp [isBlank])

/-- There are no words in an empty text. -/
theorem lexes_nil_iff : Lexes [] kinds ↔ kinds = [] := by
  constructor
  · intro lexes
    cases lexes with
    | done => rfl
    | comment shape | lexeme shape => cases shape
  · rintro rfl
    exact .done rfl

/-- Where a text begins with a lexeme, its words begin with that. -/
theorem lexes_iff_of_readLexeme (spelling : List Char) (visible : Text.isBlank first = false)
    (noComment : first ≠ '#')
    (read : ∀ column, readLexeme column first following = ⟨.ok kind, spelling, rest⟩) :
    Lexes (first :: following) kinds ↔ ∃ later, kinds = kind :: later ∧ Lexes rest later := by
  have front : (first :: following).dropWhile Text.isBlank = first :: following := by simp [visible]
  constructor
  · intro lexes
    cases lexes with
    | done blank => simp [front] at blank
    | comment shape =>
        obtain ⟨isComment, -⟩ := List.cons_eq_cons.mp (front.symm.trans shape)
        exact absurd isComment noComment
    | @lexeme _ _ _ column _ _ shape _ found later =>
        obtain ⟨rfl, rfl⟩ := List.cons_eq_cons.mp (front.symm.trans shape)
        rw [read column] at found later
        cases found
        exact ⟨_, rfl, later⟩
  · rintro ⟨later, rfl, lexes⟩
    refine Lexes.lexeme front noComment (?_ : (readLexeme 0 _ _).outcome = _) ?_
    · rw [read]
    · rw [read]
      exact lexes

/-! ### Words -/

/-- The keyword or the name that a word is. -/
def wordKind (word : List Char) : Kind :=
  match Keyword.ofSpelling? (String.ofList word) with
  | some keyword => .keyword keyword
  | none => .name (String.ofList word)

/-- A character that a name begins with is no blank, no quote and no sign of a comment. -/
theorem ne_of_startsName (starts : startsName first) :
    Text.isBlank first = false ∧ first ≠ '#' ∧ ¬ (first = '\'' ∨ first = '"') := by
  have other : ∀ character, startsName character = false → first ≠ character := by
    rintro character noStart rfl
    rw [noStart] at starts
    cases starts
  refine ⟨?_, other '#' (by decide +kernel), ?_⟩
  · cases blank : Text.isBlank first with
    | false => rfl
    | true =>
        have noPoint : ∀ point ∈ blankPoints, startsName (Char.ofNat point) = false := by
          decide +kernel
        exact absurd (Char.ofNat_toNat first).symm (other _ (noPoint _ (mem_blankPoints blank)))
  · rintro (quote | quote)
    · exact other '\'' (by decide +kernel) quote
    · exact other '"' (by decide +kernel) quote

/-- A word in front of a text that does not go on with it is the first word of the text. -/
theorem lexes_word_iff (starts : startsName first)
    (goes : ∀ character ∈ more, continuesName character)
    (ends : ∀ character ∈ rest.head?, continuesName character = false) :
    Lexes (first :: (more ++ rest)) kinds ↔
      ∃ later, kinds = wordKind (first :: more) :: later ∧ Lexes rest later := by
  obtain ⟨visible, noComment, noQuote⟩ := ne_of_startsName starts
  refine lexes_iff_of_readLexeme (first :: more) visible noComment fun column => ?_
  obtain ⟨taken, dropped⟩ := takeWhile_dropWhile_append goes ends
  rw [readLexeme, if_neg noQuote, if_pos starts, readName, taken, dropped]
  rfl

/-- A keyword in front of a text that does not go on with it is the first word of the text. -/
theorem lexes_keyword_iff {keyword : Keyword}
    (ends : ∀ character ∈ rest.head?, continuesName character = false) :
    Lexes (keyword.spelling.toList ++ rest) kinds ↔
      ∃ later, kinds = .keyword keyword :: later ∧ Lexes rest later := by
  have ofWord : keyword.spelling.toList.all fun sign => startsName sign && continuesName sign := by
    cases keyword <;> decide +kernel
  have isWord : ∀ sign ∈ keyword.spelling.toList, startsName sign ∧ continuesName sign :=
    fun sign member => Bool.and_eq_true_iff.mp (List.all_eq_true.mp ofWord sign member)
  have nonempty : keyword.spelling.toList ≠ [] := by cases keyword <;> decide
  have kind : wordKind keyword.spelling.toList = .keyword keyword := by
    rw [wordKind, String.ofList_toList, Keyword.ofSpelling?_spelling]
  obtain ⟨sign, signs, spelling⟩ := List.exists_cons_of_ne_nil nonempty
  rw [spelling] at isWord kind ⊢
  rw [List.cons_append, lexes_word_iff (isWord sign (by simp)).1
    (fun character member => (isWord character (by simp [member])).2) ends, kind]

/-- A name in front of a text that does not go on with it is the first word of the text. -/
theorem lexes_name_iff {word : String} (spelling : word.toList = first :: more)
    (noKeyword : Keyword.ofSpelling? word = none) (starts : startsName first)
    (goes : ∀ character ∈ more, continuesName character)
    (ends : ∀ character ∈ rest.head?, continuesName character = false) :
    Lexes (word.toList ++ rest) kinds ↔
      ∃ later, kinds = .name word :: later ∧ Lexes rest later := by
  have kind : wordKind (first :: more) = .name word := by
    rw [wordKind, ← spelling, String.ofList_toList, noKeyword]
  rw [spelling, List.cons_append, lexes_word_iff starts goes ends, kind]

/-! ### Integers -/

/-- What holds of the ten digits holds of every digit. -/
@[elab_as_elim]
theorem of_isDigit {property : Char → Prop} (digit : first.isDigit)
    (all : ∀ point ∈ List.range' 48 10, property (Char.ofNat point)) : property first := by
  have inside : first.toNat ∈ List.range' 48 10 := by
    rw [List.mem_range'_1]
    rw [Char.isDigit, Bool.and_eq_true, decide_eq_true_eq, decide_eq_true_eq] at digit
    constructor
    · exact UInt32.le_iff_toNat_le.mp digit.1
    · exact Nat.lt_succ_of_le (UInt32.le_iff_toNat_le.mp digit.2)
  have here := all first.toNat inside
  rwa [Char.ofNat_toNat] at here

/-- A digit is no blank, begins no name and is no quote or sign of a comment. -/
theorem ne_of_isDigit (digit : first.isDigit) :
    Text.isBlank first = false ∧ first ≠ '#' ∧ ¬ (first = '\'' ∨ first = '"') ∧
      startsName first = false := by
  refine of_isDigit digit ?_
  decide +kernel

/-- A name goes on with digits. -/
theorem continuesName_of_isDigit (digit : first.isDigit) : continuesName first := by
  refine of_isDigit digit ?_
  decide +kernel

/-- Digits in front of a text that does not go on with them are an integer, if it is not too
large. -/
theorem lexes_integer_iff (digit : first.isDigit) (goes : ∀ character ∈ more, character.isDigit)
    (ends : ∀ character ∈ rest.head?, character.isDigit = false ∧ character ≠ '.')
    (small : digitsValue (first :: more) ≤ mostInteger) :
    Lexes (first :: (more ++ rest)) kinds ↔
      ∃ later, kinds = .integer (Int64.ofNat (digitsValue (first :: more))) :: later ∧
        Lexes rest later := by
  obtain ⟨visible, noComment, noQuote, noName⟩ := ne_of_isDigit digit
  refine lexes_iff_of_readLexeme (first :: more) visible noComment fun column => ?_
  obtain ⟨taken, dropped⟩ :=
    takeWhile_dropWhile_append goes fun character member => (ends character member).1
  rw [readLexeme, if_neg noQuote, if_neg (by simp [noName]), if_pos digit, readNumber, taken,
    dropped]
  have value : integerOf column (first :: more) =
      .ok (.integer (Int64.ofNat (digitsValue (first :: more)))) := if_pos small
  dsimp only
  split
  · next second later => exact absurd rfl (ends '.' rfl).2
  · rw [value]

/-- In decimals a number has at least one digit. -/
theorem exists_decimals (number : Nat) : ∃ digit later, Nat.toDigits 10 number = digit :: later ∧
    digit.isDigit ∧ ∀ other ∈ later, other.isDigit := by
  have digits : ∀ digit ∈ Nat.toDigits 10 number, digit.isDigit := fun _ member =>
    Nat.isDigit_of_mem_toDigits (by decide) (by decide) member
  obtain ⟨digit, later, shape⟩ :=
    List.exists_cons_of_ne_nil (Nat.toDigits_ne_nil : Nat.toDigits 10 number ≠ [])
  rw [shape, List.forall_mem_cons] at digits
  exact ⟨digit, later, shape, digits⟩

/-- A number that is not too large is read in decimals. -/
theorem lexes_decimals_iff {number : Nat} (small : number ≤ mostInteger)
    (ends : ∀ character ∈ rest.head?, character.isDigit = false ∧ character ≠ '.') :
    Lexes (Nat.toDigits 10 number ++ rest) kinds ↔
      ∃ later, kinds = .integer (Int64.ofNat number) :: later ∧ Lexes rest later := by
  have value : digitsValue (Nat.toDigits 10 number) = number := Nat.ofDigitChars_ten_toDigits
  obtain ⟨digit, later, shape, isDigit, further⟩ := exists_decimals number
  rw [shape] at value ⊢
  rw [List.cons_append, lexes_integer_iff isDigit further ends (by rwa [value]), value]

/-! ### Texts -/

/-- What a text is written as between two quotes of one kind: with a backslash before each quote of
that kind and each backslash. -/
def escaped (quote : Char) (content : List Char) : List Char :=
  content.flatMap fun character =>
    if character = '\\' ∨ character = quote then ['\\', character] else [character]

/-- A text with its quotes and backslashes escaped is read up to its closing quote. -/
theorem quotedBody_escaped {quote : Char} (isQuote : quote = '\'' ∨ quote = '"')
    (content rest : List Char) : quotedBody quote (escaped quote content ++ quote :: rest) =
      some (content, escaped quote content ++ [quote], rest) := by
  induction content with
  | nil =>
      rw [quotedBody.eq_def]
      exact if_pos rfl
  | cons character later inductionHypothesis =>
      have noBackslash : '\\' ≠ quote := by rcases isQuote with rfl | rfl <;> decide
      by_cases special : character = '\\' ∨ character = quote
      · have itself : unescape character = [character] := by
          rcases special with rfl | rfl
          · rfl
          · rcases isQuote with rfl | rfl <;> rfl
        have spelled : escaped quote (character :: later) =
            '\\' :: character :: escaped quote later := by simp [escaped, special]
        rw [spelled, List.cons_append, List.cons_append, quotedBody.eq_def]
        simp [noBackslash, inductionHypothesis, itself]
      · have spelled : escaped quote (character :: later) = character :: escaped quote later := by
          simp [escaped, special]
        obtain ⟨plain, other⟩ := not_or.mp special
        rw [spelled, List.cons_append, quotedBody.eq_def]
        simp [plain, other, inductionHypothesis]

/-- A text between quotes is the first word of what begins with it. -/
theorem lexes_quoted_iff {quote : Char} (isQuote : quote = '\'' ∨ quote = '"')
    (content : List Char) : Lexes (quote :: (escaped quote content ++ quote :: rest)) kinds ↔
      ∃ later, kinds = .text (String.ofList content) :: later ∧ Lexes rest later := by
  have visible : Text.isBlank quote = false := by rcases isQuote with rfl | rfl <;> decide
  have noComment : quote ≠ '#' := by rcases isQuote with rfl | rfl <;> decide
  refine lexes_iff_of_readLexeme (quote :: (escaped quote content ++ [quote])) visible noComment
    fun column => ?_
  rw [readLexeme, if_pos isQuote, readQuoted, quotedBody_escaped isQuote]

/-! ### Symbols -/

/-- The first sign of a symbol is no blank and no digit, begins no name and is no quote or sign of a
comment. -/
theorem ne_of_head?_spelling (symbol : Symbol) (sign : symbol.spelling.toList.head? = some first) :
    Text.isBlank first = false ∧ first ≠ '#' ∧ ¬ (first = '\'' ∨ first = '"') ∧
      startsName first = false ∧ first.isDigit = false := by
  obtain rfl : symbol.spelling.toList.headD ' ' = first := by
    rw [List.headD_eq_head?_getD, sign, Option.getD_some]
  cases symbol <;> decide +kernel

/-- The symbol that a text begins with is the first word of the text. -/
theorem lexes_symbol_iff {symbol : Symbol} (shown : Symbol.atStart? text = some symbol) :
    Lexes text kinds ↔ ∃ later, kinds = .symbol symbol :: later ∧
      Lexes (text.drop symbol.spelling.toList.length) later := by
  have isPrefix := List.find?_some shown
  obtain ⟨behind, whole⟩ := List.isPrefixOf_iff_prefix.mp isPrefix
  have nonempty : symbol.spelling.toList ≠ [] := by cases symbol <;> decide
  obtain ⟨sign, signs, spelling⟩ := List.exists_cons_of_ne_nil nonempty
  obtain ⟨visible, noComment, noQuote, noName, noDigit⟩ :=
    ne_of_head?_spelling symbol (by rw [spelling]; rfl)
  subst whole
  rw [spelling, List.cons_append] at shown ⊢
  refine lexes_iff_of_readLexeme (sign :: (signs ++ behind).take signs.length) visible noComment
    fun column => ?_
  rw [readLexeme, if_neg noQuote, if_neg (by simp [noName]), if_neg (by simp [noDigit]), readSymbol,
    shown]
  simp [spelling]

/-- A mark in front of a text is the first word of the text. -/
theorem lexes_mark_iff {mark : Char} {symbol : Symbol} (isMark : IsMark mark symbol) :
    Lexes (mark :: rest) kinds ↔ ∃ later, kinds = .symbol symbol :: later ∧ Lexes rest later := by
  have shown : Symbol.atStart? (mark :: rest) = some symbol := by cases isMark <;> rfl
  rw [lexes_symbol_iff shown, isMark.spelling_eq]
  rfl

/-- A minus in front of a text is the first word of the text, unless an equals sign follows. -/
theorem lexes_minus_iff (ends : rest.head? ≠ some '=') :
    Lexes ('-' :: rest) kinds ↔ ∃ later, kinds = .symbol .minus :: later ∧ Lexes rest later := by
  have shown : Symbol.atStart? ('-' :: rest) = some .minus := by
    cases rest with
    | nil => rfl
    | cons next later =>
        have other : ('=' == next) = false :=
          beq_eq_false_iff_ne.mpr fun same => ends (by rw [← same]; rfl)
        have noUpdate :
            Symbol.minusEqual.spelling.toList.isPrefixOf ('-' :: next :: later) = false := by
          change ('=' == next && _) = false
          rw [other]
          rfl
        simp only [Symbol.atStart?, Symbol.all, List.find?_cons, noUpdate]
        rfl
  exact lexes_symbol_iff shown

end

end Offside.Token
