import Offside.Proofs.Sketch.Written

/-!
# What sketches are written as can be read

Each row of a sketch is spelled like a line phrase that stands for what the row says, and has
no character that the search for defects or the cutting into lines could stumble on. So the
source text of sketches has no defect, and it makes up the program that the sketches mean
(`Sketch.first?_renderAll`, `Sketch.ofSource_renderAll`).
-/

namespace Offside

namespace Phrase

/-- An expression that is one operand without operators. -/
def ofSigned (operand : Phrase .signed) : Phrase .expression :=
  -- every category between the two is passed once
  .expression (.chain (.conjunction (.chain (.negation (.comparison (.chain (.term (.chain
    (.signed operand) .noOperator)) .noOperator) .noLink)) .noOperator)) .noOperator)

/-- An expression that is one operand is spelled as that operand. -/
@[simp]
theorem words_ofSigned (operand : Phrase .signed) : (ofSigned operand).words = operand.words := by
  simp [ofSigned, words]

/-- An expression that is one operand nests one level more than that operand. -/
@[simp]
theorem levels_ofSigned (operand : Phrase .signed) :
    (ofSigned operand).levels = operand.levels + 1 := by
  simp [ofSigned, levels]

/-- A literal or a name as an operand. -/
def ofAtom (word : Token.Kind) {value : Expression} (isAtom : IsAtom word value) :
    Phrase .signed :=
  .suffixed (.atom word value isAtom) .noSuffix

/-- A call of a named function with one argument. -/
def ofCall (function : String) (argument : Phrase .expression) : Phrase .expression :=
  ofSigned (.suffixed (.atom (.name function) (.name function) (.name function))
    (.call (.lastArgument argument) .noSuffix))

end Phrase

namespace Text

/-- A text whose first and last characters are no blanks is trimmed. -/
theorem trim_eq_self {first last : Char} (middle : List Char) (begins : isBlank first = false)
    (ends : isBlank last = false) :
    trim (first :: (middle ++ [last])) = first :: (middle ++ [last]) := by
  have start : trimStart (first :: (middle ++ [last])) = first :: (middle ++ [last]) := by
    simp [trimStart, begins]
  rw [trim, start, trimEnd]
  simp [ends]

end Text

namespace Sketch

open Token (Lexes IsPlain)

/-! ### Integers -/

/-- An integer is written with digits behind a minus, if it is negative. -/
theorem toList_toString (value : Int) : (toString value).toList =
    (if value < 0 then ['-'] else []) ++ Nat.toDigits 10 value.natAbs := by
  rw [Int.toString_eq_repr]
  cases value with
  | ofNat number => simp [Int.repr, Nat.toList_repr]
  | negSucc number => simp [Int.repr, Nat.toList_repr, Int.negSucc_lt_zero]

/-- The characters of an integer are digits and a minus. -/
theorem mem_toList_toString {value : Int} {character : Char}
    (member : character ∈ (toString value).toList) : character.isDigit ∨ character = '-' := by
  rw [toList_toString, List.mem_append] at member
  rcases member with sign | digit
  · split at sign
    · exact .inr (List.mem_singleton.mp sign)
    · cases sign
  · exact .inl (Nat.isDigit_of_mem_toDigits (by decide) (by decide) digit)

/-- The number of an integer that has an opposite is not too large for a literal. -/
theorem natAbs_le_mostInteger {value : Int64} (opposite : value ≠ Int64.minValue) :
    value.toInt.natAbs ≤ Token.mostInteger := by
  have other : value.toInt ≠ Int64.minValue.toInt := mt Int64.toInt_inj.mp opposite
  have least := value.minValue_le_toInt
  have most := value.toInt_le
  rw [Int64.toInt_minValue] at other least
  rw [Int64.toInt_maxValue] at most
  simp only [Token.mostInteger]
  omega

/-- The phrase of an integer: a literal, and a sign if it is negative. -/
def literalPhrase (value : Int64) : Phrase .signed :=
  if value.toInt < 0 then
    .sign (.symbol .minus) .negate .minus (.ofAtom _ (.integer (magnitude value)))
  else .ofAtom _ (.integer (magnitude value))

/-- The phrase of an integer stands for the integer. -/
theorem meaning_literalPhrase (value : Int64) : (literalPhrase value).meaning = literal value := by
  rw [literalPhrase, literal]
  split <;> rfl

/-- The phrase of an integer nests at most the level of its sign. -/
theorem levels_literalPhrase (value : Int64) : (literalPhrase value).levels ≤ 1 := by
  rw [literalPhrase]
  split <;> simp [Phrase.ofAtom, Phrase.levels]

section

variable {rest : List Char} {later : List Token.Kind}

/-- An integer is read as its phrase, where neither digits nor a point follow. -/
theorem lexes_toString {value : Int64} (opposite : value ≠ Int64.minValue)
    (ends : ∀ character ∈ rest.head?, character.isDigit = false ∧ character ≠ '.')
    (lexes : Lexes rest later) :
    Lexes ((toString value.toInt).toList ++ rest) ((literalPhrase value).words ++ later) := by
  have digits : Lexes (Nat.toDigits 10 value.toInt.natAbs ++ rest)
      (.integer (magnitude value) :: later) :=
    (Token.lexes_decimals_iff (natAbs_le_mostInteger opposite) ends).mpr ⟨later, rfl, lexes⟩
  rw [toList_toString, literalPhrase]
  split
  · refine (Token.lexes_minus_iff ?_).mpr ⟨_, rfl, digits⟩
    obtain ⟨digit, more, shape, isDigit, -⟩ := Token.exists_decimals value.toInt.natAbs
    rw [shape]
    rintro ⟨⟩
    exact absurd isDigit (by decide)
  · exact digits

/-- The phrase of a call with an integer. -/
def callPhrase (function : Builtin) (value : Int64) : Phrase .expression :=
  .ofCall function.name (.ofSigned (literalPhrase value))

/-- The phrase of a call stands for the call. -/
theorem meaning_callPhrase (function : Builtin) (value : Int64) :
    (callPhrase function value).meaning = callOf function value := by
  rw [callOf, ← meaning_literalPhrase]
  rfl

/-- The phrase of a call with an integer nests four levels at most. -/
theorem levels_callPhrase (function : Builtin) (value : Int64) :
    (callPhrase function value).levels ≤ 4 := by
  have literal := levels_literalPhrase value
  simp only [callPhrase, Phrase.ofCall, Phrase.levels_ofSigned, Phrase.levels]
  omega

/-- A call with an integer is read as its phrase. -/
theorem lexes_call (function : Builtin) {value : Int64} (opposite : value ≠ Int64.minValue)
    (lexes : Lexes rest later) :
    Lexes (function.name.toList ++ '(' :: ((toString value.toInt).toList ++ ')' :: rest))
      ((callPhrase function value).words ++ later) := by
  have closed : Lexes (')' :: rest) (.symbol .rightParen :: later) :=
    (Token.lexes_mark_iff .rightParen).mpr ⟨later, rfl, lexes⟩
  have opened := (Token.lexes_mark_iff .leftParen).mpr
    ⟨_, rfl, lexes_toString opposite (by simp) closed⟩
  have words : (callPhrase function value).words ++ later = .name function.name ::
      .symbol .leftParen :: ((literalPhrase value).words ++ .symbol .rightParen :: later) := by
    simp [callPhrase, Phrase.ofCall, Phrase.words]
  rw [words]
  have ends : Token.continuesName '(' = false := Token.IsMark.leftParen.not_continuesName
  cases function with
  | print =>
      refine (Token.lexes_name_iff (rfl : Builtin.print.name.toList = 'p' :: ['r', 'i', 'n', 't'])
        (by decide) (by decide +kernel) (List.all_eq_true.mp (by decide +kernel)) ?_).mpr
          ⟨_, rfl, opened⟩
      simpa using ends
  | range =>
      refine (Token.lexes_name_iff (rfl : Builtin.range.name.toList = 'r' :: ['a', 'n', 'g', 'e'])
        (by decide) (by decide +kernel) (List.all_eq_true.mp (by decide +kernel)) ?_).mpr
          ⟨_, rfl, opened⟩
      simpa using ends

/-- A keyword with a blank behind it is read as the keyword. -/
theorem lexes_keyword_blank (keyword : Keyword) (lexes : Lexes rest later) :
    Lexes (keyword.spelling.toList ++ ' ' :: rest) (.keyword keyword :: later) := by
  have behind : Lexes (' ' :: rest) later := (Token.lexes_blank_iff rfl).mpr lexes
  refine (Token.lexes_keyword_iff ?_).mpr ⟨later, rfl, behind⟩
  simpa using Token.continuesName_of_blank rfl

end

/-- A colon is read as the symbol. -/
theorem lexes_colon : Lexes [':'] [.symbol .colon] :=
  (Token.lexes_mark_iff .colon).mpr ⟨[], rfl, Token.lexes_nil_iff.mpr rfl⟩

/-- A keyword with a colon behind it is read as the keyword and the symbol. -/
theorem lexes_keyword_colon (keyword : Keyword) :
    Lexes (keyword.spelling.toList ++ [':']) [.keyword keyword, .symbol .colon] := by
  refine (Token.lexes_keyword_iff ?_).mpr ⟨_, rfl, lexes_colon⟩
  simpa using Token.IsMark.colon.not_continuesName

/-- The variable of a loop is an `i` and digits. -/
theorem toList_variableName (depth : Nat) :
    (variableName depth).toList = 'i' :: Nat.toDigits 10 depth := by
  simp [variableName, Nat.toString_eq_repr, Nat.toList_repr]

/-- The variable of a loop is no keyword. -/
theorem ofSpelling?_variableName (depth : Nat) :
    Keyword.ofSpelling? (variableName depth) = none := by
  refine List.find?_eq_none.mpr fun keyword _ same => ?_
  obtain ⟨digit, more, shape, isDigit, -⟩ := Token.exists_decimals depth
  have spelling : keyword.spelling.toList = 'i' :: digit :: more := by
    rw [beq_iff_eq.mp same, toList_variableName, shape]
  have noDigit : keyword.spelling.toList[1]?.any Char.isDigit = false := by
    cases keyword <;> decide +kernel
  rw [spelling] at noDigit
  exact absurd isDigit (Bool.eq_false_iff.mp noDigit)

/-- The variable of a loop with a blank behind it is read as a name. -/
theorem lexes_variableName (depth : Nat) {rest : List Char} {later : List Token.Kind}
    (lexes : Lexes rest later) :
    Lexes ((variableName depth).toList ++ ' ' :: rest) (.name (variableName depth) :: later) := by
  have behind : Lexes (' ' :: rest) later := (Token.lexes_blank_iff rfl).mpr lexes
  have goes : ∀ digit ∈ Nat.toDigits 10 depth, Token.continuesName digit := fun digit member =>
    Token.continuesName_of_isDigit (Nat.isDigit_of_mem_toDigits (by decide) (by decide) member)
  refine (Token.lexes_name_iff (toList_variableName depth) (ofSpelling?_variableName depth)
    (by decide +kernel) goes ?_).mpr ⟨later, rfl, behind⟩
  simpa using Token.continuesName_of_blank rfl

/-! ### Rows -/

/-- The characters that sketches are written with. -/
def isWritten (character : Char) : Bool :=
  character.isAlphanum || " -():".toList.contains character

/-- The characters that sketches are written with are neither quotes nor begin a comment nor end the
line. -/
theorem ne_of_isWritten {character : Char} (written : isWritten character) :
    (character ≠ '\'' ∧ character ≠ '"' ∧ character ≠ '#') ∧ character ≠ '\n' := by
  refine ⟨⟨?_, ?_, ?_⟩, ?_⟩ <;> (rintro rfl; exact absurd written (by decide))

/-- Integers are written with the characters that sketches are written with. -/
theorem all_toString (value : Int) : (toString value).toList.all isWritten := by
  refine List.all_eq_true.mpr fun character member => ?_
  rcases mem_toList_toString member with digit | rfl
  · simp [isWritten, Char.isAlphanum, digit]
  · decide

/-- The variables of loops are written with the characters that sketches are written with. -/
theorem all_variableName (depth : Nat) : (variableName depth).toList.all isWritten := by
  have digits := all_toString depth
  rw [variableName, String.toList_append, List.all_append, Bool.and_eq_true]
  exact ⟨by decide, digits⟩

/-- Whether a row can stand in a source and no search for defects stumbles on its text. -/
def IsClear (row : Row) : Prop :=
  row.IsSound ∧ IsPlain row.text

/-- A text of the characters that sketches are written with, which neither begins nor ends with a
blank and is spelled like a line phrase, makes a clear row. -/
theorem isClear_of_lexes {row : Row} {phrase : LinePhrase} {first last : Char} (middle : List Char)
    (shape : row.text = first :: (middle ++ [last])) (begins : Text.isBlank first = false)
    (ends : Text.isBlank last = false) (written : row.text.all isWritten)
    (lexes : Lexes row.text phrase.words) (meaning : phrase.line = row.said)
    (shallow : phrase.levels ≤ Expression.mostLevels) : IsClear row := by
  have plain : ∀ character ∈ row.text, _ := fun character member =>
    ne_of_isWritten (List.all_eq_true.mp written character member)
  refine ⟨⟨?_, ?_, ?_, ?_, ?_⟩, fun character member => (plain character member).1⟩
  · rw [shape]
    exact Text.trim_eq_self middle begins ends
  · simp [shape]
  · intro comment
    exact (plain '#' (List.mem_of_mem_head? comment)).1.2.2 rfl
  · exact fun newline => (plain '\n' newline).2 rfl
  · intro number
    refine Line.ofText_eq_ok_iff.mpr ⟨phrase, ?_, meaning, shallow⟩
    rwa [String.toList_ofList]

/-- A line phrase whose expression is the call of a function with an integer nests few levels. -/
theorem levels_le_mostLevels {phrase : LinePhrase} {function : Builtin} {value : Int64}
    (shown : phrase.value? = some (callPhrase function value)) :
    phrase.levels ≤ Expression.mostLevels := by
  have few := levels_callPhrase function value
  rw [LinePhrase.levels, shown, Option.map_some, Option.getD_some, Expression.mostLevels]
  omega

/-- The row of a print is clear. -/
theorem isClear_print {value : Int64} (opposite : value ≠ Int64.minValue) (depth : Nat) :
    IsClear ⟨(printText value).toList, .simple (.expression (callOf .print value)), depth⟩ := by
  have shape : (printText value).toList =
      'p' :: ("rint(".toList ++ (toString value.toInt).toList ++ [')']) := by
    simp [printText]
  have written : (printText value).toList.all isWritten := by
    simp only [printText, String.toList_append, List.all_append, all_toString, Bool.and_true]
    decide
  have lexes : Lexes (printText value).toList
      (LinePhrase.bare (callPhrase .print value)).words := by
    have call := lexes_call .print opposite (Token.lexes_nil_iff.mpr rfl)
    simpa [printText, LinePhrase.words, Builtin.name] using call
  exact isClear_of_lexes _ shape rfl rfl written lexes
    (by rw [LinePhrase.line, meaning_callPhrase]) (levels_le_mostLevels rfl)

/-- The header of a loop is clear. -/
theorem isClear_loop {count : Int64} (opposite : count ≠ Int64.minValue) (depth : Nat) :
    IsClear ⟨(loopText depth count).toList,
      .header (.forEach (variableName depth) (callOf .range count)), depth⟩ := by
  have shape : (loopText depth count).toList =
      'f' :: ("or ".toList ++ (variableName depth).toList ++ " in range(".toList ++
        (toString count.toInt).toList ++ [')'] ++ [':']) := by
    simp [loopText]
  have written : (loopText depth count).toList.all isWritten := by
    simp only [loopText, String.toList_append, List.all_append, all_toString, all_variableName,
      Bool.and_true]
    decide
  have lexes : Lexes (loopText depth count).toList
      (LinePhrase.forEach (variableName depth) (callPhrase .range count)).words := by
    have call := lexes_call .range opposite lexes_colon
    have whole := lexes_keyword_blank .kwFor (lexes_variableName depth
      (lexes_keyword_blank .kwIn call))
    simpa [loopText, LinePhrase.words, Builtin.name, Keyword.spelling] using whole
  exact isClear_of_lexes _ shape rfl rfl written lexes
    (by rw [LinePhrase.line, meaning_callPhrase]) (levels_le_mostLevels rfl)

/-- The header of a choice is clear. -/
theorem isClear_choice (condition : Bool) (depth : Nat) :
    IsClear ⟨(choiceText condition).toList, .header (.branch (.boolean condition)), depth⟩ := by
  obtain ⟨word, isAtom, text⟩ : ∃ word : Keyword,
      IsAtom (.keyword word) (.boolean condition) ∧
        (choiceText condition).toList = 'i' :: ("f ".toList ++ word.spelling.toList ++ [':']) := by
    cases condition
    · exact ⟨.kwFalse, .false, rfl⟩
    · exact ⟨.kwTrue, .true, rfl⟩
  have written : (choiceText condition).toList.all isWritten := by
    cases condition <;> decide
  have lexes : Lexes (choiceText condition).toList
      (LinePhrase.conditional .kwIf .branch .branch (.ofSigned (.ofAtom _ isAtom))).words := by
    have whole := lexes_keyword_blank .kwIf (lexes_keyword_colon word)
    rw [text]
    simpa [LinePhrase.words, Phrase.ofAtom, Phrase.words, Keyword.spelling] using whole
  refine isClear_of_lexes _ text rfl rfl written lexes rfl ?_
  simp [LinePhrase.levels, LinePhrase.value?, Phrase.ofAtom, Phrase.levels, Expression.mostLevels]

/-- The header of a second branch is clear. -/
theorem isClear_otherwise (depth : Nat) :
    IsClear ⟨"else:".toList, .header .otherwise, depth⟩ := by
  have written : "else:".toList.all isWritten := by decide
  have lexes : Lexes "else:".toList LinePhrase.otherwise.words := lexes_keyword_colon .kwElse
  exact isClear_of_lexes ['l', 's', 'e'] rfl rfl rfl written lexes rfl (Nat.zero_le _)

section

variable {memory : Memory}

mutual

/-- The rows of a sketch that can be written are clear. -/
theorem isClear_of_mem_rows : (sketch : Sketch) → ∀ {depth : Nat}, sketch.IsWritable memory →
    ∀ row ∈ sketch.rows depth, IsClear row
  | print value, depth, opposite => by
      simpa [rows] using isClear_print opposite depth
  | loop count body, depth, writable => by
      obtain ⟨opposite, -, inside⟩ := writable
      rw [rows, List.forall_mem_cons]
      exact ⟨isClear_loop opposite depth, isClear_of_mem_rowsAll body inside⟩
  | choice condition body otherwise?, depth, writable => by
      obtain ⟨inside, behind⟩ := writable
      rw [rows, List.forall_mem_cons, List.forall_mem_append]
      exact ⟨isClear_choice condition depth, isClear_of_mem_rowsAll body inside,
        isClear_of_mem_rowsOtherwise otherwise? behind⟩

/-- The rows of a second branch that can be written are clear. -/
theorem isClear_of_mem_rowsOtherwise : (otherwise? : Option (List Sketch)) → ∀ {depth : Nat},
    IsWritableOtherwise memory otherwise? → ∀ row ∈ rowsOtherwise depth otherwise?, IsClear row
  | none, _, _ => nofun
  | some body, depth, writable => by
      rw [rowsOtherwise, List.forall_mem_cons]
      exact ⟨isClear_otherwise depth, isClear_of_mem_rowsAll body writable⟩

/-- The rows of sketches that can be written are clear. -/
theorem isClear_of_mem_rowsAll : (sketches : List Sketch) → ∀ {depth : Nat},
    AreWritable memory sketches → ∀ row ∈ rowsAll depth sketches, IsClear row
  | [], _, _ => nofun
  | sketch :: later, depth, writable => by
      obtain ⟨here, rest⟩ := writable
      rw [rowsAll, List.forall_mem_append]
      exact ⟨isClear_of_mem_rows sketch here, isClear_of_mem_rowsAll later rest⟩

end

end

/-! ### Sources -/

section

variable {memory : Memory} {sketches : List Sketch}

/-- What sketches are written as is the source of their rows. -/
theorem renderAll_eq_source (sketches : List Sketch) :
    renderAll 0 sketches = Row.source 4 (rowsAll 0 sketches) := by
  rw [Row.source, ← toList_renderAll, String.ofList_toList]

/-- What sketches are written as has no defect. -/
theorem first?_renderAll (writable : AreWritable memory sketches) :
    Defect.first? (renderAll 0 sketches) = none := by
  have clear : ∀ row ∈ rowsAll 0 sketches, IsClear row := isClear_of_mem_rowsAll sketches writable
  rw [renderAll_eq_source, Defect.first?, List.findSome?_eq_none_iff,
    Row.codeLines_source fun row member => (clear row member).1]
  intro line member
  obtain ⟨⟨row, before⟩, inside, rfl⟩ := List.mem_map.mp member
  obtain ⟨sound, plain⟩ := clear row (List.fst_mem_of_mem_zipIdx inside)
  have plainLine : IsPlain (row.line 4 before).characters := by
    intro character member
    rcases List.mem_append.mp member with blank | inText
    · rw [List.eq_of_mem_replicate blank]
      decide
    · exact plain character inText
  rw [Defect.ofLine?_eq_none plainLine (sound.parsed_line 4 before)]
  rfl

/-- What sketches are written as makes up the program that they mean. -/
theorem ofSource_renderAll (writable : AreWritable memory sketches)
    (low : heightAll sketches ≤ Outline.mostBlocks) :
    ∃ tree, BlockTree.ofSource (renderAll 0 sketches) = .ok tree ∧
      tree.program = statements 0 sketches := by
  have clear : ∀ row ∈ rowsAll 0 sketches, IsClear row := isClear_of_mem_rowsAll sketches writable
  rw [renderAll_eq_source]
  exact BlockTree.ofSource_source (by decide) (fun row member => (clear row member).1)
    (reading_statements sketches 0) (arePlaceable_statements sketches low)

end

end Sketch

end Offside
