import Mathlib
import Offside.Proofs.Grammar.Completeness
import Offside.Proofs.Grammar.Soundness
import Offside.Proofs.Lexing

/-!
# The grammar of lines

A `LinePhrase` is a line by the grammar: a header up to its colon, a statement
of one word, an assignment, or an expression. `Line.Derives` says that words are
spelled like a line phrase. `Line.ofTokens` accepts what can be derived and gives
what was derived, unless that nests too deeply.

    line := 'for' NAME 'in' expr ':' | ('while' | 'if' | 'elif') expr ':' | 'else' ':'
          | 'pass' | 'break' | 'continue' | NAME '=' expr | NAME augop expr | expr
-/

namespace Offside

open Phrase (Category)

/-- The headers with a condition: the word, and what it makes of the condition. -/
inductive IsConditional : Keyword → (Expression → Header) → Prop where
  | whileLoop : IsConditional .kwWhile .whileLoop
  | branch : IsConditional .kwIf .branch
  | elseBranch : IsConditional .kwElif .elseBranch

/-- The statements that are one word. -/
inductive IsWord : Keyword → Statement → Prop where
  | pass : IsWord .kwPass .pass
  | stop : IsWord .kwBreak .stop
  | next : IsWord .kwContinue .next

/-- The signs of assignment, and what they make of a target and a value. -/
inductive Assigns : Symbol → (String → Expression → Statement) → Prop where
  | set : Assigns .equal .assign
  | add : Assigns .plusEqual (.update · .add ·)
  | sub : Assigns .minusEqual (.update · .sub ·)
  | mul : Assigns .starEqual (.update · .mul ·)
  | div : Assigns .slashEqual (.update · .div ·)
  | floorDiv : Assigns .doubleSlashEqual (.update · .floorDiv ·)
  | mod : Assigns .percentEqual (.update · .mod ·)

/-- A line by the grammar. -/
inductive LinePhrase where
  | forEach (target : String) (iterable : Phrase .expression)
  | conditional (word : Keyword) (header : Expression → Header) (begins : IsConditional word header)
      (condition : Phrase .expression)
  | otherwise
  | plain (word : Keyword) (statement : Statement) (isWord : IsWord word statement)
  | assignment (target : String) (sign : Symbol) (statement : String → Expression → Statement)
      (assigns : Assigns sign statement) (value : Phrase .expression)
  | bare (value : Phrase .expression)

namespace LinePhrase

/-- The words that a line phrase is spelled as. -/
def words : LinePhrase → List Token.Kind
  | forEach target iterable =>
      .keyword .kwFor :: .name target :: .keyword .kwIn :: (iterable.words ++ [.symbol .colon])
  | conditional word _ _ condition => .keyword word :: (condition.words ++ [.symbol .colon])
  | otherwise => [.keyword .kwElse, .symbol .colon]
  | plain word _ _ => [.keyword word]
  | assignment target sign _ _ value => .name target :: .symbol sign :: value.words
  | bare value => value.words

/-- The line that a line phrase stands for. -/
def line : LinePhrase → Line
  | forEach target iterable => .header (.forEach target iterable.meaning)
  | conditional _ header _ condition => .header (header condition.meaning)
  | otherwise => .header .otherwise
  | plain _ statement _ => .simple statement
  | assignment target _ statement _ value => .simple (statement target value.meaning)
  | bare value => .simple (.expression value.meaning)

/-- The expression of a line phrase, if it has one. -/
def value? : LinePhrase → Option (Phrase .expression)
  | forEach _ value | conditional _ _ _ value | assignment _ _ _ _ value | bare value => some value
  | otherwise | plain .. => none

/-- The number of levels that a line phrase nests. -/
def levels (phrase : LinePhrase) : Nat :=
  (phrase.value?.map Phrase.levels).getD 0

/-- A line phrase has at least as many words as levels. -/
theorem levels_le (phrase : LinePhrase) : phrase.levels ≤ phrase.words.length := by
  cases phrase with
  | forEach target value | conditional word header begins value
  | assignment target sign statement assigns value | bare value =>
      have bound := value.levels_add_spare_le
      simp only [levels, value?, Option.map_some, Option.getD_some, words, List.length_cons,
        List.length_append, List.length_nil]
      omega
  | otherwise | plain => exact Nat.zero_le _

/-- No word of a line phrase is the end of the line. -/
theorem word_ne_lineEnd (phrase : LinePhrase) : ∀ word ∈ phrase.words, word ≠ .lineEnd := by
  have inside : ∀ value : Phrase .expression, ∀ word ∈ value.words, word ≠ .lineEnd := by
    rintro value word member rfl
    exact absurd (value.isOfExpression_of_mem_words _ member) (by decide)
  cases phrase with
  | forEach target value | conditional word header begins value
  | assignment target sign statement assigns value | bare value =>
      have insideValue := inside value
      simp only [words, List.mem_cons, List.mem_append, List.not_mem_nil, or_false]
      grind
  | otherwise | plain => simp [words]

end LinePhrase

/-- A line can be derived from words when a line phrase is spelled by them and stands for it. -/
def Line.Derives (words : List Token.Kind) (line : Line) : Prop :=
  ∃ phrase : LinePhrase, phrase.words = words ∧ phrase.line = line

/-! ### Cursors at the end of a line -/

namespace Cursor

/-- The end of the line is expected where it is shown, and nowhere else. -/
theorem expectEnd_eq_ok_iff {cursor : Cursor} :
    cursor.expectEnd = .ok () ↔ cursor.word = .lineEnd := by
  unfold expectEnd isAtEnd word
  split
  · next ended => simp [ended]
  · next other => simpa using other

section

variable {tokens : List Token} {last : Token}

/-- A line that ends with the end of the line is closed. -/
theorem isClosed_ofTokens (tokens : List Token) (ended : last.kind = .lineEnd) :
    (ofTokens (tokens ++ [last])).IsClosed := by
  simp [IsClosed, ofTokens, ended]

/-- The words before the end of the line are all that stands before it. -/
theorem reads_ofTokens (tokens : List Token) (ended : last.kind = .lineEnd) :
    ∃ rest, (ofTokens (tokens ++ [last])).Reads (tokens.map (·.kind)) rest ∧
      rest.word = .lineEnd := by
  refine ⟨⟨[last], last, 1, rfl⟩, ⟨⟨tokens, rfl, rfl⟩, ?_⟩, ended⟩
  simp [ofTokens]

/-- Words up to the end of the line are all words of the line, when it ends only once. -/
theorem eq_of_reads_ofTokens {words : List Token.Kind} {rest : Cursor}
    (ended : last.kind = .lineEnd) (only : ∀ token ∈ tokens, token.kind ≠ .lineEnd)
    (reads : (ofTokens (tokens ++ [last])).Reads words rest)
    (inside : ∀ word ∈ words, word ≠ .lineEnd) (shown : rest.word = .lineEnd) :
    words = tokens.map (·.kind) := by
  obtain ⟨read, ahead, rfl⟩ := reads.ahead
  have split : tokens ++ [last] = read ++ rest.ahead := ahead
  rcases List.append_eq_append_iff.mp split with
    ⟨further, readEq, lastEq⟩ | ⟨further, tokensEq, restEq⟩
  · cases further with
    | nil => rw [readEq, List.append_nil]
    | cons token more =>
        obtain ⟨rfl, _⟩ := List.cons_eq_cons.mp lastEq
        refine absurd ended (inside _ ?_)
        simp [readEq]
  · cases further with
    | nil => rw [tokensEq, List.append_nil]
    | cons token more =>
        refine absurd ?_ (only token (by simp [tokensEq]))
        simpa [word, current, restEq] using shown

end

end Cursor

namespace Line

open Expression (Sound parse_sound parse_complete within within_map within_bind within_zero
  EndsBefore endsBefore_of_last mostLevels tooDeep)

variable {cursor : Cursor}

/-! ### Headers -/

/-- Whether a word begins a header. -/
def beginsHeader : Token.Kind → Bool
  | .keyword .kwFor | .keyword .kwWhile | .keyword .kwIf | .keyword .kwElif | .keyword .kwElse =>
      true
  | _ => false

/-- A loop over the elements of a value names its target and the value. -/
theorem parseHeader?_forEach (shown : cursor.word = .keyword .kwFor) :
    parseHeader? cursor = some (cursor.advance.expectName >>= fun (target, rest) =>
      rest.expectKeyword .kwIn >>= fun rest =>
        parseExpression rest >>= fun (iterable, rest) => .ok (.forEach target iterable, rest)) := by
  unfold Cursor.word at shown
  simp only [parseHeader?, shown]

/-- A header with a condition is made from the expression behind its word. -/
theorem parseHeader?_conditional {word : Keyword} {header : Expression → Header}
    (begins : IsConditional word header) (shown : cursor.word = .keyword word) :
    parseHeader? cursor = some (parseExpression cursor.advance >>= fun (condition, rest) =>
      .ok (header condition, rest)) := by
  unfold Cursor.word at shown
  cases begins <;> simp only [parseHeader?, shown]

/-- The last branch of a conditional statement has no condition. -/
theorem parseHeader?_otherwise (shown : cursor.word = .keyword .kwElse) :
    parseHeader? cursor = some (.ok (.otherwise, cursor.advance)) := by
  unfold Cursor.word at shown
  simp only [parseHeader?, shown]

/-- A word other than those of the headers begins no header. -/
theorem parseHeader?_eq_none (absent : beginsHeader cursor.word = false) :
    parseHeader? cursor = none := by
  unfold Cursor.word at absent
  unfold parseHeader?
  split
  case h_6 => rfl
  all_goals
    next shown =>
      rw [shown] at absent
      cases absent

/-- A word begins a header in one of three ways, or not at all. -/
theorem header_cases (word : Token.Kind) :
    word = .keyword .kwFor ∨
      (∃ keyword header, IsConditional keyword header ∧ word = .keyword keyword) ∨
      word = .keyword .kwElse ∨ beginsHeader word = false := by
  unfold beginsHeader
  split
  · exact .inl rfl
  · exact .inr (.inl ⟨_, _, .whileLoop, rfl⟩)
  · exact .inr (.inl ⟨_, _, .branch, rfl⟩)
  · exact .inr (.inl ⟨_, _, .elseBranch, rfl⟩)
  · exact .inr (.inr (.inl rfl))
  · exact .inr (.inr (.inr rfl))

/-- What is read as a header is a line phrase, once its colon is read. -/
theorem header_sound {reading : Except ParseError (Header × Cursor)} {header : Header}
    {rest outer : Cursor} (closed : cursor.IsClosed) (found : parseHeader? cursor = some reading)
    (read : reading = .ok (header, rest)) (colon : rest.expect .colon = .ok outer) :
    ∃ phrase : LinePhrase, phrase.line = .header header ∧ phrase.levels ≤ mostLevels ∧
      cursor.Reads phrase.words outer := by
  subst read
  obtain ⟨colonShown, rfl⟩ := Cursor.expect_eq_ok_iff.mp colon
  have colonReads := fun closed => Cursor.reads_of_word closed colonShown (by decide)
  rcases header_cases cursor.word with shown | ⟨word, make, begins, shown⟩ | shown | absent
  · have first := Cursor.reads_of_word closed shown (by decide)
    rw [parseHeader?_forEach shown, Option.some.injEq] at found
    obtain ⟨⟨target, behindName⟩, nameFound, found⟩ := bind_eq_ok_iff.mp found
    obtain ⟨behindIn, inFound, found⟩ := bind_eq_ok_iff.mp found
    obtain ⟨⟨iterable, behind⟩, valueFound, same⟩ := bind_eq_ok_iff.mp found
    cases same
    obtain ⟨nameShown, rfl⟩ := Cursor.expectName_eq_ok_iff.mp nameFound
    obtain ⟨inShown, rfl⟩ := Cursor.expectKeyword_eq_ok_iff.mp inFound
    have second := Cursor.reads_of_word (first.isClosed closed) nameShown (by simp)
    have third := Cursor.reads_of_word ((first.trans second).isClosed closed) inShown (by decide)
    have before := (first.trans second).trans third
    obtain ⟨phrase, rfl, levels, reads⟩ :=
      parse_sound _ _ (before.isClosed closed) iterable rest valueFound
    have whole := (before.trans reads).trans (colonReads ((before.trans reads).isClosed closed))
    exact ⟨.forEach target phrase, rfl, levels, by simpa [LinePhrase.words] using whole⟩
  · have first := Cursor.reads_of_word closed shown (by simp)
    rw [parseHeader?_conditional begins shown, Option.some.injEq] at found
    obtain ⟨⟨condition, behind⟩, valueFound, same⟩ := bind_eq_ok_iff.mp found
    cases same
    obtain ⟨phrase, rfl, levels, reads⟩ :=
      parse_sound _ _ (first.isClosed closed) condition rest valueFound
    have whole := (first.trans reads).trans (colonReads ((first.trans reads).isClosed closed))
    exact ⟨.conditional word make begins phrase, rfl, levels, whole⟩
  · have first := Cursor.reads_of_word closed shown (by decide)
    rw [parseHeader?_otherwise shown] at found
    cases found
    exact ⟨.otherwise, rfl, Nat.zero_le _, first.trans (colonReads (first.isClosed closed))⟩
  · rw [parseHeader?_eq_none absent] at found
    cases found

/-! ### Statements -/

/-- A word assigns when it is a sign of assignment. -/
theorem assigns_iff {word : Token.Kind} :
    word.assigns ↔ ∃ sign statement, Assigns sign statement ∧ word = .symbol sign := by
  constructor
  · intro assigns
    unfold Token.Kind.assigns BinaryOp.ofUpdate? at assigns
    split at assigns
    · exact ⟨_, _, .set, rfl⟩
    · split at assigns
      · exact ⟨_, _, .add, rfl⟩
      · exact ⟨_, _, .sub, rfl⟩
      · exact ⟨_, _, .mul, rfl⟩
      · exact ⟨_, _, .div, rfl⟩
      · exact ⟨_, _, .floorDiv, rfl⟩
      · exact ⟨_, _, .mod, rfl⟩
      · cases assigns
  · rintro ⟨sign, statement, assigns, rfl⟩
    cases assigns <;> rfl

/-- Whether a word is a statement by itself. -/
def isPlain : Token.Kind → Bool
  | .keyword .kwPass | .keyword .kwBreak | .keyword .kwContinue => true
  | _ => false

/-- A statement of one word is read as that. -/
theorem parseSimple_plain {word : Keyword} {statement : Statement} (isWord : IsWord word statement)
    (shown : cursor.word = .keyword word) :
    parseSimple cursor = .ok (statement, cursor.advance) := by
  unfold Cursor.word at shown
  cases isWord <;> simp only [parseSimple, shown]

/-- An assignment is a name, a sign and a value. -/
theorem parseSimple_assignment {target : String} {sign : Symbol}
    {statement : String → Expression → Statement} (assigns : Assigns sign statement)
    (shown : cursor.word = .name target) (signShown : cursor.advance.word = .symbol sign) :
    parseSimple cursor = parseExpression cursor.advance.advance >>= fun (value, rest) =>
      .ok (statement target value, rest) := by
  have second : cursor.second.kind = .symbol sign := signShown
  unfold Cursor.word at shown
  cases assigns <;> simp only [parseSimple, shown, second, BinaryOp.ofUpdate?]

/-- A line whose first words are neither a statement of one word nor the target and sign of an
assignment is read as an expression. -/
theorem parseSimple_bare (noPlain : isPlain cursor.word = false)
    (noSign : ∀ target, cursor.word = .name target → ¬ cursor.advance.word.assigns) :
    parseSimple cursor = parseBare cursor := by
  unfold Cursor.word at noPlain
  unfold parseSimple
  split
  · next shown => rw [shown] at noPlain; cases noPlain
  · next shown => rw [shown] at noPlain; cases noPlain
  · next shown => rw [shown] at noPlain; cases noPlain
  · next target shown =>
      have absent : ¬ cursor.second.kind.assigns := noSign target shown
      unfold Token.Kind.assigns at absent
      split
      · next signShown => simp [signShown] at absent
      · split
        · next op opShown =>
            split at absent
            · exact absurd rfl absent
            · simp [opShown] at absent
        · rfl
  · rfl

/-- A statement is one word, an assignment or something else. -/
theorem simple_cases (cursor : Cursor) :
    (∃ keyword statement, IsWord keyword statement ∧ cursor.word = .keyword keyword) ∨
      (∃ target sign statement, Assigns sign statement ∧ cursor.word = .name target ∧
        cursor.advance.word = .symbol sign) ∨
      (isPlain cursor.word = false ∧
        ∀ target, cursor.word = .name target → ¬ cursor.advance.word.assigns) := by
  by_cases plain : isPlain cursor.word
  · left
    unfold isPlain at plain
    split at plain
    · next shown => exact ⟨_, _, .pass, shown⟩
    · next shown => exact ⟨_, _, .stop, shown⟩
    · next shown => exact ⟨_, _, .next, shown⟩
    · cases plain
  · right
    by_cases assignment : ∃ target, cursor.word = .name target ∧ cursor.advance.word.assigns
    · left
      obtain ⟨target, shown, assigns⟩ := assignment
      obtain ⟨sign, statement, assigns, signShown⟩ := assigns_iff.mp assigns
      exact ⟨target, sign, statement, assigns, shown, signShown⟩
    · right
      refine ⟨by simpa using plain, ?_⟩
      intro target shown assigns
      exact assignment ⟨target, shown, assigns⟩

/-- What is read as a statement is a line phrase. -/
theorem simple_sound {statement : Statement} {rest : Cursor} (closed : cursor.IsClosed)
    (found : parseSimple cursor = .ok (statement, rest)) :
    ∃ phrase : LinePhrase, phrase.line = .simple statement ∧ phrase.levels ≤ mostLevels ∧
      cursor.Reads phrase.words rest := by
  rcases simple_cases cursor with ⟨word, plain, isWord, shown⟩ |
    ⟨target, sign, make, assigns, shown, signShown⟩ | ⟨noPlain, noSign⟩
  · rw [parseSimple_plain isWord shown] at found
    cases found
    exact ⟨.plain word _ isWord, rfl, Nat.zero_le _, Cursor.reads_of_word closed shown (by simp)⟩
  · have first := Cursor.reads_of_word closed shown (by simp)
    have second := Cursor.reads_of_word (first.isClosed closed) signShown (by simp)
    rw [parseSimple_assignment assigns shown signShown] at found
    obtain ⟨⟨value, behind⟩, valueFound, same⟩ := bind_eq_ok_iff.mp found
    cases same
    obtain ⟨phrase, rfl, levels, reads⟩ :=
      parse_sound _ _ ((first.trans second).isClosed closed) value rest valueFound
    exact ⟨.assignment target sign make assigns phrase, rfl, levels,
      (first.trans second).trans reads⟩
  · rw [parseSimple_bare noPlain noSign] at found
    unfold parseBare at found
    obtain ⟨⟨value, behind⟩, valueFound, same⟩ := bind_eq_ok_iff.mp found
    obtain ⟨phrase, rfl, levels, reads⟩ := parse_sound _ _ closed value behind valueFound
    dsimp only at same
    split at same
    · cases same
    · cases same
      exact ⟨.bare phrase, rfl, levels, reads⟩

/-! ### Lines -/

section

variable {tokens : List Token} {last : Token}

/-- A line that is accepted is spelled like a line phrase that stands for it and does not nest
too deeply. -/
theorem ofTokens_sound (ended : last.kind = .lineEnd)
    (only : ∀ token ∈ tokens, token.kind ≠ .lineEnd) {line : Line}
    (found : ofTokens (tokens ++ [last]) = .ok line) :
    ∃ phrase : LinePhrase, phrase.words = tokens.map (·.kind) ∧ phrase.line = line ∧
      phrase.levels ≤ mostLevels := by
  have closed := Cursor.isClosed_ofTokens tokens ended
  unfold ofTokens at found
  dsimp only at found
  split at found
  · next reading isHeader =>
      obtain ⟨⟨header, middle⟩, read, found⟩ := bind_eq_ok_iff.mp found
      obtain ⟨outer, colon, found⟩ := bind_eq_ok_iff.mp found
      obtain ⟨_, finished, same⟩ := bind_eq_ok_iff.mp found
      cases same
      obtain ⟨phrase, meaning, levels, reads⟩ := header_sound closed isHeader read colon
      have shown := Cursor.expectEnd_eq_ok_iff.mp finished
      exact ⟨phrase, Cursor.eq_of_reads_ofTokens ended only reads phrase.word_ne_lineEnd shown,
        meaning, levels⟩
  · obtain ⟨⟨statement, outer⟩, read, found⟩ := bind_eq_ok_iff.mp found
    obtain ⟨_, finished, same⟩ := bind_eq_ok_iff.mp found
    cases same
    obtain ⟨phrase, meaning, levels, reads⟩ := simple_sound closed read
    have shown := Cursor.expectEnd_eq_ok_iff.mp finished
    exact ⟨phrase, Cursor.eq_of_reads_ofTokens ended only reads phrase.word_ne_lineEnd shown,
      meaning, levels⟩

/-- A header is the whole line when its colon is followed by the end of the line. -/
theorem ofTokens_header {needed : Nat} {header : Header} {middle rest : Cursor}
    (found : parseHeader? (Cursor.ofTokens tokens) =
      some (within needed mostLevels (header, middle)))
    (colon : middle.Reads [.symbol .colon] rest) (shown : rest.word = .lineEnd) :
    ofTokens tokens = within needed mostLevels (.header header) := by
  obtain ⟨colonShown, behind⟩ := colon.of_cons
  have colonFound := Cursor.expect_eq_ok_iff.mpr ⟨colonShown, rfl⟩
  rw [← behind.eq_of_nil] at colonFound
  simp only [ofTokens, found]
  refine within_map ?_
  dsimp only
  rw [colonFound]
  change (rest.expectEnd >>= fun _ => _) = _
  rw [Cursor.expectEnd_eq_ok_iff.mpr shown]
  rfl

/-- A statement is the whole line when it is followed by the end of the line. -/
theorem ofTokens_simple {needed : Nat} {statement : Statement} {rest : Cursor}
    (absent : beginsHeader (Cursor.ofTokens tokens).word = false)
    (found : parseSimple (Cursor.ofTokens tokens) = within needed mostLevels (statement, rest))
    (shown : rest.word = .lineEnd) :
    ofTokens tokens = within needed mostLevels (.simple statement) := by
  simp only [ofTokens, parseHeader?_eq_none absent, found]
  refine within_map ?_
  dsimp only
  rw [Cursor.expectEnd_eq_ok_iff.mpr shown]
  rfl

/-- An expression that stands as a statement is read up to the end of the line. -/
theorem parseBare_complete {value : Phrase .expression} {rest : Cursor}
    (reads : cursor.Reads value.words rest) (shown : rest.word = .lineEnd) :
    parseBare cursor = within value.levels mostLevels (.expression value.meaning, rest) := by
  unfold parseBare parseExpression
  rw [parse_complete value reads (endsBefore_of_last (by rw [shown]; rfl))]
  refine within_map ?_
  have noSign : ¬ rest.current.kind.assigns := by
    have ended : rest.current.kind = .lineEnd := shown
    rw [ended]
    decide
  dsimp only
  rw [if_neg noSign]

/-- An expression begins with a word that begins neither a header nor another statement. -/
theorem begins_of_reads {value : Phrase .expression} {rest : Cursor}
    (reads : cursor.Reads value.words rest) :
    beginsHeader cursor.word = false ∧ isPlain cursor.word = false := by
  have opens := Expression.openingRank_le value (by decide) reads
  constructor
  · unfold beginsHeader
    split
    case h_6 => rfl
    all_goals
      next shown => rw [shown] at opens; exact absurd opens (by decide)
  · unfold isPlain
    split
    case h_4 => rfl
    all_goals
      next shown => rw [shown] at opens; exact absurd opens (by decide)

/-- Behind the first word of an expression that is a whole line, nothing is assigned. -/
theorem not_assigns_of_reads {value : Phrase .expression} {rest : Cursor}
    (reads : cursor.Reads value.words rest) (shown : rest.word = .lineEnd) :
    ¬ cursor.advance.word.assigns := by
  obtain ⟨first, later, words, _⟩ := value.exists_words_eq_cons (by decide)
  have inside := value.isOfExpression_of_mem_words
  rw [words] at reads inside
  obtain ⟨_, behind⟩ := reads.of_cons
  cases later with
  | nil =>
      rw [← behind.eq_of_nil, shown]
      decide
  | cons second later =>
      rw [behind.of_cons.1]
      have part := inside second (by simp)
      intro isSign
      obtain ⟨sign, statement, assigns, rfl⟩ := assigns_iff.mp isSign
      cases assigns <;> exact absurd part (by decide)

/-- A line that is spelled like a line phrase is accepted as that, unless it nests too deeply. -/
theorem ofTokens_complete (ended : last.kind = .lineEnd) (phrase : LinePhrase)
    (words : phrase.words = tokens.map (·.kind)) :
    ofTokens (tokens ++ [last]) = within phrase.levels mostLevels phrase.line := by
  obtain ⟨rest, reads, shown⟩ := Cursor.reads_ofTokens tokens ended
  rw [← words] at reads
  cases phrase with
  | forEach target iterable =>
      obtain ⟨forShown, reads⟩ := reads.of_cons
      obtain ⟨nameShown, reads⟩ := reads.of_cons
      obtain ⟨inShown, reads⟩ := reads.of_cons
      obtain ⟨middle, valueReads, colon⟩ := reads.of_append
      have ends : EndsBefore .expression middle.word :=
        endsBefore_of_last (by rw [colon.of_cons.1]; rfl)
      refine ofTokens_header ?_ colon shown
      rw [parseHeader?_forEach forShown, Cursor.expectName_eq_ok_iff.mpr ⟨nameShown, rfl⟩]
      change some (Cursor.expectKeyword _ _ >>= _) = _
      rw [Cursor.expectKeyword_eq_ok_iff.mpr ⟨inShown, rfl⟩]
      change some (Expression.parse _ _ >>= _) = _
      rw [parse_complete iterable valueReads ends]
      exact congrArg some (within_map rfl)
  | conditional word header begins condition =>
      obtain ⟨wordShown, reads⟩ := reads.of_cons
      obtain ⟨middle, valueReads, colon⟩ := reads.of_append
      have ends : EndsBefore .expression middle.word :=
        endsBefore_of_last (by rw [colon.of_cons.1]; rfl)
      refine ofTokens_header ?_ colon shown
      rw [parseHeader?_conditional begins wordShown, parseExpression,
        parse_complete condition valueReads ends]
      exact congrArg some (within_map rfl)
  | otherwise =>
      obtain ⟨elseShown, colon⟩ := reads.of_cons
      refine ofTokens_header ?_ colon shown
      rw [parseHeader?_otherwise elseShown]
      rfl
  | plain word statement isWord =>
      obtain ⟨wordShown, behind⟩ := reads.of_cons
      refine ofTokens_simple ?_ ?_ shown
      · rw [wordShown]
        cases isWord <;> rfl
      · rw [parseSimple_plain isWord wordShown, behind.eq_of_nil]
        rfl
  | assignment target sign statement assigns value =>
      obtain ⟨nameShown, reads⟩ := reads.of_cons
      obtain ⟨signShown, valueReads⟩ := reads.of_cons
      refine ofTokens_simple ?_ ?_ shown
      · rw [nameShown]
        rfl
      · rw [parseSimple_assignment assigns nameShown signShown, parseExpression,
          parse_complete value valueReads (endsBefore_of_last (by rw [shown]; rfl))]
        exact within_map rfl
  | bare value =>
      obtain ⟨noHeader, noPlain⟩ := begins_of_reads reads
      refine ofTokens_simple noHeader ?_ shown
      rw [parseSimple_bare noPlain (fun _ _ => not_assigns_of_reads reads shown)]
      exact parseBare_complete reads shown

/-- The line parser is sound and complete for the grammar: what it accepts can be derived, and
what can be derived it accepts, unless that nests more than a hundred levels, which takes as many
words. -/
theorem ofTokens_grammar (ended : last.kind = .lineEnd)
    (only : ∀ token ∈ tokens, token.kind ≠ .lineEnd) (line : Line) :
    (ofTokens (tokens ++ [last]) = .ok line → Derives (tokens.map (·.kind)) line) ∧
      (Derives (tokens.map (·.kind)) line →
        ofTokens (tokens ++ [last]) = .ok line ∨
          ofTokens (tokens ++ [last]) = .error (.tooDeeplyNested 100) ∧ 100 ≤ tokens.length) := by
  constructor
  · intro found
    obtain ⟨phrase, words, meaning, _⟩ := ofTokens_sound ended only found
    exact ⟨phrase, words, meaning⟩
  · rintro ⟨phrase, words, rfl⟩
    have outcome := ofTokens_complete ended phrase words
    by_cases shallow : phrase.levels ≤ mostLevels
    · left
      rw [outcome, within, if_pos shallow]
    · right
      rw [outcome, within, if_neg shallow]
      refine ⟨rfl, ?_⟩
      have bound := phrase.levels_le
      rw [words, List.length_map] at bound
      unfold mostLevels at shallow
      omega

end

/-- The tokens of the line `total = -first + rates[0]` without its end. -/
def sumTokens : List Token :=
  [⟨.name "total", ⟨0, 5, 1, 0⟩⟩, ⟨.symbol .equal, ⟨6, 7, 1, 6⟩⟩, ⟨.symbol .minus, ⟨8, 9, 1, 8⟩⟩,
    ⟨.name "first", ⟨9, 14, 1, 9⟩⟩, ⟨.symbol .plus, ⟨15, 16, 1, 15⟩⟩,
    ⟨.name "rates", ⟨17, 22, 1, 17⟩⟩, ⟨.symbol .leftBracket, ⟨22, 23, 1, 22⟩⟩,
    ⟨.integer 0, ⟨23, 24, 1, 23⟩⟩, ⟨.symbol .rightBracket, ⟨24, 25, 1, 24⟩⟩]

/-- The sign belongs to the first operand of the sum, and the subscript to the second. -/
theorem derives_sumTokens :
    (∀ token ∈ sumTokens, token.kind ≠ .lineEnd) ∧
      Derives (sumTokens.map (·.kind)) (.simple (.assign "total"
        (.binary (.unary .negate (.name "first")) .add
          (.index (.name "rates") (.integer 0))))) := by
  have only : ∀ token ∈ sumTokens, token.kind ≠ .lineEnd := by decide
  have ended : (⟨.lineEnd, ⟨25, 25, 1, 25⟩⟩ : Token).kind = .lineEnd := rfl
  exact ⟨only, (ofTokens_grammar ended only _).1 (by cbv)⟩

/-- A text is accepted exactly when its words are those of a line phrase that does not nest too
deeply, and as what that line phrase stands for. -/
theorem ofText_eq_ok_iff {text : String} {number : Nat} {line : Line} :
    ofText text number = .ok line ↔ ∃ phrase : LinePhrase,
      Token.Lexes text.toList phrase.words ∧ phrase.line = line ∧ phrase.levels ≤ mostLevels := by
  constructor
  · intro found
    unfold ofText at found
    split at found
    · next tokens tokenized =>
        obtain ⟨kinds, lexes, before, last, rfl, rfl, ended⟩ := Token.tokenize_eq_ok tokenized
        have only : ∀ token ∈ before, token.kind ≠ .lineEnd := fun token member =>
          lexes.ne_lineEnd _ (List.mem_map_of_mem member)
        obtain ⟨phrase, words, meaning, shallow⟩ := ofTokens_sound ended only found
        exact ⟨phrase, words ▸ lexes, meaning, shallow⟩
    · cases found
  · rintro ⟨phrase, lexes, rfl, shallow⟩
    obtain ⟨tokens, tokenized, before, last, rfl, words, ended⟩ := lexes.tokenize number
    unfold ofText
    rw [tokenized]
    change ofTokens (before ++ [last]) = _
    rw [ofTokens_complete ended phrase words.symm, within, if_pos shallow]

end Line

end Offside
