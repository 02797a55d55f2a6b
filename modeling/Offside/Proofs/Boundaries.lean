import Offside.Proofs.Lexing

/-!
# Where lexemes begin

From the start of a text the lexer goes over blanks and over lexemes that are
tokens. `Token.Reaches` says which places of the text it comes to on that way, and
`Token.BeginsAt` what it finds there. The column of a token is the number of
characters before the place where the token begins, that of the end of the line is
the length of the text, and that of an error is the number of characters before
the lexeme that is no token (`Token.places_tokenize`).
-/

namespace Offside

namespace Token

/-- The spelling of a lexeme and what follows it make up the text. -/
theorem spelling_append_rest (column : Nat) (first : Char) (following : List Char) :
    (readLexeme column first following).spelling ++ (readLexeme column first following).rest =
      first :: following := by
  obtain ⟨further, spelled, whole⟩ := readLexeme_append column first following
  rw [spelled, List.cons_append, whole]

/-- The places of a text that the lexer comes to over blanks and tokens, each given by the
characters before it and those behind it. -/
inductive Reaches (text : List Char) : (before rest : List Char) → Prop where
  | start : Reaches text [] text
  | blank {before rest : List Char} {character : Char}
      (reached : Reaches text before (character :: rest)) (isBlank : Text.isBlank character) :
      Reaches text (before ++ [character]) rest
  | token {before following : List Char} {first : Char} {kind : Kind}
      (reached : Reaches text before (first :: following)) (visible : ¬ Text.isBlank first)
      (noComment : first ≠ '#')
      (found : (readLexeme before.length first following).outcome = .ok kind) :
      Reaches text (before ++ (readLexeme before.length first following).spelling)
        (readLexeme before.length first following).rest

/-- Whether a lexeme begins where `column` characters of a text lie behind, and is a token or an
error as `outcome` says. -/
def BeginsAt (text : List Char) (column : Nat) (outcome : Except LexError Kind) : Prop :=
  ∃ before first following, Reaches text before (first :: following) ∧ before.length = column ∧
    ¬ Text.isBlank first ∧ first ≠ '#' ∧ (readLexeme column first following).outcome = outcome

/-- Whether the column of a token is the place where it begins, or where the text ends. -/
def IsPlaced (text : List Char) (token : Token) : Prop :=
  (token.kind = .lineEnd ∧ token.span.column = text.length) ∨
    (token.kind ≠ .lineEnd ∧ BeginsAt text token.span.column (.ok token.kind))

variable {text before rest : List Char}

/-- What lies before a place and behind it makes up the text. -/
theorem Reaches.append_eq (reached : Reaches text before rest) : before ++ rest = text := by
  induction reached with
  | start => rfl
  | blank reached isBlank inductionHypothesis =>
      rw [List.append_assoc]
      exact inductionHypothesis
  | @token before following first kind reached visible noComment found inductionHypothesis =>
      rw [List.append_assoc, spelling_append_rest]
      exact inductionHypothesis

/-- The lexer goes over any number of blanks. -/
theorem Reaches.blanks {blanks : List Char} (blank : ∀ character ∈ blanks, Text.isBlank character)
    (reached : Reaches text before (blanks ++ rest)) : Reaches text (before ++ blanks) rest := by
  induction blanks generalizing before with
  | nil => rwa [List.append_nil]
  | cons first later inductionHypothesis =>
      have here := reached.blank (blank first (by simp))
      have later : ∀ character ∈ later, Text.isBlank character := fun character member =>
        blank character (List.mem_cons_of_mem first member)
      have further := inductionHypothesis later here
      rwa [List.append_assoc] at further

/-- A lexeme begins before the end of its text. -/
theorem BeginsAt.lt_length {column : Nat} {outcome : Except LexError Kind}
    (begins : BeginsAt text column outcome) : column < text.length := by
  obtain ⟨before, first, following, reached, rfl, -⟩ := begins
  rw [← reached.append_eq, List.length_append, List.length_cons]
  omega

/-! ### Lexemes that are no token -/

end Token

/-- Whether an error is about what a text begins with: a character, the digits of a number, or a
quote that is not closed. -/
def LexError.Rejects (text : List Char) : LexError → Prop
  | .unexpectedCharacter character _ => text.head? = some character
  | .invalidNumber literal _ => literal.toList = text.takeWhile Char.isDigit ∧ literal ≠ ""
  | .unterminatedString _ => ∃ quote following, text = quote :: following ∧
      (quote = '\'' ∨ quote = '"') ∧ Token.quotedBody quote following = none

/-- Whether an error is about `taken`, which `rest` follows: the character, the digits of the
number, or, if a quote is not closed, all that there is. -/
def LexError.Consumes (taken rest : List Char) (error : LexError) : Prop :=
  error.Rejects (taken ++ rest) ∧
    match error with
    | .unexpectedCharacter character _ => taken = [character]
    | .invalidNumber literal _ => taken = literal.toList
    | .unterminatedString _ => rest = []

namespace Token

section

variable {column : Nat} {first : Char} {following : List Char} {error : LexError}

/-- An integer that is too large is rejected as its digits. -/
theorem integerOf_error {digits : List Char} (failed : integerOf column digits = .error error) :
    error = .invalidNumber (String.ofList digits) column := by
  unfold integerOf at failed
  dsimp only at failed
  split at failed
  · cases failed
  · cases failed
    rfl

/-- A number is rejected as the digits that it consists of. -/
theorem readNumber_error (failed : (readNumber column first following).outcome = .error error) :
    error = .invalidNumber (String.ofList (first :: following.takeWhile Char.isDigit)) column ∧
      (readNumber column first following).spelling = first :: following.takeWhile Char.isDigit := by
  unfold readNumber at failed ⊢
  dsimp only at failed ⊢
  generalize following.dropWhile Char.isDigit = behind at failed ⊢
  split at failed
  · next digit rest =>
      by_cases isFraction : digit.isDigit
      · rw [if_pos isFraction] at failed
        cases failed
      · rw [if_neg isFraction] at failed ⊢
        exact ⟨integerOf_error failed, rfl⟩
  · exact ⟨integerOf_error failed, rfl⟩

/-- A lexeme that is no token is reported with its column, and is what its error is about. -/
theorem readLexeme_error (failed : (readLexeme column first following).outcome = .error error) :
    error.column = column ∧
      error.Consumes (readLexeme column first following).spelling
        (readLexeme column first following).rest := by
  unfold LexError.Consumes
  rw [spelling_append_rest]
  unfold readLexeme at failed ⊢
  split at failed
  · next isQuote =>
      rw [if_pos isQuote]
      unfold readQuoted at failed ⊢
      split at failed
      · cases failed
      · next unclosed =>
          cases failed
          exact ⟨rfl, ⟨first, following, rfl, isQuote, unclosed⟩, rfl⟩
  · next noQuote =>
      rw [if_neg noQuote]
      split at failed
      · cases failed
      · next noName =>
          rw [if_neg noName]
          split at failed
          · next isNumber =>
              obtain ⟨rfl, digits⟩ := readNumber_error failed
              rw [if_pos isNumber, digits]
              refine ⟨rfl, ⟨?_, ?_⟩, String.toList_ofList.symm⟩
              · rw [String.toList_ofList, List.takeWhile_cons_of_pos isNumber]
              · intro empty
                have sameCharacters := congrArg String.toList empty
                rw [String.toList_ofList] at sameCharacters
                cases sameCharacters
          · next noNumber =>
              rw [if_neg noNumber]
              unfold readSymbol at failed ⊢
              split at failed
              · cases failed
              · cases failed
                exact ⟨rfl, rfl, rfl⟩

/-- The text before which a lexeme that is no token begins is what its error rejects. -/
theorem readLexeme_rejects (failed : (readLexeme column first following).outcome = .error error) :
    error.Rejects (first :: following) := by
  have rejects := (readLexeme_error failed).2.1
  rwa [spelling_append_rest] at rejects

end

/-- Where a lexeme that is no token begins, there stands what its error rejects. -/
theorem BeginsAt.rejects {column : Nat} {error : LexError}
    (begins : BeginsAt text column (.error error)) : error.Rejects (text.drop column) := by
  obtain ⟨before, first, following, reached, rfl, -, -, failed⟩ := begins
  rw [← reached.append_eq, List.drop_left]
  exact readLexeme_rejects failed

/-! ### The places of tokens -/

/-- Whether all tokens of a text are placed, or a lexeme of it is no token. -/
def Places (text : List Char) : Except LexError (List Token) → Prop
  | .ok tokens => ∀ token ∈ tokens, IsPlaced text token
  | .error error => BeginsAt text error.column (.error error)

/-- Behind some blanks the lexer comes to what follows them. -/
theorem Reaches.dropWhile (reached : Reaches text before rest) :
    Reaches text (before ++ rest.takeWhile Text.isBlank) (rest.dropWhile Text.isBlank) := by
  refine Reaches.blanks (List.all_eq_true.mp List.all_takeWhile) ?_
  rwa [List.takeWhile_append_dropWhile]

/-- The end of the line is placed where the text ends. -/
theorem places_lineEnd {span : Span} (ended : span.column = text.length) :
    Places text ([Except.ok ⟨.lineEnd, span⟩].mapM id) := by
  intro token member
  obtain rfl : token = ⟨.lineEnd, span⟩ := List.mem_singleton.mp member
  exact .inl ⟨rfl, ended⟩

/-- From a place that the lexer comes to, tokens get the columns where they begin. -/
theorem places_mapM_lexFrom (line : Nat) {place : Place} (reached : Reaches text before rest)
    (counted : place.column = before.length) : Places text ((lexFrom line place rest).mapM id) := by
  fun_induction lexFrom line place rest generalizing before with
  | case1 place rest start =>
      rename_i blank
      have behind := reached.dropWhile.append_eq
      rw [blank, List.append_nil] at behind
      refine places_lineEnd (?_ : start.column = text.length)
      rw [Place.column_after, counted, ← behind, List.length_append]
  | case2 place rest start following shape =>
      have behind := reached.dropWhile.append_eq
      rw [shape] at behind
      refine places_lineEnd (?_ : (start.after _).column = text.length)
      rw [Place.column_after, Place.column_after, counted, ← behind, List.length_append,
        List.length_append]
  | case3 place rest start first following shape noComment lexeme stop =>
      rename_i inductionHypothesis
      have here := reached.dropWhile
      rw [shape] at here
      have visible : ¬ Text.isBlank first := by
        have stops := List.head?_dropWhile_not Text.isBlank rest
        rw [shape] at stops
        simpa using stops
      have column : start.column = (before ++ rest.takeWhile Text.isBlank).length := by
        rw [Place.column_after, counted, List.length_append]
      have begins : BeginsAt text start.column lexeme.outcome :=
        ⟨_, first, following, here, column.symm, visible, noComment, rfl⟩
      rw [List.mapM_cons]
      cases outcome : lexeme.outcome with
      | error error =>
          rw [outcome] at begins
          have same : error.column = start.column := (readLexeme_error outcome).1
          exact (same ▸ begins : BeginsAt text error.column (.error error))
      | ok kind =>
          have spelled : (readLexeme (before ++ rest.takeWhile Text.isBlank).length first
              following).outcome = .ok kind := by
            rw [← column]
            exact outcome
          have token := here.token visible noComment spelled
          rw [← column] at token
          have behind : stop.column =
              (before ++ rest.takeWhile Text.isBlank ++ lexeme.spelling).length := by
            rw [List.length_append, ← column]
            exact Place.column_after start lexeme.spelling
          have further := inductionHypothesis token behind
          cases later : (lexFrom line stop lexeme.rest).mapM id with
          | error error =>
              rw [later] at further
              exact further
          | ok tokens =>
              rw [later] at further
              intro other member
              rcases List.mem_cons.mp member with rfl | member
              · exact .inr ⟨readLexeme_ne_lineEnd outcome, outcome ▸ begins⟩
              · exact further other member

/-- The tokens of a text get the columns where they begin, and the end of the line the length of the
text; where a lexeme is no token, its error gets the column where that begins. -/
theorem places_tokenize (text : String) (line : Nat) : Places text.toList (tokenize text line) :=
  places_mapM_lexFrom line .start rfl

end Token

end Offside
