import Offside.Proofs.Outcome
import Offside.Token.Lexer

/-!
# The words of a text

`Token.Lexes` says which words stand in a text, whatever the places of their
tokens are. `Token.tokenize_eq_ok` says that the tokens of a text are these words
and then the end of the line. A blank ends every lexeme that may end there, so
what follows it changes nothing about the words before it, and a comment adds
none.
-/

namespace Offside.Token

/-- Whether a text can follow every lexeme: it is empty or begins with a blank. -/
def IsParted (suffix : List Char) : Prop :=
  ∀ first ∈ suffix.head?, Text.isBlank first

/-- A text that goes on with a blank can follow every word. -/
theorem isParted_cons {blank : Char} (isBlank : Text.isBlank blank) (text : List Char) :
    IsParted (blank :: text) := by
  rintro _ ⟨⟩
  exact isBlank

/-- The code points of the blanks. -/
def blankPoints : List Nat :=
  [9, 10, 11, 12, 13, 0x20, 0x85, 0xA0, 0x1680, 0x2000, 0x2001, 0x2002, 0x2003, 0x2004, 0x2005,
    0x2006, 0x2007, 0x2008, 0x2009, 0x200A, 0x2028, 0x2029, 0x202F, 0x205F, 0x3000]

/-- The list of blanks leaves none out. -/
theorem mem_blankPoints {character : Char} (blank : Text.isBlank character) :
    character.toNat ∈ blankPoints := by
  simp only [Text.isBlank, Bool.or_eq_true, Bool.and_eq_true, decide_eq_true_eq, beq_iff_eq]
    at blank
  simp only [blankPoints, List.mem_cons, List.not_mem_nil, or_false]
  omega

/-- No blank is part of a name. -/
theorem continuesName_of_blank {character : Char} (blank : Text.isBlank character) :
    continuesName character = false := by
  have noPoint : ∀ point ∈ blankPoints, continuesName (Char.ofNat point) = false := by
    decide +kernel
  have here := noPoint character.toNat (mem_blankPoints blank)
  rwa [Char.ofNat_toNat] at here

/-- No blank is a digit. -/
theorem isDigit_of_blank {character : Char} (blank : Text.isBlank character) :
    character.isDigit = false := by
  have noPoint : ∀ point ∈ blankPoints, (Char.ofNat point).isDigit = false := by decide +kernel
  have here := noPoint character.toNat (mem_blankPoints blank)
  rwa [Char.ofNat_toNat] at here

/-- No blank is part of a symbol. -/
theorem not_mem_spelling_of_blank {character : Char} (blank : Text.isBlank character)
    (symbol : Symbol) : character ∉ symbol.spelling.toList := by
  have noBlank : symbol.spelling.toList.all (!Text.isBlank ·) = true := by
    cases symbol <;> decide +kernel
  intro member
  have here := List.all_eq_true.mp noBlank character member
  simp [blank] at here

/-! ### Lexemes before a blank -/

section

variable {suffix : List Char} {column : Nat} {kind : Kind}

/-- Characters of a sort that no blank belongs to end before the suffix. -/
theorem takeWhile_append_parted (parted : IsParted suffix) {sort : Char → Bool}
    (noBlank : ∀ {character}, Text.isBlank character → sort character = false)
    (text : List Char) : (text ++ suffix).takeWhile sort = text.takeWhile sort := by
  induction text with
  | nil =>
      cases suffix with
      | nil => rfl
      | cons first later => simp [noBlank (parted first rfl)]
  | cons first later inductionHypothesis =>
      rw [List.cons_append, List.takeWhile_cons, List.takeWhile_cons, inductionHypothesis]

/-- Characters of a sort that no blank belongs to are dropped up to the suffix, and none of the
suffix is. -/
theorem dropWhile_append_parted (parted : IsParted suffix) {sort : Char → Bool}
    (noBlank : ∀ {character}, Text.isBlank character → sort character = false)
    (text : List Char) : (text ++ suffix).dropWhile sort = text.dropWhile sort ++ suffix := by
  induction text with
  | nil =>
      cases suffix with
      | nil => rfl
      | cons first later => simp [noBlank (parted first rfl)]
  | cons first later inductionHypothesis =>
      rw [List.cons_append, List.dropWhile_cons, List.dropWhile_cons, inductionHypothesis]
      split <;> rfl

/-- A quoted text that is closed is read up to its closing quote, whatever follows that. -/
theorem quotedBody_spelling {quote : Char} {text content spelling rest : List Char}
    (found : quotedBody quote text = some (content, spelling, rest)) (other : List Char) :
    quotedBody quote (spelling ++ other) = some (content, spelling, other) := by
  fun_induction quotedBody quote text generalizing content spelling rest with
  | case1 => cases found
  | case2 following =>
      cases found
      rw [List.singleton_append, quotedBody.eq_def]
      simp
  | case3 => cases found
  | case4 escaped following differs inductionHypothesis =>
      obtain ⟨⟨inner, spelled, behind⟩, innerFound, same⟩ := Option.map_eq_some_iff.mp found
      cases same
      simp [quotedBody, differs, inductionHypothesis innerFound]
  | case5 first following differs plain inductionHypothesis =>
      obtain ⟨⟨inner, spelled, behind⟩, innerFound, same⟩ := Option.map_eq_some_iff.mp found
      cases same
      rw [List.cons_append, quotedBody.eq_def]
      simp [differs, plain, inductionHypothesis innerFound]

/-- A quoted text that is closed is not changed by what follows it. -/
theorem quotedBody_append_suffix {quote : Char} {text content spelling rest : List Char}
    (found : quotedBody quote text = some (content, spelling, rest)) (suffix : List Char) :
    quotedBody quote (text ++ suffix) = some (content, spelling, rest ++ suffix) := by
  rw [← quotedBody_append found, List.append_assoc]
  exact quotedBody_spelling found (rest ++ suffix)

/-- The lexeme with more text behind it. -/
def Lexeme.followedBy (lexeme : Lexeme) (suffix : List Char) : Lexeme :=
  { lexeme with rest := lexeme.rest ++ suffix }

/-- A closed quoted text is read alike before any other text. -/
theorem readQuoted_append {quote : Char} {following : List Char}
    (found : (readQuoted column quote following).outcome = .ok kind) (suffix : List Char)
    (otherColumn : Nat) :
    readQuoted otherColumn quote (following ++ suffix) =
      (readQuoted column quote following).followedBy suffix := by
  unfold readQuoted at found ⊢
  split at found
  · next body =>
      rw [quotedBody_append_suffix body suffix]
      rfl
  · cases found

/-- A name is read alike before a blank. -/
theorem readName_append (parted : IsParted suffix) (first : Char) (following : List Char) :
    readName first (following ++ suffix) = (readName first following).followedBy suffix := by
  unfold readName
  rw [takeWhile_append_parted parted continuesName_of_blank,
    dropWhile_append_parted parted continuesName_of_blank]
  rfl

/-- An integer that is not too large has the same value in any column. -/
theorem integerOf_eq {digits : List Char} (found : integerOf column digits = .ok kind)
    (otherColumn : Nat) : integerOf otherColumn digits = .ok kind := by
  unfold integerOf at found ⊢
  dsimp only at found ⊢
  split at found
  · next small => rw [if_pos small, found]
  · cases found

/-- A number is read alike before a blank. -/
theorem readNumber_append (parted : IsParted suffix) {first : Char} {following : List Char}
    (found : (readNumber column first following).outcome = .ok kind) (otherColumn : Nat) :
    readNumber otherColumn first (following ++ suffix) =
      (readNumber column first following).followedBy suffix := by
  unfold readNumber at found ⊢
  dsimp only at found ⊢
  rw [takeWhile_append_parted parted isDigit_of_blank,
    dropWhile_append_parted parted isDigit_of_blank]
  generalize following.takeWhile Char.isDigit = digits at found ⊢
  generalize following.dropWhile Char.isDigit = behind at found ⊢
  split at found
  · next digit rest =>
      by_cases isFraction : digit.isDigit
      · simp only [List.cons_append, if_pos isFraction, Lexeme.followedBy,
          takeWhile_append_parted parted isDigit_of_blank,
          dropWhile_append_parted parted isDigit_of_blank]
      · rw [if_neg isFraction] at found
        simp only [List.cons_append, if_neg isFraction, Lexeme.followedBy, integerOf_eq found]
  · next noFraction =>
      have same := integerOf_eq found
      split
      · next digit rest shape =>
          have noDigit : digit.isDigit = false := by
            rcases behind with _ | ⟨point, _ | ⟨second, more⟩⟩
            · cases parted '.' (by rw [show suffix = '.' :: digit :: rest from shape]; rfl)
            · obtain ⟨rfl, behindPoint⟩ := List.cons_eq_cons.mp shape
              exact isDigit_of_blank (parted digit (by rw [show suffix = _ from behindPoint]; rfl))
            · obtain ⟨rfl, _⟩ := List.cons_eq_cons.mp shape
              exact absurd rfl (noFraction second more)
          rw [noDigit, same otherColumn, same column, ← shape]
          rfl
      · rw [same otherColumn, same column]
        rfl

/-- A word without blanks stands before a blank exactly when it stands there without it. -/
theorem isPrefixOf_append_parted (parted : IsParted suffix) {spelling : List Char}
    (noBlank : ∀ character ∈ spelling, ¬ Text.isBlank character) (text : List Char) :
    spelling.isPrefixOf (text ++ suffix) = spelling.isPrefixOf text := by
  induction spelling generalizing text with
  | nil => simp
  | cons sign later inductionHypothesis =>
      cases text with
      | nil =>
          cases suffix with
          | nil => rfl
          | cons first more =>
              have other : sign ≠ first := by
                rintro rfl
                exact noBlank sign (by simp) (parted sign rfl)
              simp [List.isPrefixOf, other]
      | cons first more =>
          have rest := inductionHypothesis
            (fun character member => noBlank character (List.mem_cons_of_mem _ member)) more
          simp [List.isPrefixOf, rest]

/-- A text begins with the same symbol before a blank. -/
theorem atStart?_append_parted (parted : IsParted suffix) (text : List Char) :
    Symbol.atStart? (text ++ suffix) = Symbol.atStart? text := by
  have noBlank : ∀ symbol : Symbol, ∀ character ∈ symbol.spelling.toList,
      ¬ Text.isBlank character :=
    fun symbol character member blank => not_mem_spelling_of_blank blank symbol member
  unfold Symbol.atStart?
  simp only [isPrefixOf_append_parted parted (noBlank _)]

/-- The symbol that a text begins with is spelled there. -/
theorem prefix_of_atStart? {text : List Char} {symbol : Symbol}
    (shown : Symbol.atStart? text = some symbol) : symbol.spelling.toList <+: text := by
  unfold Symbol.atStart? at shown
  have isPrefix := List.find?_some shown
  exact List.isPrefixOf_iff_prefix.mp isPrefix

/-- A symbol is read alike before a blank. -/
theorem readSymbol_append (parted : IsParted suffix) {first : Char} {following : List Char}
    (found : (readSymbol column first following).outcome = .ok kind) (otherColumn : Nat) :
    readSymbol otherColumn first (following ++ suffix) =
      (readSymbol column first following).followedBy suffix := by
  unfold readSymbol at found ⊢
  rw [← List.cons_append, atStart?_append_parted parted]
  split at found
  · next symbol shown =>
      have fits : symbol.spelling.toList.length ≤ following.length + 1 :=
        (prefix_of_atStart? shown).length_le
      have enough : symbol.spelling.toList.length - 1 ≤ following.length := by omega
      simp only [Lexeme.followedBy]
      rw [List.take_append_of_le_length enough, List.drop_append_of_le_length enough]
  · cases found

/-- A lexeme that is a token is read alike before a blank, in any column. -/
theorem readLexeme_followedBy (parted : IsParted suffix) {first : Char} {following : List Char}
    (found : (readLexeme column first following).outcome = .ok kind) (otherColumn : Nat) :
    readLexeme otherColumn first (following ++ suffix) =
      (readLexeme column first following).followedBy suffix := by
  unfold readLexeme at found ⊢
  split at found
  · next isQuote =>
      rw [if_pos isQuote, if_pos isQuote]
      exact readQuoted_append found suffix otherColumn
  · next noQuote =>
      rw [if_neg noQuote, if_neg noQuote]
      split at found
      · next isName =>
          rw [if_pos isName, if_pos isName]
          exact readName_append parted first following
      · next noName =>
          rw [if_neg noName, if_neg noName]
          split at found
          · next isNumber =>
              rw [if_pos isNumber, if_pos isNumber]
              exact readNumber_append parted found otherColumn
          · next noNumber =>
              rw [if_neg noNumber, if_neg noNumber]
              exact readSymbol_append parted found otherColumn

/-- A lexeme that is a token is the same lexeme in any column. -/
theorem readLexeme_column {first : Char} {following : List Char}
    (found : (readLexeme column first following).outcome = .ok kind) (otherColumn : Nat) :
    readLexeme otherColumn first following = readLexeme column first following := by
  have parted : IsParted [] := by
    intro first member
    cases member
  simpa [Lexeme.followedBy] using readLexeme_followedBy parted found otherColumn

/-- No lexeme is the end of the line. -/
theorem readLexeme_ne_lineEnd {first : Char} {following : List Char}
    (found : (readLexeme column first following).outcome = .ok kind) : kind ≠ .lineEnd := by
  rintro rfl
  unfold readLexeme at found
  split at found
  · unfold readQuoted at found
    split at found <;> cases found
  · split at found
    · unfold readName at found
      dsimp only at found
      split at found <;> cases found
    · split at found
      · have noEnd : ∀ digits, integerOf column digits ≠ .ok .lineEnd := by
          intro digits same
          unfold integerOf at same
          dsimp only at same
          split at same <;> cases same
        unfold readNumber at found
        dsimp only at found
        split at found
        · split at found
          · cases found
          · exact noEnd _ found
        · exact noEnd _ found
      · unfold readSymbol at found
        split at found <;> cases found

end

/-! ### The words of a text -/

/-- The words of a text without a defect: lexeme after lexeme, up to the end or a comment. -/
inductive Lexes : List Char → List Kind → Prop where
  | done {text : List Char} (blank : text.dropWhile Text.isBlank = []) : Lexes text []
  | comment {text following : List Char} (shape : text.dropWhile Text.isBlank = '#' :: following) :
      Lexes text []
  | lexeme {text : List Char} {first : Char} {following : List Char} {column : Nat} {kind : Kind}
      {kinds : List Kind} (shape : text.dropWhile Text.isBlank = first :: following)
      (noComment : first ≠ '#') (found : (readLexeme column first following).outcome = .ok kind)
      (later : Lexes (readLexeme column first following).rest kinds) : Lexes text (kind :: kinds)

/-- Blanks in front of a text do not matter to its words. -/
theorem lexes_congr {text other : List Char} {kinds : List Kind}
    (same : text.dropWhile Text.isBlank = other.dropWhile Text.isBlank) :
    Lexes text kinds ↔ Lexes other kinds := by
  have oneWay : ∀ {text other : List Char},
      text.dropWhile Text.isBlank = other.dropWhile Text.isBlank →
      Lexes text kinds → Lexes other kinds := by
    intro text other same lexes
    cases lexes with
    | done blank => exact .done (same.symm.trans blank)
    | comment shape => exact .comment (same.symm.trans shape)
    | lexeme shape noComment found later =>
        exact .lexeme (same.symm.trans shape) noComment found later
  exact ⟨oneWay same, oneWay same.symm⟩

/-- No word of a text is the end of the line. -/
theorem Lexes.ne_lineEnd {text : List Char} {kinds : List Kind} (lexes : Lexes text kinds) :
    ∀ kind ∈ kinds, kind ≠ .lineEnd := by
  induction lexes with
  | done | comment => simp
  | lexeme shape noComment found later inductionHypothesis =>
      intro kind member
      rcases List.mem_cons.mp member with rfl | member
      · exact readLexeme_ne_lineEnd found
      · exact inductionHypothesis kind member

/-- Some tokens have the given words, and the end of the line behind them. -/
def Spells (tokens : List Token) (kinds : List Kind) : Prop :=
  ∃ before last, tokens = before ++ [last] ∧ before.map (·.kind) = kinds ∧ last.kind = .lineEnd

/-- Tokens with one more in front spell one more word. -/
theorem Spells.cons {tokens : List Token} {kinds : List Kind} (spells : Spells tokens kinds)
    (token : Token) : Spells (token :: tokens) (token.kind :: kinds) := by
  obtain ⟨before, last, rfl, rfl, ended⟩ := spells
  exact ⟨token :: before, last, rfl, rfl, ended⟩

/-- The kinds of the tokens are the words and the end of the line. -/
theorem Spells.map_kind {tokens : List Token} {kinds : List Kind} (spells : Spells tokens kinds) :
    tokens.map (·.kind) = kinds ++ [.lineEnd] := by
  obtain ⟨before, last, rfl, rfl, ended⟩ := spells
  rw [List.map_append, List.map_singleton, ended]

section

variable (line : Nat) (place : Place) {text : List Char}

/-- Blanks are no token. -/
theorem lexFrom_done (blank : text.dropWhile Text.isBlank = []) :
    ∃ last : Token, last.kind = .lineEnd ∧ lexFrom line place text = [.ok last] := by
  rw [lexFrom.eq_def]
  split
  · exact ⟨_, rfl, rfl⟩
  · next shape =>
      rw [blank] at shape
      cases shape

/-- A comment is no token. -/
theorem lexFrom_comment {following : List Char}
    (shape : text.dropWhile Text.isBlank = '#' :: following) :
    ∃ last : Token, last.kind = .lineEnd ∧ lexFrom line place text = [.ok last] := by
  rw [lexFrom.eq_def]
  split
  · next blank =>
      rw [blank] at shape
      cases shape
  · next found =>
      rw [shape] at found
      cases found
      exact ⟨_, rfl, if_pos rfl⟩

/-- A lexeme is a token or an error, and the text behind it gives the next ones. -/
theorem lexFrom_lexeme {first : Char} {following : List Char}
    (shape : text.dropWhile Text.isBlank = first :: following) (noComment : first ≠ '#') :
    ∃ (column : Nat) (span : Span) (stop : Place), lexFrom line place text =
      (readLexeme column first following).outcome.map (⟨·, span⟩) ::
        lexFrom line stop (readLexeme column first following).rest := by
  rw [lexFrom.eq_def]
  split
  · next blank =>
      rw [blank] at shape
      cases shape
  · next found =>
      rw [shape] at found
      cases found
      exact ⟨_, _, _, if_neg noComment⟩

end

/-- A text without a defect gives the tokens of its words, from any place. -/
theorem Lexes.mapM_lexFrom {text : List Char} {kinds : List Kind} (lexes : Lexes text kinds)
    (line : Nat) (place : Place) :
    ∃ tokens, (lexFrom line place text).mapM id = .ok tokens ∧ Spells tokens kinds := by
  induction lexes generalizing place with
  | done blank =>
      obtain ⟨last, ended, same⟩ := lexFrom_done line place blank
      rw [same]
      exact ⟨[last], rfl, [], last, rfl, rfl, ended⟩
  | comment shape =>
      obtain ⟨last, ended, same⟩ := lexFrom_comment line place shape
      rw [same]
      exact ⟨[last], rfl, [], last, rfl, rfl, ended⟩
  | lexeme shape noComment found later inductionHypothesis =>
      obtain ⟨column, span, stop, same⟩ := lexFrom_lexeme line place shape noComment
      obtain ⟨tokens, further, spells⟩ := inductionHypothesis stop
      rw [same, readLexeme_column found column, found, List.mapM_cons, further]
      exact ⟨_, rfl, spells.cons ⟨_, span⟩⟩

/-- A text that gives tokens has no defect, and they are its words. -/
theorem lexes_of_mapM_lexFrom {line : Nat} {place : Place} {text : List Char}
    {tokens : List Token} (found : (lexFrom line place text).mapM id = .ok tokens) :
    ∃ kinds, Lexes text kinds := by
  fun_induction lexFrom line place text generalizing tokens with
  | case1 place text start => exact ⟨[], .done ‹_›⟩
  | case2 place text start following shape => exact ⟨[], .comment shape⟩
  | case3 place text start first following shape noComment lexeme stop =>
      rename_i inductionHypothesis
      rw [List.mapM_cons] at found
      obtain ⟨token, here, found⟩ := bind_eq_ok_iff.mp found
      obtain ⟨later, further, _⟩ := bind_eq_ok_iff.mp found
      obtain ⟨kinds, lexes⟩ := inductionHypothesis further
      cases outcome : lexeme.outcome with
      | error error =>
          rw [outcome] at here
          cases here
      | ok kind => exact ⟨kind :: kinds, .lexeme shape noComment outcome lexes⟩

/-- The tokens of a text, if there are any, are its words. -/
theorem tokenize_eq_ok {text : String} {line : Nat} {tokens : List Token}
    (found : tokenize text line = .ok tokens) :
    ∃ kinds, Lexes text.toList kinds ∧ Spells tokens kinds := by
  obtain ⟨kinds, lexes⟩ := lexes_of_mapM_lexFrom found
  obtain ⟨others, same, spells⟩ := lexes.mapM_lexFrom line ⟨0, 0⟩
  have equal := same.symm.trans found
  cases equal
  exact ⟨kinds, lexes, spells⟩

/-- A text without a defect gives the tokens of its words. -/
theorem Lexes.tokenize {text : String} {kinds : List Kind} (lexes : Lexes text.toList kinds)
    (line : Nat) : ∃ tokens, tokenize text line = .ok tokens ∧ Spells tokens kinds :=
  lexes.mapM_lexFrom line ⟨0, 0⟩

/-! ### Comments -/

/-- Whether a text is a comment behind at least one blank. -/
def IsComment (suffix : List Char) : Prop :=
  ∃ blanks following, suffix = blanks ++ '#' :: following ∧ blanks ≠ [] ∧
    ∀ blank ∈ blanks, Text.isBlank blank

/-- A comment behind a blank can follow every lexeme. -/
theorem IsComment.isParted {suffix : List Char} (isComment : IsComment suffix) :
    IsParted suffix := by
  obtain ⟨blanks, following, rfl, nonempty, blank⟩ := isComment
  obtain ⟨first, more, rfl⟩ := List.exists_cons_of_ne_nil nonempty
  intro character member
  cases member
  exact blank first (by simp)

/-- Without its blanks, a comment begins with its sign. -/
theorem IsComment.dropWhile {suffix : List Char} (isComment : IsComment suffix) :
    ∃ following, suffix.dropWhile Text.isBlank = '#' :: following := by
  obtain ⟨blanks, following, rfl, nonempty, blank⟩ := isComment
  refine ⟨following, ?_⟩
  rw [List.dropWhile_append_of_pos blank]
  rfl

/-- What adds no word by itself and can follow every lexeme adds none behind a text. -/
theorem Lexes.append_of_parted {text suffix : List Char} {kinds : List Kind}
    (lexes : Lexes text kinds) (parted : IsParted suffix) (nothing : Lexes suffix []) :
    Lexes (text ++ suffix) kinds := by
  induction lexes with
  | @done text blank =>
      have same : suffix.dropWhile Text.isBlank = (text ++ suffix).dropWhile Text.isBlank := by
        rw [List.dropWhile_append, blank, List.isEmpty_nil, if_pos rfl]
      exact (lexes_congr same).mp nothing
  | @comment text following shape =>
      have whole : (text ++ suffix).dropWhile Text.isBlank = '#' :: (following ++ suffix) := by
        rw [List.dropWhile_append, shape]
        rfl
      exact .comment whole
  | @lexeme text first following column kind kinds shape noComment found later
      inductionHypothesis =>
      have whole : (text ++ suffix).dropWhile Text.isBlank = first :: (following ++ suffix) := by
        rw [List.dropWhile_append, shape]
        rfl
      have same := readLexeme_followedBy parted found column
      refine .lexeme whole noComment (?_ : (readLexeme column _ _).outcome = _) ?_
      · rw [same]
        exact found
      · rw [same]
        exact inductionHypothesis

/-- A comment behind a text adds no word. -/
theorem Lexes.append_comment {text suffix : List Char} {kinds : List Kind}
    (lexes : Lexes text kinds) (isComment : IsComment suffix) : Lexes (text ++ suffix) kinds := by
  obtain ⟨following, shape⟩ := isComment.dropWhile
  exact lexes.append_of_parted isComment.isParted (.comment shape)

end Offside.Token
