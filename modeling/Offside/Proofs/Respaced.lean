import Offside.Proofs.Accounting
import Offside.Proofs.Grammar.Agreement
import Offside.Proofs.Marks

/-!
# The space between two tokens

How much space there is between two tokens does not matter, as long as there is some. A
lexeme is cut off alike whether the text ends somewhere behind it or goes on
(`Token.readLexeme_cut`), and a blank ends it where it ends already. So the words before the
space stay the same if that is replaced, and so do those behind it: a text with other space
between two of its tokens says the same (`Token.tokenize_respaced`).
-/

namespace Offside

namespace Token

/-! ### Lexemes that end before a suffix -/

section

variable {column : Nat} {first : Char} {following rest suffix : List Char} {kind : Kind}

/-- Characters of a sort that end before the suffix, or at its front, end there without it, too. -/
theorem dropWhile_cut {sort : Char → Bool} {front : List Char}
    (left : (front ++ suffix).dropWhile sort = rest ++ suffix) :
    front.dropWhile sort = rest ∧ (front ++ suffix).takeWhile sort = front.takeWhile sort := by
  induction front with
  | nil =>
      have whole := List.takeWhile_append_dropWhile (p := sort) (l := suffix)
      rw [List.nil_append] at left
      rw [left, ← List.append_assoc] at whole
      obtain ⟨frontNil, nothing⟩ := List.append_eq_nil_iff.mp (List.append_left_eq_self.mp whole)
      exact ⟨nothing.symm, frontNil⟩
  | cons character others inductionHypothesis =>
      by_cases goes : sort character
      · rw [List.cons_append, List.dropWhile_cons_of_pos goes] at left
        obtain ⟨behind, before⟩ := inductionHypothesis left
        rw [List.cons_append, List.dropWhile_cons_of_pos goes, List.takeWhile_cons_of_pos goes,
          List.takeWhile_cons_of_pos goes, before]
        exact ⟨behind, rfl⟩
      · rw [List.cons_append, List.dropWhile_cons_of_neg goes, ← List.cons_append] at left
        rw [List.cons_append, List.dropWhile_cons_of_neg goes, List.takeWhile_cons_of_neg goes,
          List.takeWhile_cons_of_neg goes]
        exact ⟨List.append_cancel_right left, rfl⟩

/-- A closed quoted text that ends before a suffix is read alike without it. -/
theorem readQuoted_cut {quote : Char}
    (found : (readQuoted column quote (following ++ suffix)).outcome = .ok kind)
    (left : (readQuoted column quote (following ++ suffix)).rest = rest ++ suffix) :
    readQuoted column quote (following ++ suffix) =
      (readQuoted column quote following).followedBy suffix := by
  unfold readQuoted at found left ⊢
  split at found
  · next content spelling behind body =>
      rw [body] at left
      obtain rfl : behind = rest ++ suffix := left
      have whole := quotedBody_append body
      rw [← List.append_assoc, List.append_cancel_right_eq] at whole
      rw [← whole, quotedBody_spelling body rest]
      rfl
  · cases found

/-- A name that ends before a suffix is read alike without it. -/
theorem readName_cut (left : (readName first (following ++ suffix)).rest = rest ++ suffix) :
    readName first (following ++ suffix) = (readName first following).followedBy suffix := by
  obtain ⟨behind, same⟩ := dropWhile_cut left
  have ends : (following ++ suffix).dropWhile continuesName = rest ++ suffix := left
  unfold readName
  rw [same, ends, ← behind]
  rfl

/-- Where a point and a digit follow its digits, a number is a float. -/
theorem readNumber_of_fraction {digit : Char} {more : List Char}
    (shape : following.dropWhile Char.isDigit = '.' :: digit :: more) (isDigit : digit.isDigit) :
    readNumber column first following =
      ⟨.ok (.float (floatOf (first :: following.takeWhile Char.isDigit)
          (digit :: more.takeWhile Char.isDigit))),
        first :: following.takeWhile Char.isDigit ++ '.' :: digit :: more.takeWhile Char.isDigit,
        more.dropWhile Char.isDigit⟩ := by
  unfold readNumber
  rw [shape]
  exact if_pos isDigit

/-- A number is an integer where no point with a digit behind it follows its digits. -/
theorem readNumber_of_noFraction
    (noFraction : ∀ digit more, following.dropWhile Char.isDigit = '.' :: digit :: more →
      digit.isDigit = false) :
    readNumber column first following =
      ⟨integerOf column (first :: following.takeWhile Char.isDigit),
        first :: following.takeWhile Char.isDigit, following.dropWhile Char.isDigit⟩ := by
  unfold readNumber
  dsimp only
  split
  · next digit more shape =>
      rw [noFraction digit more shape, shape]
      rfl
  · rfl

/-- A number that ends before a suffix is read alike without it. -/
theorem readNumber_cut
    (left : (readNumber column first (following ++ suffix)).rest = rest ++ suffix) :
    readNumber column first (following ++ suffix) =
      (readNumber column first following).followedBy suffix := by
  by_cases fraction : ∃ digit more,
      (following ++ suffix).dropWhile Char.isDigit = '.' :: digit :: more ∧ digit.isDigit
  · obtain ⟨digit, more, shape, isDigit⟩ := fraction
    rw [readNumber_of_fraction shape isDigit] at left ⊢
    have ends : more.dropWhile Char.isDigit = rest ++ suffix := left
    -- the fraction ends before the suffix, and so the digits before the point do, too
    obtain ⟨part, rfl⟩ : ∃ part, more = part ++ suffix := by
      refine ⟨more.takeWhile Char.isDigit ++ rest, ?_⟩
      rw [List.append_assoc, ← ends, List.takeWhile_append_dropWhile]
    have whole : (following ++ suffix).dropWhile Char.isDigit = ('.' :: digit :: part) ++ suffix :=
      shape
    obtain ⟨behind, same⟩ := dropWhile_cut whole
    obtain ⟨behindFraction, sameFraction⟩ := dropWhile_cut ends
    rw [readNumber_of_fraction behind isDigit, same, ends, sameFraction, behindFraction]
    rfl
  · have noFraction : ∀ digit more, (following ++ suffix).dropWhile Char.isDigit =
        '.' :: digit :: more → digit.isDigit = false := fun digit more shape =>
      Bool.eq_false_iff.mpr fun isDigit => fraction ⟨digit, more, shape, isDigit⟩
    rw [readNumber_of_noFraction noFraction] at left ⊢
    have ends : (following ++ suffix).dropWhile Char.isDigit = rest ++ suffix := left
    obtain ⟨behind, same⟩ := dropWhile_cut ends
    have noneBefore : ∀ digit more, following.dropWhile Char.isDigit = '.' :: digit :: more →
        digit.isDigit = false := fun digit more shape =>
      noFraction digit (more ++ suffix) (by rw [ends, ← behind, shape]; rfl)
    rw [readNumber_of_noFraction noneBefore, same, ends, ← behind]
    rfl

/-- A symbol that does not reach into the suffix stands in front of the text without it. -/
theorem atStart?_cut {text : List Char} {symbol : Symbol}
    (shown : Symbol.atStart? (text ++ suffix) = some symbol)
    (fits : symbol.spelling.toList.length ≤ text.length) :
    Symbol.atStart? text = some symbol := by
  obtain ⟨-, earlier, later, split, longer⟩ := List.find?_eq_some_iff_append.mp shown
  refine List.find?_eq_some_iff_append.mpr ⟨?_, earlier, later, split, fun other member => ?_⟩
  · exact List.isPrefixOf_iff_prefix.mpr (List.prefix_of_prefix_length_le
      (prefix_of_atStart? shown) (List.prefix_append text suffix) fits)
  · have absent := longer other member
    rw [Bool.not_eq_true', Bool.eq_false_iff] at absent ⊢
    intro here
    have front := List.isPrefixOf_iff_prefix.mp here
    exact absent (List.isPrefixOf_iff_prefix.mpr (front.trans (List.prefix_append text suffix)))

/-- A symbol that ends before a suffix is read alike without it. -/
theorem readSymbol_cut
    (found : (readSymbol column first (following ++ suffix)).outcome = .ok kind)
    (left : (readSymbol column first (following ++ suffix)).rest = rest ++ suffix) :
    readSymbol column first (following ++ suffix) =
      (readSymbol column first following).followedBy suffix := by
  unfold readSymbol at found left ⊢
  split at found
  · next symbol shown =>
      rw [shown] at left
      have ends : (following ++ suffix).drop (symbol.spelling.toList.length - 1) =
        rest ++ suffix := left
      have lengths := congrArg List.length ends
      rw [List.length_drop, List.length_append, List.length_append] at lengths
      have inside := (prefix_of_atStart? shown).length_le
      rw [List.length_cons, List.length_append] at inside
      have fits : symbol.spelling.toList.length ≤ (first :: following).length := by
        rw [List.length_cons]
        omega
      have enough : symbol.spelling.toList.length - 1 ≤ following.length :=
        Nat.sub_le_of_le_add fits
      rw [atStart?_cut shown fits]
      simp only [Lexeme.followedBy]
      rw [List.take_append_of_le_length enough, List.drop_append_of_le_length enough]
  · cases found

/-- A lexeme that is a token and ends before a suffix is read alike without it. -/
theorem readLexeme_cut
    (found : (readLexeme column first (following ++ suffix)).outcome = .ok kind)
    (left : (readLexeme column first (following ++ suffix)).rest = rest ++ suffix) :
    readLexeme column first (following ++ suffix) =
      (readLexeme column first following).followedBy suffix := by
  unfold readLexeme at found left ⊢
  by_cases isQuote : first = '\'' ∨ first = '"'
  · rw [if_pos isQuote] at found left ⊢
    rw [if_pos isQuote]
    exact readQuoted_cut found left
  · rw [if_neg isQuote] at found left ⊢
    rw [if_neg isQuote]
    by_cases isName : startsName first
    · rw [if_pos isName] at left ⊢
      rw [if_pos isName]
      exact readName_cut left
    · rw [if_neg isName] at found left ⊢
      rw [if_neg isName]
      by_cases isNumber : first.isDigit
      · rw [if_pos isNumber] at left ⊢
        rw [if_pos isNumber]
        exact readNumber_cut left
      · rw [if_neg isNumber] at found left ⊢
        rw [if_neg isNumber]
        exact readSymbol_cut found left

/-- A lexeme that ends before something else is read alike if that is replaced by something that
begins with a blank. -/
theorem readLexeme_replace
    (found : (readLexeme column first (following ++ suffix)).outcome = .ok kind)
    (left : (readLexeme column first (following ++ suffix)).rest = rest ++ suffix)
    {other : List Char} (parted : IsParted other) :
    (readLexeme column first (following ++ other)).outcome = .ok kind ∧
      (readLexeme column first (following ++ other)).rest = rest ++ other := by
  have alone := readLexeme_cut found left
  rw [alone] at found left
  rw [readLexeme_followedBy parted found column]
  exact ⟨found, congrArg (· ++ other) (List.append_cancel_right left)⟩

end

/-! ### The words before a place -/

/-- The words of a text before the place where `rest` is left. -/
inductive LexesTo (rest : List Char) : List Char → List Kind → Prop where
  | here : LexesTo rest rest []
  | lexeme {text : List Char} {first : Char} {following : List Char} {column : Nat} {kind : Kind}
      {kinds : List Kind} (shape : text.dropWhile Text.isBlank = first :: following)
      (noComment : first ≠ '#') (found : (readLexeme column first following).outcome = .ok kind)
      (later : LexesTo rest (readLexeme column first following).rest kinds) :
      LexesTo rest text (kind :: kinds)

namespace LexesTo

variable {text rest : List Char} {kinds : List Kind}

/-- What is left stands at the end of the text. -/
theorem exists_append (lexes : LexesTo rest text kinds) : ∃ front, text = front ++ rest := by
  induction lexes with
  | here => exact ⟨[], rfl⟩
  | @lexeme text first following column kind kinds shape noComment found later
      inductionHypothesis =>
      obtain ⟨front, behind⟩ := inductionHypothesis
      rw [eq_append_lexeme column shape, behind, ← List.append_assoc, ← List.append_assoc]
      exact ⟨_, rfl⟩

/-- The words that follow are those of what is left. -/
theorem append {later : List Kind} (lexes : LexesTo rest text kinds) (others : Lexes rest later) :
    Lexes text (kinds ++ later) := by
  induction lexes with
  | here => exact others
  | lexeme shape noComment found _ inductionHypothesis =>
      exact .lexeme shape noComment found inductionHypothesis

/-- If what is left is replaced by something that begins with a blank, the words before it are the
same. -/
theorem replace {front other : List Char} (lexes : LexesTo rest (front ++ rest) kinds)
    (parted : IsParted other) : LexesTo other (front ++ other) kinds := by
  generalize whole : front ++ rest = text at lexes
  induction lexes generalizing front with
  | here =>
      rw [List.append_left_eq_self.mp whole]
      exact .here
  | @lexeme text first following column kind kinds shape noComment found later
      inductionHypothesis =>
      obtain ⟨behind, left⟩ := later.exists_append
      obtain ⟨further, -, split⟩ := readLexeme_append column first following
      obtain ⟨shown, rfl⟩ : ∃ shown, following = shown ++ rest :=
        ⟨further ++ behind, by rw [List.append_assoc, ← left, split]⟩
      obtain ⟨same, behindSame⟩ := readLexeme_replace found left parted
      have starts : (front ++ rest).dropWhile Text.isBlank = (first :: shown) ++ rest := by
        rw [whole, shape, List.cons_append]
      have ends : (front ++ other).dropWhile Text.isBlank = first :: (shown ++ other) := by
        rw [List.dropWhile_append, (dropWhile_cut starts).1]
        rfl
      refine .lexeme ends noComment same ?_
      rw [behindSame]
      exact inductionHypothesis left.symm

end LexesTo

/-! ### Gaps -/

/-- From a place of a text the lexer comes to the end, or over blanks to a lexeme and then to the
place behind that. -/
theorem lexFrom_cases (line : Nat) (before text : List Char) :
    lexFrom line (placeBehind before) text =
        [.ok ⟨.lineEnd, spanBehind line (before ++ text) []⟩] ∨
      ∃ column first following, text.dropWhile Text.isBlank = first :: following ∧ first ≠ '#' ∧
        lexFrom line (placeBehind before) text =
          (readLexeme column first following).outcome.map
              (⟨·, spanBehind line (before ++ text.takeWhile Text.isBlank)
                (readLexeme column first following).spelling⟩) ::
            lexFrom line (placeBehind (before ++ text.takeWhile Text.isBlank ++
                (readLexeme column first following).spelling))
              (readLexeme column first following).rest := by
  have whole := List.takeWhile_append_dropWhile (p := Text.isBlank) (l := text)
  rw [lexFrom.eq_def]
  split
  · next shape =>
      rw [shape, List.append_nil] at whole
      rw [whole, after_placeBehind, ← spanTo_placeBehind, List.append_nil]
      exact .inl rfl
  · next first following shape =>
      dsimp only
      rw [after_placeBehind]
      by_cases isComment : first = '#'
      · rw [shape] at whole
        rw [if_pos isComment, after_placeBehind, List.append_assoc, whole, ← spanTo_placeBehind,
          List.append_nil]
        exact .inl rfl
      · rw [if_neg isComment, after_placeBehind, spanTo_placeBehind]
        exact .inr ⟨_, first, following, shape, isComment, rfl⟩

/-- Where tokens are found, the first one is the end of the line and there are no others, or it is a
lexeme that the others stand behind. -/
theorem mapM_lexFrom_cases {line : Nat} {before text : List Char} {token : Token}
    {others : List Token}
    (found : (lexFrom line (placeBehind before) text).mapM id = .ok (token :: others)) :
    (token = ⟨.lineEnd, spanBehind line (before ++ text) []⟩ ∧ others = []) ∨
      ∃ column first following, text.dropWhile Text.isBlank = first :: following ∧ first ≠ '#' ∧
        (readLexeme column first following).outcome = .ok token.kind ∧
        token.span = spanBehind line (before ++ text.takeWhile Text.isBlank)
          (readLexeme column first following).spelling ∧
        (lexFrom line (placeBehind (before ++ text.takeWhile Text.isBlank ++
            (readLexeme column first following).spelling))
          (readLexeme column first following).rest).mapM id = .ok others := by
  obtain ends | ⟨column, first, following, shape, noComment, steps⟩ :=
    lexFrom_cases line before text
  · rw [ends] at found
    cases found
    exact .inl ⟨rfl, rfl⟩
  · rw [steps, List.mapM_cons, bind_eq_ok_iff] at found
    obtain ⟨_, here, found⟩ := found
    obtain ⟨_, further, found⟩ := bind_eq_ok_iff.mp found
    cases found
    refine .inr ⟨column, first, following, shape, noComment, ?_, ?_, further⟩
    all_goals
      cases outcome : (readLexeme column first following).outcome with
      | error error =>
          rw [outcome] at here
          cases here
      | ok kind =>
          rw [outcome] at here
          cases here
          rfl

/-- The first token that is found in a text begins behind a gap. If blanks are put in the place
of the gap, the words are the same. -/
theorem exists_gap_before {line : Nat} {before text : List Char} {second : Token}
    {later : List Token}
    (found : (lexFrom line (placeBehind before) text).mapM id = .ok (second :: later)) :
    ∃ gap back kinds, text = gap ++ back ∧
      second.span.start = (String.ofList (before ++ gap)).utf8ByteSize ∧
      Spells (second :: later) kinds ∧
      ∀ blanks, (∀ blank ∈ blanks, Text.isBlank blank) → Lexes (blanks ++ back) kinds := by
  obtain ⟨rfl, rfl⟩ | ⟨column, first, following, shape, noComment, outcome, span, further⟩ :=
    mapM_lexFrom_cases found
  · refine ⟨text, [], [], (List.append_nil text).symm, rfl, ⟨[], _, rfl, rfl, rfl⟩,
      fun blanks blank => .done ?_⟩
    rw [List.append_nil]
    exact List.dropWhile_eq_nil_iff.mpr blank
  · obtain ⟨kinds, lexes⟩ := lexes_of_mapM_lexFrom found
    obtain ⟨tokens, same, spells⟩ := lexes.mapM_lexFrom line (placeBehind before)
    cases found.symm.trans same
    refine ⟨text.takeWhile Text.isBlank, text.dropWhile Text.isBlank, kinds,
      List.takeWhile_append_dropWhile.symm, congrArg Span.start span, spells,
      fun blanks blank => (lexes_congr ?_).mp lexes⟩
    rw [List.dropWhile_append_of_pos blank, List.dropWhile_idempotent]

/-- Two tokens one behind the other stand in their text with a gap between them. The words up to the
first one stand before the gap; if blanks are put in its place, those behind it are the same. -/
theorem exists_gap {line : Nat} {before text : List Char} {earlier later : List Token}
    {first second : Token} (found : (lexFrom line (placeBehind before) text).mapM id =
      .ok (earlier ++ first :: second :: later)) :
    ∃ front gap back kinds, text = front ++ (gap ++ back) ∧
      first.span.stop = (String.ofList (before ++ front)).utf8ByteSize ∧
      second.span.start = (String.ofList (before ++ front ++ gap)).utf8ByteSize ∧
      LexesTo (gap ++ back) text ((earlier ++ [first]).map (·.kind)) ∧
      Spells (second :: later) kinds ∧
      ∀ blanks, (∀ blank ∈ blanks, Text.isBlank blank) → Lexes (blanks ++ back) kinds := by
  induction earlier generalizing before text with
  | nil =>
      obtain ⟨-, empty⟩ | ⟨column, head, following, shape, noComment, outcome, span, further⟩ :=
        mapM_lexFrom_cases found
      · cases empty
      · obtain ⟨gap, back, kinds, rest, start, spells, lexes⟩ := exists_gap_before further
        refine ⟨text.takeWhile Text.isBlank ++ (readLexeme column head following).spelling,
          gap, back, kinds, ?_, ?_, ?_, ?_, spells, lexes⟩
        · rw [List.append_assoc, ← rest]
          exact eq_append_lexeme column shape
        · rw [span, spanBehind, List.append_assoc]
        · rw [start, List.append_assoc before]
        · rw [← rest]
          exact .lexeme shape noComment outcome .here
  | cons token others inductionHypothesis =>
      obtain ⟨-, empty⟩ | ⟨column, head, following, shape, noComment, outcome, span, further⟩ :=
        mapM_lexFrom_cases found
      · exact absurd empty (by simp)
      · obtain ⟨front, gap, back, kinds, rest, stop, start, words, spells, lexes⟩ :=
          inductionHypothesis further
        refine ⟨text.takeWhile Text.isBlank ++ (readLexeme column head following).spelling ++
          front, gap, back, kinds, ?_, ?_, ?_, .lexeme shape noComment outcome words, spells, lexes⟩
        · rw [List.append_assoc, ← rest, List.append_assoc]
          exact eq_append_lexeme column shape
        · rw [stop]
          simp only [List.append_assoc]
        · rw [start]
          simp only [List.append_assoc]

end Token

/-- Whether two errors are the same but for their columns. -/
inductive ParseError.SameButColumn : ParseError → ParseError → Prop where
  | same (error : ParseError) : SameButColumn error error
  | unexpected (expected : String) (found : Token.Kind) (column otherColumn : Nat) :
      SameButColumn (.unexpected expected found column) (.unexpected expected found otherColumn)

/-- Texts with the same words say the same, or fail with errors that only differ in columns. -/
theorem Line.agree_ofText_of_kinds {text other : String} {number : Nat}
    {tokens others : List Token} (found : Token.tokenize text number = .ok tokens)
    (otherFound : Token.tokenize other number = .ok others)
    (same : others.map (·.kind) = tokens.map (·.kind)) :
    Agree ParseError.SameButColumn Eq (ofText text number) (ofText other number) := by
  obtain ⟨kinds, -, before, last, rfl, -, -⟩ := Token.tokenize_eq_ok found
  have alike : List.Forall₂ (fun token other : Token => other.kind = token.kind)
      (before ++ [last]) others := by
    have kinds : List.Forall₂ Eq (others.map (·.kind)) ((before ++ [last]).map (·.kind)) := by
      rw [same]
      exact List.forall₂_refl _
    rw [List.forall₂_map_left_iff, List.forall₂_map_right_iff] at kinds
    exact kinds.flip
  have agree := agree_ofTokens id (by simp) alike
  unfold ofText
  rw [found, otherFound]
  refine agree.mono (fun error otherError answers => ?_) fun _ _ => id
  cases answers with
  | unexpected expected shown =>
      rw [shown]
      exact .unexpected expected _ _ _
  | invalidTarget | tooDeeplyNested => exact .same _

/-- Two tokens one behind the other stand in their text with a gap between them, and the length of
the gap does not matter: with any blanks in its place the text has the same words, and says the same
or fails with an error that only differs in its column. -/
theorem Token.tokenize_respaced {text : String} {line : Nat} {earlier later : List Token}
    {first second : Token}
    (found : tokenize text line = .ok (earlier ++ first :: second :: later)) :
    ∃ front gap back, text.toList = front ++ (gap ++ back) ∧
      first.span.stop = (String.ofList front).utf8ByteSize ∧
      second.span.start = (String.ofList (front ++ gap)).utf8ByteSize ∧
      ∀ blanks, blanks ≠ [] → (∀ blank ∈ blanks, Text.isBlank blank) →
        (tokenize (String.ofList (front ++ (blanks ++ back))) line).map (·.map (·.kind)) =
          .ok ((earlier ++ first :: second :: later).map (·.kind)) ∧
        Agree ParseError.SameButColumn Eq (Line.ofText text line)
          (Line.ofText (String.ofList (front ++ (blanks ++ back))) line) := by
  have steps : (lexFrom line (placeBehind []) text.toList).mapM id =
    .ok (earlier ++ first :: second :: later) := found
  obtain ⟨front, gap, back, kinds, split, stop, start, words, spells, lexes⟩ := exists_gap steps
  refine ⟨front, gap, back, split, stop, start, fun blanks nonempty blank => ?_⟩
  obtain ⟨firstBlank, more, rfl⟩ := List.exists_cons_of_ne_nil nonempty
  have parted := isParted_cons (blank firstBlank (List.mem_cons_self ..)) (more ++ back)
  rw [split] at words
  have whole := (words.replace parted).append (lexes (firstBlank :: more) blank)
  rw [← List.cons_append, ← String.toList_ofList (l := front ++ _)] at whole
  obtain ⟨others, otherFound, otherSpells⟩ := whole.tokenize line
  have same : others.map (·.kind) = (earlier ++ first :: second :: later).map (·.kind) := by
    rw [otherSpells.map_kind, List.append_assoc, ← spells.map_kind]
    simp
  refine ⟨?_, Line.agree_ofText_of_kinds found otherFound same⟩
  rw [otherFound, ← same]
  rfl

/-- Points between two digits belong to neither of them, with a blank before them and without. -/
theorem Token.tokenize_respaced_points :
    tokenize "1..2" 1 = .ok [⟨.integer 1, ⟨0, 1, 1, 0⟩⟩, ⟨.symbol .dot, ⟨1, 2, 1, 1⟩⟩,
      ⟨.symbol .dot, ⟨2, 3, 1, 2⟩⟩, ⟨.integer 2, ⟨3, 4, 1, 3⟩⟩, ⟨.lineEnd, ⟨4, 4, 1, 4⟩⟩] ∧
    (tokenize "1\t ..2" 1).map (·.map (·.kind)) =
      .ok [.integer 1, .symbol .dot, .symbol .dot, .integer 2, .lineEnd] ∧
    Agree ParseError.SameButColumn Eq (Line.ofText "1..2" 1) (Line.ofText "1\t ..2" 1) := by
  have found : tokenize "1..2" 1 = .ok ([] ++ ⟨.integer 1, ⟨0, 1, 1, 0⟩⟩ ::
      ⟨.symbol .dot, ⟨1, 2, 1, 1⟩⟩ :: [⟨.symbol .dot, ⟨2, 3, 1, 2⟩⟩, ⟨.integer 2, ⟨3, 4, 1, 3⟩⟩,
        ⟨.lineEnd, ⟨4, 4, 1, 4⟩⟩]) := by
    cbv
  obtain ⟨front, gap, back, split, stop, start, respaced⟩ := tokenize_respaced found
  have whole : ['1', '.', '.', '2'] = front ++ (gap ++ back) := split
  obtain ⟨rfl, rfl⟩ : front = ['1'] ∧ gap = [] := by
    cases front with
    | nil => cases stop
    | cons first others =>
        obtain ⟨rfl, -⟩ := List.cons_eq_cons.mp whole
        rw [List.cons_append] at start
        simp only [String.ofList_cons, String.ofList_append, String.utf8ByteSize_append,
          String.utf8ByteSize_singleton] at stop start
        have one : Char.utf8Size '1' = 1 := rfl
        have noOthers : (String.ofList others).utf8ByteSize = 0 := by omega
        have noGap : (String.ofList gap).utf8ByteSize = 0 := by omega
        simpa using And.intro noOthers noGap
  obtain rfl : ['.', '.', '2'] = back := (List.cons_eq_cons.mp whole).2
  have blank : ∀ blank ∈ ['\t', ' '], Text.isBlank blank := by simp [Text.isBlank]
  exact ⟨found, respaced ['\t', ' '] (by simp) blank⟩

end Offside
