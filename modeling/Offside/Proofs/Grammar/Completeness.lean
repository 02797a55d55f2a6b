import Offside.Proofs.Grammar.Branches

/-!
# The parser reads every phrase

Where the words of a phrase stand at a cursor, and no word that goes on with the
phrase stands behind them, the function for its category reads exactly these
words and gives the meaning of the phrase; when the phrase nests more levels
than the function was given, it reports that, and nothing else. There is one
lemma for each production of the grammar, and an induction on the phrase puts
them together.
-/

namespace Offside

namespace Expression

open Phrase (Category)

/-- A value that takes `needed` levels, where there are `levels`. -/
def within {α : Type} (needed levels : Nat) (value : α) : Except ParseError α :=
  if needed ≤ levels then .ok value else .error tooDeep

/-- A value that takes no levels is always there. -/
theorem within_zero {α : Type} {levels : Nat} {value : α} : within 0 levels value = .ok value :=
  if_pos (Nat.zero_le levels)

/-- A step that needs a level, and leaves the others for its value, takes one level more than
that. -/
theorem within_succ {α : Type} {needed : Nat} {value : α} (read : Nat → Except ParseError α)
    (zero : read 0 = .error tooDeep)
    (succ : ∀ levels, read (levels + 1) = within needed levels value) (levels : Nat) :
    read levels = within (needed + 1) levels value := by
  cases levels with
  | zero =>
      rw [zero]
      exact (if_neg (Nat.not_succ_le_zero needed)).symm
  | succ levels =>
      rw [succ]
      simp only [within, Nat.add_le_add_iff_right]

/-- Two steps take the levels of the one that takes more. -/
theorem within_bind {α β : Type} {first second levels : Nat} {value : α} {result : β}
    {next : α → Except ParseError β} (step : next value = within second levels result) :
    (within first levels value >>= next) = within (max first second) levels result := by
  by_cases enough : first ≤ levels
  · have same : within first levels value = .ok value := if_pos enough
    have both : max first second ≤ levels ↔ second ≤ levels := by omega
    rw [same]
    change next value = _
    simp only [step, within, both]
  · have same : within first levels value = .error tooDeep := if_neg enough
    have neither : ¬ max first second ≤ levels := by omega
    rw [same, within, if_neg neither]
    rfl

/-- A value that is only dressed takes as many levels as before. -/
theorem within_map {α β : Type} {needed levels : Nat} {value : α} {result : β}
    {next : α → Except ParseError β} (step : next value = .ok result) :
    (within needed levels value >>= next) = within needed levels result := by
  have same : next value = within 0 levels result := by rw [step, within_zero]
  rw [within_bind same, Nat.max_zero]

/-- Before a word that `follows` allows, a phrase is read as what `view` shows of its meaning. -/
def Complete {α : Type} {category : Category} (phrase : Phrase category)
    (view : category.Meaning → α) (follows : Token.Kind → Prop)
    (read : Nat → Cursor → Except ParseError (α × Cursor)) : Prop :=
  ∀ levels cursor rest, cursor.Reads phrase.words rest → follows rest.word →
    read levels cursor = within phrase.levels levels (view phrase.meaning, rest)

/-- Whether a phrase of a category cannot go on with a word. -/
def EndsBefore (category : Category) (word : Token.Kind) : Prop :=
  category.continuationRank < word.continuationRank

/-- Every phrase ends before a word of the last rank. -/
theorem endsBefore_of_last {category : Category} {word : Token.Kind}
    (last : word.continuationRank = 7) : EndsBefore category word := by
  unfold EndsBefore
  rw [last]
  cases category with
  | chain level | operand level | operators level => cases level <;> decide
  | _ => decide

/-- What can follow the first part of a phrase ends it: further words of the phrase, or what
follows the whole. -/
theorem continuationRank_le {category : Category} (phrase : Phrase category)
    (behind : category.IsBehind) {cursor rest : Cursor} (reads : cursor.Reads phrase.words rest)
    (ends : EndsBefore category rest.word) :
    category.continuationRank ≤ cursor.word.continuationRank := by
  cases phrase with
  | noOperator | noLink | noSuffix =>
      rw [← reads.eq_of_nil]
      exact Nat.le_of_lt ends
  | operator word join joins =>
      rw [reads.of_cons.1, continuationRank_of_joins joins]
      exact Nat.le_refl _
  | link op =>
      cases op <;> rw [reads.of_cons.1] <;> decide
  | call | subscript | member =>
      rw [reads.of_cons.1]
      decide
  | expression | chain | conjunction | negation | term | signed | not | comparison | sign
  | suffixed | atom | bracketed | list | noArgument | lastArgument | argument => cases behind

/-- A phrase of a tighter category ends where the phrase behind it begins. -/
theorem endsBefore_of_behind {inner category : Category} (phrase : Phrase category)
    (behind : category.IsBehind) (tighter : inner.continuationRank < category.continuationRank)
    {middle rest : Cursor} (reads : middle.Reads phrase.words rest)
    (ends : EndsBefore category rest.word) : EndsBefore inner middle.word :=
  Nat.lt_of_lt_of_le tighter (continuationRank_le phrase behind reads ends)

/-- The operands of a level are tighter than its operators. -/
theorem operand_lt_operators (level : Level) :
    (Category.operand level).continuationRank < (Category.operators level).continuationRank := by
  cases level <;> decide

/-- A phrase that is one of another category by itself is read by the same function. -/
theorem Complete.wrap {α : Type} {inner outer : Category} {phrase : Phrase inner}
    {wrapped : Phrase outer} {view : inner.Meaning → α} {outerView : outer.Meaning → α}
    {follows : Token.Kind → Prop} {read readOuter : Nat → Cursor → Except ParseError (α × Cursor)}
    (complete : Complete phrase view follows read)
    (sameRead : ∀ levels cursor, readOuter levels cursor = read levels cursor)
    (sameMeaning : outerView wrapped.meaning = view phrase.meaning)
    (sameLevels : wrapped.levels = phrase.levels) (sameWords : wrapped.words = phrase.words) :
    Complete wrapped outerView follows readOuter := by
  intro levels cursor rest reads ends
  rw [sameWords] at reads
  rw [sameRead, complete levels cursor rest reads ends, sameMeaning, sameLevels]

/-- The disjunction that an expression is uses up one level. -/
theorem complete_expression {value : Phrase (.chain .disjunction)}
    (complete : Complete value id (EndsBefore (.chain .disjunction))
      (parseChain .disjunction)) :
    Complete (.expression value) id (EndsBefore .expression) parse := by
  intro levels cursor rest reads ends
  refine within_succ (parse · cursor) (by rw [parse]) (fun levels => ?_) levels
  rw [parse]
  exact complete levels cursor rest reads ends

/-- A chain is read operand by operand. -/
theorem complete_chain {level : Level} {first : Phrase (.operand level)}
    {more : Phrase (.operators level)}
    (firstComplete : Complete first id (EndsBefore (.operand level)) (parseOperand level))
    (moreComplete : ∀ left, Complete more (· left) (EndsBefore (.operators level))
      (fun levels cursor => parseChainFrom level levels left cursor)) :
    Complete (.chain first more) id (EndsBefore (.chain level)) (parseChain level) := by
  intro levels cursor rest reads ends
  obtain ⟨middle, firstReads, moreReads⟩ := reads.of_append
  have middleEnds := endsBefore_of_behind more trivial (operand_lt_operators level) moreReads ends
  rw [parseChain, firstComplete levels cursor middle firstReads middleEnds]
  exact within_bind (moreComplete first.meaning levels middle rest moreReads ends)

/-- Where a looser word follows, a chain has no further operators. -/
theorem complete_noOperator {level : Level} (left : Expression) :
    Complete (.noOperator : Phrase (.operators level)) (· left) (EndsBefore (.operators level))
      (fun levels cursor => parseChainFrom level levels left cursor) := by
  intro levels cursor rest reads ends
  cases reads.eq_of_nil
  change parseChainFrom level levels left cursor = _
  rw [parseChainFrom_of_none (join?_eq_none ends)]
  exact within_zero.symm

/-- An operator uses up one level for its right operand and all that follows in the chain. -/
theorem complete_operator {level : Level} {word : Token.Kind}
    {join : Expression → Expression → Expression} {joins : Joins level word join}
    {right : Phrase (.operand level)} {later : Phrase (.operators level)}
    (rightComplete : Complete right id (EndsBefore (.operand level)) (parseOperand level))
    (laterComplete : ∀ left, Complete later (· left) (EndsBefore (.operators level))
      (fun levels cursor => parseChainFrom level levels left cursor)) (left : Expression) :
    Complete (.operator word join joins right later) (· left) (EndsBefore (.operators level))
      (fun levels cursor => parseChainFrom level levels left cursor) := by
  intro levels cursor rest reads ends
  obtain ⟨shown, behind⟩ := reads.of_cons
  obtain ⟨middle, rightReads, laterReads⟩ := behind.of_append
  have found : level.join? cursor.word = some join := by
    rw [shown]
    exact join?_eq_some_iff.mpr joins
  have middleEnds :=
    endsBefore_of_behind later trivial (operand_lt_operators level) laterReads ends
  refine within_succ (parseChainFrom level · left cursor) (parseChainFrom_zero found)
    (fun levels => ?_) levels
  rw [parseChainFrom_succ found, rightComplete levels cursor.advance middle rightReads middleEnds]
  exact within_bind (laterComplete (join left right.meaning) levels middle rest laterReads ends)

/-- A `not` uses up one level for its operand. -/
theorem complete_not {operand : Phrase .negation}
    (complete : Complete operand id (EndsBefore .negation) parseNegation) :
    Complete (.not operand) id (EndsBefore .negation) parseNegation := by
  intro levels cursor rest reads ends
  obtain ⟨shown, behind⟩ := reads.of_cons
  refine within_succ (parseNegation · cursor) (parseNegation_zero shown) (fun levels => ?_) levels
  rw [parseNegation_succ shown, complete levels cursor.advance rest behind ends]
  exact within_map rfl

/-- The first word of a phrase that is not empty is shown where the phrase begins. -/
theorem openingRank_le {category : Category} (phrase : Phrase category)
    (nonempty : 0 < category.openingRank) {cursor rest : Cursor}
    (reads : cursor.Reads phrase.words rest) :
    cursor.word.openingRank ≤ category.openingRank := by
  obtain ⟨word, later, words, rank⟩ := phrase.exists_words_eq_cons nonempty
  rw [words] at reads
  rw [reads.of_cons.1]
  exact rank

/-- A comparison is read operand by operand. -/
theorem complete_comparison {left : Phrase (.chain .sum)} {links : Phrase .comparisons}
    (leftComplete : Complete left id (EndsBefore (.chain .sum)) (parseChain .sum))
    (linksComplete : Complete links id (EndsBefore .comparisons) parseLinks) :
    Complete (.comparison left links) id (EndsBefore .negation) parseNegation := by
  intro levels cursor rest reads ends
  obtain ⟨middle, leftReads, linksReads⟩ := reads.of_append
  have opens := openingRank_le left (by decide) leftReads
  have noNot : cursor.word ≠ .keyword .kwNot := by
    intro shown
    rw [shown] at opens
    exact absurd opens (by decide)
  have middleEnds : EndsBefore (.chain .sum) middle.word :=
    endsBefore_of_behind links trivial (by decide) linksReads ends
  rw [parseNegation_comparison noNot, leftComplete levels cursor middle leftReads middleEnds]
  refine within_bind ?_
  dsimp only
  rw [linksComplete levels middle rest linksReads ends]
  exact within_map rfl

/-- Where a looser word follows, there are no further comparisons. -/
theorem complete_noLink : Complete .noLink id (EndsBefore .comparisons) parseLinks := by
  intro levels cursor rest reads ends
  cases reads.eq_of_nil
  rw [parseLinks_of_none (compareOp?_eq_none ends)]
  exact within_zero.symm

/-- A comparison is read with its right operand; both take tokens. -/
theorem complete_link {op : CompareOp} {right : Phrase (.chain .sum)}
    {later : Phrase .comparisons}
    (rightComplete : Complete right id (EndsBefore (.chain .sum)) (parseChain .sum))
    (laterComplete : Complete later id (EndsBefore .comparisons) parseLinks) :
    Complete (.link op right later) id (EndsBefore .comparisons) parseLinks := by
  intro levels cursor rest reads ends
  obtain ⟨behind, opReads, reads⟩ := reads.of_append
  obtain ⟨middle, rightReads, laterReads⟩ := reads.of_append
  have middleEnds : EndsBefore (.chain .sum) middle.word :=
    endsBefore_of_behind later trivial (by decide) laterReads ends
  have fewer : middle.remaining < cursor.remaining := by
    have opRemaining := opReads.remaining
    have rightRemaining := rightReads.remaining
    have opLength : 0 < op.words.length := by cases op <;> decide
    omega
  rw [parseLinks_of_some (compareOp?_of_reads opReads),
    rightComplete levels behind middle rightReads middleEnds]
  refine within_bind ?_
  dsimp only
  rw [if_pos fewer, laterComplete levels middle rest laterReads ends]
  exact within_map rfl

/-- A sign uses up one level for its operand. -/
theorem complete_sign {word : Token.Kind} {op : UnaryOp} {isSign : IsSign word op}
    {operand : Phrase .signed} (complete : Complete operand id (EndsBefore .signed) parseSigned) :
    Complete (.sign word op isSign operand) id (EndsBefore .signed) parseSigned := by
  intro levels cursor rest reads ends
  obtain ⟨shown, behind⟩ := reads.of_cons
  have found : signOp? cursor.word = some op := by
    rw [shown]
    exact signOp?_eq_some_iff.mpr isSign
  refine within_succ (parseSigned · cursor) (parseSigned_zero found) (fun levels => ?_) levels
  rw [parseSigned_succ found, complete levels cursor.advance rest behind ends]
  exact within_map rfl

/-- An operand without a sign is read with its suffixes. -/
theorem complete_suffixed {object : Phrase .primary} {more : Phrase .suffixes}
    (objectComplete : Complete object id (EndsBefore .primary) parsePrimary)
    (moreComplete : ∀ before, Complete more (· before) (EndsBefore .suffixes)
      (fun levels cursor => parseSuffixes levels before cursor)) :
    Complete (.suffixed object more) id (EndsBefore .signed) parseSigned := by
  intro levels cursor rest reads ends
  obtain ⟨middle, objectReads, moreReads⟩ := reads.of_append
  have opens := openingRank_le object (by decide) objectReads
  have middleEnds : EndsBefore .primary middle.word :=
    endsBefore_of_behind more trivial (by decide) moreReads ends
  rw [parseSigned_of_none (signOp?_eq_none opens),
    objectComplete levels cursor middle objectReads middleEnds]
  exact within_bind (moreComplete object.meaning levels middle rest moreReads ends)

/-- Where a looser word follows, there are no further suffixes. -/
theorem complete_noSuffix (before : Expression) :
    Complete .noSuffix (· before) (EndsBefore .suffixes)
      (fun levels cursor => parseSuffixes levels before cursor) := by
  intro levels cursor rest reads ends
  cases reads.eq_of_nil
  change parseSuffixes levels before cursor = _
  rw [parseSuffixes_of_none (suffix?_eq_none ends)]
  exact within_zero.symm

/-- The brackets around some words stand at the two ends of what is read. -/
theorem reads_between {cursor rest : Cursor} {opening closing : Symbol}
    {inner later : List Token.Kind}
    (reads : cursor.Reads (.symbol opening :: (inner ++ .symbol closing :: later)) rest) :
    cursor.word = .symbol opening ∧ ∃ middle, cursor.advance.Reads inner middle ∧
      middle.word = .symbol closing ∧ middle.expect closing = .ok middle.advance ∧
        middle.advance.Reads later rest := by
  obtain ⟨shown, behind⟩ := reads.of_cons
  obtain ⟨middle, innerReads, closingReads⟩ := behind.of_append
  obtain ⟨closed, laterReads⟩ := closingReads.of_cons
  exact ⟨shown, middle, innerReads, closed, Cursor.expect_eq_ok_iff.mpr ⟨closed, rfl⟩, laterReads⟩

/-- The symbols at which items end. -/
inductive IsClosing : Symbol → Prop where
  | rightParen : IsClosing .rightParen
  | rightBracket : IsClosing .rightBracket

/-- A call uses up one level for its arguments and the suffixes that follow. -/
theorem complete_call {given : Phrase .arguments} {later : Phrase .suffixes}
    (givenComplete : Complete given id (· = .symbol .rightParen) (parseItems .rightParen))
    (laterComplete : ∀ before, Complete later (· before) (EndsBefore .suffixes)
      (fun levels cursor => parseSuffixes levels before cursor)) (before : Expression) :
    Complete (.call given later) (· before) (EndsBefore .suffixes)
      (fun levels cursor => parseSuffixes levels before cursor) := by
  intro levels cursor rest reads ends
  obtain ⟨shown, middle, givenReads, closed, closing, laterReads⟩ := reads_between reads
  have found : suffix? cursor.word = some .call := suffix?_eq_some_iff.mpr shown
  refine within_succ (parseSuffixes · before cursor) (parseSuffixes_zero found)
    (fun levels => ?_) levels
  rw [parseSuffixes_call shown, givenComplete levels cursor.advance middle givenReads closed]
  refine within_bind ?_
  dsimp only
  rw [closing]
  exact laterComplete _ levels middle.advance rest laterReads ends

/-- A subscript uses up one level for its position and the suffixes that follow. -/
theorem complete_subscript {position : Phrase .expression} {later : Phrase .suffixes}
    (positionComplete : Complete position id (EndsBefore .expression) parse)
    (laterComplete : ∀ before, Complete later (· before) (EndsBefore .suffixes)
      (fun levels cursor => parseSuffixes levels before cursor)) (before : Expression) :
    Complete (.subscript position later) (· before) (EndsBefore .suffixes)
      (fun levels cursor => parseSuffixes levels before cursor) := by
  intro levels cursor rest reads ends
  obtain ⟨shown, middle, positionReads, closed, closing, laterReads⟩ := reads_between reads
  have middleEnds : EndsBefore .expression middle.word :=
    endsBefore_of_last (by rw [closed]; rfl)
  have found : suffix? cursor.word = some .subscript := suffix?_eq_some_iff.mpr shown
  refine within_succ (parseSuffixes · before cursor) (parseSuffixes_zero found)
    (fun levels => ?_) levels
  rw [parseSuffixes_subscript shown,
    positionComplete levels cursor.advance middle positionReads middleEnds]
  refine within_bind ?_
  dsimp only
  rw [closing]
  exact laterComplete _ levels middle.advance rest laterReads ends

/-- An attribute uses up one level for the suffixes that follow. -/
theorem complete_member {word : String} {later : Phrase .suffixes}
    (laterComplete : ∀ before, Complete later (· before) (EndsBefore .suffixes)
      (fun levels cursor => parseSuffixes levels before cursor)) (before : Expression) :
    Complete (.member word later) (· before) (EndsBefore .suffixes)
      (fun levels cursor => parseSuffixes levels before cursor) := by
  intro levels cursor rest reads ends
  obtain ⟨dot, behind⟩ := reads.of_cons
  obtain ⟨name, laterReads⟩ := behind.of_cons
  have found : suffix? cursor.word = some .attributeName := suffix?_eq_some_iff.mpr dot
  refine within_succ (parseSuffixes · before cursor) (parseSuffixes_zero found)
    (fun levels => ?_) levels
  rw [parseSuffixes_member dot, Cursor.expectName_eq_ok_iff.mpr ⟨name, rfl⟩]
  exact laterComplete _ levels cursor.advance.advance rest laterReads ends

/-- A literal or a name is read by itself. -/
theorem complete_atom {word : Token.Kind} {value : Expression} (isAtom : IsAtom word value) :
    Complete (.atom word value isAtom) id (EndsBefore .primary) parsePrimary := by
  intro levels cursor rest reads ends
  obtain ⟨shown, behind⟩ := reads.of_cons
  have found : ofToken? cursor.word = some value := by
    rw [shown]
    exact ofToken?_eq_some_iff.mpr isAtom
  rw [parsePrimary_atom found, behind.eq_of_nil]
  exact within_zero.symm

/-- An expression between parentheses is read as itself. -/
theorem complete_bracketed {inner : Phrase .expression}
    (complete : Complete inner id (EndsBefore .expression) parse) :
    Complete (.bracketed inner) id (EndsBefore .primary) parsePrimary := by
  intro levels cursor rest reads ends
  obtain ⟨shown, middle, innerReads, closed, closing, behind⟩ := reads_between reads
  have middleEnds : EndsBefore .expression middle.word :=
    endsBefore_of_last (by rw [closed]; rfl)
  rw [parsePrimary_bracketed shown,
    complete levels cursor.advance middle innerReads middleEnds, behind.eq_of_nil]
  refine within_map ?_
  dsimp only
  rw [closing]
  rfl

/-- Expressions between brackets are read as a list. -/
theorem complete_list {elements : Phrase .arguments}
    (complete : Complete elements id (· = .symbol .rightBracket) (parseItems .rightBracket)) :
    Complete (.list elements) id (EndsBefore .primary) parsePrimary := by
  intro levels cursor rest reads ends
  obtain ⟨shown, middle, elementsReads, closed, closing, behind⟩ := reads_between reads
  rw [parsePrimary_list shown,
    complete levels cursor.advance middle elementsReads closed, behind.eq_of_nil]
  refine within_map ?_
  dsimp only
  rw [closing]
  rfl

/-- Before the closing symbol there are no items. -/
theorem complete_noArgument {close : Symbol} :
    Complete .noArgument id (· = .symbol close) (parseItems close) := by
  intro levels cursor rest reads closed
  cases reads.eq_of_nil
  rw [parseItems_of_close closed]
  exact within_zero.symm

/-- An expression begins with no closing symbol. -/
theorem word_ne_closing {close : Symbol} (closing : IsClosing close) {cursor rest : Cursor}
    {value : Phrase .expression} (reads : cursor.Reads value.words rest) :
    cursor.word ≠ .symbol close := by
  intro shown
  have opens := openingRank_le value (by decide) reads
  rw [shown] at opens
  cases closing <;> exact absurd opens (by decide)

/-- The last item is read up to the closing symbol. -/
theorem complete_lastArgument {close : Symbol} (closing : IsClosing close)
    {value : Phrase .expression} (complete : Complete value id (EndsBefore .expression) parse) :
    Complete (.lastArgument value) id (· = .symbol close) (parseItems close) := by
  intro levels cursor rest reads closed
  have ends : EndsBefore .expression rest.word := by
    rw [closed]
    cases closing <;> exact endsBefore_of_last rfl
  have noComma : ¬ rest.isAt .comma := by
    rw [Cursor.isAt_iff, closed]
    cases closing <;> decide
  rw [parseItems_of_item (word_ne_closing closing reads), complete levels cursor rest reads ends]
  refine within_map ?_
  dsimp only
  rw [if_neg (fun goesOn => noComma goesOn.1)]
  rfl

/-- An item is read up to its comma; both take tokens. -/
theorem complete_argument {close : Symbol} (closing : IsClosing close)
    {value : Phrase .expression} {later : Phrase .arguments}
    (complete : Complete value id (EndsBefore .expression) parse)
    (laterComplete : Complete later id (· = .symbol close) (parseItems close)) :
    Complete (.argument value later) id (· = .symbol close) (parseItems close) := by
  intro levels cursor rest reads closed
  obtain ⟨middle, valueReads, commaReads⟩ := reads.of_append
  obtain ⟨comma, laterReads⟩ := commaReads.of_cons
  have middleEnds : EndsBefore .expression middle.word :=
    endsBefore_of_last (by rw [comma]; rfl)
  have fewer : middle.advance.remaining < cursor.remaining := by
    have valueRemaining := valueReads.remaining
    have commaRemaining := commaReads.remaining
    have laterRemaining := laterReads.remaining
    simp only [List.length_cons] at commaRemaining
    omega
  rw [parseItems_of_item (word_ne_closing closing valueReads),
    complete levels cursor middle valueReads middleEnds]
  refine within_bind ?_
  dsimp only
  rw [if_pos ⟨Cursor.isAt_iff.mpr comma, fewer⟩,
    laterComplete levels middle.advance rest laterReads closed]
  exact within_map rfl

/-- The function of the parser that reads a category, and what must follow what it reads. -/
def IsRead : {category : Category} → Phrase category → Prop
  | .expression, phrase => Complete phrase id (EndsBefore .expression) parse
  | .chain level, phrase => Complete phrase id (EndsBefore (.chain level)) (parseChain level)
  | .operand level, phrase => Complete phrase id (EndsBefore (.operand level)) (parseOperand level)
  | .operators level, phrase => ∀ left, Complete phrase (· left) (EndsBefore (.operators level))
      (fun levels cursor => parseChainFrom level levels left cursor)
  | .negation, phrase => Complete phrase id (EndsBefore .negation) parseNegation
  | .comparisons, phrase => Complete phrase id (EndsBefore .comparisons) parseLinks
  | .signed, phrase => Complete phrase id (EndsBefore .signed) parseSigned
  | .suffixes, phrase => ∀ before, Complete phrase (· before) (EndsBefore .suffixes)
      (fun levels cursor => parseSuffixes levels before cursor)
  | .primary, phrase => Complete phrase id (EndsBefore .primary) parsePrimary
  | .arguments, phrase => ∀ close, IsClosing close →
      Complete phrase id (· = .symbol close) (parseItems close)

/-- Every phrase is read. -/
theorem isRead {category : Category} (phrase : Phrase category) : IsRead phrase := by
  induction phrase with
  | expression value complete => exact complete_expression complete
  | chain first more firstComplete moreComplete => exact complete_chain firstComplete moreComplete
  | conjunction value complete =>
      exact Complete.wrap complete (fun _ _ => by rw [parseOperand]) rfl rfl rfl
  | negation value complete =>
      exact Complete.wrap complete (fun _ _ => by rw [parseOperand]) rfl rfl rfl
  | term value complete =>
      exact Complete.wrap complete (fun _ _ => by rw [parseOperand]) rfl rfl rfl
  | signed value complete =>
      exact Complete.wrap complete (fun _ _ => by rw [parseOperand]) rfl rfl rfl
  | noOperator => exact complete_noOperator
  | operator word join joins right later rightComplete laterComplete =>
      exact complete_operator rightComplete laterComplete
  | not operand complete => exact complete_not complete
  | comparison left links leftComplete linksComplete =>
      exact complete_comparison leftComplete linksComplete
  | noLink => exact complete_noLink
  | link op right later rightComplete laterComplete =>
      exact complete_link rightComplete laterComplete
  | sign word op isSign operand complete => exact complete_sign complete
  | suffixed object more objectComplete moreComplete =>
      exact complete_suffixed objectComplete moreComplete
  | noSuffix => exact complete_noSuffix
  | call given later givenComplete laterComplete =>
      exact complete_call (givenComplete _ .rightParen) laterComplete
  | subscript position later positionComplete laterComplete =>
      exact complete_subscript positionComplete laterComplete
  | member word later laterComplete => exact complete_member laterComplete
  | atom word value isAtom => exact complete_atom isAtom
  | bracketed inner complete => exact complete_bracketed complete
  | list elements complete => exact complete_list (complete _ .rightBracket)
  | noArgument =>
      intro close closing
      exact complete_noArgument
  | lastArgument value complete =>
      intro close closing
      exact complete_lastArgument closing complete
  | argument value later complete laterComplete =>
      intro close closing
      exact complete_argument closing complete (laterComplete close closing)

/-- An expression that stands at a cursor is read there, when it does not nest too deeply. -/
theorem parse_complete (value : Phrase .expression) {levels : Nat} {cursor rest : Cursor}
    (reads : cursor.Reads value.words rest) (ends : EndsBefore .expression rest.word) :
    parse levels cursor = within value.levels levels (value.meaning, rest) :=
  isRead value levels cursor rest reads ends

end Expression

end Offside
