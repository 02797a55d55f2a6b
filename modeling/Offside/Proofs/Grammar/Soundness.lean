import Offside.Proofs.Grammar.Branches

/-!
# What the parser reads is a phrase

Whenever a function of the expression parser gives a result, the words it has
read spell a phrase of its category that means the result and nests no more
levels than the function was given. Each function gets its own lemma, under the
same statement about the functions it calls; the recursion of the parser then
puts the lemmas together.
-/

namespace Offside

namespace Expression

open Phrase (Category)

/-- Every result of reading from a closed cursor is a phrase of `category`; `view` is what the
result shows of the meaning. -/
def Sound {α : Type} (category : Category) (view : category.Meaning → α) (levels : Nat)
    (cursor : Cursor) (outcome : Except ParseError (α × Cursor)) : Prop :=
  cursor.IsClosed → ∀ value rest, outcome = .ok (value, rest) →
    ∃ phrase : Phrase category, view phrase.meaning = value ∧ phrase.levels ≤ levels ∧
      cursor.Reads phrase.words rest

variable {levels : Nat} {cursor : Cursor}

/-- An error is no result. -/
theorem sound_error {α : Type} {category : Category} {view : category.Meaning → α}
    {error : ParseError} : Sound category view levels cursor (.error error) := by
  intro _ value rest found
  cases found

/-- A phrase of one category that is a phrase of another by itself is read as either. -/
theorem Sound.wrap {α : Type} {inner outer : Category} {view : inner.Meaning → α}
    {outerView : outer.Meaning → α} {outcome : Except ParseError (α × Cursor)}
    (sound : Sound inner view levels cursor outcome) (wrap : Phrase inner → Phrase outer)
    (meaning : ∀ phrase, outerView (wrap phrase).meaning = view phrase.meaning)
    (sameLevels : ∀ phrase, (wrap phrase).levels = phrase.levels)
    (sameWords : ∀ phrase, (wrap phrase).words = phrase.words) :
    Sound outer outerView levels cursor outcome := by
  intro closed value rest found
  obtain ⟨phrase, rfl, within, reads⟩ := sound closed value rest found
  refine ⟨wrap phrase, meaning phrase, ?_, ?_⟩
  · rw [sameLevels]
    exact within
  · rw [sameWords]
    exact reads

/-- What is read between an opening and a closing symbol is a phrase with these symbols around
it. -/
theorem Sound.between {α : Type} {category : Category} {opening closing : Symbol}
    {outcome : Except ParseError (category.Meaning × Cursor)} {result : α}
    (inner : Sound category id levels cursor.advance outcome)
    (next : category.Meaning → Cursor → Except ParseError α)
    (closed : cursor.IsClosed) (shown : cursor.word = .symbol opening)
    (found : (outcome >>= fun (value, rest) =>
      rest.expect closing >>= fun rest => next value rest) = .ok result) :
    ∃ (phrase : Phrase category) (outer : Cursor), phrase.levels ≤ levels ∧
      cursor.Reads (.symbol opening :: (phrase.words ++ [.symbol closing])) outer ∧
        next phrase.meaning outer = .ok result := by
  obtain ⟨⟨value, middle⟩, valueFound, found⟩ := bind_eq_ok_iff.mp found
  obtain ⟨outer, closingFound, found⟩ := bind_eq_ok_iff.mp found
  obtain ⟨closingShown, rfl⟩ := Cursor.expect_eq_ok_iff.mp closingFound
  have before := Cursor.reads_of_word closed shown (by simp)
  obtain ⟨phrase, rfl, within, reads⟩ := inner (before.isClosed closed) value middle valueFound
  have behind :=
    Cursor.reads_of_word (reads.isClosed (before.isClosed closed)) closingShown (by simp)
  exact ⟨phrase, _, within, before.trans (reads.trans behind), found⟩

/-- An expression is the disjunction that it is read as. -/
theorem sound_parse
    (chain : Sound (.chain .disjunction) id levels cursor (parseChain .disjunction levels cursor)) :
    Sound .expression id (levels + 1) cursor (parse (levels + 1) cursor) := by
  intro closed value rest found
  rw [parse] at found
  obtain ⟨phrase, rfl, within, reads⟩ := chain closed value rest found
  exact ⟨.expression phrase, rfl, Nat.succ_le_succ within, reads⟩

/-- A chain is its first operand and the operators that follow. -/
theorem sound_parseChain {level : Level}
    (operand : Sound (.operand level) id levels cursor (parseOperand level levels cursor))
    (more : ∀ first cursor, Sound (.operators level) (· first) levels cursor
      (parseChainFrom level levels first cursor)) :
    Sound (.chain level) id levels cursor (parseChain level levels cursor) := by
  intro closed value rest found
  rw [parseChain] at found
  obtain ⟨⟨first, middle⟩, firstFound, moreFound⟩ := bind_eq_ok_iff.mp found
  obtain ⟨phrase, rfl, within, reads⟩ := operand closed first middle firstFound
  obtain ⟨later, rfl, laterWithin, laterReads⟩ :=
    more _ middle (reads.isClosed closed) value rest moreFound
  exact ⟨.chain phrase later, rfl, Nat.max_le.mpr ⟨within, laterWithin⟩, reads.trans laterReads⟩

/-- Where no operator follows, none are read. -/
theorem sound_parseChainFrom_of_none {level : Level} {left : Expression}
    (absent : level.join? cursor.word = Option.none) :
    Sound (.operators level) (· left) levels cursor (parseChainFrom level levels left cursor) := by
  intro _ value rest found
  rw [parseChainFrom_of_none absent] at found
  cases found
  exact ⟨.noOperator, rfl, Nat.zero_le levels, .refl cursor⟩

/-- An operator goes with its right operand and the operators that follow. -/
theorem sound_parseChainFrom_of_some {level : Level} {left : Expression}
    {join : Expression → Expression → Expression} (shown : level.join? cursor.word = some join)
    (operand : Sound (.operand level) id levels cursor.advance
      (parseOperand level levels cursor.advance))
    (more : ∀ right cursor, Sound (.operators level) (· (join left right)) levels cursor
      (parseChainFrom level levels (join left right) cursor)) :
    Sound (.operators level) (· left) (levels + 1) cursor
      (parseChainFrom level (levels + 1) left cursor) := by
  intro closed value rest found
  rw [parseChainFrom_succ shown] at found
  obtain ⟨⟨right, middle⟩, rightFound, moreFound⟩ := bind_eq_ok_iff.mp found
  have joins := join?_eq_some_iff.mp shown
  have word := Cursor.reads_advance closed (by intro ended; rw [ended] at joins; cases joins)
  obtain ⟨phrase, rfl, within, reads⟩ := operand (word.isClosed closed) right middle rightFound
  obtain ⟨later, rfl, laterWithin, laterReads⟩ :=
    more _ middle (reads.isClosed (word.isClosed closed)) value rest moreFound
  refine ⟨.operator _ join joins phrase later, rfl, ?_, word.trans (reads.trans laterReads)⟩
  exact Nat.succ_le_succ (Nat.max_le.mpr ⟨within, laterWithin⟩)

/-- A sign goes with its operand. -/
theorem sound_parseSigned_of_some {op : UnaryOp} (shown : signOp? cursor.word = some op)
    (operand : Sound .signed id levels cursor.advance (parseSigned levels cursor.advance)) :
    Sound .signed id (levels + 1) cursor (parseSigned (levels + 1) cursor) := by
  intro closed value rest found
  rw [parseSigned_succ shown] at found
  obtain ⟨⟨inner, middle⟩, innerFound, same⟩ := bind_eq_ok_iff.mp found
  cases same
  have isSign := signOp?_eq_some_iff.mp shown
  have word := Cursor.reads_advance closed (by intro ended; rw [ended] at isSign; cases isSign)
  obtain ⟨phrase, rfl, within, reads⟩ := operand (word.isClosed closed) inner rest innerFound
  exact ⟨.sign _ op isSign phrase, rfl, Nat.succ_le_succ within, word.trans reads⟩

/-- An operand without a sign is a primary and the suffixes that follow. -/
theorem sound_parseSigned_of_none (absent : signOp? cursor.word = Option.none)
    (primary : Sound .primary id levels cursor (parsePrimary levels cursor))
    (more : ∀ object cursor, Sound .suffixes (· object) levels cursor
      (parseSuffixes levels object cursor)) :
    Sound .signed id levels cursor (parseSigned levels cursor) := by
  intro closed value rest found
  rw [parseSigned_of_none absent] at found
  obtain ⟨⟨object, middle⟩, objectFound, moreFound⟩ := bind_eq_ok_iff.mp found
  obtain ⟨phrase, rfl, within, reads⟩ := primary closed object middle objectFound
  obtain ⟨later, rfl, laterWithin, laterReads⟩ :=
    more _ middle (reads.isClosed closed) value rest moreFound
  exact ⟨.suffixed phrase later, rfl, Nat.max_le.mpr ⟨within, laterWithin⟩, reads.trans laterReads⟩

/-- Where no suffix follows, none are read. -/
theorem sound_parseSuffixes_of_none {object : Expression}
    (absent : suffix? cursor.word = Option.none) :
    Sound .suffixes (· object) levels cursor (parseSuffixes levels object cursor) := by
  intro _ value rest found
  rw [parseSuffixes_of_none absent] at found
  cases found
  exact ⟨.noSuffix, rfl, Nat.zero_le levels, .refl cursor⟩

/-- A call is its arguments between parentheses, and goes with the suffixes that follow. -/
theorem sound_parseSuffixes_call {object : Expression} (shown : cursor.word = .symbol .leftParen)
    (items : Sound .arguments id levels cursor.advance
      (parseItems .rightParen levels cursor.advance))
    (more : ∀ arguments cursor, Sound .suffixes (· (call object arguments)) levels cursor
      (parseSuffixes levels (call object arguments) cursor)) :
    Sound .suffixes (· object) (levels + 1) cursor (parseSuffixes (levels + 1) object cursor) := by
  intro closed value rest found
  rw [parseSuffixes_call shown] at found
  obtain ⟨given, outer, within, reads, moreFound⟩ :=
    items.between (fun arguments => parseSuffixes levels (call object arguments)) closed shown found
  obtain ⟨later, rfl, laterWithin, laterReads⟩ :=
    more _ outer (reads.isClosed closed) value rest moreFound
  refine ⟨.call given later, rfl, Nat.succ_le_succ (Nat.max_le.mpr ⟨within, laterWithin⟩), ?_⟩
  simpa [Phrase.words] using reads.trans laterReads

/-- A subscript is its position between brackets, and goes with the suffixes that follow. -/
theorem sound_parseSuffixes_subscript {object : Expression}
    (shown : cursor.word = .symbol .leftBracket)
    (inner : Sound .expression id levels cursor.advance (parse levels cursor.advance))
    (more : ∀ position cursor, Sound .suffixes (· (index object position)) levels cursor
      (parseSuffixes levels (index object position) cursor)) :
    Sound .suffixes (· object) (levels + 1) cursor (parseSuffixes (levels + 1) object cursor) := by
  intro closed value rest found
  rw [parseSuffixes_subscript shown] at found
  obtain ⟨position, outer, within, reads, moreFound⟩ :=
    inner.between (fun position => parseSuffixes levels (index object position)) closed shown found
  obtain ⟨later, rfl, laterWithin, laterReads⟩ :=
    more _ outer (reads.isClosed closed) value rest moreFound
  refine ⟨.subscript position later, rfl,
    Nat.succ_le_succ (Nat.max_le.mpr ⟨within, laterWithin⟩), ?_⟩
  simpa [Phrase.words] using reads.trans laterReads

/-- An attribute is its name behind a dot, and goes with the suffixes that follow. -/
theorem sound_parseSuffixes_member {object : Expression} (shown : cursor.word = .symbol .dot)
    (more : ∀ word cursor, Sound .suffixes (· (member object word)) levels cursor
      (parseSuffixes levels (member object word) cursor)) :
    Sound .suffixes (· object) (levels + 1) cursor (parseSuffixes (levels + 1) object cursor) := by
  intro closed value rest found
  rw [parseSuffixes_member shown] at found
  obtain ⟨⟨name, middle⟩, nameFound, moreFound⟩ := bind_eq_ok_iff.mp found
  obtain ⟨nameShown, rfl⟩ := Cursor.expectName_eq_ok_iff.mp nameFound
  have dot := Cursor.reads_of_word closed shown (by decide)
  have word := Cursor.reads_of_word (dot.isClosed closed) nameShown (by simp)
  obtain ⟨later, rfl, laterWithin, laterReads⟩ :=
    more name _ (word.isClosed (dot.isClosed closed)) value rest moreFound
  exact ⟨.member name later, rfl, Nat.succ_le_succ laterWithin, dot.trans (word.trans laterReads)⟩

/-- A literal or a name is a primary. -/
theorem sound_parsePrimary_atom {found : Expression} (shown : ofToken? cursor.word = some found) :
    Sound .primary id levels cursor (parsePrimary levels cursor) := by
  intro closed value rest same
  rw [parsePrimary_atom shown] at same
  cases same
  have isAtom := ofToken?_eq_some_iff.mp shown
  have word := Cursor.reads_advance closed (by intro ended; rw [ended] at isAtom; cases isAtom)
  exact ⟨.atom _ found isAtom, rfl, Nat.zero_le levels, word⟩

/-- An expression between parentheses is a primary. -/
theorem sound_parsePrimary_bracketed (shown : cursor.word = .symbol .leftParen)
    (inner : Sound .expression id levels cursor.advance (parse levels cursor.advance)) :
    Sound .primary id levels cursor (parsePrimary levels cursor) := by
  intro closed value rest found
  rw [parsePrimary_bracketed shown] at found
  obtain ⟨phrase, outer, within, reads, same⟩ :=
    inner.between (fun value rest => .ok (value, rest)) closed shown found
  cases same
  exact ⟨.bracketed phrase, rfl, within, reads⟩

/-- Expressions between brackets are a primary. -/
theorem sound_parsePrimary_list (shown : cursor.word = .symbol .leftBracket)
    (items : Sound .arguments id levels cursor.advance
      (parseItems .rightBracket levels cursor.advance)) :
    Sound .primary id levels cursor (parsePrimary levels cursor) := by
  intro closed value rest found
  rw [parsePrimary_list shown] at found
  obtain ⟨elements, outer, within, reads, same⟩ :=
    items.between (fun elements rest => .ok (list elements, rest)) closed shown found
  cases same
  exact ⟨.list elements, rfl, within, reads⟩

/-- A `not` goes with the comparison behind it. -/
theorem sound_parseNegation_succ (shown : cursor.word = .keyword .kwNot)
    (operand : Sound .negation id levels cursor.advance (parseNegation levels cursor.advance)) :
    Sound .negation id (levels + 1) cursor (parseNegation (levels + 1) cursor) := by
  intro closed value rest found
  rw [parseNegation_succ shown] at found
  obtain ⟨⟨inner, middle⟩, innerFound, same⟩ := bind_eq_ok_iff.mp found
  cases same
  have word := Cursor.reads_of_word closed shown (by decide)
  obtain ⟨phrase, rfl, within, reads⟩ := operand (word.isClosed closed) inner rest innerFound
  exact ⟨.not phrase, rfl, Nat.succ_le_succ within, word.trans reads⟩

/-- A comparison is its first operand and the comparisons that follow. -/
theorem sound_parseNegation_comparison (absent : cursor.word ≠ .keyword .kwNot)
    (operand : Sound (.chain .sum) id levels cursor (parseChain .sum levels cursor))
    (more : ∀ cursor, Sound .comparisons id levels cursor (parseLinks levels cursor)) :
    Sound .negation id levels cursor (parseNegation levels cursor) := by
  intro closed value rest found
  rw [parseNegation_comparison absent] at found
  obtain ⟨⟨left, middle⟩, leftFound, found⟩ := bind_eq_ok_iff.mp found
  obtain ⟨⟨links, outer⟩, linksFound, same⟩ := bind_eq_ok_iff.mp found
  cases same
  obtain ⟨phrase, rfl, within, reads⟩ := operand closed left middle leftFound
  obtain ⟨later, rfl, laterWithin, laterReads⟩ :=
    more middle (reads.isClosed closed) links rest linksFound
  refine ⟨.comparison phrase later, ?_, Nat.max_le.mpr ⟨within, laterWithin⟩,
    reads.trans laterReads⟩
  unfold compared
  rfl

/-- Where no comparison follows, none are read. -/
theorem sound_parseLinks_of_none (absent : compareOp? cursor = Option.none) :
    Sound .comparisons id levels cursor (parseLinks levels cursor) := by
  intro _ value rest found
  rw [parseLinks_of_none absent] at found
  cases found
  exact ⟨.noLink, rfl, Nat.zero_le levels, .refl cursor⟩

/-- A comparison goes with its right operand and the comparisons that follow. -/
theorem sound_parseLinks_of_some {op : CompareOp} {behind : Cursor}
    (shown : compareOp? cursor = some (op, behind))
    (operand : Sound (.chain .sum) id levels behind (parseChain .sum levels behind))
    (more : ∀ rest, rest.remaining < cursor.remaining →
      Sound .comparisons id levels rest (parseLinks levels rest)) :
    Sound .comparisons id levels cursor (parseLinks levels cursor) := by
  intro closed value rest found
  rw [parseLinks_of_some shown] at found
  obtain ⟨⟨right, middle⟩, rightFound, found⟩ := bind_eq_ok_iff.mp found
  have word := reads_of_compareOp? closed shown
  obtain ⟨phrase, rfl, within, reads⟩ := operand (word.isClosed closed) right middle rightFound
  dsimp only at found
  split at found
  · next fewer =>
      obtain ⟨⟨links, outer⟩, linksFound, same⟩ := bind_eq_ok_iff.mp found
      cases same
      obtain ⟨later, rfl, laterWithin, laterReads⟩ :=
        more middle fewer (reads.isClosed (word.isClosed closed)) links _ linksFound
      exact ⟨.link op phrase later, rfl, Nat.max_le.mpr ⟨within, laterWithin⟩,
        word.trans (reads.trans laterReads)⟩
  · cases found
    refine ⟨.link op phrase .noLink, rfl, Nat.max_le.mpr ⟨within, Nat.zero_le levels⟩, ?_⟩
    simpa [Phrase.words] using word.trans reads

/-- Before the closing symbol, no items are read. -/
theorem sound_parseItems_of_close {close : Symbol} (shown : cursor.word = .symbol close) :
    Sound .arguments id levels cursor (parseItems close levels cursor) := by
  intro _ value rest found
  rw [parseItems_of_close shown] at found
  cases found
  exact ⟨.noArgument, rfl, Nat.zero_le levels, .refl cursor⟩

/-- An item is an expression, and after a comma there may be more of them. -/
theorem sound_parseItems_of_item {close : Symbol} (unclosed : cursor.word ≠ .symbol close)
    (item : Sound .expression id levels cursor (parse levels cursor))
    (more : ∀ rest : Cursor, rest.isAt .comma ∧ rest.advance.remaining < cursor.remaining →
      Sound .arguments id levels rest.advance (parseItems close levels rest.advance)) :
    Sound .arguments id levels cursor (parseItems close levels cursor) := by
  intro closed value rest found
  rw [parseItems_of_item unclosed] at found
  obtain ⟨⟨first, middle⟩, firstFound, found⟩ := bind_eq_ok_iff.mp found
  obtain ⟨phrase, rfl, within, reads⟩ := item closed first middle firstFound
  dsimp only at found
  split at found
  · next goesOn =>
      have comma := Cursor.reads_of_word (reads.isClosed closed)
        (Cursor.isAt_iff.mp goesOn.1) (by decide)
      obtain ⟨⟨items, outer⟩, itemsFound, same⟩ := bind_eq_ok_iff.mp found
      cases same
      obtain ⟨later, rfl, laterWithin, laterReads⟩ :=
        more middle goesOn (comma.isClosed (reads.isClosed closed)) items _ itemsFound
      exact ⟨.argument phrase later, rfl, Nat.max_le.mpr ⟨within, laterWithin⟩,
        reads.trans (comma.trans laterReads)⟩
  · cases found
    exact ⟨.lastArgument phrase, rfl, within, reads⟩

/-- Every expression that the parser reads is a phrase. -/
theorem parse_sound (levels : Nat) (cursor : Cursor) :
    Sound .expression id levels cursor (parse levels cursor) := by
  -- the motives state the same of the functions that `parse` calls, in the order of its recursion
  apply parse.induct
    (fun levels cursor => Sound .expression id levels cursor (parse levels cursor))
    (fun level levels cursor =>
      Sound (.chain level) id levels cursor (parseChain level levels cursor))
    (fun level levels left cursor =>
      Sound (.operators level) (· left) levels cursor (parseChainFrom level levels left cursor))
    (fun level levels cursor =>
      Sound (.operand level) id levels cursor (parseOperand level levels cursor))
    (fun levels cursor => Sound .signed id levels cursor (parseSigned levels cursor))
    (fun levels object cursor =>
      Sound .suffixes (· object) levels cursor (parseSuffixes levels object cursor))
    (fun close levels cursor => Sound .arguments id levels cursor (parseItems close levels cursor))
    (fun levels cursor => Sound .primary id levels cursor (parsePrimary levels cursor))
    (fun levels cursor => Sound .negation id levels cursor (parseNegation levels cursor))
    (fun levels cursor => Sound .comparisons id levels cursor (parseLinks levels cursor))
  case case1 =>
    intro cursor
    rw [parse]
    exact sound_error
  case case2 =>
    intro cursor levels chain
    exact sound_parse chain
  case case3 =>
    intro level levels cursor operand more
    exact sound_parseChain operand more
  case case4 =>
    intro level levels left cursor absent
    exact sound_parseChainFrom_of_none absent
  case case5 =>
    intro level left cursor join shown
    rw [parseChainFrom_zero shown]
    exact sound_error
  case case6 =>
    intro level left cursor join levels shown operand more
    exact sound_parseChainFrom_of_some shown operand more
  case case7 =>
    intro levels cursor chain
    rw [parseOperand]
    exact chain.wrap .conjunction (fun _ => rfl) (fun _ => rfl) (fun _ => rfl)
  case case8 =>
    intro levels cursor negation
    rw [parseOperand]
    exact negation.wrap .negation (fun _ => rfl) (fun _ => rfl) (fun _ => rfl)
  case case9 =>
    intro levels cursor chain
    rw [parseOperand]
    exact chain.wrap .term (fun _ => rfl) (fun _ => rfl) (fun _ => rfl)
  case case10 =>
    intro levels cursor signed
    rw [parseOperand]
    exact signed.wrap .signed (fun _ => rfl) (fun _ => rfl) (fun _ => rfl)
  case case11 =>
    intro cursor op shown
    rw [parseSigned_zero shown]
    exact sound_error
  case case12 =>
    intro cursor op levels shown operand
    exact sound_parseSigned_of_some shown operand
  case case13 =>
    intro cursor levels absent primary more
    exact sound_parseSigned_of_none absent primary more
  case case14 =>
    intro levels object cursor absent
    exact sound_parseSuffixes_of_none absent
  case case15 =>
    intro object cursor suffix shown
    rw [parseSuffixes_zero shown]
    exact sound_error
  case case16 =>
    intro object cursor levels shown items more
    exact sound_parseSuffixes_call (suffix?_eq_some_iff.mp shown) items more
  case case17 =>
    intro object cursor levels shown inner more
    exact sound_parseSuffixes_subscript (suffix?_eq_some_iff.mp shown) inner more
  case case18 =>
    intro object cursor levels shown more
    exact sound_parseSuffixes_member (suffix?_eq_some_iff.mp shown) more
  case case19 =>
    intro close levels cursor shown
    exact sound_parseItems_of_close (Cursor.isAt_iff.mp shown)
  case case20 =>
    intro close levels cursor unclosed item more
    exact sound_parseItems_of_item (mt Cursor.isAt_iff.mpr unclosed) item more
  case case21 =>
    intro levels cursor value shown
    exact sound_parsePrimary_atom shown
  case case22 =>
    intro levels cursor _ shown inner
    exact sound_parsePrimary_bracketed shown inner
  case case23 =>
    intro levels cursor _ shown items
    exact sound_parsePrimary_list shown items
  case case24 =>
    intro levels cursor noAtom noParen noBracket
    rw [parsePrimary_otherwise noAtom noParen noBracket]
    exact sound_error
  case case25 =>
    intro cursor shown
    rw [parseNegation_zero (Cursor.isAtKeyword_iff.mp shown)]
    exact sound_error
  case case26 =>
    intro cursor shown levels operand
    exact sound_parseNegation_succ (Cursor.isAtKeyword_iff.mp shown) operand
  case case27 =>
    intro levels cursor absent operand more
    exact sound_parseNegation_comparison (mt Cursor.isAtKeyword_iff.mpr absent) operand more
  case case28 =>
    intro levels cursor absent
    exact sound_parseLinks_of_none absent
  case case29 =>
    intro levels cursor op behind shown operand more
    exact sound_parseLinks_of_some shown operand more

end Expression

end Offside
