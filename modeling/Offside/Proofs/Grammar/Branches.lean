import Offside.Proofs.Grammar.Reads

/-!
# Which branch the parser takes

The functions of the expression parser choose by the next word. Here each of
their choices is an equation, so that what is proved about the parser later need
not open its functions again.
-/

namespace Offside

namespace Expression

variable {levels : Nat} {cursor : Cursor}

/-- Without an operator of its level next, a chain ends. -/
theorem parseChainFrom_of_none {level : Level} {left : Expression}
    (absent : level.join? cursor.word = Option.none) :
    parseChainFrom level levels left cursor = .ok (left, cursor) := by
  rw [parseChainFrom.eq_def]
  unfold Cursor.word at absent
  simp only [absent]

/-- An operator needs a level. -/
theorem parseChainFrom_zero {level : Level} {left : Expression}
    {join : Expression → Expression → Expression} (shown : level.join? cursor.word = some join) :
    parseChainFrom level 0 left cursor = .error tooDeep := by
  rw [parseChainFrom.eq_def]
  unfold Cursor.word at shown
  simp only [shown]

/-- An operator joins the next operand to what stands before it. -/
theorem parseChainFrom_succ {level : Level} {left : Expression}
    {join : Expression → Expression → Expression} (shown : level.join? cursor.word = some join) :
    parseChainFrom level (levels + 1) left cursor =
      parseOperand level levels cursor.advance >>= fun (right, rest) =>
        parseChainFrom level levels (join left right) rest := by
  rw [parseChainFrom.eq_def]
  unfold Cursor.word at shown
  simp only [shown]

/-- A sign needs a level. -/
theorem parseSigned_zero {op : UnaryOp} (shown : signOp? cursor.word = some op) :
    parseSigned 0 cursor = .error tooDeep := by
  rw [parseSigned.eq_def]
  unfold Cursor.word at shown
  simp only [shown]

/-- A sign belongs to the operand behind it. -/
theorem parseSigned_succ {op : UnaryOp} (shown : signOp? cursor.word = some op) :
    parseSigned (levels + 1) cursor =
      parseSigned levels cursor.advance >>= fun (operand, rest) =>
        .ok (unary op operand, rest) := by
  rw [parseSigned.eq_def]
  unfold Cursor.word at shown
  simp only [shown]

/-- Without a sign next, a primary and its suffixes are read. -/
theorem parseSigned_of_none (absent : signOp? cursor.word = Option.none) :
    parseSigned levels cursor =
      parsePrimary levels cursor >>= fun (object, rest) => parseSuffixes levels object rest := by
  rw [parseSigned.eq_def]
  unfold Cursor.word at absent
  simp only [absent]

variable {object : Expression}

/-- Where no suffix begins, the suffixes end. -/
theorem parseSuffixes_of_none (absent : suffix? cursor.word = Option.none) :
    parseSuffixes levels object cursor = .ok (object, cursor) := by
  rw [parseSuffixes.eq_def]
  unfold Cursor.word at absent
  simp only [absent]

/-- A suffix needs a level. -/
theorem parseSuffixes_zero {suffix : Suffix} (shown : suffix? cursor.word = some suffix) :
    parseSuffixes 0 object cursor = .error tooDeep := by
  rw [parseSuffixes.eq_def]
  unfold Cursor.word at shown
  simp only [shown]

/-- Between parentheses stand the arguments of a call. -/
theorem parseSuffixes_call (shown : cursor.word = .symbol .leftParen) :
    parseSuffixes (levels + 1) object cursor =
      parseItems .rightParen levels cursor.advance >>= fun (arguments, rest) =>
        rest.expect .rightParen >>= fun rest =>
          parseSuffixes levels (call object arguments) rest := by
  rw [parseSuffixes.eq_def]
  unfold Cursor.word at shown
  simp only [shown, suffix?]

/-- Between brackets stands the position of a subscript. -/
theorem parseSuffixes_subscript (shown : cursor.word = .symbol .leftBracket) :
    parseSuffixes (levels + 1) object cursor =
      parse levels cursor.advance >>= fun (position, rest) =>
        rest.expect .rightBracket >>= fun rest =>
          parseSuffixes levels (index object position) rest := by
  rw [parseSuffixes.eq_def]
  unfold Cursor.word at shown
  simp only [shown, suffix?]

/-- Behind a dot stands the name of an attribute. -/
theorem parseSuffixes_member (shown : cursor.word = .symbol .dot) :
    parseSuffixes (levels + 1) object cursor =
      cursor.advance.expectName >>= fun (word, rest) =>
        parseSuffixes levels (member object word) rest := by
  rw [parseSuffixes.eq_def]
  unfold Cursor.word at shown
  simp only [shown, suffix?]

/-- A literal or a name is a primary by itself. -/
theorem parsePrimary_atom {value : Expression} (shown : ofToken? cursor.word = some value) :
    parsePrimary levels cursor = .ok (value, cursor.advance) := by
  rw [parsePrimary.eq_def]
  unfold Cursor.word at shown
  simp only [shown]

/-- Between parentheses stands an expression. -/
theorem parsePrimary_bracketed (shown : cursor.word = .symbol .leftParen) :
    parsePrimary levels cursor =
      parse levels cursor.advance >>= fun (inner, rest) =>
        rest.expect .rightParen >>= fun rest => .ok (inner, rest) := by
  rw [parsePrimary.eq_def]
  unfold Cursor.word at shown
  simp only [shown, ofToken?]

/-- Between brackets stand the elements of a list. -/
theorem parsePrimary_list (shown : cursor.word = .symbol .leftBracket) :
    parsePrimary levels cursor =
      parseItems .rightBracket levels cursor.advance >>= fun (elements, rest) =>
        rest.expect .rightBracket >>= fun rest => .ok (list elements, rest) := by
  rw [parsePrimary.eq_def]
  unfold Cursor.word at shown
  simp only [shown, ofToken?]

/-- A word that is neither a literal nor a name nor an opening bracket is no primary. -/
theorem parsePrimary_otherwise (noAtom : ofToken? cursor.word = Option.none)
    (noParen : cursor.word ≠ .symbol .leftParen) (noBracket : cursor.word ≠ .symbol .leftBracket) :
    parsePrimary levels cursor = .error (cursor.expected "expression") := by
  rw [parsePrimary.eq_def]
  unfold Cursor.word at noAtom noParen noBracket
  simp only [noAtom]

/-- A `not` needs a level. -/
theorem parseNegation_zero (shown : cursor.word = .keyword .kwNot) :
    parseNegation 0 cursor = .error tooDeep := by
  rw [parseNegation.eq_def, if_pos (Cursor.isAtKeyword_iff.mpr shown)]

/-- A `not` belongs to the comparison behind it. -/
theorem parseNegation_succ (shown : cursor.word = .keyword .kwNot) :
    parseNegation (levels + 1) cursor =
      parseNegation levels cursor.advance >>= fun (operand, rest) =>
        .ok (unary .not operand, rest) := by
  rw [parseNegation.eq_def, if_pos (Cursor.isAtKeyword_iff.mpr shown)]

/-- Without a `not` next, a comparison is read. -/
theorem parseNegation_comparison (absent : cursor.word ≠ .keyword .kwNot) :
    parseNegation levels cursor =
      parseChain .sum levels cursor >>= fun (left, rest) =>
        parseLinks levels rest >>= fun (links, rest) => .ok (compared left links, rest) := by
  rw [parseNegation.eq_def, if_neg (mt Cursor.isAtKeyword_iff.mp absent)]

/-- Without a comparison next, the comparisons end. -/
theorem parseLinks_of_none (absent : compareOp? cursor = Option.none) :
    parseLinks levels cursor = .ok ([], cursor) := by
  rw [parseLinks.eq_def]
  split
  · rfl
  · next shown => rw [absent] at shown; cases shown

/-- A comparison has a right operand. -/
theorem parseLinks_of_some {op : CompareOp} {operand : Cursor}
    (shown : compareOp? cursor = some (op, operand)) :
    parseLinks levels cursor =
      parseChain .sum levels operand >>= fun (right, rest) =>
        if rest.remaining < cursor.remaining then
          parseLinks levels rest >>= fun (links, rest) => .ok ((op, right) :: links, rest)
        else .ok ([(op, right)], rest) := by
  rw [parseLinks.eq_def]
  split
  · next absent => rw [absent] at shown; cases shown
  · next found =>
      cases found.symm.trans shown
      rfl

/-- There are no items before the closing symbol. -/
theorem parseItems_of_close {close : Symbol} (shown : cursor.word = .symbol close) :
    parseItems close levels cursor = .ok ([], cursor) := by
  rw [parseItems.eq_def, if_pos (Cursor.isAt_iff.mpr shown)]

/-- Anything but the closing symbol begins an item. -/
theorem parseItems_of_item {close : Symbol} (unclosed : cursor.word ≠ .symbol close) :
    parseItems close levels cursor =
      parse levels cursor >>= fun (item, rest) =>
        if rest.isAt .comma ∧ rest.advance.remaining < cursor.remaining then
          parseItems close levels rest.advance >>= fun (items, rest) => .ok (item :: items, rest)
        else .ok ([item], rest) := by
  rw [parseItems.eq_def, if_neg (mt Cursor.isAt_iff.mp unclosed)]

end Expression

end Offside
