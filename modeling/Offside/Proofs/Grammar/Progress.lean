import Offside.Proofs.Grammar.Agreement

/-!
# Loops that go on only while tokens are read

Past the end of its tokens a cursor shows the last of them again and again, so that a loop could go
on there without reading anything. The parser's loops over comparisons and over items therefore look
at how many tokens are left, but they need not: where a word opens an operand, it is neither a
comparison nor a comma (`parseLinks_unguarded`, `parseItems_unguarded`).
-/

namespace Offside

open Expression (Level)

namespace Cursor

/-- Where no token is left, there is none to go on behind. -/
theorem advance_of_remaining {cursor : Cursor} (exhausted : cursor.remaining = 0) :
    cursor.advance = cursor := by
  refine ext_shown ?_ rfl
  have empty := cursor.remaining_eq.symm.trans exhausted
  rw [ahead_advance, List.length_eq_zero_iff.mp empty, List.tail_nil]

/-- Where tokens are left, one fewer is left behind the next. -/
theorem remaining_advance_lt {cursor : Cursor} (left : cursor.remaining ≠ 0) :
    cursor.advance.remaining < cursor.remaining :=
  Nat.sub_one_lt left

/-- No more tokens are left behind the next one than before it. -/
theorem remaining_advance_le (cursor : Cursor) :
    cursor.advance.remaining ≤ cursor.remaining :=
  Nat.sub_le cursor.remaining 1

/-- The next word past the end is that of the last token. -/
theorem word_of_remaining {cursor : Cursor} (exhausted : cursor.remaining = 0) :
    cursor.word = cursor.last.kind := by
  have empty := cursor.remaining_eq.symm.trans exhausted
  rw [word, current, List.length_eq_zero_iff.mp empty, List.headD_nil]

/-- Whether a cursor is a place that can be reached from another one. -/
structure IsBehind (cursor start : Cursor) : Prop where
  remaining : cursor.remaining ≤ start.remaining
  last : cursor.last = start.last

/-- Every place can be reached from itself. -/
theorem IsBehind.refl (cursor : Cursor) : cursor.IsBehind cursor :=
  ⟨Nat.le_refl _, rfl⟩

/-- From a place that can be reached, the next one can be reached, too. -/
theorem IsBehind.advance {cursor start : Cursor} (behind : cursor.IsBehind start) :
    cursor.advance.IsBehind start :=
  ⟨cursor.remaining_advance_le.trans behind.remaining, behind.last⟩

/-- What stays true of a cursor that goes on behind words other than the end of the line is passed
on by every function of the parser. -/
theorem walks_self {Invariant : Cursor → Prop}
    (preserved : ∀ {cursor : Cursor}, Invariant cursor → cursor.word ≠ .lineEnd →
      Invariant cursor.advance) :
    Walks Eq fun cursor other => other = cursor ∧ Invariant cursor where
  sameKind := by
    rintro token _ rfl
    rfl
  current := by
    rintro cursor _ ⟨rfl, -⟩
    rfl
  advance := by
    rintro cursor _ ⟨rfl, holds⟩ inside
    exact ⟨rfl, preserved holds inside⟩
  remaining := by
    rintro cursor _ rest _ ⟨rfl, -⟩ ⟨rfl, -⟩
    rfl

end Cursor

/-- What is read where an invariant holds goes on where it holds. -/
theorem Corresponds.invariant {related : Token → Token → Prop} {Invariant : Cursor → Prop}
    {α : Type} {reading : Except ParseError (α × Cursor)} {value : α} {rest : Cursor}
    (corresponds : Corresponds related (fun cursor other => other = cursor ∧ Invariant cursor)
      reading reading)
    (found : reading = .ok (value, rest)) : Invariant rest := by
  rw [found] at corresponds
  obtain ⟨_, _, -, -, holds⟩ := Agree.of_ok corresponds
  exact holds

namespace Expression

variable {levels : Nat} {cursor rest : Cursor} {value : Expression}

/-- Every function of the parser goes on behind where it began. -/
theorem walks_isBehind (start : Cursor) :
    Cursor.Walks Eq fun cursor other => other = cursor ∧ cursor.IsBehind start :=
  Cursor.walks_self fun behind _ => behind.advance

/-- An expression is read up to a place behind its beginning. -/
theorem isBehind_of_parse (found : parse levels cursor = .ok (value, rest)) :
    rest.IsBehind cursor :=
  ((readsAlike (walks_isBehind cursor)).1 levels cursor cursor ⟨rfl, .refl cursor⟩).invariant found

/-- A chain is read up to a place behind its beginning. -/
theorem isBehind_of_parseChain {level : Level}
    (found : parseChain level levels cursor = .ok (value, rest)) : rest.IsBehind cursor :=
  ((readsAlike (walks_isBehind cursor)).2.1 level levels cursor cursor
    ⟨rfl, .refl cursor⟩).invariant found

/-! ### Words that open an operand -/

/-- A word that is neither a literal nor a name nor an opening bracket opens no operand. -/
theorem opens_of_parsePrimary (found : parsePrimary levels cursor = .ok (value, rest)) :
    cursor.word.openingRank ≤ 1 := by
  by_cases paren : cursor.word = .symbol .leftParen
  · rw [paren]
    decide
  by_cases bracket : cursor.word = .symbol .leftBracket
  · rw [bracket]
    decide
  cases atom : ofToken? cursor.word with
  | some value =>
      have isAtom := ofToken?_eq_some_iff.mp atom
      generalize cursor.word = word at isAtom ⊢
      cases isAtom <;> exact Nat.le_refl 1
  | none =>
      rw [parsePrimary_otherwise atom paren bracket] at found
      cases found

/-- Before an operand, signs may stand. -/
theorem opens_of_parseSigned (found : parseSigned levels cursor = .ok (value, rest)) :
    cursor.word.openingRank ≤ 2 := by
  cases sign : signOp? cursor.word with
  | some op =>
      have isSign := signOp?_eq_some_iff.mp sign
      generalize cursor.word = word at isSign ⊢
      cases isSign <;> exact Nat.le_refl 2
  | none =>
      rw [parseSigned_of_none sign, bind_eq_ok_iff] at found
      obtain ⟨_, object, -⟩ := found
      exact Nat.le_succ_of_le (opens_of_parsePrimary object)

/-- A chain opens as its first operand. -/
theorem exists_parseOperand {level : Level}
    (found : parseChain level levels cursor = .ok (value, rest)) :
    ∃ first behind, parseOperand level levels cursor = .ok (first, behind) := by
  rw [parseChain, bind_eq_ok_iff] at found
  obtain ⟨⟨first, behind⟩, operand, -⟩ := found
  exact ⟨first, behind, operand⟩

/-- A sum opens with a sign or an operand. -/
theorem opens_of_parseChain_sum (found : parseChain .sum levels cursor = .ok (value, rest)) :
    cursor.word.openingRank ≤ 2 := by
  obtain ⟨_, _, sum⟩ := exists_parseOperand found
  rw [parseOperand] at sum
  obtain ⟨_, _, term⟩ := exists_parseOperand sum
  rw [parseOperand] at term
  exact opens_of_parseSigned term

/-- An expression opens with a sign, an operand or a `not`. -/
theorem opens_of_parse (found : parse levels cursor = .ok (value, rest)) :
    cursor.word.openingRank ≤ 3 := by
  cases levels with
  | zero =>
      rw [parse] at found
      cases found
  | succ levels =>
      rw [parse] at found
      obtain ⟨_, _, disjunction⟩ := exists_parseOperand found
      rw [parseOperand] at disjunction
      obtain ⟨_, _, conjunction⟩ := exists_parseOperand disjunction
      rw [parseOperand] at conjunction
      by_cases shown : cursor.word = .keyword .kwNot
      · rw [shown]
        decide
      · rw [parseNegation_comparison shown, bind_eq_ok_iff] at conjunction
        obtain ⟨_, left, -⟩ := conjunction
        exact Nat.le_succ_of_le (opens_of_parseChain_sum left)

/-- A comparison opens no operand. -/
theorem openingRank_of_compareOp? {op : CompareOp} {behind : Cursor}
    (shown : compareOp? cursor = some (op, behind)) : 2 < cursor.word.openingRank := by
  by_contra low
  unfold Cursor.word at low
  unfold compareOp? at shown
  split at shown
  case h_9 => cases shown
  all_goals
    next is =>
      rw [is] at low
      exact low (by decide)

/-- A comparison is one token or two. -/
theorem behind_of_compareOp? {op : CompareOp} {behind : Cursor}
    (shown : compareOp? cursor = some (op, behind)) :
    behind = cursor.advance ∨ behind = cursor.advance.advance := by
  unfold compareOp? at shown
  split at shown
  case h_8 =>
    split at shown
    · cases shown
      exact .inr rfl
    · cases shown
  case h_9 => cases shown
  all_goals
    cases shown
    exact .inl rfl

/-! ### What the loops need not look at -/

/-- A comparison and its right operand take a token. -/
theorem remaining_lt_of_link {op : CompareOp} {behind : Cursor}
    (shown : compareOp? cursor = some (op, behind))
    (found : parseChain .sum levels behind = .ok (value, rest)) :
    rest.remaining < cursor.remaining := by
  have few := (isBehind_of_parseChain found).remaining
  by_cases exhausted : cursor.remaining = 0
  · -- Past the end the comparison would have to be its own right operand.
    have stays := Cursor.advance_of_remaining exhausted
    have same : behind = cursor := by
      rcases behind_of_compareOp? shown with rfl | rfl <;> simp only [stays]
    have opens := opens_of_parseChain_sum found
    have looser := openingRank_of_compareOp? shown
    rw [same] at opens
    omega
  · have fewer := Cursor.remaining_advance_lt exhausted
    rcases behind_of_compareOp? shown with rfl | rfl
    · omega
    · have further := cursor.advance.remaining_advance_le
      omega

/-- An item and the comma behind it take a token. -/
theorem remaining_lt_of_item (found : parse levels cursor = .ok (value, rest))
    (comma : rest.word = .symbol .comma) : rest.advance.remaining < cursor.remaining := by
  have reached := isBehind_of_parse found
  by_cases exhausted : rest.remaining = 0
  · -- An item past the end would have to begin with the comma behind it.
    have opens := opens_of_parse found
    have inside : cursor.remaining ≠ 0 := by
      intro none_left
      rw [Cursor.word_of_remaining none_left, ← reached.last, ← Cursor.word_of_remaining exhausted,
        comma] at opens
      exact absurd opens (by decide)
    rw [Cursor.advance_of_remaining exhausted]
    omega
  · exact (Cursor.remaining_advance_lt exhausted).trans_le reached.remaining

/-- The loop over comparisons goes on for as long as there are some. -/
theorem parseLinks_unguarded {op : CompareOp} {behind : Cursor}
    (shown : compareOp? cursor = some (op, behind)) :
    parseLinks levels cursor =
      parseChain .sum levels behind >>= fun (right, rest) =>
        parseLinks levels rest >>= fun (links, rest) => .ok ((op, right) :: links, rest) := by
  rw [parseLinks_of_some shown]
  cases found : parseChain .sum levels behind with
  | error error => rfl
  | ok right => exact if_pos (remaining_lt_of_link shown found)

/-- The loop over items goes on for as long as there are commas. -/
theorem parseItems_unguarded {close : Symbol} (unclosed : cursor.word ≠ .symbol close) :
    parseItems close levels cursor =
      parse levels cursor >>= fun (item, rest) =>
        if rest.isAt .comma then
          parseItems close levels rest.advance >>= fun (items, rest) => .ok (item :: items, rest)
        else .ok ([item], rest) := by
  rw [parseItems_of_item unclosed]
  cases found : parse levels cursor with
  | error error => rfl
  | ok item =>
      refine if_congr (and_iff_left_of_imp fun comma => ?_) rfl rfl
      exact remaining_lt_of_item found (Cursor.isAt_iff.mp comma)

end Expression

end Offside
