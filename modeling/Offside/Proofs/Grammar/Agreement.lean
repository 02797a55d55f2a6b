import Mathlib.Data.List.Forall2
import Offside.Proofs.Grammar.Line

/-!
# What the parser takes from a token

The parser looks at the words of tokens, and where it stops at a token, its error
holds the word and the column of that; it never goes on at the end of the line. So
cursors that show the same words for as long as that is not shown give the same line, or errors
at tokens that stand for each other (`Line.agree_of_walks`). One case of that are lists of tokens
that stand for each other one by one (`Line.agree_ofTokens`). What stands for what is left
open: it may be a token with another place, or the token itself, if nothing but its list is of
interest.
-/

namespace Offside

/-- Whether two errors are the same but for the tokens that they hold, which stand for each
other. -/
inductive ParseError.Answers (related : Token → Token → Prop) : ParseError → ParseError → Prop where
  | unexpected (expected : String) {token other : Token} (shown : related token other) :
      Answers related (.unexpected expected token.kind token.span.column)
        (.unexpected expected other.kind other.span.column)
  | invalidTarget (target : String) :
      Answers related (.invalidTarget target) (.invalidTarget target)
  | tooDeeplyNested (limit : Nat) :
      Answers related (.tooDeeplyNested limit) (.tooDeeplyNested limit)

/-- Expressions that use up all their levels fail alike. -/
theorem ParseError.Answers.tooDeep {related : Token → Token → Prop} :
    ParseError.Answers related Expression.tooDeep Expression.tooDeep :=
  .tooDeeplyNested _

/-- A relation between cursors that show the same words and stay related when both go on, unless
they are at the end of the line, where the parser never goes on. -/
structure Cursor.Walks (related : Token → Token → Prop) (Alike : Cursor → Cursor → Prop) :
    Prop where
  sameKind : ∀ {token other}, related token other → other.kind = token.kind
  current : ∀ {cursor other}, Alike cursor other → related cursor.current other.current
  advance : ∀ {cursor other}, Alike cursor other → cursor.word ≠ .lineEnd →
    Alike cursor.advance other.advance
  remaining : ∀ {cursor other rest otherRest}, Alike cursor other → Alike rest otherRest →
    (otherRest.remaining < other.remaining ↔ rest.remaining < cursor.remaining)

/-- Whether two readings give the same and go on at cursors that are alike, or fail at tokens that
stand for each other. -/
def Corresponds (related : Token → Token → Prop) (Alike : Cursor → Cursor → Prop) {α : Type}
    (reading other : Except ParseError (α × Cursor)) : Prop :=
  Agree (ParseError.Answers related)
    (fun found otherFound => otherFound.1 = found.1 ∧ Alike found.2 otherFound.2) reading other

section

variable {related : Token → Token → Prop} {Alike : Cursor → Cursor → Prop}

namespace Corresponds

variable {α : Type} {reading other : Except ParseError (α × Cursor)}

/-- Readings that give the same at once correspond. -/
theorem ok (value : α) {rest otherRest : Cursor} (alike : Alike rest otherRest) :
    Corresponds related Alike (.ok (value, rest)) (.ok (value, otherRest)) :=
  Agree.ok ⟨rfl, alike⟩

/-- Readings that go on alike after corresponding ones agree. -/
theorem bind {β γ : Type} {values : β → γ → Prop}
    (corresponds : Corresponds related Alike reading other)
    {next : α × Cursor → Except ParseError β} {otherNext : α × Cursor → Except ParseError γ}
    (further : ∀ value rest otherRest, Alike rest otherRest →
      Agree (ParseError.Answers related) values (next (value, rest))
        (otherNext (value, otherRest))) :
    Agree (ParseError.Answers related) values (reading >>= next) (other >>= otherNext) := by
  refine Agree.bind corresponds ?_
  rintro ⟨value, rest⟩ ⟨_, otherRest⟩ ⟨rfl, alike⟩
  exact further _ rest otherRest alike

end Corresponds

namespace Cursor.Walks

variable (walks : Walks related Alike) {cursor other : Cursor} (alike : Alike cursor other)

include walks alike

/-- The next words are the same. -/
theorem word : other.word = cursor.word :=
  walks.sameKind (walks.current alike)

/-- Behind a word that is not the end of the line, both cursors go on. -/
theorem behind {shown : Token.Kind} (is : cursor.word = shown) (inside : shown ≠ .lineEnd) :
    Alike cursor.advance other.advance :=
  walks.advance alike (is ▸ inside)

/-- What was expected in the place of the next tokens is missed alike. -/
theorem expected (expected : String) :
    ParseError.Answers related (cursor.expected expected) (other.expected expected) :=
  .unexpected expected (walks.current alike)

/-- A symbol is next for both cursors or for none. -/
theorem isAt (symbol : Symbol) : other.isAt symbol = cursor.isAt symbol := by
  rw [Bool.eq_iff_iff, isAt_iff, isAt_iff, walks.word alike]

/-- An expected symbol is read alike. -/
theorem expect (symbol : Symbol) :
    Agree (ParseError.Answers related) Alike (cursor.expect symbol) (other.expect symbol) := by
  unfold Cursor.expect
  rw [walks.isAt alike]
  split
  · next shown => exact .ok (walks.behind alike (isAt_iff.mp shown) (by simp))
  · exact .error (walks.expected alike _)

/-- An expected keyword is read alike. -/
theorem expectKeyword (keyword : Keyword) : Agree (ParseError.Answers related) Alike
    (cursor.expectKeyword keyword) (other.expectKeyword keyword) := by
  have same : other.isAtKeyword keyword = cursor.isAtKeyword keyword := by
    rw [Bool.eq_iff_iff, isAtKeyword_iff, isAtKeyword_iff, walks.word alike]
  unfold Cursor.expectKeyword
  rw [same]
  split
  · next shown => exact .ok (walks.behind alike (isAtKeyword_iff.mp shown) (by simp))
  · exact .error (walks.expected alike _)

/-- An expected name is read alike. -/
theorem expectName : Corresponds related Alike cursor.expectName other.expectName := by
  have same : other.current.kind = cursor.current.kind := walks.word alike
  unfold Cursor.expectName
  rw [same]
  split
  · next shown => exact .ok _ (walks.behind alike shown (by simp))
  · exact .error (walks.expected alike _)

/-- The end of the line is expected alike. -/
theorem expectEnd : Agree (ParseError.Answers related) (fun _ _ => cursor.word = .lineEnd)
    cursor.expectEnd other.expectEnd := by
  have same : other.isAtEnd = cursor.isAtEnd := by
    unfold isAtEnd
    rw [show other.current.kind = cursor.current.kind from walks.word alike]
  unfold Cursor.expectEnd
  rw [same]
  split
  · next ended => exact .ok (expectEnd_eq_ok_iff.mp (if_pos ended))
  · exact .error (walks.expected alike _)

end Cursor.Walks

variable (walks : Cursor.Walks related Alike)

namespace Expression

variable {levels : Nat} {cursor other : Cursor}

/-- Whether a function of the parser reads alike wherever tokens stand for each other. -/
def ReadsAlike (related : Token → Token → Prop) (Alike : Cursor → Cursor → Prop) {α : Type}
    (read : Cursor → Except ParseError (α × Cursor)) (cursor : Cursor) : Prop :=
  ∀ other, Alike cursor other → Corresponds related Alike (read cursor) (read other)

/-- All levels are used up on both sides. -/
theorem corresponds_tooDeep {α : Type} :
    Corresponds related Alike (α := α) (.error tooDeep) (.error tooDeep) :=
  Agree.error .tooDeep

/-- A chain reads alike when its operands and its operators do. -/
theorem readsAlike_parseChain {level : Level}
    (operand : ReadsAlike related Alike (parseOperand level levels) cursor)
    (more : ∀ first cursor, ReadsAlike related Alike (parseChainFrom level levels first) cursor) :
    ReadsAlike related Alike (parseChain level levels) cursor := by
  intro other alike
  rw [parseChain, parseChain]
  exact (operand other alike).bind fun first rest otherRest behind =>
    more first rest otherRest behind

/-- No operator is the end of the line. -/
theorem ne_lineEnd_of_join? {level : Level} {kind : Token.Kind}
    {join : Expression → Expression → Expression} (shown : level.join? kind = some join) :
    kind ≠ .lineEnd := by
  rintro rfl
  cases level <;> cases shown

include walks

/-- A comparison is found by both cursors or by none. -/
theorem compareOp?_answers (alike : Alike cursor other) :
    (compareOp? cursor = Option.none ∧ compareOp? other = Option.none) ∨
      ∃ op behind otherBehind, compareOp? cursor = some (op, behind) ∧
        compareOp? other = some (op, otherBehind) ∧ Alike behind otherBehind := by
  have first : other.current.kind = cursor.current.kind := walks.word alike
  unfold compareOp?
  rw [first]
  split
  case h_8 shown =>
    have further := walks.behind alike shown (by simp)
    have second : other.second.kind = cursor.second.kind := walks.word further
    rw [second]
    split
    · next isIn => exact .inr ⟨_, _, _, rfl, rfl, walks.behind further isIn (by simp)⟩
    · exact .inl ⟨rfl, rfl⟩
  case h_9 => exact .inl ⟨rfl, rfl⟩
  all_goals
    next shown => exact .inr ⟨_, _, _, rfl, rfl, walks.behind alike shown (by simp)⟩

/-- Where no operator follows, none is read on either side. -/
theorem readsAlike_parseChainFrom_of_none {level : Level} {left : Expression}
    (absent : level.join? cursor.word = Option.none) :
    ReadsAlike related Alike (parseChainFrom level levels left) cursor := by
  intro other alike
  have same := walks.word alike
  rw [parseChainFrom_of_none absent, parseChainFrom_of_none (same ▸ absent)]
  exact .ok left alike

/-- An operator needs a level on both sides. -/
theorem readsAlike_parseChainFrom_zero {level : Level} {left : Expression}
    {join : Expression → Expression → Expression} (shown : level.join? cursor.word = some join) :
    ReadsAlike related Alike (parseChainFrom level 0 left) cursor := by
  intro other alike
  have same := walks.word alike
  rw [parseChainFrom_zero shown, parseChainFrom_zero (same ▸ shown)]
  exact corresponds_tooDeep

/-- An operator reads alike with its right operand and the operators that follow. -/
theorem readsAlike_parseChainFrom_succ {level : Level} {left : Expression}
    {join : Expression → Expression → Expression} (shown : level.join? cursor.word = some join)
    (operand : ReadsAlike related Alike (parseOperand level levels) cursor.advance)
    (more : ∀ right cursor,
      ReadsAlike related Alike (parseChainFrom level levels (join left right)) cursor) :
    ReadsAlike related Alike (parseChainFrom level (levels + 1) left) cursor := by
  intro other alike
  have same := walks.word alike
  rw [parseChainFrom_succ shown, parseChainFrom_succ (same ▸ shown)]
  have further := walks.advance alike (ne_lineEnd_of_join? shown)
  exact (operand _ further).bind fun right rest otherRest behind =>
    more right rest otherRest behind

/-- Signs read alike with their operands. -/
theorem readsAlike_parseSigned_succ {op : UnaryOp} (shown : signOp? cursor.word = some op)
    (operand : ReadsAlike related Alike (parseSigned levels) cursor.advance) :
    ReadsAlike related Alike (parseSigned (levels + 1)) cursor := by
  intro other alike
  have same := walks.word alike
  rw [parseSigned_succ shown, parseSigned_succ (same ▸ shown)]
  have inside : cursor.word ≠ .lineEnd := fun ended => by
    rw [ended] at shown
    cases shown
  exact (operand _ (walks.advance alike inside)).bind fun inner rest otherRest behind =>
    Corresponds.ok (unary op inner) behind

/-- A sign needs a level on both sides. -/
theorem readsAlike_parseSigned_zero {op : UnaryOp} (shown : signOp? cursor.word = some op) :
    ReadsAlike related Alike (parseSigned 0) cursor := by
  intro other alike
  have same := walks.word alike
  rw [parseSigned_zero shown, parseSigned_zero (same ▸ shown)]
  exact corresponds_tooDeep

/-- A primary reads alike with its suffixes. -/
theorem readsAlike_parseSigned_of_none (absent : signOp? cursor.word = Option.none)
    (primary : ReadsAlike related Alike (parsePrimary levels) cursor)
    (more : ∀ object cursor, ReadsAlike related Alike (parseSuffixes levels object) cursor) :
    ReadsAlike related Alike (parseSigned levels) cursor := by
  intro other alike
  have same := walks.word alike
  rw [parseSigned_of_none absent, parseSigned_of_none (same ▸ absent)]
  exact (primary other alike).bind fun object rest otherRest behind =>
    more object rest otherRest behind

/-- Where no suffix follows, none is read on either side. -/
theorem readsAlike_parseSuffixes_of_none {object : Expression}
    (absent : suffix? cursor.word = Option.none) :
    ReadsAlike related Alike (parseSuffixes levels object) cursor := by
  intro other alike
  have same := walks.word alike
  rw [parseSuffixes_of_none absent, parseSuffixes_of_none (same ▸ absent)]
  exact .ok object alike

/-- A suffix needs a level on both sides. -/
theorem readsAlike_parseSuffixes_zero {object : Expression} {suffix : Suffix}
    (shown : suffix? cursor.word = some suffix) :
    ReadsAlike related Alike (parseSuffixes 0 object) cursor := by
  intro other alike
  have same := walks.word alike
  rw [parseSuffixes_zero shown, parseSuffixes_zero (same ▸ shown)]
  exact corresponds_tooDeep

/-- What stands before a closing symbol and what follows that read alike. -/
theorem Corresponds.between {α β : Type} {reading other : Except ParseError (α × Cursor)}
    {close : Symbol} (inner : Corresponds related Alike reading other)
    {next : α → Cursor → Except ParseError (β × Cursor)}
    (further : ∀ value rest otherRest, Alike rest otherRest →
      Corresponds related Alike (next value rest) (next value otherRest)) :
    Corresponds related Alike
      (reading >>= fun (value, rest) => rest.expect close >>= fun rest => next value rest)
      (other >>= fun (value, rest) => rest.expect close >>= fun rest => next value rest) :=
  inner.bind fun value _ _ behind => (walks.expect behind close).bind fun rest otherRest outer =>
    further value rest otherRest outer

/-- A call reads alike with its arguments and the suffixes that follow. -/
theorem readsAlike_parseSuffixes_call {object : Expression}
    (shown : cursor.word = .symbol .leftParen)
    (items : ReadsAlike related Alike (parseItems .rightParen levels) cursor.advance)
    (more : ∀ arguments cursor,
      ReadsAlike related Alike (parseSuffixes levels (call object arguments)) cursor) :
    ReadsAlike related Alike (parseSuffixes (levels + 1) object) cursor := by
  intro other alike
  have same := walks.word alike
  rw [parseSuffixes_call shown, parseSuffixes_call (same.trans shown)]
  exact Corresponds.between walks (items _ (walks.behind alike shown (by simp))) more

/-- A subscript reads alike with its position and the suffixes that follow. -/
theorem readsAlike_parseSuffixes_subscript {object : Expression}
    (shown : cursor.word = .symbol .leftBracket)
    (inner : ReadsAlike related Alike (parse levels) cursor.advance)
    (more : ∀ position cursor,
      ReadsAlike related Alike (parseSuffixes levels (index object position)) cursor) :
    ReadsAlike related Alike (parseSuffixes (levels + 1) object) cursor := by
  intro other alike
  have same := walks.word alike
  rw [parseSuffixes_subscript shown, parseSuffixes_subscript (same.trans shown)]
  exact Corresponds.between walks (inner _ (walks.behind alike shown (by simp))) more

/-- An attribute reads alike with the suffixes that follow. -/
theorem readsAlike_parseSuffixes_member {object : Expression} (shown : cursor.word = .symbol .dot)
    (more : ∀ word cursor,
      ReadsAlike related Alike (parseSuffixes levels (member object word)) cursor) :
    ReadsAlike related Alike (parseSuffixes (levels + 1) object) cursor := by
  intro other alike
  have same := walks.word alike
  rw [parseSuffixes_member shown, parseSuffixes_member (same.trans shown)]
  have further := walks.behind alike shown (by simp)
  exact (walks.expectName further).bind fun word rest otherRest behind =>
    more word rest otherRest behind

/-- A literal or a name reads alike. -/
theorem readsAlike_parsePrimary_atom {value : Expression}
    (shown : ofToken? cursor.word = some value) :
    ReadsAlike related Alike (parsePrimary levels) cursor := by
  intro other alike
  have same := walks.word alike
  rw [parsePrimary_atom shown, parsePrimary_atom (same ▸ shown)]
  have inside : cursor.word ≠ .lineEnd := fun ended => by
    rw [ended] at shown
    cases shown
  exact .ok value (walks.advance alike inside)

/-- An expression between parentheses reads alike. -/
theorem readsAlike_parsePrimary_bracketed (shown : cursor.word = .symbol .leftParen)
    (inner : ReadsAlike related Alike (parse levels) cursor.advance) :
    ReadsAlike related Alike (parsePrimary levels) cursor := by
  intro other alike
  have same := walks.word alike
  rw [parsePrimary_bracketed shown, parsePrimary_bracketed (same.trans shown)]
  exact Corresponds.between walks (inner _ (walks.behind alike shown (by simp)))
    fun value _ _ outer => .ok value outer

/-- The elements of a list read alike. -/
theorem readsAlike_parsePrimary_list (shown : cursor.word = .symbol .leftBracket)
    (items : ReadsAlike related Alike (parseItems .rightBracket levels) cursor.advance) :
    ReadsAlike related Alike (parsePrimary levels) cursor := by
  intro other alike
  have same := walks.word alike
  rw [parsePrimary_list shown, parsePrimary_list (same.trans shown)]
  exact Corresponds.between walks (items _ (walks.behind alike shown (by simp)))
    fun elements _ _ outer => .ok (list elements) outer

/-- A word that is neither a literal nor a name nor an opening bracket is refused alike. -/
theorem readsAlike_parsePrimary_otherwise (noAtom : ofToken? cursor.word = Option.none)
    (noParen : cursor.word ≠ .symbol .leftParen) (noBracket : cursor.word ≠ .symbol .leftBracket) :
    ReadsAlike related Alike (parsePrimary levels) cursor := by
  intro other alike
  have same := walks.word alike
  rw [parsePrimary_otherwise noAtom noParen noBracket,
    parsePrimary_otherwise (same ▸ noAtom) (same ▸ noParen) (same ▸ noBracket)]
  exact Agree.error (walks.expected alike _)

/-- A `not` needs a level on both sides. -/
theorem readsAlike_parseNegation_zero (shown : cursor.word = .keyword .kwNot) :
    ReadsAlike related Alike (parseNegation 0) cursor := by
  intro other alike
  have same := walks.word alike
  rw [parseNegation_zero shown, parseNegation_zero (same.trans shown)]
  exact corresponds_tooDeep

/-- A `not` reads alike with the comparison behind it. -/
theorem readsAlike_parseNegation_succ (shown : cursor.word = .keyword .kwNot)
    (operand : ReadsAlike related Alike (parseNegation levels) cursor.advance) :
    ReadsAlike related Alike (parseNegation (levels + 1)) cursor := by
  intro other alike
  have same := walks.word alike
  rw [parseNegation_succ shown, parseNegation_succ (same.trans shown)]
  exact (operand _ (walks.behind alike shown (by simp))).bind fun inner rest otherRest behind =>
    Corresponds.ok (unary .not inner) behind

/-- A comparison reads alike with its first operand and the comparisons that follow. -/
theorem readsAlike_parseNegation_comparison (absent : cursor.word ≠ .keyword .kwNot)
    (operand : ReadsAlike related Alike (parseChain .sum levels) cursor)
    (more : ∀ cursor, ReadsAlike related Alike (parseLinks levels) cursor) :
    ReadsAlike related Alike (parseNegation levels) cursor := by
  intro other alike
  have same := walks.word alike
  rw [parseNegation_comparison absent, parseNegation_comparison (same ▸ absent)]
  refine (operand other alike).bind fun left rest otherRest behind => ?_
  exact (more rest otherRest behind).bind fun links last otherLast outer =>
    Corresponds.ok (compared left links) outer

/-- Comparisons read alike with their right operands. -/
theorem readsAlike_parseLinks_of_some {op : CompareOp} {behind : Cursor}
    (shown : compareOp? cursor = some (op, behind))
    (operand : ReadsAlike related Alike (parseChain .sum levels) behind)
    (more : ∀ rest : Cursor, rest.remaining < cursor.remaining →
      ReadsAlike related Alike (parseLinks levels) rest) :
    ReadsAlike related Alike (parseLinks levels) cursor := by
  intro other alike
  obtain ⟨absent, -⟩ | ⟨_, _, otherBehind, found, otherShown, alikeBehind⟩ :=
    compareOp?_answers walks alike
  · rw [absent] at shown
    cases shown
  · cases shown.symm.trans found
    rw [parseLinks_of_some shown, parseLinks_of_some otherShown]
    refine (operand _ alikeBehind).bind fun right rest otherRest outer => ?_
    dsimp only
    by_cases fewer : rest.remaining < cursor.remaining
    · rw [if_pos fewer, if_pos ((walks.remaining alike outer).mpr fewer)]
      exact (more rest fewer otherRest outer).bind fun links last otherLast end_ =>
        Corresponds.ok ((op, right) :: links) end_
    · rw [if_neg fewer, if_neg (mt (walks.remaining alike outer).mp fewer)]
      exact Corresponds.ok [(op, right)] outer

/-- Where no comparison follows, none is read on either side. -/
theorem readsAlike_parseLinks_of_none (absent : compareOp? cursor = Option.none) :
    ReadsAlike related Alike (parseLinks levels) cursor := by
  intro other alike
  obtain ⟨-, otherAbsent⟩ | ⟨_, _, _, found, -, -⟩ := compareOp?_answers walks alike
  · rw [parseLinks_of_none absent, parseLinks_of_none otherAbsent]
    exact .ok [] alike
  · rw [absent] at found
    cases found

/-- Before the closing symbol, no items are read on either side. -/
theorem readsAlike_parseItems_of_close {close : Symbol} (shown : cursor.word = .symbol close) :
    ReadsAlike related Alike (parseItems close levels) cursor := by
  intro other alike
  have same := walks.word alike
  rw [parseItems_of_close shown, parseItems_of_close (same.trans shown)]
  exact .ok [] alike

/-- Items read alike with those behind their commas. -/
theorem readsAlike_parseItems_of_item {close : Symbol} (unclosed : cursor.word ≠ .symbol close)
    (item : ReadsAlike related Alike (parse levels) cursor)
    (more : ∀ rest : Cursor, rest.isAt .comma ∧ rest.advance.remaining < cursor.remaining →
      ReadsAlike related Alike (parseItems close levels) rest.advance) :
    ReadsAlike related Alike (parseItems close levels) cursor := by
  intro other alike
  have same := walks.word alike
  rw [parseItems_of_item unclosed, parseItems_of_item (same ▸ unclosed)]
  refine (item other alike).bind fun first rest otherRest behind => ?_
  dsimp only
  rw [walks.isAt behind]
  by_cases goesOn : rest.isAt .comma ∧ rest.advance.remaining < cursor.remaining
  · have further := walks.behind behind (Cursor.isAt_iff.mp goesOn.1) (by simp)
    rw [if_pos goesOn, if_pos ⟨goesOn.1, (walks.remaining alike further).mpr goesOn.2⟩]
    exact (more rest goesOn _ further).bind fun items last otherLast outer =>
      Corresponds.ok (first :: items) outer
  · have stops : ¬ (rest.isAt .comma ∧ otherRest.advance.remaining < other.remaining) := by
      rintro ⟨comma, fewer⟩
      have further := walks.behind behind (Cursor.isAt_iff.mp comma) (by simp)
      exact goesOn ⟨comma, (walks.remaining alike further).mp fewer⟩
    rw [if_neg goesOn, if_neg stops]
    exact Corresponds.ok [first] behind

/-- Where cursors are alike, all functions of the parser read the same, or fail alike. -/
theorem readsAlike : (∀ levels cursor, ReadsAlike related Alike (parse levels) cursor) ∧
    (∀ level levels cursor, ReadsAlike related Alike (parseChain level levels) cursor) ∧
    (∀ level levels left cursor,
      ReadsAlike related Alike (parseChainFrom level levels left) cursor) ∧
    (∀ level levels cursor, ReadsAlike related Alike (parseOperand level levels) cursor) ∧
    (∀ levels cursor, ReadsAlike related Alike (parseSigned levels) cursor) ∧
    (∀ levels object cursor, ReadsAlike related Alike (parseSuffixes levels object) cursor) ∧
    (∀ close levels cursor, ReadsAlike related Alike (parseItems close levels) cursor) ∧
    (∀ levels cursor, ReadsAlike related Alike (parsePrimary levels) cursor) ∧
    (∀ levels cursor, ReadsAlike related Alike (parseNegation levels) cursor) ∧
    ∀ levels cursor, ReadsAlike related Alike (parseLinks levels) cursor := by
  apply parse.mutual_induct
  case case1 =>
    intro cursor other alike
    rw [parse, parse]
    exact corresponds_tooDeep
  case case2 =>
    intro cursor levels chain other alike
    rw [parse, parse]
    exact chain other alike
  case case3 =>
    intro level levels cursor operand more
    exact readsAlike_parseChain operand more
  case case4 =>
    intro level levels left cursor absent
    exact readsAlike_parseChainFrom_of_none walks absent
  case case5 =>
    intro level left cursor join shown
    exact readsAlike_parseChainFrom_zero walks shown
  case case6 =>
    intro level left cursor join levels shown operand more
    exact readsAlike_parseChainFrom_succ walks shown operand more
  case case7 =>
    intro levels cursor chain other alike
    rw [parseOperand, parseOperand]
    exact chain other alike
  case case8 =>
    intro levels cursor negation other alike
    rw [parseOperand, parseOperand]
    exact negation other alike
  case case9 =>
    intro levels cursor chain other alike
    rw [parseOperand, parseOperand]
    exact chain other alike
  case case10 =>
    intro levels cursor signed other alike
    rw [parseOperand, parseOperand]
    exact signed other alike
  case case11 =>
    intro cursor op shown
    exact readsAlike_parseSigned_zero walks shown
  case case12 =>
    intro cursor op levels shown operand
    exact readsAlike_parseSigned_succ walks shown operand
  case case13 =>
    intro cursor levels absent primary more
    exact readsAlike_parseSigned_of_none walks absent primary more
  case case14 =>
    intro levels object cursor absent
    exact readsAlike_parseSuffixes_of_none walks absent
  case case15 =>
    intro object cursor suffix shown
    exact readsAlike_parseSuffixes_zero walks shown
  case case16 =>
    intro object cursor levels shown items more
    exact readsAlike_parseSuffixes_call walks (suffix?_eq_some_iff.mp shown) items more
  case case17 =>
    intro object cursor levels shown inner more
    exact readsAlike_parseSuffixes_subscript walks (suffix?_eq_some_iff.mp shown) inner more
  case case18 =>
    intro object cursor levels shown more
    exact readsAlike_parseSuffixes_member walks (suffix?_eq_some_iff.mp shown) more
  case case19 =>
    intro close levels cursor shown
    exact readsAlike_parseItems_of_close walks (Cursor.isAt_iff.mp shown)
  case case20 =>
    intro close levels cursor unclosed item more
    exact readsAlike_parseItems_of_item walks (mt Cursor.isAt_iff.mpr unclosed) item more
  case case21 =>
    intro levels cursor value shown
    exact readsAlike_parsePrimary_atom walks shown
  case case22 =>
    intro levels cursor _ shown inner
    exact readsAlike_parsePrimary_bracketed walks shown inner
  case case23 =>
    intro levels cursor _ shown items
    exact readsAlike_parsePrimary_list walks shown items
  case case24 =>
    intro levels cursor noAtom noParen noBracket
    exact readsAlike_parsePrimary_otherwise walks noAtom noParen noBracket
  case case25 =>
    intro cursor shown
    exact readsAlike_parseNegation_zero walks (Cursor.isAtKeyword_iff.mp shown)
  case case26 =>
    intro cursor shown levels operand
    exact readsAlike_parseNegation_succ walks (Cursor.isAtKeyword_iff.mp shown) operand
  case case27 =>
    intro levels cursor absent operand more
    exact readsAlike_parseNegation_comparison walks (mt Cursor.isAtKeyword_iff.mpr absent)
      operand more
  case case28 =>
    intro levels cursor absent
    exact readsAlike_parseLinks_of_none walks absent
  case case29 =>
    intro levels cursor op behind shown operand more
    exact readsAlike_parseLinks_of_some walks shown operand more

/-- Where cursors are alike, the same expression is read, or the readings fail alike. -/
theorem readsAlike_parse (levels : Nat) (cursor : Cursor) :
    ReadsAlike related Alike (parse levels) cursor :=
  (readsAlike walks).1 levels cursor

end Expression

namespace Line

variable {cursor other : Cursor} (alike : Alike cursor other)

/-- No sign of an assignment is the end of the line. -/
theorem ne_lineEnd_of_ofUpdate? {kind : Token.Kind} {op : BinaryOp}
    (shown : BinaryOp.ofUpdate? kind = some op) : kind ≠ .lineEnd := by
  rintro rfl
  cases shown

include walks alike

/-- A header is read alike, or none begins. -/
theorem parseHeader?_answers : (parseHeader? cursor = none ∧ parseHeader? other = none) ∨
    ∃ reading otherReading, parseHeader? cursor = some reading ∧
      parseHeader? other = some otherReading ∧ Corresponds related Alike reading otherReading := by
  have same := walks.word alike
  rcases header_cases cursor.word with shown | ⟨word, header, begins, shown⟩ | shown | absent
  · refine .inr ⟨_, _, parseHeader?_forEach shown, parseHeader?_forEach (same.trans shown), ?_⟩
    have further := walks.behind alike shown (by simp)
    refine (walks.expectName further).bind fun target rest otherRest behind => ?_
    refine (walks.expectKeyword behind .kwIn).bind fun rest otherRest behind => ?_
    exact (Expression.readsAlike_parse walks _ rest otherRest behind).bind
      fun iterable _ _ outer => Corresponds.ok (Header.forEach target iterable) outer
  · refine .inr ⟨_, _, parseHeader?_conditional begins shown,
      parseHeader?_conditional begins (same.trans shown), ?_⟩
    have further := walks.behind alike shown (by simp)
    exact (Expression.readsAlike_parse walks _ _ _ further).bind
      fun condition _ _ outer => Corresponds.ok (header condition) outer
  · exact .inr ⟨_, _, parseHeader?_otherwise shown, parseHeader?_otherwise (same.trans shown),
      .ok _ (walks.behind alike shown (by simp))⟩
  · exact .inl ⟨parseHeader?_eq_none absent, parseHeader?_eq_none (same ▸ absent)⟩

/-- An expression that stands as a statement is read alike. -/
theorem corresponds_parseBare : Corresponds related Alike (parseBare cursor) (parseBare other) := by
  refine (Expression.readsAlike_parse walks _ cursor other alike).bind
    fun value rest otherRest behind => ?_
  have same : otherRest.current.kind = rest.current.kind := walks.word behind
  dsimp only
  rw [same]
  split
  · exact .error (.invalidTarget _)
  · exact Corresponds.ok (Statement.expression value) behind

/-- A statement is read alike. -/
theorem corresponds_parseSimple :
    Corresponds related Alike (parseSimple cursor) (parseSimple other) := by
  have first : other.current.kind = cursor.current.kind := walks.word alike
  unfold parseSimple
  rw [first]
  split
  · next shown => exact .ok _ (walks.behind alike shown (by simp))
  · next shown => exact .ok _ (walks.behind alike shown (by simp))
  · next shown => exact .ok _ (walks.behind alike shown (by simp))
  · next target shown =>
      have further := walks.behind alike shown (by simp)
      have second : other.second.kind = cursor.second.kind := walks.word further
      rw [second]
      split
      · next assigns =>
          have value := walks.behind further assigns (by simp)
          exact (Expression.readsAlike_parse walks _ _ _ value).bind
            fun value _ _ behind => Corresponds.ok _ behind
      · split
        · next updates =>
            have value := walks.advance further (ne_lineEnd_of_ofUpdate? updates)
            exact (Expression.readsAlike_parse walks _ _ _ value).bind
              fun value _ _ behind => Corresponds.ok _ behind
        · exact corresponds_parseBare walks alike
  · exact corresponds_parseBare walks alike

omit alike

/-- Lists of tokens whose cursors are alike make up the same line, which ends where the end of the
line is shown, or errors at tokens that stand for each other. -/
theorem agree_of_walks {tokens others : List Token}
    (alike : Alike (Cursor.ofTokens tokens) (Cursor.ofTokens others)) :
    Agree (ParseError.Answers related) (fun line otherLine => line = otherLine ∧
        ∃ cursor other, Alike cursor other ∧ cursor.word = .lineEnd)
      (ofTokens tokens) (ofTokens others) := by
  unfold ofTokens
  dsimp only
  obtain ⟨absent, otherAbsent⟩ | ⟨reading, otherReading, found, otherFound, corresponds⟩ :=
    parseHeader?_answers walks alike
  · rw [absent, otherAbsent]
    refine (corresponds_parseSimple walks alike).bind fun statement rest otherRest behind => ?_
    exact (walks.expectEnd behind).bind fun _ _ ended => .ok ⟨rfl, rest, otherRest, behind, ended⟩
  · rw [found, otherFound]
    refine corresponds.bind fun header rest otherRest behind => ?_
    refine (walks.expect behind .colon).bind fun rest otherRest behind => ?_
    exact (walks.expectEnd behind).bind fun _ _ ended => .ok ⟨rfl, rest, otherRest, behind, ended⟩

end Line

end

/-! ### Tokens that stand for each other one by one -/

/-- Whether the tokens that two cursors show stand for each other. -/
structure Cursor.Answers (related : Token → Token → Prop) (cursor other : Cursor) : Prop where
  ahead : List.Forall₂ related cursor.ahead other.ahead
  last : related cursor.last other.last

section

variable {related : Token → Token → Prop}

namespace Cursor

/-- The cursors before the first of some tokens that stand for each other. -/
theorem answers_ofTokens {tokens others : List Token} (nonempty : tokens ≠ [])
    (alike : List.Forall₂ related tokens others) :
    (ofTokens tokens).Answers related (ofTokens others) where
  ahead := alike
  last := by
    have reversed := List.forall₂_reverse_iff.mpr alike
    simp only [ofTokens, List.getLast?_eq_head?_reverse]
    cases shape : tokens.reverse <;> cases otherShape : others.reverse <;>
      rw [shape, otherShape] at reversed
    · exact absurd (List.reverse_eq_nil_iff.mp shape) nonempty
    · cases reversed
    · cases reversed
    · exact (List.forall₂_cons.mp reversed).1

namespace Answers

variable {cursor other : Cursor} (answers : cursor.Answers related other)

include answers

/-- The next tokens stand for each other. -/
theorem current : related cursor.current other.current := by
  have ahead := answers.ahead
  unfold Cursor.current
  cases tokens : cursor.ahead <;> cases others : other.ahead <;> rw [tokens, others] at ahead
  · exact answers.last
  · cases ahead
  · cases ahead
  · exact (List.forall₂_cons.mp ahead).1

/-- The tokens behind the next ones stand for each other. -/
theorem advance : cursor.advance.Answers related other.advance where
  ahead := by
    have ahead := answers.ahead
    rw [ahead_advance, ahead_advance]
    cases tokens : cursor.ahead <;> cases others : other.ahead <;> rw [tokens, others] at ahead
    · exact ahead
    · cases ahead
    · cases ahead
    · exact (List.forall₂_cons.mp ahead).2
  last := answers.last

/-- Two cursors that answer each other have as many tokens left. -/
theorem remaining : other.remaining = cursor.remaining := by
  rw [cursor.remaining_eq, other.remaining_eq, answers.ahead.length_eq]

omit answers

/-- Tokens of the same kinds are gone over alike. -/
theorem walks (sameKind : ∀ {token other : Token}, related token other → other.kind = token.kind) :
    Walks related (Answers related) where
  sameKind := sameKind
  current := current
  advance answers _ := answers.advance
  remaining answers further := by rw [answers.remaining, further.remaining]

end Answers

end Cursor

/-- Lists of tokens that stand for each other make up the same line, or errors at tokens that stand
for each other. -/
theorem Line.agree_ofTokens
    (sameKind : ∀ {token other : Token}, related token other → other.kind = token.kind)
    {tokens others : List Token} (nonempty : tokens ≠ [])
    (alike : List.Forall₂ related tokens others) :
    Agree (ParseError.Answers related) Eq (ofTokens tokens) (ofTokens others) :=
  (agree_of_walks (Cursor.Answers.walks sameKind) (Cursor.answers_ofTokens nonempty alike)).mono
    (fun _ _ => id) fun _ _ => And.left

end

/-- What is missed in a list of tokens is missed at one of them. -/
theorem Line.ofTokens_error {tokens : List Token} (nonempty : tokens ≠ []) {error : ParseError}
    (failed : ofTokens tokens = .error error) :
    (∃ expected, ∃ token ∈ tokens,
      error = .unexpected expected token.kind token.span.column) ∨ error.column? = none := by
  have alike : List.Forall₂ (fun token other => other = token ∧ token ∈ tokens) tokens tokens :=
    List.forall₂_same.mpr fun token member => ⟨rfl, member⟩
  have agree := agree_ofTokens (fun shown => congrArg Token.kind shown.1) nonempty alike
  rw [failed] at agree
  obtain ⟨other, same, answers⟩ := agree.of_error
  cases answers with
  | unexpected expected shown => exact .inl ⟨expected, _, shown.2, rfl⟩
  | invalidTarget | tooDeeplyNested => exact .inr rfl

/-! ### The number of a line -/

/-- Whether two tokens are the same word in the same column. -/
def Token.LooksLike (token other : Token) : Prop :=
  other.kind = token.kind ∧ other.span.column = token.span.column

/-- Errors at tokens that look alike are the same. -/
theorem ParseError.Answers.eq_of_looksLike {error other : ParseError}
    (answers : ParseError.Answers Token.LooksLike error other) : error = other := by
  cases answers with
  | unexpected expected shown =>
      obtain ⟨kind, column⟩ := shown
      rw [kind, column]
  | invalidTarget | tooDeeplyNested => rfl

namespace Token

/-- Some text is cut up alike on lines with different numbers. -/
theorem agree_mapM_lexFrom (line other : Nat) (place : Place) (text : List Char) :
    Agree Eq (List.Forall₂ LooksLike) ((lexFrom line place text).mapM id)
      ((lexFrom other place text).mapM id) := by
  fun_induction lexFrom line place text with
  | case1 place text start blank =>
      rw [lexFrom.eq_def]
      split
      · exact .ok (.cons ⟨rfl, rfl⟩ .nil)
      · next shape => rw [blank] at shape; cases shape
  | case2 place text start following shape stop =>
      rw [lexFrom.eq_def]
      split
      · next blank => rw [blank] at shape; cases shape
      · next found =>
          cases shape.symm.trans found
          exact .ok (.cons ⟨rfl, rfl⟩ .nil)
  | case3 place text start first following shape noComment lexeme stop inductionHypothesis =>
      rw [lexFrom.eq_def other]
      split
      · next blank => rw [blank] at shape; cases shape
      · next found =>
          cases shape.symm.trans found
          rw [if_neg noComment, List.mapM_cons, List.mapM_cons]
          have here : Agree Eq LooksLike
              (lexeme.outcome.map (⟨·, start.spanTo stop line⟩))
              (lexeme.outcome.map (⟨·, start.spanTo stop other⟩)) := by
            cases lexeme.outcome with
            | error error => exact .error rfl
            | ok kind => exact .ok ⟨rfl, rfl⟩
          refine here.bind fun token otherToken alike => ?_
          exact inductionHypothesis.bind fun tokens others further => .ok (.cons alike further)

/-- A text is cut up alike on lines with different numbers. -/
theorem agree_tokenize (text : String) (line other : Nat) :
    Agree Eq (List.Forall₂ LooksLike) (tokenize text line) (tokenize text other) :=
  agree_mapM_lexFrom line other ⟨0, 0⟩ text.toList

end Token

/-- What a text says does not depend on the number of its line, nor does the error if it says
nothing. -/
theorem Line.ofText_number (text : String) (number other : Nat) :
    ofText text number = ofText text other := by
  have agree := Token.agree_tokenize text number other
  unfold ofText
  cases found : Token.tokenize text number with
  | error error =>
      rw [found] at agree
      obtain ⟨_, otherFound, rfl⟩ := agree.of_error
      rw [otherFound]
  | ok tokens =>
      rw [found] at agree
      obtain ⟨others, otherFound, alike⟩ := agree.of_ok
      obtain ⟨kinds, -, before, last, rfl, -, -⟩ := Token.tokenize_eq_ok found
      rw [otherFound]
      have lines : Agree (ParseError.Answers Token.LooksLike) Eq _ (ofTokens others) :=
        agree_ofTokens And.left (by simp) alike
      exact (lines.mono (fun _ _ => ParseError.Answers.eq_of_looksLike) fun _ _ => id).eq

end Offside
