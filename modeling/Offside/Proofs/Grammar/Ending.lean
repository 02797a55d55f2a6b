import Offside.Proofs.Grammar.Descent
import Offside.Proofs.Grammar.Progress

/-!
# The parser comes to an end

The routines of the parser end with what its functions read (`Descent.allFollow`), and so does the
parser of lines (`Descent.ends_line`). What lets them end is the number of levels, on which the
proof is by induction: with none left, whatever would use one fails at once, and what does not use
one ends if the rest does. The two loops that use no level take a token each time. Along the way,
every routine puts the number of levels back to what it was when the operand that it belongs to
began.
-/

namespace Offside

open Expression (Level Suffix mostLevels tooDeep)

namespace Descent

open Parsing

/-- What a reading gives and where it goes on, with a number of levels in use. -/
def settle {α : Type} (depth : Nat) (reading : Except ParseError (α × Cursor)) :
    Except ParseError (α × State) :=
  reading.map fun found => (found.1, ⟨found.2, depth⟩)

namespace Routine

/-- What a routine reads where `levels` levels are left. -/
def reading : {α : Type} → Routine α → Nat → Cursor → Except ParseError (α × Cursor)
  | _, expression, levels, cursor => Expression.parse levels cursor
  | _, chain level, levels, cursor => Expression.parseChain level levels cursor
  | _, operators level _ left, levels, cursor => Expression.parseChainFrom level levels left cursor
  | _, negation, levels, cursor => Expression.parseNegation levels cursor
  | _, comparison, levels, cursor => do
      let (left, cursor) ← Expression.parseChain .sum levels cursor
      let (later, cursor) ← Expression.parseLinks levels cursor
      .ok (Expression.compared left later, cursor)
  | _, links, levels, cursor => Expression.parseLinks levels cursor
  | _, signed, levels, cursor => Expression.parseSigned levels cursor
  | _, suffixed, levels, cursor => do
      let (object, cursor) ← Expression.parsePrimary levels cursor
      Expression.parseSuffixes levels object cursor
  | _, suffixes _ object, levels, cursor => Expression.parseSuffixes levels object cursor
  | _, primary, levels, cursor => Expression.parsePrimary levels cursor
  | _, enclosed close, levels, cursor => do
      let (values, cursor) ← Expression.parseItems close levels cursor
      .ok (values, ← cursor.expect close)
  | _, items close, levels, cursor => Expression.parseItems close levels cursor

/-- The number of levels in use when a routine that began with `depth` of them is done. -/
def depthAfter : {α : Type} → Routine α → Nat → Nat
  | _, operators _ before _, _ => before
  | _, suffixes before _, _ => before
  | _, _, depth => depth

/-- Whether a routine ends with what is read where `levels` levels are left, whatever is
read. -/
def Follows {α : Type} (routine : Routine α) (levels : Nat) (cursor : Cursor) : Prop :=
  ∀ depth, depth + levels = mostLevels →
    (routine.body ⟨cursor, depth⟩).Ends (settle (routine.depthAfter depth)
      (routine.reading levels cursor))

end Routine

section

variable {α β : Type} {state : State} {cursor : Cursor} {depth after levels : Nat}

/-- A part that ends with a reading, and what follows it, end with the two readings one after the
other. -/
theorem ends_bind {part : Parsing α} {next : α → Parsing β}
    {reading : Except ParseError (α × Cursor)}
    {further : α × Cursor → Except ParseError (β × Cursor)}
    (first : (part state).Ends (settle depth reading))
    (later : ∀ value rest, reading = .ok (value, rest) →
      (next value ⟨rest, depth⟩).Ends (settle after (further (value, rest)))) :
    ((part >>= next) state).Ends (settle after (reading >>= further)) := by
  cases reading with
  | error error => exact first.andThen (fun _ => .error error) nofun
  | ok found =>
      refine first.andThen (fun _ => settle after (further found)) ?_
      rintro _ ⟨⟩
      exact later found.1 found.2 rfl

/-- The call of a routine, and what follows it, end with the two readings one after the other. -/
theorem ends_call_bind {routine : Routine α} {next : α → Parsing β}
    {further : α × Cursor → Except ParseError (β × Cursor)}
    (follows : routine.Follows levels cursor) (bounded : depth + levels = mostLevels)
    (later : ∀ value rest, routine.reading levels cursor = .ok (value, rest) →
      (next value ⟨rest, routine.depthAfter depth⟩).Ends (settle after (further (value, rest)))) :
    ((call routine >>= next) ⟨cursor, depth⟩).Ends
      (settle after (routine.reading levels cursor >>= further)) :=
  ends_bind (follows depth bounded).call later

/-- A part that looks at the number of levels in use goes on with that number. -/
theorem depth_bind {next : Nat → Parsing β} :
    (Parsing.depth >>= next) state = next state.depth state :=
  rfl

/-- A part that looks at its place goes on with that place. -/
theorem cursor_bind {next : Cursor → Parsing β} :
    (Parsing.cursor >>= next) state = next state.cursor state :=
  rfl

/-- A part that looks at the next word goes on with that word. -/
theorem word_bind {next : Token.Kind → Parsing β} :
    (word >>= next) state = next state.cursor.word state :=
  rfl

/-- A part that moves to another place goes on there. -/
theorem moveTo_bind {place : Cursor} {next : Unit → Parsing β} :
    (moveTo place >>= next) ⟨cursor, depth⟩ = next () ⟨place, depth⟩ :=
  rfl

/-- A part that moves behind the next token goes on there. -/
theorem advance_bind {next : Unit → Parsing β} :
    (advance >>= next) ⟨cursor, depth⟩ = next () ⟨cursor.advance, depth⟩ :=
  rfl

/-- A part whose beginning gives a value at once goes on with that value. -/
theorem bind_of_ok {part : Parsing α} {next : α → Parsing β} {value : α} {later : State}
    (gives : part state = .done (.ok (value, later))) :
    (part >>= next) state = next value later := by
  change (part state).andThen _ = _
  rw [gives]
  rfl

/-- A part whose beginning fails at once fails as a whole. -/
theorem bind_of_error {part : Parsing α} {next : α → Parsing β} {error : ParseError}
    (fails : part state = .done (.error error)) :
    (part >>= next) state = .done (.error error) := by
  change (part state).andThen _ = _
  rw [fails]
  rfl

/-- A symbol that is found where it is expected is passed. -/
theorem expect_of_ok {reading : Cursor → Except ParseError Cursor} {rest : Cursor}
    (found : reading cursor = .ok rest) :
    expect reading ⟨cursor, depth⟩ = .done (.ok ((), ⟨rest, depth⟩)) := by
  rw [expect, cursor_bind, found]
  rfl

/-- A symbol that is missed where it is expected is the error. -/
theorem expect_of_error {reading : Cursor → Except ParseError Cursor} {error : ParseError}
    (missed : reading cursor = .error error) :
    expect reading ⟨cursor, depth⟩ = .done (.error error) := by
  rw [expect, cursor_bind, missed]
  rfl

/-- What is read without a call is given at once. -/
theorem read_of_ok {reading : Cursor → Except ParseError (α × Cursor)} {value : α} {rest : Cursor}
    (found : reading cursor = .ok (value, rest)) :
    read reading ⟨cursor, depth⟩ = .done (.ok (value, ⟨rest, depth⟩)) := by
  unfold Parsing.read
  rw [cursor_bind, found]
  rfl

/-- What cannot be read without a call is the error. -/
theorem read_of_error {reading : Cursor → Except ParseError (α × Cursor)} {error : ParseError}
    (missed : reading cursor = .error error) :
    read reading ⟨cursor, depth⟩ = .done (.error error) := by
  unfold Parsing.read
  rw [cursor_bind, missed]
  rfl

/-- A part that expects a symbol ends with what is read behind the symbol. -/
theorem ends_expect_bind {reading : Cursor → Except ParseError Cursor} {next : Unit → Parsing β}
    {further : Cursor → Except ParseError (β × Cursor)}
    (later : ∀ rest, (next () ⟨rest, depth⟩).Ends (settle after (further rest))) :
    ((expect reading >>= next) ⟨cursor, depth⟩).Ends
      (settle after (reading cursor >>= further)) := by
  cases found : reading cursor with
  | error error =>
      rw [bind_of_error (expect_of_error found)]
      exact .done (.error error)
  | ok rest =>
      rw [bind_of_ok (expect_of_ok found)]
      exact later rest

/-- A part that reads something without a call ends with what is read behind that. -/
theorem ends_read_bind {reading : Cursor → Except ParseError (α × Cursor)} {next : α → Parsing β}
    {further : α × Cursor → Except ParseError (β × Cursor)}
    (later : ∀ value rest, (next value ⟨rest, depth⟩).Ends (settle after (further (value, rest)))) :
    ((read reading >>= next) ⟨cursor, depth⟩).Ends
      (settle after (reading cursor >>= further)) := by
  cases found : reading cursor with
  | error error =>
      rw [bind_of_error (read_of_error found)]
      exact .done (.error error)
  | ok pair =>
      rw [bind_of_ok (read_of_ok found)]
      exact later pair.1 pair.2

/-- A part that uses a level goes on with one more in use while levels are left. -/
theorem nest_bind {next : Unit → Parsing β} (bounded : depth + (levels + 1) = mostLevels) :
    (nest >>= next) ⟨cursor, depth⟩ = next () ⟨cursor, depth + 1⟩ := by
  have within : ¬ mostLevels < depth + 1 := by omega
  exact bind_of_ok (if_neg within)

/-- A part that uses a level fails where no level is left. -/
theorem nest_bind_zero {next : Unit → Parsing β} (bounded : depth + 0 = mostLevels) :
    (nest >>= next) ⟨cursor, depth⟩ = .done (.error tooDeep) := by
  have beyond : mostLevels < depth + 1 := by omega
  exact bind_of_error (if_pos beyond)

end

/-! ### One routine after the other -/

section

variable {levels : Nat} {cursor : Cursor}

/-- An expression needs a level. -/
theorem follows_expression_zero : Routine.expression.Follows 0 cursor := by
  intro depth bounded
  rw [Routine.body, depth_bind, nest_bind_zero bounded, Routine.reading, Expression.parse]
  exact .done (.error tooDeep)

/-- An expression ends if the disjunction that it is ends. -/
theorem follows_expression_succ (inner : (Routine.chain .disjunction).Follows levels cursor) :
    Routine.expression.Follows (levels + 1) cursor := by
  intro depth bounded
  rw [Routine.body, depth_bind, nest_bind bounded, Routine.reading, Expression.parse,
    ← bind_pure (Expression.parseChain _ _ _)]
  refine ends_call_bind inner (by omega) fun value rest _ => ?_
  exact .done (.ok (value, ⟨rest, depth⟩))

/-- The routine for an operand of a level reads one. -/
theorem reading_operand (level : Level) :
    (operand level).reading levels cursor = Expression.parseOperand level levels cursor := by
  cases level <;> rw [Expression.parseOperand] <;> rfl

/-- The routine for an operand of a level puts the number of levels back. -/
theorem depthAfter_operand (level : Level) (depth : Nat) :
    (operand level).depthAfter depth = depth := by
  cases level <;> rfl

/-- A chain ends if its first operand and the operators that follow do. -/
theorem follows_chain {level : Level} (first : (operand level).Follows levels cursor)
    (more : ∀ depth left cursor, (Routine.operators level depth left).Follows levels cursor) :
    (Routine.chain level).Follows levels cursor := by
  intro depth bounded
  rw [Routine.body, depth_bind, Routine.reading, Expression.parseChain, ← reading_operand]
  refine ends_call_bind first bounded fun left rest _ => ?_
  rw [depthAfter_operand]
  exact (more depth left rest depth bounded).call

/-- Without an operator next, a chain ends. -/
theorem follows_operators_of_none {level : Level} {before : Nat} {left : Expression}
    (absent : level.join? cursor.word = none) :
    (Routine.operators level before left).Follows levels cursor := by
  intro depth bounded
  rw [Routine.body, word_bind, absent, Routine.reading, Expression.parseChainFrom_of_none absent]
  exact .done (.ok (left, ⟨cursor, before⟩))

/-- An operator needs a level. -/
theorem follows_operators_zero {level : Level} {before : Nat} {left : Expression}
    {join : Expression → Expression → Expression} (shown : level.join? cursor.word = some join) :
    (Routine.operators level before left).Follows 0 cursor := by
  intro depth bounded
  rw [Routine.body, word_bind, shown, Routine.reading, Expression.parseChainFrom_zero shown]
  dsimp only
  rw [nest_bind_zero bounded]
  exact .done (.error tooDeep)

/-- A chain goes on behind an operator with its right operand. -/
theorem follows_operators_succ {level : Level} {before : Nat} {left : Expression}
    {join : Expression → Expression → Expression} (shown : level.join? cursor.word = some join)
    (second : (operand level).Follows levels cursor.advance)
    (more : ∀ left cursor, (Routine.operators level before left).Follows levels cursor) :
    (Routine.operators level before left).Follows (levels + 1) cursor := by
  intro depth bounded
  rw [Routine.body, word_bind, shown, Routine.reading, Expression.parseChainFrom_succ shown,
    ← reading_operand]
  dsimp only
  rw [nest_bind bounded, advance_bind]
  refine ends_call_bind second (by omega) fun right rest _ => ?_
  rw [depthAfter_operand]
  exact (more (join left right) rest (depth + 1) (by omega)).call

/-- A `not` needs a level. -/
theorem follows_negation_zero (shown : cursor.word = .keyword .kwNot) :
    Routine.negation.Follows 0 cursor := by
  intro depth bounded
  rw [Routine.body, cursor_bind, Routine.reading, Expression.parseNegation_zero shown]
  rw [if_pos (Cursor.isAtKeyword_iff.mpr shown), depth_bind, nest_bind_zero bounded]
  exact .done (.error tooDeep)

/-- A `not` ends with the operand behind it. -/
theorem follows_negation_succ (shown : cursor.word = .keyword .kwNot)
    (inner : Routine.negation.Follows levels cursor.advance) :
    Routine.negation.Follows (levels + 1) cursor := by
  intro depth bounded
  rw [Routine.body, cursor_bind, Routine.reading, Expression.parseNegation_succ shown]
  rw [if_pos (Cursor.isAtKeyword_iff.mpr shown), depth_bind, nest_bind bounded, advance_bind]
  refine ends_call_bind inner (by omega) fun value rest _ => ?_
  exact .done (.ok (Expression.unary .not value, ⟨rest, depth⟩))

/-- Without a `not`, a comparison is read. -/
theorem follows_negation_comparison (absent : cursor.word ≠ .keyword .kwNot)
    (inner : Routine.comparison.Follows levels cursor) :
    Routine.negation.Follows levels cursor := by
  intro depth bounded
  rw [Routine.body, cursor_bind, Routine.reading, Expression.parseNegation_comparison absent]
  rw [if_neg (mt Cursor.isAtKeyword_iff.mp absent)]
  exact (inner depth bounded).call

/-- A comparison ends with its first operand and the comparisons that follow. -/
theorem follows_comparison (first : (Routine.chain .sum).Follows levels cursor)
    (more : ∀ cursor, Routine.links.Follows levels cursor) :
    Routine.comparison.Follows levels cursor := by
  intro depth bounded
  rw [Routine.body, Routine.reading]
  refine ends_call_bind first bounded fun left rest _ => ?_
  refine ends_call_bind (more rest) bounded fun later rest _ => ?_
  exact .done (.ok (Expression.compared left later, ⟨rest, depth⟩))

/-- Signs need levels. -/
theorem follows_signed_zero {op : UnaryOp} (shown : Expression.signOp? cursor.word = some op) :
    Routine.signed.Follows 0 cursor := by
  intro depth bounded
  rw [Routine.body, word_bind, shown, Routine.reading, Expression.parseSigned_zero shown]
  dsimp only
  rw [depth_bind, nest_bind_zero bounded]
  exact .done (.error tooDeep)

/-- A sign ends with the operand behind it. -/
theorem follows_signed_succ {op : UnaryOp} (shown : Expression.signOp? cursor.word = some op)
    (inner : Routine.signed.Follows levels cursor.advance) :
    Routine.signed.Follows (levels + 1) cursor := by
  intro depth bounded
  rw [Routine.body, word_bind, shown, Routine.reading, Expression.parseSigned_succ shown]
  dsimp only
  rw [depth_bind, nest_bind bounded, advance_bind]
  refine ends_call_bind inner (by omega) fun value rest _ => ?_
  exact .done (.ok (Expression.unary op value, ⟨rest, depth⟩))

/-- Without a sign, a primary and its suffixes are read. -/
theorem follows_signed_of_none (absent : Expression.signOp? cursor.word = none)
    (inner : Routine.suffixed.Follows levels cursor) : Routine.signed.Follows levels cursor := by
  intro depth bounded
  rw [Routine.body, word_bind, absent, Routine.reading, Expression.parseSigned_of_none absent]
  exact (inner depth bounded).call

/-- An operand with suffixes ends if its primary and the suffixes that follow end one after the
other. -/
theorem follows_suffixed (object : Routine.primary.Follows levels cursor)
    (more : ∀ depth object cursor, (Routine.suffixes depth object).Follows levels cursor) :
    Routine.suffixed.Follows levels cursor := by
  intro depth bounded
  rw [Routine.body, depth_bind, Routine.reading]
  refine ends_call_bind object bounded fun object rest _ => ?_
  exact (more depth object rest depth bounded).call

/-- Without a suffix next, an operand ends. -/
theorem follows_suffixes_of_none {before : Nat} {object : Expression}
    (absent : Expression.suffix? cursor.word = none) :
    (Routine.suffixes before object).Follows levels cursor := by
  intro depth bounded
  rw [Routine.body, word_bind, absent, Routine.reading, Expression.parseSuffixes_of_none absent]
  exact .done (.ok (object, ⟨cursor, before⟩))

/-- A suffix needs a level. -/
theorem follows_suffixes_zero {before : Nat} {object : Expression} {suffix : Suffix}
    (shown : Expression.suffix? cursor.word = some suffix) :
    (Routine.suffixes before object).Follows 0 cursor := by
  intro depth bounded
  rw [Routine.body, word_bind, shown, Routine.reading, Expression.parseSuffixes_zero shown]
  dsimp only
  rw [nest_bind_zero bounded]
  exact .done (.error tooDeep)

/-- Values up to a closing symbol are read with the symbol. -/
theorem reading_enclosed_bind {β : Type} (close : Symbol)
    (further : List Expression → Cursor → Except ParseError (β × Cursor)) :
    (Expression.parseItems close levels cursor >>= fun (values, rest) =>
        rest.expect close >>= fun rest => further values rest) =
      (Routine.enclosed close).reading levels cursor >>= fun (values, rest) =>
        further values rest := by
  rw [Routine.reading, bind_assoc]
  refine bind_congr fun found => ?_
  rw [bind_assoc]
  rfl

/-- An operand goes on behind a suffix. -/
theorem follows_suffixes_succ {before : Nat} {object : Expression} {suffix : Suffix}
    (shown : Expression.suffix? cursor.word = some suffix)
    (arguments : (Routine.enclosed .rightParen).Follows levels cursor.advance)
    (position : Routine.expression.Follows levels cursor.advance)
    (more : ∀ object cursor, (Routine.suffixes before object).Follows levels cursor) :
    (Routine.suffixes before object).Follows (levels + 1) cursor := by
  intro depth bounded
  have bounded : depth + 1 + levels = mostLevels := by omega
  have symbol := Expression.suffix?_eq_some_iff.mp shown
  rw [Routine.body, word_bind, shown, Routine.reading]
  dsimp only
  rw [nest_bind (by omega), advance_bind]
  cases suffix with
  | call =>
      rw [Expression.parseSuffixes_call symbol, reading_enclosed_bind .rightParen fun values =>
        Expression.parseSuffixes levels (.call object values)]
      refine ends_call_bind arguments bounded fun values rest _ => ?_
      exact (more (.call object values) rest (depth + 1) bounded).call
  | subscript =>
      rw [Expression.parseSuffixes_subscript symbol]
      refine ends_call_bind position bounded fun value rest _ => ?_
      refine ends_expect_bind fun rest => ?_
      exact (more (.index object value) rest (depth + 1) bounded).call
  | attributeName =>
      rw [Expression.parseSuffixes_member symbol]
      refine ends_read_bind fun word rest => ?_
      exact (more (.member object word) rest (depth + 1) bounded).call

/-- A primary ends if what stands in its brackets does. -/
theorem follows_primary (inner : ∀ cursor, Routine.expression.Follows levels cursor)
    (elements : ∀ cursor, (Routine.enclosed .rightBracket).Follows levels cursor) :
    Routine.primary.Follows levels cursor := by
  intro depth bounded
  rw [Routine.body, word_bind, Routine.reading]
  cases atom : Expression.ofToken? cursor.word with
  | some value =>
      rw [Expression.parsePrimary_atom atom]
      exact .done (.ok (value, ⟨cursor.advance, depth⟩))
  | none =>
      dsimp only
      rw [cursor_bind]
      by_cases paren : cursor.word = .symbol .leftParen
      · rw [if_pos (Cursor.isAt_iff.mpr paren), Expression.parsePrimary_bracketed paren,
          advance_bind]
        refine ends_call_bind (inner _) bounded fun value rest _ => ?_
        refine ends_expect_bind fun rest => ?_
        exact .done (.ok (value, ⟨rest, depth⟩))
      · rw [if_neg (mt Cursor.isAt_iff.mp paren), cursor_bind]
        by_cases bracket : cursor.word = .symbol .leftBracket
        · rw [if_pos (Cursor.isAt_iff.mpr bracket), Expression.parsePrimary_list bracket,
            reading_enclosed_bind .rightBracket fun values rest =>
              .ok (Expression.list values, rest), advance_bind]
          refine ends_call_bind (elements _) bounded fun values rest _ => ?_
          exact .done (.ok (Expression.list values, ⟨rest, depth⟩))
        · rw [if_neg (mt Cursor.isAt_iff.mp bracket), Expression.parsePrimary_otherwise atom
            paren bracket]
          exact .done (.error (cursor.expected "expression"))

/-- What stands before a closing symbol ends if the items there do. -/
theorem follows_enclosed {close : Symbol} (inner : (Routine.items close).Follows levels cursor) :
    (Routine.enclosed close).Follows levels cursor := by
  intro depth bounded
  rw [Routine.body, Routine.reading]
  refine ends_call_bind inner bounded fun values rest _ => ?_
  refine ends_expect_bind fun rest => ?_
  exact .done (.ok (values, ⟨rest, depth⟩))

/-- Without a comparison next, the comparisons end. -/
theorem follows_links_of_none (absent : Expression.compareOp? cursor = none) :
    Routine.links.Follows levels cursor := by
  intro depth bounded
  rw [Routine.body, cursor_bind, Routine.reading, Expression.parseLinks_of_none absent]
  dsimp only
  rw [absent]
  exact .done (.ok ([], ⟨cursor, depth⟩))

/-- Each comparison ends with its right operand and the comparisons behind that. -/
theorem follows_links_of_some {op : CompareOp} {behind : Cursor}
    (shown : Expression.compareOp? cursor = some (op, behind))
    (second : (Routine.chain .sum).Follows levels behind)
    (more : ∀ rest : Cursor, rest.remaining < cursor.remaining →
      Routine.links.Follows levels rest) :
    Routine.links.Follows levels cursor := by
  intro depth bounded
  rw [Routine.body, cursor_bind, Routine.reading, Expression.parseLinks_unguarded shown]
  dsimp only
  rw [shown]
  dsimp only
  rw [moveTo_bind]
  refine ends_call_bind second bounded fun right rest found => ?_
  have fewer := Expression.remaining_lt_of_link shown found
  refine ends_call_bind (more rest fewer) bounded fun later rest _ => ?_
  exact .done (.ok ((op, right) :: later, ⟨rest, depth⟩))

/-- The comparisons end if their operands do: each of them takes a token. -/
theorem follows_links (operand : ∀ cursor, (Routine.chain .sum).Follows levels cursor) :
    Routine.links.Follows levels cursor := by
  -- A comparison uses no level, so the induction is on the tokens that are left.
  induction left : cursor.remaining using Nat.strongRecOn generalizing cursor with
  | ind left inductionHypothesis =>
      cases shown : Expression.compareOp? cursor with
      | none => exact follows_links_of_none shown
      | some found =>
          obtain ⟨op, behind⟩ := found
          refine follows_links_of_some shown (operand behind) fun rest fewer => ?_
          exact inductionHypothesis rest.remaining (left ▸ fewer) rfl

/-- Before the closing symbol, the items end. -/
theorem follows_items_of_close {close : Symbol} (shown : cursor.word = .symbol close) :
    (Routine.items close).Follows levels cursor := by
  intro depth bounded
  rw [Routine.body, cursor_bind, Routine.reading, Expression.parseItems_of_close shown]
  rw [if_pos (Cursor.isAt_iff.mpr shown)]
  exact .done (.ok ([], ⟨cursor, depth⟩))

/-- An item ends, and the items behind its comma do. -/
theorem follows_items_of_item {close : Symbol} (unclosed : cursor.word ≠ .symbol close)
    (first : Routine.expression.Follows levels cursor)
    (more : ∀ rest : Cursor, rest.remaining < cursor.remaining →
      (Routine.items close).Follows levels rest) :
    (Routine.items close).Follows levels cursor := by
  intro depth bounded
  rw [Routine.body, cursor_bind, Routine.reading, Expression.parseItems_unguarded unclosed]
  rw [if_neg (mt Cursor.isAt_iff.mp unclosed)]
  refine ends_call_bind first bounded fun item rest found => ?_
  rw [cursor_bind]
  by_cases comma : rest.isAt .comma
  · have fewer := Expression.remaining_lt_of_item found (Cursor.isAt_iff.mp comma)
    dsimp only
    rw [if_pos comma, if_pos comma, advance_bind]
    refine ends_call_bind (more rest.advance fewer) bounded fun later rest _ => ?_
    exact .done (.ok (item :: later, ⟨rest, depth⟩))
  · dsimp only
    rw [if_neg comma, if_neg comma]
    exact .done (.ok ([item], ⟨rest, depth⟩))

/-- The items end if expressions do: each of them takes a token with the comma behind it. -/
theorem follows_items {close : Symbol}
    (item : ∀ cursor, Routine.expression.Follows levels cursor) :
    (Routine.items close).Follows levels cursor := by
  induction left : cursor.remaining using Nat.strongRecOn generalizing cursor with
  | ind left inductionHypothesis =>
      by_cases shown : cursor.word = .symbol close
      · exact follows_items_of_close shown
      · refine follows_items_of_item shown (item cursor) fun rest fewer => ?_
        exact inductionHypothesis rest.remaining (left ▸ fewer) rfl

/-! ### All routines end -/

/-- Whether every routine follows what is read with a number of levels. -/
def AllFollow (levels : Nat) : Prop :=
  ∀ (α : Type) (routine : Routine α) (cursor : Cursor), routine.Follows levels cursor

/-- All routines end if those do that use up a level, or have used one. -/
theorem allFollow_of_nested (expression : ∀ cursor, Routine.expression.Follows levels cursor)
    (operators : ∀ level depth left cursor,
      (Routine.operators level depth left).Follows levels cursor)
    (suffixes : ∀ depth object cursor, (Routine.suffixes depth object).Follows levels cursor)
    (sign : ∀ (op : UnaryOp) (cursor : Cursor), Expression.signOp? cursor.word = some op →
      Routine.signed.Follows levels cursor)
    (not : ∀ cursor : Cursor, cursor.word = .keyword .kwNot →
      Routine.negation.Follows levels cursor) :
    AllFollow levels := by
  -- From the inside out: what a routine calls without using a level stands before it.
  have items : ∀ close cursor, (Routine.items close).Follows levels cursor :=
    fun close cursor => follows_items expression
  have enclosed : ∀ close cursor, (Routine.enclosed close).Follows levels cursor :=
    fun close cursor => follows_enclosed (items close cursor)
  have primary : ∀ cursor, Routine.primary.Follows levels cursor :=
    fun cursor => follows_primary expression (enclosed .rightBracket)
  have suffixed : ∀ cursor, Routine.suffixed.Follows levels cursor :=
    fun cursor => follows_suffixed (primary cursor) suffixes
  have signed : ∀ cursor, Routine.signed.Follows levels cursor := by
    intro cursor
    cases shown : Expression.signOp? cursor.word with
    | some op => exact sign op cursor shown
    | none => exact follows_signed_of_none shown (suffixed cursor)
  have term : ∀ cursor, (Routine.chain .term).Follows levels cursor :=
    fun cursor => follows_chain (signed cursor) (operators .term)
  have sum : ∀ cursor, (Routine.chain .sum).Follows levels cursor :=
    fun cursor => follows_chain (term cursor) (operators .sum)
  have links : ∀ cursor, Routine.links.Follows levels cursor :=
    fun cursor => follows_links sum
  have comparison : ∀ cursor, Routine.comparison.Follows levels cursor :=
    fun cursor => follows_comparison (sum cursor) links
  have negation : ∀ cursor, Routine.negation.Follows levels cursor := by
    intro cursor
    by_cases shown : cursor.word = .keyword .kwNot
    · exact not cursor shown
    · exact follows_negation_comparison shown (comparison cursor)
  have conjunction : ∀ cursor, (Routine.chain .conjunction).Follows levels cursor :=
    fun cursor => follows_chain (negation cursor) (operators .conjunction)
  have disjunction : ∀ cursor, (Routine.chain .disjunction).Follows levels cursor :=
    fun cursor => follows_chain (conjunction cursor) (operators .disjunction)
  intro α routine cursor
  cases routine with
  | expression => exact expression cursor
  | chain level =>
      cases level with
      | disjunction => exact disjunction cursor
      | conjunction => exact conjunction cursor
      | sum => exact sum cursor
      | term => exact term cursor
  | operators level depth left => exact operators level depth left cursor
  | negation => exact negation cursor
  | comparison => exact comparison cursor
  | links => exact links cursor
  | signed => exact signed cursor
  | suffixed => exact suffixed cursor
  | suffixes depth object => exact suffixes depth object cursor
  | primary => exact primary cursor
  | enclosed close => exact enclosed close cursor
  | items close => exact items close cursor

/-- Where no level is left, all routines end. -/
theorem allFollow_zero : AllFollow 0 := by
  apply allFollow_of_nested
  case expression => exact fun _ => follows_expression_zero
  case operators =>
    intro level depth left cursor
    cases shown : level.join? cursor.word with
    | none => exact follows_operators_of_none shown
    | some join => exact follows_operators_zero shown
  case suffixes =>
    intro depth object cursor
    cases shown : Expression.suffix? cursor.word with
    | none => exact follows_suffixes_of_none shown
    | some suffix => exact follows_suffixes_zero shown
  case sign => exact fun _ _ shown => follows_signed_zero shown
  case not => exact fun _ shown => follows_negation_zero shown

/-- With one more level, all routines still end: what uses it up ends with the levels that
are left. -/
theorem allFollow_succ (fewer : AllFollow levels) : AllFollow (levels + 1) := by
  apply allFollow_of_nested
  case expression => exact fun cursor => follows_expression_succ (fewer _ _ cursor)
  case operators =>
    intro level depth left cursor
    cases shown : level.join? cursor.word with
    | none => exact follows_operators_of_none shown
    | some join =>
        exact follows_operators_succ shown (fewer _ _ _) fun left cursor => fewer _ _ cursor
  case suffixes =>
    intro depth object cursor
    cases shown : Expression.suffix? cursor.word with
    | none => exact follows_suffixes_of_none shown
    | some suffix =>
        exact follows_suffixes_succ shown (fewer _ _ _) (fewer _ _ _) fun object cursor =>
          fewer _ _ cursor
  case sign => exact fun _ cursor shown => follows_signed_succ shown (fewer _ _ cursor.advance)
  case not => exact fun cursor shown => follows_negation_succ shown (fewer _ _ cursor.advance)

/-- With any number of levels, all routines end. -/
theorem allFollow (levels : Nat) : AllFollow levels := by
  induction levels with
  | zero => exact allFollow_zero
  | succ levels inductionHypothesis => exact allFollow_succ inductionHypothesis

end

/-! ### Lines -/

/-- Whether a part ends with what is read before any level is in use, whatever is read. -/
def Parsing.EndsAs {α : Type} (part : Parsing α) (cursor : Cursor)
    (reading : Except ParseError (α × Cursor)) : Prop :=
  (part ⟨cursor, 0⟩).Ends (settle 0 reading)

namespace Parsing.EndsAs

variable {α β : Type} {cursor : Cursor}

/-- A part that gives a value at once has read it. -/
theorem done (value : α) : (pure value : Parsing α).EndsAs cursor (.ok (value, cursor)) :=
  Script.Ends.done (.ok (value, ⟨cursor, 0⟩))

/-- A part that fails has failed to read. -/
theorem failed (error : ParseError) : (fail error : Parsing α).EndsAs cursor (.error error) :=
  Script.Ends.done (.error error)

/-- A part that ends with a reading, and what follows it, end with the readings one after
the other. -/
theorem bind {part : Parsing α} {next : α → Parsing β} {reading : Except ParseError (α × Cursor)}
    {further : α × Cursor → Except ParseError (β × Cursor)} (first : part.EndsAs cursor reading)
    (later : ∀ value rest, (next value).EndsAs rest (further (value, rest))) :
    (part >>= next).EndsAs cursor (reading >>= further) :=
  ends_bind first fun value rest _ => later value rest

/-- An expression with all its levels is read. -/
theorem expression : (call Routine.expression).EndsAs cursor (Line.parseExpression cursor) :=
  (allFollow mostLevels _ .expression cursor 0 (Nat.zero_add mostLevels)).call

/-- A part that makes something of an expression ends with what is read of the expression. -/
theorem expression_bind {next : Expression → Parsing β}
    {further : Expression × Cursor → Except ParseError (β × Cursor)}
    (later : ∀ value rest, (next value).EndsAs rest (further (value, rest))) :
    (call Routine.expression >>= next).EndsAs cursor
      (Line.parseExpression cursor >>= further) :=
  expression.bind later

end Parsing.EndsAs

open Parsing (EndsAs)

section

variable {cursor : Cursor}

/-- A part that goes on behind the next token ends with what is read from there. -/
theorem endsAs_advance_bind {β : Type} {next : Unit → Parsing β}
    {reading : Except ParseError (β × Cursor)} (later : (next ()).EndsAs cursor.advance reading) :
    (advance >>= next).EndsAs cursor reading :=
  later

/-- A statement of one word ends behind that. -/
theorem endsAs_plain (statement : Statement) :
    (plain statement).EndsAs cursor (.ok (statement, cursor.advance)) :=
  endsAs_advance_bind (.done statement)

/-- The value of an assignment is read behind the target and the sign. -/
theorem endsAs_assigned (statement : Expression → Statement) :
    (assigned statement).EndsAs cursor
      (Line.parseExpression cursor.advance.advance >>= fun (value, rest) =>
        .ok (statement value, rest)) := by
  refine endsAs_advance_bind (endsAs_advance_bind ?_)
  exact EndsAs.expression_bind fun value _ => .done (statement value)

/-- An expression stands as a statement unless it is assigned to. -/
theorem endsAs_bare : bare.EndsAs cursor (Line.parseBare cursor) := by
  refine EndsAs.expression_bind fun value rest => ?_
  rw [EndsAs, word_bind]
  dsimp only
  by_cases assigns : rest.word.assigns
  · have refused : rest.current.kind.assigns := assigns
    rw [if_pos assigns, if_pos refused]
    exact EndsAs.failed (.invalidTarget value.asTarget)
  · have allowed : ¬ rest.current.kind.assigns := assigns
    rw [if_neg assigns, if_neg allowed]
    exact EndsAs.done (Statement.expression value)

/-- Statements that need no block end. -/
theorem endsAs_simple : (simple cursor).EndsAs cursor (Line.parseSimple cursor) := by
  unfold simple Line.parseSimple
  generalize cursor.current.kind = first, cursor.second.kind = second
  cases first with
  | keyword word =>
      cases word with
      | kwPass => exact endsAs_plain .pass
      | kwBreak => exact endsAs_plain .stop
      | kwContinue => exact endsAs_plain .next
      | _ => exact endsAs_bare
  | name target =>
      cases second with
      | symbol sign =>
          cases sign with
          | equal => exact endsAs_assigned (.assign target)
          | plusEqual => exact endsAs_assigned (.update target .add)
          | minusEqual => exact endsAs_assigned (.update target .sub)
          | starEqual => exact endsAs_assigned (.update target .mul)
          | slashEqual => exact endsAs_assigned (.update target .div)
          | doubleSlashEqual => exact endsAs_assigned (.update target .floorDiv)
          | percentEqual => exact endsAs_assigned (.update target .mod)
          | _ => exact endsAs_bare
      | _ => exact endsAs_bare
  | _ => exact endsAs_bare

/-- The condition of a header is read behind the word of the header. -/
theorem endsAs_conditional (header : Expression → Header) :
    (conditional header).EndsAs cursor
      (Line.parseExpression cursor.advance >>= fun (condition, rest) =>
        .ok (header condition, rest)) := by
  refine endsAs_advance_bind ?_
  exact EndsAs.expression_bind fun condition _ => .done (header condition)

/-- The target of a loop is read behind its word, and what it goes over behind another one. -/
theorem endsAs_forEach :
    (do
      advance
      let target ← read (·.expectName)
      expect (·.expectKeyword .kwIn)
      return Header.forEach target (← call .expression)).EndsAs cursor
      (cursor.advance.expectName >>= fun (target, rest) =>
        rest.expectKeyword .kwIn >>= fun rest =>
          Line.parseExpression rest >>= fun (iterable, rest) =>
            .ok (.forEach target iterable, rest)) := by
  refine endsAs_advance_bind ?_
  refine ends_read_bind fun target rest => ?_
  refine ends_expect_bind fun rest => ?_
  exact EndsAs.expression_bind fun iterable _ => .done (Header.forEach target iterable)

/-- A header is read where one begins, and nothing where none does. -/
theorem endsAs_header? (cursor : Cursor) :
    (header? cursor = none ∧ Line.parseHeader? cursor = none) ∨
      ∃ part reading, header? cursor = some part ∧ Line.parseHeader? cursor = some reading ∧
        part.EndsAs cursor reading := by
  unfold header? Line.parseHeader?
  generalize cursor.current.kind = first
  cases first with
  | keyword word =>
      cases word with
      | kwFor => exact .inr ⟨_, _, rfl, rfl, endsAs_forEach⟩
      | kwWhile => exact .inr ⟨_, _, rfl, rfl, endsAs_conditional .whileLoop⟩
      | kwIf => exact .inr ⟨_, _, rfl, rfl, endsAs_conditional .branch⟩
      | kwElif => exact .inr ⟨_, _, rfl, rfl, endsAs_conditional .elseBranch⟩
      | kwElse => exact .inr ⟨_, _, rfl, rfl, endsAs_advance_bind (.done Header.otherwise)⟩
      | _ => exact .inl ⟨rfl, rfl⟩
  | _ => exact .inl ⟨rfl, rfl⟩

/-- What is read at the end of a line. -/
def finished (line : Line) (cursor : Cursor) : Except ParseError (Line × Cursor) :=
  cursor.expectEnd.map (fun _ => cursor.advance) >>= fun rest => .ok (line, rest)

/-- A line has been read behind its end. -/
theorem endsAs_finished (line : Line) :
    (expectEnd >>= fun _ => pure line).EndsAs cursor (finished line cursor) :=
  ends_expect_bind fun _ => EndsAs.done line

/-- What is read of a line is the line that its tokens make up. -/
theorem map_finished (line : Line) :
    (settle 0 (finished line cursor)).map Prod.fst = cursor.expectEnd >>= fun _ => .ok line := by
  unfold finished
  cases cursor.expectEnd <;> rfl

/-- What is found in two steps is found by the second one, after the first. -/
theorem map_settle_bind {α β : Type} {reading : Except ParseError α}
    {further : α → Except ParseError (β × Cursor)} :
    (settle 0 (reading >>= further)).map Prod.fst =
      reading >>= fun found => (settle 0 (further found)).map Prod.fst := by
  cases reading <;> rfl

/-- A line that is a statement ends behind it. -/
theorem endsAs_simple_line :
    (do
      let statement ← simple cursor
      expectEnd
      return Line.simple statement).EndsAs cursor
      (Line.parseSimple cursor >>= fun (statement, rest) => finished (.simple statement) rest) :=
  endsAs_simple.bind fun statement _ => endsAs_finished (.simple statement)

/-- A line that is a header ends behind its colon. -/
theorem endsAs_header_line {part : Parsing Header}
    {reading : Except ParseError (Header × Cursor)} (endsAs : part.EndsAs cursor reading) :
    (do
      let found ← part
      expect (·.expect .colon)
      expectEnd
      return Line.header found).EndsAs cursor
      (reading >>= fun (found, rest) =>
        rest.expect .colon >>= fun rest => finished (.header found) rest) := by
  refine endsAs.bind fun header _ => ?_
  exact ends_expect_bind fun _ => endsAs_finished (.header header)

/-- The parser of lines comes to an end with what the tokens make up, whatever tokens these are. -/
theorem ends_line (tokens : List Token) : ∃ result,
    (line ⟨Cursor.ofTokens tokens, 0⟩).Ends result ∧
      result.map Prod.fst = Line.ofTokens tokens := by
  unfold Line.ofTokens line
  rw [cursor_bind]
  obtain ⟨absent, otherAbsent⟩ | ⟨part, reading, shown, otherShown, endsAs⟩ :=
    endsAs_header? (Cursor.ofTokens tokens)
  · dsimp only
    rw [absent, otherAbsent]
    refine ⟨_, endsAs_simple_line, ?_⟩
    rw [map_settle_bind]
    exact bind_congr fun found => map_finished _
  · dsimp only
    rw [shown, otherShown]
    refine ⟨_, endsAs_header_line endsAs, ?_⟩
    rw [map_settle_bind]
    refine bind_congr fun found => ?_
    rw [map_settle_bind]
    exact bind_congr fun rest => map_finished _

end

end Descent

end Offside
