import Mathlib.Data.List.Chain
import Mathlib.Logic.Function.Iterate
import Offside.Proofs.Grammar.Ending

/-!
# The calls of the parser that are active at once

While a routine of the parser is at work, it waits for one that it has called, and that for a
further one: these calls are active at that moment (`Script.Active`). A call is made with more
levels in use, or else by a routine of higher rank (`Call.Makes`), so that no more calls are active
than the levels allow, however many tokens there are.

What a routine does depends on what its calls do. `Script.Keeps` therefore checks a routine against
everything that its calls may do, and `isKept` does so for each of them: which calls it makes, and
that it goes on behind the token where it began. `bookkeeping` says what follows for all lists of
tokens.
-/

namespace Offside

open Expression (Level mostLevels)

namespace Cursor

/-- Whether a cursor is some tokens further than another one. -/
def IsPast (cursor start : Cursor) : Prop :=
  ∃ count, cursor = advance^[count] start

/-- A cursor is no tokens further than itself. -/
theorem IsPast.refl (cursor : Cursor) : cursor.IsPast cursor :=
  ⟨0, rfl⟩

/-- A further cursor is still further than one before the other. -/
theorem IsPast.trans {cursor middle start : Cursor} (past : cursor.IsPast middle)
    (before : middle.IsPast start) : cursor.IsPast start := by
  obtain ⟨count, rfl⟩ := past
  obtain ⟨first, rfl⟩ := before
  exact ⟨count + first, (Function.iterate_add_apply _ _ _ _).symm⟩

/-- Behind the next token a cursor is further. -/
theorem isPast_advance (cursor : Cursor) : cursor.advance.IsPast cursor :=
  ⟨1, rfl⟩

/-- A cursor that is past the place behind a token is past that token. -/
theorem IsPast.of_advance {cursor start : Cursor} (past : cursor.IsPast start.advance) :
    cursor.IsPast start :=
  past.trans start.isPast_advance

/-- A cursor that is past another one is still past it when both go on behind their next tokens. -/
theorem IsPast.advance {cursor start : Cursor} (past : cursor.IsPast start) :
    cursor.advance.IsPast start.advance := by
  obtain ⟨count, rfl⟩ := past
  exact ⟨count, (Function.Commute.iterate_self Cursor.advance count start).symm⟩

/-- Behind a comparison a cursor is further. -/
theorem isPast_of_compareOp? {cursor behind : Cursor} {op : CompareOp}
    (shown : Expression.compareOp? cursor = some (op, behind)) : behind.IsPast cursor := by
  rcases Expression.behind_of_compareOp? shown with rfl | rfl
  · exact cursor.isPast_advance
  · exact cursor.advance.isPast_advance.of_advance

/-- The cursor at a place in some tokens; the one that begins with them is at place 0. -/
def atPlace (tokens : List Token) (place : Nat) : Cursor where
  ahead := tokens.drop place
  last := (ofTokens tokens).last
  remaining := tokens.length - place
  remaining_eq := List.length_drop.symm

section

variable {tokens : List Token} {place : Nat}

/-- Behind the next token is the next place. -/
theorem advance_atPlace : (atPlace tokens place).advance = atPlace tokens (place + 1) :=
  ext_shown List.tail_drop rfl

/-- All places behind the tokens are one. -/
theorem atPlace_of_length_le (outside : tokens.length ≤ place) :
    atPlace tokens place = atPlace tokens tokens.length := by
  refine ext_shown ?_ rfl
  exact (List.drop_of_length_le outside).trans (List.drop_of_length_le (Nat.le_refl _)).symm

/-- Some tokens further is a place that many further. -/
theorem iterate_advance_atPlace (count : Nat) :
    advance^[count] (atPlace tokens place) = atPlace tokens (place + count) := by
  induction count with
  | zero => rfl
  | succ count inductionHypothesis =>
      rw [Function.iterate_succ_apply', inductionHypothesis, advance_atPlace, Nat.add_assoc]

/-- Behind the next token is a place that is further, unless there is none. -/
theorem exists_atPlace_of_isPast {rest : Cursor}
    (past : rest.IsPast (atPlace tokens place).advance) :
    ∃ later, rest = atPlace tokens later ∧ place ≤ later ∧ later ≤ max place tokens.length ∧
      (place < tokens.length → place < later) := by
  obtain ⟨count, rfl⟩ := past
  rw [advance_atPlace, iterate_advance_atPlace]
  by_cases inside : place + 1 + count ≤ tokens.length
  · exact ⟨place + 1 + count, rfl, by omega, by omega, by omega⟩
  · refine ⟨max place tokens.length, ?_, by omega, by omega, by omega⟩
    rw [atPlace_of_length_le (by omega), ← atPlace_of_length_le (Nat.le_max_right _ _)]

end

end Cursor

namespace Descent

open Parsing

/-! ### What a call may do -/

namespace Routine

/-- Whether a routine is the rest of the one it stands in: its loop. -/
def isLoop : {α : Type} → Routine α → Bool
  | _, operators .. | _, links | _, suffixes .. | _, items _ => true
  | _, _ => false

/-- Whether a routine uses a level for itself where it begins at a cursor. -/
def needsLevel : {α : Type} → Routine α → Cursor → Bool
  | _, expression, _ => true
  | _, negation, cursor => cursor.isAtKeyword .kwNot
  | _, signed, cursor => (Expression.signOp? cursor.word).isSome
  | _, _, _ => false

/-- Routines of a higher rank call those of a lower one without using a level. -/
def rank : {α : Type} → Routine α → Nat
  | _, chain .disjunction => 10
  | _, chain .conjunction => 9
  | _, negation => 8
  | _, comparison | _, links => 7
  | _, chain .sum => 6
  | _, chain .term => 5
  | _, signed => 4
  | _, suffixed => 3
  | _, primary => 2
  | _, enclosed _ | _, items _ => 1
  | _, expression | _, operators .. | _, suffixes .. => 0

/-- No rank is higher than that of a disjunction. -/
theorem rank_le {α : Type} (routine : Routine α) : routine.rank ≤ 10 := by
  cases routine with
  | chain level => cases level <;> decide
  | _ => simp only [rank]; omega

/-- The place up to which a routine goes on: behind the token where it begins, or anywhere
behind its beginning if it is a loop. -/
def Moves {α : Type} (routine : Routine α) (start rest : Cursor) : Prop :=
  rest.IsPast (bif routine.isLoop then start else start.advance)

end Routine

/-- A call of a routine. -/
structure Call where
  {result : Type}
  routine : Routine result
  /-- The state in which it is called. -/
  state : State

namespace Call

/-- Whether a call uses a level for itself, and has found that there is one left. -/
def hasNested (call : Call) : Bool :=
  call.routine.needsLevel call.state.cursor && call.state.depth < mostLevels

/-- The most calls that a call can have in it at once. -/
def room (call : Call) : Nat :=
  11 * (mostLevels - call.state.depth) + call.routine.rank

/-- What is known of a call that another one makes. -/
structure Makes (caller callee : Call) : Prop where
  /-- The level that the caller uses for itself is in use. -/
  depth : caller.state.depth + caller.hasNested.toNat ≤ callee.state.depth
  within : callee.state.depth ≤ mostLevels
  room : callee.room + (!callee.routine.isLoop).toNat ≤ caller.room

/-- Any routine can be called with one more level in use. -/
theorem Makes.deeper {α β : Type} {routine : Routine α} {callee : Routine β} {cursor rest : Cursor}
    {depth : Nat} (left : depth < mostLevels) :
    Makes ⟨routine, cursor, depth⟩ ⟨callee, rest, depth + 1⟩ where
  depth := Nat.add_le_add_left (Bool.toNat_le _) depth
  within := left
  room := by
    have rank := callee.rank_le
    have loop := Bool.toNat_le (!callee.isLoop)
    simp only [Call.room]
    omega

/-- Without a level for itself, a routine can call those of lower rank. -/
theorem Makes.lower {α β : Type} {routine : Routine α} {callee : Routine β} {cursor rest : Cursor}
    {depth : Nat} (within : depth ≤ mostLevels) (needsNone : routine.needsLevel cursor = false)
    (lower : callee.rank + (!callee.isLoop).toNat ≤ routine.rank) :
    Makes ⟨routine, cursor, depth⟩ ⟨callee, rest, depth⟩ where
  depth := by
    rw [hasNested, needsNone, Bool.false_and]
    exact Nat.le_refl depth
  within := within
  room := by
    simp only [Call.room]
    omega

end Call

/-- Whether a script makes calls of some kind only and goes on up to some places, given that each of
its calls puts the number of levels back and goes on as it may. -/
def Script.Keeps {α : Type} (makes : Call → Prop) (goal : Cursor → Prop) : Script α → Prop
  | .done (.ok (_, after)) => goal after.cursor
  | .done (.error _) => True
  | .call routine state next => makes ⟨routine, state⟩ ∧ ∀ value rest,
      routine.Moves state.cursor rest →
        (next (value, ⟨rest, routine.depthAfter state.depth⟩)).Keeps makes goal

section

variable {α β : Type} {makes : Call → Prop} {goal : Cursor → Prop} {routine : Routine α}
  {next : α → Parsing β} {cursor : Cursor} {depth : Nat}

/-- A script that begins with a call keeps to what it may do if the call is allowed and what follows
it keeps to that. -/
theorem keeps_call_bind (made : makes ⟨routine, cursor, depth⟩)
    (later : ∀ value rest, routine.Moves cursor rest →
      (next value ⟨rest, routine.depthAfter depth⟩).Keeps makes goal) :
    ((call routine >>= next) ⟨cursor, depth⟩).Keeps makes goal :=
  ⟨made, later⟩

/-- A script that is one call keeps to what it may do if the call is allowed. -/
theorem keeps_call (made : makes ⟨routine, cursor, depth⟩)
    (later : ∀ rest, routine.Moves cursor rest → goal rest) :
    (call routine ⟨cursor, depth⟩).Keeps makes goal :=
  ⟨made, fun _ => later⟩

/-- A script that uses a level keeps to what it may do if what follows does so where a level is
left. -/
theorem keeps_nest_bind {next : Unit → Parsing β}
    (later : depth < mostLevels → (next () ⟨cursor, depth + 1⟩).Keeps makes goal) :
    ((nest >>= next) ⟨cursor, depth⟩).Keeps makes goal := by
  by_cases left : depth < mostLevels
  · have within : ¬ mostLevels < depth + 1 := by omega
    rw [bind_of_ok (if_neg within)]
    exact later left
  · have beyond : mostLevels < depth + 1 := by omega
    rw [bind_of_error (if_pos beyond)]
    trivial

/-- A script that expects a symbol keeps to what it may do if what follows the symbol does so. -/
theorem keeps_expect_bind {reading : Cursor → Except ParseError Cursor} {next : Unit → Parsing β}
    (later : ∀ rest, reading cursor = .ok rest → (next () ⟨rest, depth⟩).Keeps makes goal) :
    ((expect reading >>= next) ⟨cursor, depth⟩).Keeps makes goal := by
  cases found : reading cursor with
  | error error =>
      rw [bind_of_error (expect_of_error found)]
      trivial
  | ok rest =>
      rw [bind_of_ok (expect_of_ok found)]
      exact later rest found

/-- A script that reads something without a call keeps to what it may do if what follows does so. -/
theorem keeps_read_bind {reading : Cursor → Except ParseError (α × Cursor)}
    (later : ∀ value rest, reading cursor = .ok (value, rest) →
      (next value ⟨rest, depth⟩).Keeps makes goal) :
    ((read reading >>= next) ⟨cursor, depth⟩).Keeps makes goal := by
  cases found : reading cursor with
  | error error =>
      rw [bind_of_error (read_of_error found)]
      trivial
  | ok pair =>
      rw [bind_of_ok (read_of_ok found)]
      exact later pair.1 pair.2 found

end

/-! ### What each routine does -/

/-- Whether a routine makes the calls that it may, and goes on up to where it may. -/
def Routine.IsKept {α : Type} (routine : Routine α) (cursor : Cursor) (depth : Nat) : Prop :=
  (routine.body ⟨cursor, depth⟩).Keeps (Call.Makes ⟨routine, cursor, depth⟩)
    (routine.Moves cursor)

/-- The routine for an operand goes on behind the token where it begins. -/
theorem isPast_of_moves_operand {level : Level} {cursor rest : Cursor}
    (moved : (operand level).Moves cursor rest) : rest.IsPast cursor.advance := by
  cases level <;> exact moved

/-- A chain is of a higher rank than its operands. -/
theorem rank_operand (level : Level) :
    (operand level).rank + (!(operand level).isLoop).toNat ≤ (Routine.chain level).rank := by
  cases level <;> decide

section

variable {cursor : Cursor} {depth : Nat}

/-- An expression is a disjunction with one more level in use. -/
theorem isKept_expression : Routine.expression.IsKept cursor depth := by
  rw [Routine.IsKept, Routine.body, depth_bind]
  refine keeps_nest_bind fun left => ?_
  exact keeps_call_bind (.deeper left) fun value rest moved => moved

/-- A chain begins with an operand. -/
theorem isKept_chain (within : depth ≤ mostLevels) (level : Level) :
    (Routine.chain level).IsKept cursor depth := by
  rw [Routine.IsKept, Routine.body, depth_bind]
  refine keeps_call_bind (.lower within rfl (rank_operand level)) fun first rest moved => ?_
  rw [depthAfter_operand]
  refine keeps_call (.lower within rfl (Nat.zero_le _)) fun last further => ?_
  exact further.trans (isPast_of_moves_operand moved)

/-- Each operator of a chain uses a level for its right operand and the rest of the chain. -/
theorem isKept_operators (level : Level) (before : Nat) (left : Expression) :
    (Routine.operators level before left).IsKept cursor depth := by
  rw [Routine.IsKept, Routine.body, word_bind]
  cases level.join? cursor.word with
  | none => exact .refl cursor
  | some join =>
      refine keeps_nest_bind fun left => ?_
      rw [advance_bind]
      refine keeps_call_bind (.deeper left) fun right rest moved => ?_
      rw [depthAfter_operand]
      refine keeps_call (.deeper left) fun last further => ?_
      exact further.trans (isPast_of_moves_operand moved).of_advance.of_advance

/-- A `not` uses a level; without one, a comparison is read. -/
theorem isKept_negation (within : depth ≤ mostLevels) :
    Routine.negation.IsKept cursor depth := by
  rw [Routine.IsKept, Routine.body, cursor_bind]
  by_cases shown : cursor.isAtKeyword .kwNot
  · rw [if_pos shown, depth_bind]
    refine keeps_nest_bind fun left => ?_
    rw [advance_bind]
    exact keeps_call_bind (.deeper left) fun operand rest moved => moved.of_advance
  · rw [if_neg shown]
    have needsNone : Routine.negation.needsLevel cursor = false := Bool.eq_false_iff.mpr shown
    exact keeps_call (.lower within needsNone (by decide)) fun rest moved => moved

/-- A comparison begins with a sum. -/
theorem isKept_comparison (within : depth ≤ mostLevels) :
    Routine.comparison.IsKept cursor depth := by
  rw [Routine.IsKept, Routine.body]
  refine keeps_call_bind (.lower within rfl (by decide)) fun left rest moved => ?_
  refine keeps_call_bind (.lower within rfl (by decide)) fun later last further => ?_
  exact further.trans moved

/-- Comparisons use no level. -/
theorem isKept_links (within : depth ≤ mostLevels) : Routine.links.IsKept cursor depth := by
  rw [Routine.IsKept, Routine.body, cursor_bind]
  cases shown : Expression.compareOp? cursor with
  | none => exact .refl cursor
  | some found =>
      obtain ⟨op, behind⟩ := found
      have past := Cursor.isPast_of_compareOp? shown
      dsimp only
      rw [moveTo_bind]
      refine keeps_call_bind (.lower within rfl (by decide)) fun right rest moved => ?_
      refine keeps_call_bind (.lower within rfl (by decide)) fun later last further => ?_
      exact further.trans (moved.of_advance.trans past)

/-- A sign uses a level; without one, a primary and its suffixes are read. -/
theorem isKept_signed (within : depth ≤ mostLevels) : Routine.signed.IsKept cursor depth := by
  rw [Routine.IsKept, Routine.body, word_bind]
  cases shown : Expression.signOp? cursor.word with
  | none =>
      have needsNone : Routine.signed.needsLevel cursor = false := by
        rw [Routine.needsLevel, shown]
        rfl
      exact keeps_call (.lower within needsNone (by decide)) fun rest moved => moved
  | some op =>
      dsimp only
      rw [depth_bind]
      refine keeps_nest_bind fun left => ?_
      rw [advance_bind]
      exact keeps_call_bind (.deeper left) fun operand rest moved => moved.of_advance

/-- What has suffixes begins with a primary. -/
theorem isKept_suffixed (within : depth ≤ mostLevels) : Routine.suffixed.IsKept cursor depth := by
  rw [Routine.IsKept, Routine.body, depth_bind]
  refine keeps_call_bind (.lower within rfl (by decide)) fun object rest moved => ?_
  refine keeps_call (.lower within rfl (Nat.zero_le _)) fun last further => ?_
  exact further.trans moved

/-- Each suffix uses a level for what is in it and follows it. -/
theorem isKept_suffixes (before : Nat) (object : Expression) :
    (Routine.suffixes before object).IsKept cursor depth := by
  rw [Routine.IsKept, Routine.body, word_bind]
  cases Expression.suffix? cursor.word with
  | none => exact .refl cursor
  | some suffix =>
      refine keeps_nest_bind fun left => ?_
      rw [advance_bind]
      cases suffix with
      | call =>
          refine keeps_call_bind (.deeper left) fun values rest moved => ?_
          refine keeps_call (.deeper left) fun last further => ?_
          exact further.trans moved.of_advance.of_advance
      | subscript =>
          refine keeps_call_bind (.deeper left) fun position rest moved => ?_
          refine keeps_expect_bind fun behind found => ?_
          obtain ⟨-, rfl⟩ := Cursor.expect_eq_ok_iff.mp found
          refine keeps_call (.deeper left) fun last further => ?_
          exact further.of_advance.trans moved.of_advance.of_advance
      | attributeName =>
          refine keeps_read_bind fun word behind found => ?_
          obtain ⟨-, rfl⟩ := Cursor.expectName_eq_ok_iff.mp found
          refine keeps_call (.deeper left) fun last further => ?_
          exact further.of_advance.of_advance

/-- A primary is one token, or what stands in its brackets. -/
theorem isKept_primary (within : depth ≤ mostLevels) : Routine.primary.IsKept cursor depth := by
  rw [Routine.IsKept, Routine.body, word_bind]
  cases Expression.ofToken? cursor.word with
  | some value => exact .refl cursor.advance
  | none =>
      dsimp only
      rw [cursor_bind]
      by_cases paren : cursor.isAt .leftParen
      · rw [if_pos paren, advance_bind]
        refine keeps_call_bind (.lower within rfl (by decide)) fun inner rest moved => ?_
        refine keeps_expect_bind fun behind found => ?_
        obtain ⟨-, rfl⟩ := Cursor.expect_eq_ok_iff.mp found
        exact rest.isPast_advance.trans moved.of_advance
      · rw [if_neg paren, cursor_bind]
        by_cases bracket : cursor.isAt .leftBracket
        · rw [if_pos bracket, advance_bind]
          exact keeps_call_bind (.lower within rfl (by decide)) fun elements rest moved =>
            moved.of_advance
        · rw [if_neg bracket]
          trivial

/-- What stands before a closing symbol is read with the symbol. -/
theorem isKept_enclosed (within : depth ≤ mostLevels) (close : Symbol) :
    (Routine.enclosed close).IsKept cursor depth := by
  rw [Routine.IsKept, Routine.body]
  refine keeps_call_bind (.lower within rfl (Nat.le_refl _)) fun values rest moved => ?_
  refine keeps_expect_bind fun behind found => ?_
  obtain ⟨-, rfl⟩ := Cursor.expect_eq_ok_iff.mp found
  exact Cursor.IsPast.advance moved

/-- Items use no level but that of an expression. -/
theorem isKept_items (within : depth ≤ mostLevels) (close : Symbol) :
    (Routine.items close).IsKept cursor depth := by
  rw [Routine.IsKept, Routine.body, cursor_bind]
  by_cases shown : cursor.isAt close
  · rw [if_pos shown]
    exact .refl cursor
  · rw [if_neg shown]
    refine keeps_call_bind (.lower within rfl (Nat.le_refl _)) fun item rest moved => ?_
    rw [cursor_bind]
    by_cases comma : rest.isAt .comma
    · dsimp only
      rw [if_pos comma, advance_bind]
      refine keeps_call_bind (.lower within rfl (Nat.le_refl _)) fun later last further => ?_
      exact further.of_advance.trans moved.of_advance
    · dsimp only
      rw [if_neg comma]
      exact moved.of_advance

/-- Every routine makes the calls that it may, and goes on up to where it may. -/
theorem isKept {α : Type} (within : depth ≤ mostLevels) (routine : Routine α) :
    routine.IsKept cursor depth := by
  cases routine with
  | expression => exact isKept_expression
  | chain level => exact isKept_chain within level
  | operators level before left => exact isKept_operators level before left
  | negation => exact isKept_negation within
  | comparison => exact isKept_comparison within
  | links => exact isKept_links within
  | signed => exact isKept_signed within
  | suffixed => exact isKept_suffixed within
  | suffixes before object => exact isKept_suffixes before object
  | primary => exact isKept_primary within
  | enclosed close => exact isKept_enclosed within close
  | items close => exact isKept_items within close

end

/-! ### What a whole run does -/

namespace Script

variable {α : Type} {makes : Call → Prop} {goal : Cursor → Prop}

/-- A routine ends with what it reads. -/
theorem Ends.eq_settle {routine : Routine α} {state : State}
    {result : Except ParseError (α × State)} (ends : (routine.body state).Ends result)
    (within : state.depth ≤ mostLevels) :
    result = settle (routine.depthAfter state.depth)
      (routine.reading (mostLevels - state.depth) state.cursor) := by
  have follows := allFollow (mostLevels - state.depth) α routine state.cursor state.depth
    (Nat.add_sub_cancel' within)
  exact follows.unique ends

/-- What has settled with a value has read it, and has put the number of levels back. -/
theorem of_settle_eq_ok {depth : Nat} {reading : Except ParseError (α × Cursor)} {value : α}
    {after : State} (settled : settle depth reading = .ok (value, after)) :
    reading = .ok (value, after.cursor) ∧ after.depth = depth := by
  cases reading with
  | error error => cases settled
  | ok found =>
      cases settled
      exact ⟨rfl, rfl⟩

/-- What follows a call that has ended where it may keeps to what the whole script may do. -/
theorem Keeps.next {β : Type} {routine : Routine β} {state : State} {next : β × State → Script α}
    {found : β × State} (keeps : (Script.call routine state next).Keeps makes goal)
    (within : state.depth ≤ mostLevels) (called : (routine.body state).Ends (.ok found))
    (moved : routine.Moves state.cursor found.2.cursor) : (next found).Keeps makes goal := by
  obtain ⟨value, rest, depth⟩ := found
  have settled := of_settle_eq_ok (called.eq_settle within).symm
  obtain rfl : depth = routine.depthAfter state.depth := settled.2
  exact keeps.2 value rest moved

/-- A script that keeps to its calls goes on up to where it may. -/
theorem Keeps.of_ends {script : Script α} {result : Except ParseError (α × State)}
    (ends : script.Ends result) (within : ∀ callee, makes callee → callee.state.depth ≤ mostLevels)
    (keeps : script.Keeps makes goal) {value : α} {after : State}
    (found : result = .ok (value, after)) : goal after.cursor := by
  -- What a call has done is known by induction on its run, since it makes only calls that it may.
  induction ends generalizing makes goal after with
  | done result =>
      cases found
      exact keeps
  | failed => cases found
  | @called _ _ routine state _ called _ ends further callHypothesis furtherHypothesis =>
      have bounded : state.depth ≤ mostLevels := within _ keeps.1
      have moved := callHypothesis (fun _ made => made.within) (isKept bounded routine) rfl
      exact furtherHypothesis within (keeps.next bounded ends moved) found

/-- A routine that is done has gone on as it may. -/
theorem Ends.moves {routine : Routine α} {state : State} {found : α × State}
    (ends : (routine.body state).Ends (.ok found)) (within : state.depth ≤ mostLevels) :
    routine.Moves state.cursor found.2.cursor :=
  Keeps.of_ends ends (fun _ made => made.within) (isKept within routine) rfl

/-- Whether some calls are active at once at some moment of a script: it waits for the first of
them, which waits for the next one, and so on. -/
inductive Active : {α : Type} → Script α → List Call → Prop where
  | here {α : Type} (script : Script α) : Active script []
  | inside {α β : Type} {routine : Routine β} {state : State} {next : β × State → Script α}
      {calls : List Call} (inner : Active (routine.body state) calls) :
      Active (.call routine state next) (⟨routine, state⟩ :: calls)
  | behind {α β : Type} {routine : Routine β} {state : State} {next : β × State → Script α}
      {found : β × State} {calls : List Call} (called : Ends (routine.body state) (.ok found))
      (further : Active (next found) calls) :
      Active (.call routine state next) calls

/-- Of the calls that are active at once, the first one is made by the script, and every other one
by the one before it. -/
theorem Keeps.isChain {script : Script α} {calls : List Call} (active : script.Active calls)
    (within : ∀ callee, makes callee → callee.state.depth ≤ mostLevels)
    (keeps : script.Keeps makes goal) :
    (∀ call ∈ calls.head?, makes call) ∧ calls.IsChain Call.Makes := by
  induction active generalizing makes goal with
  | here script =>
      refine ⟨fun _ first => ?_, .nil⟩
      cases first
  | @inside _ _ routine state next calls inner inductionHypothesis =>
      have bounded : state.depth ≤ mostLevels := within _ keeps.1
      have chain := inductionHypothesis (fun _ made => made.within) (isKept bounded routine)
      refine ⟨?_, List.isChain_cons.mpr chain⟩
      rintro _ ⟨⟩
      exact keeps.1
  | behind called further inductionHypothesis =>
      have bounded := within _ keeps.1
      exact inductionHypothesis within (keeps.next bounded called (called.moves bounded))

end Script

/-! ### How many calls are active at once -/

namespace Call

/-- Whether a call is that of a routine on its own, not of the rest of one. -/
def isWhole (call : Call) : Bool :=
  !call.routine.isLoop

variable {call : Call} {calls : List Call}

/-- Calls of some kind are counted one by one. -/
theorem countP_cons_toNat (counted : Call → Bool) :
    (call :: calls).countP counted = calls.countP counted + (counted call).toNat := by
  rw [List.countP_cons, ← Bool.cond_eq_ite]
  rfl

/-- Calls that have used a level for themselves still have it in use, so there are no more of them
than levels. -/
theorem countP_hasNested_le (chain : (call :: calls).IsChain Makes)
    (within : call.state.depth ≤ mostLevels) :
    call.state.depth + (call :: calls).countP hasNested ≤ mostLevels := by
  induction calls generalizing call with
  | nil =>
      rw [List.countP_singleton]
      split
      · next nested =>
          rw [hasNested, Bool.and_eq_true, decide_eq_true_iff] at nested
          exact nested.2
      · exact within
  | cons callee calls inductionHypothesis =>
      obtain ⟨made, further⟩ := List.isChain_cons_cons.mp chain
      have fewer := inductionHypothesis further made.within
      have deeper := made.depth
      rw [countP_cons_toNat]
      omega

/-- Each call that a call makes leaves less room for others. -/
theorem countP_isWhole_le (chain : (call :: calls).IsChain Makes) :
    calls.countP isWhole ≤ call.room := by
  induction calls generalizing call with
  | nil => exact Nat.zero_le _
  | cons callee calls inductionHypothesis =>
      obtain ⟨made, further⟩ := List.isChain_cons_cons.mp chain
      have fewer := inductionHypothesis further
      have room : callee.room + callee.isWhole.toNat ≤ call.room := made.room
      rw [countP_cons_toNat]
      omega

/-- Whether a call reads an expression with all its levels. -/
def IsOutermost (call : Call) : Prop :=
  ∃ cursor, call = ⟨.expression, cursor, 0⟩

end Call

/-- What is active at once while a routine is at work are its call and those in it. -/
theorem Script.Active.isChain_cons {call : Call} {calls : List Call}
    (active : (call.routine.body call.state).Active calls)
    (within : call.state.depth ≤ mostLevels) : (call :: calls).IsChain Call.Makes :=
  List.isChain_cons.mpr
    (Keeps.isChain active (fun _ made => made.within) (isKept within call.routine))

/-! ### The calls of the parser of lines -/

/-- One part of a script after the other makes calls of the same kind. -/
theorem Script.Keeps.andThen {α β : Type} {makes : Call → Prop} {script : Script α}
    {next : α × State → Script β} (first : script.Keeps makes fun _ => True)
    (later : ∀ found, (next found).Keeps makes fun _ => True) :
    (script.andThen next).Keeps makes fun _ => True := by
  induction script with
  | done result =>
      cases result with
      | error error => trivial
      | ok found => exact later found
  | call routine state further inductionHypothesis =>
      refine ⟨first.1, fun value rest moved => ?_⟩
      exact inductionHypothesis _ (first.2 value rest moved)

/-- Whether a part that begins with no level in use makes no calls but to read expressions with all
their levels. -/
def Parsing.Outermost {α : Type} (part : Parsing α) (cursor : Cursor) : Prop :=
  (part ⟨cursor, 0⟩).Keeps Call.IsOutermost fun _ => True

section

variable {cursor : Cursor}

/-- A part reads an expression at most if it goes on behind the next token with one that does. -/
theorem outermost_advance_bind {α : Type} {next : Unit → Parsing α}
    (later : (next ()).Outermost cursor.advance) : (advance >>= next).Outermost cursor :=
  later

/-- A part that makes something of an expression calls nothing but that expression. -/
theorem outermost_expression_map {α : Type} (made : Expression → α) :
    (do return made (← call .expression)).Outermost cursor :=
  keeps_call_bind ⟨cursor, rfl⟩ fun _ _ _ => trivial

/-- The routine for the value of an assignment calls nothing but an expression. -/
theorem outermost_assigned (statement : Expression → Statement) :
    (assigned statement).Outermost cursor :=
  outermost_advance_bind (outermost_advance_bind (outermost_expression_map statement))

/-- The routine for an expression that stands as a statement calls nothing but that expression. -/
theorem outermost_bare : bare.Outermost cursor := by
  refine keeps_call_bind ⟨cursor, rfl⟩ fun value rest moved => ?_
  rw [word_bind]
  dsimp only
  split <;> trivial

/-- The routine for statements that need no block calls at most one expression. -/
theorem outermost_simple : (simple cursor).Outermost cursor := by
  unfold simple
  split
  case h_4 target named =>
    split
    · exact outermost_assigned (.assign target)
    · split
      · exact outermost_assigned _
      · exact outermost_bare
  case h_5 => exact outermost_bare
  all_goals trivial

/-- The routine for a header with a condition calls nothing but that condition. -/
theorem outermost_conditional (header : Expression → Header) :
    (conditional header).Outermost cursor :=
  outermost_advance_bind (outermost_expression_map header)

/-- The routine for headers calls at most one expression. -/
theorem outermost_header? {part : Parsing Header} (shown : header? cursor = some part) :
    part.Outermost cursor := by
  unfold header? at shown
  split at shown
  case h_1 =>
    cases shown
    refine outermost_advance_bind ?_
    refine keeps_read_bind fun target rest found => ?_
    refine keeps_expect_bind fun rest found => ?_
    exact outermost_expression_map (Header.forEach target)
  case h_2 =>
    cases shown
    exact outermost_conditional .whileLoop
  case h_3 =>
    cases shown
    exact outermost_conditional .branch
  case h_4 =>
    cases shown
    exact outermost_conditional .elseBranch
  case h_5 =>
    cases shown
    trivial
  case h_6 => cases shown

/-- What expects the end of the line and gives a result makes no calls. -/
theorem keeps_finished {makes : Call → Prop} {depth : Nat} (found : Line) :
    ((expectEnd >>= fun _ => pure found) ⟨cursor, depth⟩).Keeps makes fun _ => True :=
  keeps_expect_bind fun _ _ => trivial

/-- The routine for lines calls at most one expression. -/
theorem outermost_line : line.Outermost cursor := by
  rw [Outermost, line, cursor_bind]
  dsimp only
  cases shown : header? cursor with
  | none =>
      dsimp only
      rw [cursor_bind]
      refine Script.Keeps.andThen outermost_simple fun found => ?_
      obtain ⟨statement, rest, depth⟩ := found
      exact keeps_finished (.simple statement)
  | some part =>
      refine Script.Keeps.andThen (outermost_header? shown) fun found => ?_
      obtain ⟨header, rest, depth⟩ := found
      exact keeps_expect_bind fun _ _ => keeps_finished (.header header)

/-- Where the parser of lines is at work, the outermost call is that of an expression. -/
theorem eq_cons_of_active_line {calls : List Call} (active : (line ⟨cursor, 0⟩).Active calls) :
    calls = [] ∨ ∃ first inner, calls = ⟨.expression, first, 0⟩ :: inner ∧
      calls.IsChain Call.Makes := by
  have within : ∀ call : Call, call.IsOutermost → call.state.depth ≤ mostLevels := by
    rintro _ ⟨first, rfl⟩
    exact Nat.zero_le mostLevels
  obtain ⟨outermost, chain⟩ := Script.Keeps.isChain active within outermost_line
  cases calls with
  | nil => exact .inl rfl
  | cons call inner =>
      obtain ⟨first, rfl⟩ := outermost call rfl
      exact .inr ⟨first, inner, rfl, chain⟩

end

/-! ### The bookkeeping of the parser -/

/-- A routine that is no loop puts the number of levels back. -/
theorem Routine.depthAfter_of_isLoop {α : Type} {routine : Routine α}
    (whole : routine.isLoop = false) (depth : Nat) : routine.depthAfter depth = depth := by
  cases routine with
  | operators | suffixes => cases whole
  | _ => rfl

/-- What a routine that has begun at a place in some tokens, with some levels in use, has done when
it is done. -/
structure Routine.IsDone {α : Type} (routine : Routine α) (tokens : List Token) (place depth : Nat)
    (value : α) (after : State) : Prop where
  reads : routine.reading (mostLevels - depth) (.atPlace tokens place) = .ok (value, after.cursor)
  restores : after.depth = depth
  goesOn : ∃ later, after.cursor = .atPlace tokens later ∧ place ≤ later ∧
    later ≤ max place tokens.length ∧ (place < tokens.length → place < later)

/-- What is right about the levels and the places that the parser keeps account of. -/
structure Bookkeeping (tokens : List Token) : Prop where
  ends : ∀ {α : Type} (routine : Routine α) (place depth : Nat), depth ≤ mostLevels →
    ∃ result, (routine.body ⟨.atPlace tokens place, depth⟩).Ends result
  returns : ∀ {α : Type} (routine : Routine α) (place depth : Nat) (value : α) (after : State),
    routine.isLoop = false → depth ≤ mostLevels →
    (routine.body ⟨.atPlace tokens place, depth⟩).Ends (.ok (value, after)) →
    routine.IsDone tokens place depth value after
  /-- The calls that use a level for themselves are no more than the levels that were left. -/
  nests : ∀ (call : Call) (calls : List Call), call.state.depth ≤ mostLevels →
    (call.routine.body call.state).Active calls →
    call.state.depth + (call :: calls).countP Call.hasNested ≤ mostLevels
  /-- Where a line is read, the calls that use a level and the calls active at once stay under
  bounds that do not depend on the tokens. -/
  line : ∀ calls : List Call, (line ⟨.ofTokens tokens, 0⟩).Active calls →
    calls.countP Call.hasNested ≤ mostLevels ∧ calls.countP Call.isWhole ≤ 11 * mostLevels + 1

/-- Every routine of the parser puts the number of levels back and goes on, and no more calls than
there are levels use one at once. -/
theorem bookkeeping (tokens : List Token) : Bookkeeping tokens where
  ends := fun routine _ depth within =>
    ⟨_, allFollow (mostLevels - depth) _ routine _ depth (Nat.add_sub_cancel' within)⟩
  returns := by
    intro α routine place depth value after whole within ends
    have settled := Script.of_settle_eq_ok (ends.eq_settle within).symm
    have moved := ends.moves within
    rw [Routine.Moves, whole] at moved
    exact {
      reads := settled.1
      restores := settled.2.trans (Routine.depthAfter_of_isLoop whole depth)
      goesOn := Cursor.exists_atPlace_of_isPast moved }
  nests := fun _ _ within active => Call.countP_hasNested_le (active.isChain_cons within) within
  line := by
    intro calls active
    obtain rfl | ⟨first, inner, rfl, chain⟩ := eq_cons_of_active_line active
    · exact ⟨Nat.zero_le _, Nat.zero_le _⟩
    · have nested := Call.countP_hasNested_le chain (Nat.zero_le mostLevels)
      have whole : inner.countP Call.isWhole ≤ 11 * mostLevels := Call.countP_isWhole_le chain
      refine ⟨(Nat.zero_add _).symm.trans_le nested, ?_⟩
      rw [Call.countP_cons_toNat]
      exact Nat.add_le_add whole (Bool.toNat_le _)

end Descent

end Offside
