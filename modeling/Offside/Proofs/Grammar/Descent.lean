import Offside.Proofs.Grammar.Reads
import Offside.Syntax.Line

/-!
# Parsing with loops and a count of levels

The functions that read an expression are given the levels that it may still nest, and their loops
look at how many tokens are left. Here the same is written as routines that count the levels in use
and put the count back when they are done, and whose loops go on for as long as there is something
that they look for. Nothing keeps these from calling each other without end: what a routine does is
a `Script` of calls, and `Script.Ends` says that a script comes to an end, and with which result.
-/

namespace Offside

open Expression (Level Suffix mostLevels tooDeep)

namespace Descent

/-- The place in the tokens and the number of levels in use. -/
structure State where
  cursor : Cursor
  depth : Nat

/-- The routines, each with what it reads. A loop is the rest of the routine it stands in, and knows
what has been read there and the number of levels at the start. -/
inductive Routine : Type → Type where
  | expression : Routine Expression
  | chain (level : Level) : Routine Expression
  | operators (level : Level) (depth : Nat) (left : Expression) : Routine Expression
  | negation : Routine Expression
  | comparison : Routine Expression
  | links : Routine (List (CompareOp × Expression))
  | signed : Routine Expression
  | suffixed : Routine Expression
  | suffixes (depth : Nat) (object : Expression) : Routine Expression
  | primary : Routine Expression
  | enclosed (close : Symbol) : Routine (List Expression)
  | items (close : Symbol) : Routine (List Expression)

/-- What is left to do: nothing but to give a result, or to call a routine and go on with what that
gives. -/
inductive Script (α : Type) : Type 1 where
  | done (result : Except ParseError (α × State))
  | call {β : Type} (routine : Routine β) (state : State) (next : β × State → Script α)

/-- Goes on after a script, unless that fails. -/
def Script.andThen {α β : Type} (script : Script α) (next : α × State → Script β) : Script β :=
  match script with
  | .done (.ok found) => next found
  | .done (.error error) => .done (.error error)
  | .call routine state further => .call routine state fun found => (further found).andThen next

/-- A part of what a routine does. -/
def Parsing (α : Type) : Type 1 :=
  State → Script α

namespace Parsing

instance : Monad Parsing where
  pure value := fun state => .done (.ok (value, state))
  bind part next := fun state => (part state).andThen fun (value, state) => next value state

/-- Calls a routine. -/
def call {β : Type} (routine : Routine β) : Parsing β :=
  fun state => .call routine state fun found => .done (.ok found)

/-- Stops with an error. -/
def fail {α : Type} (error : ParseError) : Parsing α :=
  fun _ => .done (.error error)

/-- The place in the tokens. -/
def cursor : Parsing Cursor :=
  fun state => .done (.ok (state.cursor, state))

/-- The next word. -/
def word : Parsing Token.Kind :=
  fun state => .done (.ok (state.cursor.word, state))

/-- The number of levels in use. -/
def depth : Parsing Nat :=
  fun state => .done (.ok (state.depth, state))

/-- Puts the number of levels back. -/
def restore (depth : Nat) : Parsing Unit :=
  fun state => .done (.ok ((), { state with depth }))

/-- Uses one more level, if there is one. -/
def nest : Parsing Unit := fun state =>
  if mostLevels < state.depth + 1 then .done (.error tooDeep)
  else .done (.ok ((), { state with depth := state.depth + 1 }))

/-- Goes to another place in the tokens. -/
def moveTo (cursor : Cursor) : Parsing Unit :=
  fun state => .done (.ok ((), { state with cursor }))

/-- Goes on behind the next token. -/
def advance : Parsing Unit := do
  moveTo (← cursor).advance

/-- Goes on behind what is expected. -/
def expect (reading : Cursor → Except ParseError Cursor) : Parsing Unit := do
  match reading (← cursor) with
  | .ok rest => moveTo rest
  | .error error => fail error

/-- Goes on behind the end of the line, and so makes sure that nothing else follows. -/
def expectEnd : Parsing Unit :=
  expect fun cursor => cursor.expectEnd.map fun _ => cursor.advance

/-- Reads what stands there without a call. -/
def read {α : Type} (reading : Cursor → Except ParseError (α × Cursor)) : Parsing α := do
  match reading (← cursor) with
  | .ok (value, rest) =>
      moveTo rest
      return value
  | .error error => fail error

end Parsing

open Parsing

/-- The routine that reads one operand of a level. -/
def operand : Level → Routine Expression
  | .disjunction => .chain .conjunction
  | .conjunction => .negation
  | .sum => .chain .term
  | .term => .signed

/-- What a routine does. -/
def Routine.body : {α : Type} → Routine α → Parsing α
  | _, expression => do
      let depth ← Parsing.depth
      nest
      let value ← call (chain .disjunction)
      restore depth
      return value
  | _, chain level => do
      let depth ← Parsing.depth
      let first ← call (operand level)
      call (operators level depth first)
  | _, operators level depth left => do
      match level.join? (← word) with
      | none =>
          restore depth
          return left
      | some join =>
          nest
          advance
          let right ← call (operand level)
          call (operators level depth (join left right))
  | _, negation => do
      if (← Parsing.cursor).isAtKeyword .kwNot then
        let depth ← Parsing.depth
        nest
        advance
        let operand ← call negation
        restore depth
        return .unary .not operand
      else call comparison
  | _, comparison => do
      let left ← call (chain .sum)
      let links ← call links
      return Expression.compared left links
  | _, links => do
      match Expression.compareOp? (← Parsing.cursor) with
      | none => return []
      | some (op, behind) =>
          moveTo behind
          let right ← call (chain .sum)
          let later ← call links
          return (op, right) :: later
  | _, signed => do
      match Expression.signOp? (← word) with
      | none => call suffixed
      | some op =>
          let depth ← Parsing.depth
          nest
          advance
          let operand ← call signed
          restore depth
          return .unary op operand
  | _, suffixed => do
      let depth ← Parsing.depth
      let object ← call primary
      call (suffixes depth object)
  | _, suffixes depth object => do
      match Expression.suffix? (← word) with
      | none =>
          restore depth
          return object
      | some suffix =>
          nest
          advance
          match suffix with
          | .call =>
              let arguments ← call (enclosed .rightParen)
              call (suffixes depth (.call object arguments))
          | .subscript =>
              let position ← call expression
              expect (·.expect .rightBracket)
              call (suffixes depth (.index object position))
          | .attributeName =>
              let word ← read (·.expectName)
              call (suffixes depth (.member object word))
  | _, primary => do
      match Expression.ofToken? (← word) with
      | some value =>
          advance
          return value
      | none =>
          if (← Parsing.cursor).isAt .leftParen then
            advance
            let inner ← call expression
            expect (·.expect .rightParen)
            return inner
          else if (← Parsing.cursor).isAt .leftBracket then
            advance
            return .list (← call (enclosed .rightBracket))
          else fail ((← Parsing.cursor).expected "expression")
  | _, enclosed close => do
      let values ← call (items close)
      expect (·.expect close)
      return values
  | _, items close => do
      if (← Parsing.cursor).isAt close then return []
      else
        let item ← call expression
        if (← Parsing.cursor).isAt .comma then
          advance
          let later ← call (items close)
          return item :: later
        else return [item]

/-- Reads the expression that an assignment gives to its target, behind target and sign. -/
def assigned (statement : Expression → Statement) : Parsing Statement := do
  advance
  advance
  return statement (← call .expression)

/-- Reads an expression that stands as a statement. It cannot be assigned to. -/
def bare : Parsing Statement := do
  let value ← call .expression
  if (← word).assigns then fail (.invalidTarget value.asTarget)
  else return .expression value

/-- Reads a statement that is one word. -/
def plain (statement : Statement) : Parsing Statement := do
  advance
  return statement

/-- Reads a statement that needs no block. -/
def simple (cursor : Cursor) : Parsing Statement :=
  match cursor.current.kind with
  | .keyword .kwPass => plain .pass
  | .keyword .kwBreak => plain .stop
  | .keyword .kwContinue => plain .next
  | .name target =>
      match cursor.second.kind with
      | .symbol .equal => assigned (.assign target)
      | kind =>
          match BinaryOp.ofUpdate? kind with
          | some op => assigned (.update target op)
          | none => bare
  | _ => bare

/-- Reads a header that is a word and a condition. -/
def conditional (header : Expression → Header) : Parsing Header := do
  advance
  return header (← call .expression)

/-- Reads the header of a block up to its colon, if the next token begins one. -/
def header? (cursor : Cursor) : Option (Parsing Header) :=
  match cursor.current.kind with
  | .keyword .kwFor => some do
      advance
      let target ← read (·.expectName)
      expect (·.expectKeyword .kwIn)
      return .forEach target (← call .expression)
  | .keyword .kwWhile => some (conditional .whileLoop)
  | .keyword .kwIf => some (conditional .branch)
  | .keyword .kwElif => some (conditional .elseBranch)
  | .keyword .kwElse => some do
      advance
      return .otherwise
  | _ => none

/-- Reads a whole line. -/
def line : Parsing Line := do
  match header? (← cursor) with
  | some header =>
      let found ← header
      expect (·.expect .colon)
      expectEnd
      return .header found
  | none =>
      let statement ← simple (← cursor)
      expectEnd
      return .simple statement

/-- How a script ends: the routines that it calls end, too, and it goes on until it has a result or
one of them fails. -/
inductive Script.Ends : {α : Type} → Script α → Except ParseError (α × State) → Prop where
  | done {α : Type} (result : Except ParseError (α × State)) : Ends (.done result) result
  | failed {α β : Type} {routine : Routine β} {state : State} {next : β × State → Script α}
      {error : ParseError} (called : Ends (routine.body state) (.error error)) :
      Ends (.call routine state next) (.error error)
  | called {α β : Type} {routine : Routine β} {state : State} {next : β × State → Script α}
      {found : β × State} {result : Except ParseError (α × State)}
      (called : Ends (routine.body state) (.ok found)) (further : Ends (next found) result) :
      Ends (.call routine state next) result

namespace Script.Ends

variable {α β : Type}

/-- A script ends in one way at most. -/
theorem unique {script : Script α} {result other : Except ParseError (α × State)}
    (ends : script.Ends result) (otherEnds : script.Ends other) : other = result := by
  induction ends with
  | done =>
      cases otherEnds
      rfl
  | failed called inductionHypothesis =>
      cases otherEnds with
      | failed otherCalled =>
          cases inductionHypothesis otherCalled
          rfl
      | called otherCalled => cases inductionHypothesis otherCalled
  | called called further calledHypothesis furtherHypothesis =>
      cases otherEnds with
      | failed otherCalled => cases calledHypothesis otherCalled
      | called otherCalled otherFurther =>
          cases calledHypothesis otherCalled
          exact furtherHypothesis otherFurther

/-- Two scripts one after the other end when the first one fails, or else with the second one. -/
theorem andThen {script : Script α} {result : Except ParseError (α × State)}
    {next : α × State → Script β} (ends : script.Ends result)
    (final : α × State → Except ParseError (β × State))
    (later : ∀ found, result = .ok found → (next found).Ends (final found)) :
    (script.andThen next).Ends (result >>= final) := by
  induction ends with
  | done result =>
      cases result with
      | error error => exact .done (.error error)
      | ok found => exact later found rfl
  | failed called => exact .failed called
  | called called _ _ furtherHypothesis => exact .called called (furtherHypothesis final later)

/-- A call ends as the routine that is called. -/
theorem call {routine : Routine α} {state : State} {result : Except ParseError (α × State)}
    (ends : (routine.body state).Ends result) : (Parsing.call routine state).Ends result := by
  cases result with
  | error error => exact .failed ends
  | ok found => exact .called ends (.done (.ok found))

end Script.Ends

end Descent

end Offside
