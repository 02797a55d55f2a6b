import Offside.Syntax.Expression.Parser
import Offside.Syntax.Statement

/-!
# Lines

A line says something by itself: it is a simple statement, or the header of a
block whose body is on the lines that follow. `Line.ofTokens` and `Line.ofText`
read one.
-/

namespace Offside

/-- The first line of a block. -/
inductive Header where
  | forEach (target : String) (iterable : Expression)
  | whileLoop (condition : Expression)
  | branch (condition : Expression)
  | elseBranch (condition : Expression)
  | otherwise

namespace Header

/-- The word that a header begins with. -/
def keyword : Header → String
  | forEach .. => "for"
  | whileLoop _ => "while"
  | branch _ => "if"
  | elseBranch _ => "elif"
  | otherwise => "else"

/-- Whether the block is a loop. -/
def isLoop : Header → Bool
  | forEach .. | whileLoop _ => true
  | branch _ | elseBranch _ | otherwise => false

/-- Whether the block goes on with the chain of a conditional statement before it. -/
def isContinuation : Header → Bool
  | elseBranch _ | otherwise => true
  | forEach .. | whileLoop _ | branch _ => false

end Header

/-- What one line says by itself. -/
inductive Line where
  | simple (statement : Statement)
  | header (header : Header)

/-- The operator of an assignment that updates its target. -/
def BinaryOp.ofUpdate? : Token.Kind → Option BinaryOp
  | .symbol .plusEqual => some .add
  | .symbol .minusEqual => some .sub
  | .symbol .starEqual => some .mul
  | .symbol .slashEqual => some .div
  | .symbol .doubleSlashEqual => some .floorDiv
  | .symbol .percentEqual => some .mod
  | _ => none

/-- Whether a token assigns, with or without an operator. -/
def Token.Kind.assigns (kind : Token.Kind) : Bool :=
  match kind with
  | .symbol .equal => true
  | _ => (BinaryOp.ofUpdate? kind).isSome

namespace Line

/-- An expression with all its levels. -/
def parseExpression (cursor : Cursor) : Except ParseError (Expression × Cursor) :=
  Expression.parse Expression.mostLevels cursor

/-- An expression that stands as a statement. It cannot be assigned to. -/
def parseBare (cursor : Cursor) : Except ParseError (Statement × Cursor) := do
  let (value, cursor) ← parseExpression cursor
  if cursor.current.kind.assigns then .error (.invalidTarget value.asTarget)
  else .ok (.expression value, cursor)

/-- A statement that needs no block. -/
def parseSimple (cursor : Cursor) : Except ParseError (Statement × Cursor) :=
  match cursor.current.kind with
  | .keyword .kwPass => .ok (.pass, cursor.advance)
  | .keyword .kwBreak => .ok (.stop, cursor.advance)
  | .keyword .kwContinue => .ok (.next, cursor.advance)
  | .name target =>
      match cursor.second.kind with
      | .symbol .equal => do
          let (value, cursor) ← parseExpression cursor.advance.advance
          .ok (.assign target value, cursor)
      | kind =>
          match BinaryOp.ofUpdate? kind with
          | some op => do
              let (value, cursor) ← parseExpression cursor.advance.advance
              .ok (.update target op value, cursor)
          | none => parseBare cursor
  | _ => parseBare cursor

/-- The header of a block up to its colon, if the next token begins one. -/
def parseHeader? (cursor : Cursor) : Option (Except ParseError (Header × Cursor)) :=
  let conditional (header : Expression → Header) : Except ParseError (Header × Cursor) := do
    let (condition, cursor) ← parseExpression cursor.advance
    .ok (header condition, cursor)
  match cursor.current.kind with
  | .keyword .kwFor => some do
      let (target, cursor) ← cursor.advance.expectName
      let (iterable, cursor) ← parseExpression (← cursor.expectKeyword .kwIn)
      .ok (.forEach target iterable, cursor)
  | .keyword .kwWhile => some (conditional .whileLoop)
  | .keyword .kwIf => some (conditional .branch)
  | .keyword .kwElif => some (conditional .elseBranch)
  | .keyword .kwElse => some (.ok (.otherwise, cursor.advance))
  | _ => none

/-- The line that a list of tokens makes up. -/
def ofTokens (tokens : List Token) : Except ParseError Line :=
  let cursor := Cursor.ofTokens tokens
  match parseHeader? cursor with
  | some reading => do
      let (found, cursor) ← reading
      (← cursor.expect .colon).expectEnd
      .ok (.header found)
  | none => do
      let (statement, cursor) ← parseSimple cursor
      cursor.expectEnd
      .ok (.simple statement)

/-- The line that a text makes up; tokens report `number` as the number of their line. -/
def ofText (text : String) (number : Nat) : Except ParseError Line :=
  match Token.tokenize text number with
  | .ok tokens => ofTokens tokens
  | .error error => .error (.lexical error)

end Line

end Offside
