import Offside.Syntax.Cursor
import Offside.Syntax.Expression

/-!
# Parsing expressions

Recursive descent over the levels of precedence, loosest first: `or`, `and`,
`not`, comparisons, sums, terms, signs, and what follows an operand directly.
Every function takes the number of levels an expression may still nest. Each
operator of a chain, each sign, each `not`, each call, subscript or attribute
and each pair of brackets uses up one of them, so the recursion is bounded
whatever the tokens are, and so is the height of the result.
-/

namespace Offside

namespace Expression

/-- The most levels an expression may nest. -/
def mostLevels : Nat := 100

/-- The error of an expression that uses up all its levels. -/
def tooDeep : ParseError := .tooDeeplyNested mostLevels

/-- The levels of precedence whose operators join two operands to one, from the left. -/
inductive Level where
  | disjunction | conjunction | sum | term
  deriving DecidableEq, Repr

namespace Level

/-- What the operators of a level make of their two operands. -/
def join? : Level → Token.Kind → Option (Expression → Expression → Expression)
  | disjunction, .keyword .kwOr => some (logical · .or ·)
  | conjunction, .keyword .kwAnd => some (logical · .and ·)
  | sum, .symbol .plus => some (binary · .add ·)
  | sum, .symbol .minus => some (binary · .sub ·)
  | term, .symbol .star => some (binary · .mul ·)
  | term, .symbol .slash => some (binary · .div ·)
  | term, .symbol .doubleSlash => some (binary · .floorDiv ·)
  | term, .symbol .percent => some (binary · .mod ·)
  | _, _ => Option.none

/-- Tighter levels have a lower height; it decreases where no level of nesting is used up. -/
@[simp]
def height : Level → Nat
  | disjunction => 12
  | conjunction => 10
  | sum => 6
  | term => 4

end Level

/-- The comparison at a cursor and the cursor behind it. `not in` is two tokens. -/
def compareOp? (cursor : Cursor) : Option (CompareOp × Cursor) :=
  match cursor.current.kind with
  | .symbol .equalEqual => some (.equal, cursor.advance)
  | .symbol .notEqual => some (.notEqual, cursor.advance)
  | .symbol .less => some (.less, cursor.advance)
  | .symbol .lessEqual => some (.lessEqual, cursor.advance)
  | .symbol .greater => some (.greater, cursor.advance)
  | .symbol .greaterEqual => some (.greaterEqual, cursor.advance)
  | .keyword .kwIn => some (.isIn, cursor.advance)
  | .keyword .kwNot =>
      match cursor.second.kind with
      | .keyword .kwIn => some (.notIn, cursor.advance.advance)
      | _ => Option.none
  | _ => Option.none

/-- The sign that a token is. -/
def signOp? : Token.Kind → Option UnaryOp
  | .symbol .minus => some .negate
  | .symbol .plus => some .plus
  | _ => Option.none

/-- What can follow an operand directly. -/
inductive Suffix where
  | call | subscript | attributeName
  deriving DecidableEq, Repr

/-- The suffix that begins with a token. -/
def suffix? : Token.Kind → Option Suffix
  | .symbol .leftParen => some .call
  | .symbol .leftBracket => some .subscript
  | .symbol .dot => some .attributeName
  | _ => Option.none

/-- The expression that one token is by itself. -/
def ofToken? : Token.Kind → Option Expression
  | .integer value => some (integer value)
  | .float value => some (float value)
  | .text content => some (text content)
  | .keyword .kwTrue => some (boolean true)
  | .keyword .kwFalse => some (boolean false)
  | .keyword .kwNone => some none
  | .name word => some (name word)
  | .keyword _ | .symbol _ | .lineEnd => Option.none

/-- What an expression becomes by the comparisons that follow it. -/
def compared (left : Expression) : List (CompareOp × Expression) → Expression
  | [] => left
  | links => compare left links

mutual

/-- An expression; it uses up one level. -/
def parse (levels : Nat) (cursor : Cursor) : Except ParseError (Expression × Cursor) :=
  match levels with
  | 0 => .error tooDeep
  | levels + 1 => parseChain .disjunction levels cursor
termination_by (levels, 0, 0)

/-- The operands of a level, joined from the left. -/
def parseChain (level : Level) (levels : Nat) (cursor : Cursor) :
    Except ParseError (Expression × Cursor) := do
  let (first, cursor) ← parseOperand level levels cursor
  parseChainFrom level levels first cursor
termination_by (levels, level.height + 1, 0)

/-- One operand of a level. -/
def parseOperand (level : Level) (levels : Nat) (cursor : Cursor) :
    Except ParseError (Expression × Cursor) :=
  match level with
  | .disjunction => parseChain .conjunction levels cursor
  | .conjunction => parseNegation levels cursor
  | .sum => parseChain .term levels cursor
  | .term => parseSigned levels cursor
termination_by (levels, level.height, 0)

/-- The rest of a chain whose operands so far are joined to `left`. Each further operator
uses up one level for all that follows it in the chain. -/
def parseChainFrom (level : Level) (levels : Nat) (left : Expression) (cursor : Cursor) :
    Except ParseError (Expression × Cursor) :=
  match level.join? cursor.current.kind, levels with
  | Option.none, _ => .ok (left, cursor)
  | some _, 0 => .error tooDeep
  | some join, levels + 1 => do
      let (right, cursor) ← parseOperand level levels cursor.advance
      parseChainFrom level levels (join left right) cursor
termination_by (levels, 0, 0)

/-- A comparison with any number of `not` before it; each uses up one level. -/
def parseNegation (levels : Nat) (cursor : Cursor) : Except ParseError (Expression × Cursor) :=
  if cursor.isAtKeyword .kwNot then
    match levels with
    | 0 => .error tooDeep
    | levels + 1 => do
        let (operand, cursor) ← parseNegation levels cursor.advance
        .ok (unary .not operand, cursor)
  else do
    let (left, cursor) ← parseChain .sum levels cursor
    let (links, cursor) ← parseLinks levels cursor
    .ok (compared left links, cursor)
termination_by (levels, 9, 0)

/-- The comparisons that follow a sum. A comparison past the end of the tokens is its own
right operand, and no operand begins with one, so each of them takes a token. -/
def parseLinks (levels : Nat) (cursor : Cursor) :
    Except ParseError (List (CompareOp × Expression) × Cursor) :=
  match compareOp? cursor with
  | Option.none => .ok ([], cursor)
  | some (op, operand) => do
      let (right, rest) ← parseChain .sum levels operand
      if rest.remaining < cursor.remaining then
        let (links, rest) ← parseLinks levels rest
        .ok ((op, right) :: links, rest)
      else .ok ([(op, right)], rest)
termination_by (levels, 8, cursor.remaining)

/-- An operand with any number of signs before it; each uses up one level. -/
def parseSigned (levels : Nat) (cursor : Cursor) : Except ParseError (Expression × Cursor) :=
  match signOp? cursor.current.kind, levels with
  | some _, 0 => .error tooDeep
  | some op, levels + 1 => do
      let (operand, cursor) ← parseSigned levels cursor.advance
      .ok (unary op operand, cursor)
  | Option.none, levels => do
      let (object, cursor) ← parsePrimary levels cursor
      parseSuffixes levels object cursor
termination_by (levels, 3, 0)

/-- The calls, subscripts and attributes that follow an operand. Each uses up one level for
all that is in it and follows it. -/
def parseSuffixes (levels : Nat) (object : Expression) (cursor : Cursor) :
    Except ParseError (Expression × Cursor) :=
  match suffix? cursor.current.kind, levels with
  | Option.none, _ => .ok (object, cursor)
  | some _, 0 => .error tooDeep
  | some .call, levels + 1 => do
      let (arguments, cursor) ← parseItems .rightParen levels cursor.advance
      parseSuffixes levels (call object arguments) (← cursor.expect .rightParen)
  | some .subscript, levels + 1 => do
      let (position, cursor) ← parse levels cursor.advance
      parseSuffixes levels (index object position) (← cursor.expect .rightBracket)
  | some .attributeName, levels + 1 => do
      let (word, cursor) ← cursor.advance.expectName
      parseSuffixes levels (member object word) cursor
termination_by (levels, 0, 0)

/-- A literal, a name, a list or an expression between parentheses. -/
def parsePrimary (levels : Nat) (cursor : Cursor) : Except ParseError (Expression × Cursor) :=
  match ofToken? cursor.current.kind with
  | some expression => .ok (expression, cursor.advance)
  | Option.none =>
      match cursor.current.kind with
      | .symbol .leftParen => do
          let (inner, cursor) ← parse levels cursor.advance
          .ok (inner, ← cursor.expect .rightParen)
      | .symbol .leftBracket => do
          let (elements, cursor) ← parseItems .rightBracket levels cursor.advance
          .ok (list elements, ← cursor.expect .rightBracket)
      | _ => .error (cursor.expected "expression")
termination_by (levels, 2, 0)

/-- Expressions with commas between them, up to a closing symbol; one more comma may stand
at the end. An expression and a comma take a token even at the end of the tokens. -/
def parseItems (close : Symbol) (levels : Nat) (cursor : Cursor) :
    Except ParseError (List Expression × Cursor) :=
  if cursor.isAt close then .ok ([], cursor)
  else do
    let (item, rest) ← parse levels cursor
    if rest.isAt .comma ∧ rest.advance.remaining < cursor.remaining then
      let (items, rest) ← parseItems close levels rest.advance
      .ok (item :: items, rest)
    else .ok ([item], rest)
termination_by (levels, 1, cursor.remaining)

end

end Expression

end Offside
