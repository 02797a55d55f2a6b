import Offside.Syntax.Expression.Parser

/-!
# The grammar of expressions

A `Phrase` is an expression with all that its spelling decides: which operands an
operator joins, and where brackets stand. Each constructor is a production of the
grammar. `Phrase.words` is what a phrase is spelled as, `Phrase.meaning` the
expression that it stands for, and `Phrase.levels` the number of levels it
nests. Nothing here reads tokens.

    expr    := or
    or      := and ('or' and)*
    and     := not ('and' not)*
    not     := 'not' not | cmp
    cmp     := sum (cmpop sum)*
    sum     := term (('+' | '-') term)*
    term    := unary (('*' | '/' | '//' | '%') unary)*
    unary   := ('-' | '+') unary | postfix
    postfix := primary ('(' args ')' | '[' expr ']' | '.' NAME)*
    primary := literal | NAME | '(' expr ')' | '[' args ']'
    args    := empty | expr (',' expr)* [',']
-/

namespace Offside

open Expression (Level)

/-- The operators of each level: the word, and what it makes of the operands on its sides. -/
inductive Joins : Level → Token.Kind → (Expression → Expression → Expression) → Prop where
  | or : Joins .disjunction (.keyword .kwOr) (Expression.logical · .or ·)
  | and : Joins .conjunction (.keyword .kwAnd) (Expression.logical · .and ·)
  | plus : Joins .sum (.symbol .plus) (Expression.binary · .add ·)
  | minus : Joins .sum (.symbol .minus) (Expression.binary · .sub ·)
  | star : Joins .term (.symbol .star) (Expression.binary · .mul ·)
  | slash : Joins .term (.symbol .slash) (Expression.binary · .div ·)
  | doubleSlash : Joins .term (.symbol .doubleSlash) (Expression.binary · .floorDiv ·)
  | percent : Joins .term (.symbol .percent) (Expression.binary · .mod ·)

/-- The words of a comparison. -/
def CompareOp.words : CompareOp → List Token.Kind
  | equal => [.symbol .equalEqual]
  | notEqual => [.symbol .notEqual]
  | less => [.symbol .less]
  | lessEqual => [.symbol .lessEqual]
  | greater => [.symbol .greater]
  | greaterEqual => [.symbol .greaterEqual]
  | isIn => [.keyword .kwIn]
  | notIn => [.keyword .kwNot, .keyword .kwIn]

/-- The signs that may stand before an operand. -/
inductive IsSign : Token.Kind → UnaryOp → Prop where
  | minus : IsSign (.symbol .minus) .negate
  | plus : IsSign (.symbol .plus) .plus

/-- The words that are expressions by themselves: literals and names. -/
inductive IsAtom : Token.Kind → Expression → Prop where
  | integer (value : Int64) : IsAtom (.integer value) (.integer value)
  | float (value : Decimal.Binary64) : IsAtom (.float value) (.float value)
  | text (content : String) : IsAtom (.text content) (.text content)
  | true : IsAtom (.keyword .kwTrue) (.boolean Bool.true)
  | false : IsAtom (.keyword .kwFalse) (.boolean Bool.false)
  | none : IsAtom (.keyword .kwNone) .none
  | name (word : String) : IsAtom (.name word) (.name word)

/-- The syntactic categories. -/
inductive Phrase.Category where
  | expression
  /-- `or`, `and`, `sum` and `term` -/
  | chain (level : Level)
  /-- what the operators of a level join -/
  | operand (level : Level)
  /-- the operators of a level, each with the operand behind it -/
  | operators (level : Level)
  /-- `not` -/
  | negation
  /-- the comparisons behind a `sum` -/
  | comparisons
  /-- `unary` -/
  | signed
  /-- the calls, subscripts and attributes behind a `primary` -/
  | suffixes
  | primary
  /-- `args` -/
  | arguments

open Phrase.Category in
/-- A phrase of a category. -/
inductive Phrase : Phrase.Category → Type where
  | expression (value : Phrase (chain .disjunction)) : Phrase expression
  | chain {level : Level} (first : Phrase (operand level)) (more : Phrase (operators level)) :
      Phrase (chain level)
  | conjunction (value : Phrase (chain .conjunction)) : Phrase (operand .disjunction)
  | negation (value : Phrase negation) : Phrase (operand .conjunction)
  | term (value : Phrase (chain .term)) : Phrase (operand .sum)
  | signed (value : Phrase signed) : Phrase (operand .term)
  | noOperator {level : Level} : Phrase (operators level)
  | operator {level : Level} (word : Token.Kind) (join : Expression → Expression → Expression)
      (joins : Joins level word join) (right : Phrase (operand level))
      (later : Phrase (operators level)) : Phrase (operators level)
  | not (operand : Phrase negation) : Phrase negation
  | comparison (left : Phrase (chain .sum)) (links : Phrase comparisons) : Phrase negation
  | noLink : Phrase comparisons
  | link (op : CompareOp) (right : Phrase (chain .sum)) (later : Phrase comparisons) :
      Phrase comparisons
  | sign (word : Token.Kind) (op : UnaryOp) (isSign : IsSign word op) (operand : Phrase signed) :
      Phrase signed
  | suffixed (object : Phrase primary) (more : Phrase suffixes) : Phrase signed
  | noSuffix : Phrase suffixes
  | call (given : Phrase arguments) (later : Phrase suffixes) : Phrase suffixes
  | subscript (position : Phrase expression) (later : Phrase suffixes) : Phrase suffixes
  | member (word : String) (later : Phrase suffixes) : Phrase suffixes
  | atom (word : Token.Kind) (value : Expression) (isAtom : IsAtom word value) : Phrase primary
  | bracketed (inner : Phrase expression) : Phrase primary
  | list (elements : Phrase arguments) : Phrase primary
  | noArgument : Phrase arguments
  | lastArgument (value : Phrase expression) : Phrase arguments
  /-- With no further argument, the comma is the one that may stand at the end. -/
  | argument (value : Phrase expression) (later : Phrase arguments) : Phrase arguments

namespace Phrase

/-- The words that a phrase is spelled as. -/
def words : {category : Category} → Phrase category → List Token.Kind
  | _, expression value => value.words
  | _, chain first more => first.words ++ more.words
  | _, conjunction value => value.words
  | _, negation value => value.words
  | _, term value => value.words
  | _, signed value => value.words
  | _, noOperator => []
  | _, operator word _ _ right later => word :: (right.words ++ later.words)
  | _, not operand => .keyword .kwNot :: operand.words
  | _, comparison left links => left.words ++ links.words
  | _, noLink => []
  | _, link op right later => op.words ++ (right.words ++ later.words)
  | _, sign word _ _ operand => word :: operand.words
  | _, suffixed object more => object.words ++ more.words
  | _, noSuffix => []
  | _, call given later =>
      .symbol .leftParen :: (given.words ++ .symbol .rightParen :: later.words)
  | _, subscript position later =>
      .symbol .leftBracket :: (position.words ++ .symbol .rightBracket :: later.words)
  | _, member word later => .symbol .dot :: .name word :: later.words
  | _, atom word _ _ => [word]
  | _, bracketed inner => .symbol .leftParen :: (inner.words ++ [.symbol .rightParen])
  | _, list elements => .symbol .leftBracket :: (elements.words ++ [.symbol .rightBracket])
  | _, noArgument => []
  | _, lastArgument value => value.words
  | _, argument value later => value.words ++ .symbol .comma :: later.words

/-- What the phrases of a category stand for. Operators and suffixes stand for what they make
of the operand before them. -/
@[reducible]
def Category.Meaning : Category → Type
  | .operators _ | .suffixes => Expression → Expression
  | .comparisons => List (CompareOp × Expression)
  | .arguments => List Expression
  | .expression | .chain _ | .operand _ | .negation | .signed | .primary => Expression

/-- What a phrase stands for. Operators of one level join their operands from the left. -/
def meaning : {category : Category} → Phrase category → category.Meaning
  | _, expression value => value.meaning
  | _, chain first more => more.meaning first.meaning
  | _, conjunction value => value.meaning
  | _, negation value => value.meaning
  | _, term value => value.meaning
  | _, signed value => value.meaning
  | _, noOperator => fun left => left
  | _, operator _ join _ right later => fun left => later.meaning (join left right.meaning)
  | _, not operand => Expression.unary .not operand.meaning
  | _, comparison left links =>
      match links.meaning with
      | [] => left.meaning
      | found => Expression.compare left.meaning found
  | _, noLink => []
  | _, link op right later => (op, right.meaning) :: later.meaning
  | _, sign _ op _ operand => Expression.unary op operand.meaning
  | _, suffixed object more => more.meaning object.meaning
  | _, noSuffix => fun object => object
  | _, call given later => fun object => later.meaning (Expression.call object given.meaning)
  | _, subscript position later =>
      fun object => later.meaning (Expression.index object position.meaning)
  | _, member word later => fun object => later.meaning (Expression.member object word)
  | _, atom _ value _ => value
  | _, bracketed inner => inner.meaning
  | _, list elements => Expression.list elements.meaning
  | _, noArgument => []
  | _, lastArgument value => [value.meaning]
  | _, argument value later => value.meaning :: later.meaning

/-- The number of levels that a phrase nests. Every operator and every suffix uses up a level for
all that follows it on its level, and so do a `not` and a sign for their operand. -/
def levels : {category : Category} → Phrase category → Nat
  | _, expression value => value.levels + 1
  | _, chain first more => max first.levels more.levels
  | _, conjunction value => value.levels
  | _, negation value => value.levels
  | _, term value => value.levels
  | _, signed value => value.levels
  | _, noOperator => 0
  | _, operator _ _ _ right later => max right.levels later.levels + 1
  | _, not operand => operand.levels + 1
  | _, comparison left links => max left.levels links.levels
  | _, noLink => 0
  | _, link _ right later => max right.levels later.levels
  | _, sign _ _ _ operand => operand.levels + 1
  | _, suffixed object more => max object.levels more.levels
  | _, noSuffix => 0
  | _, call given later => max given.levels later.levels + 1
  | _, subscript position later => max position.levels later.levels + 1
  | _, member _ later => later.levels + 1
  | _, atom .. => 0
  | _, bracketed inner => inner.levels
  | _, list elements => elements.levels
  | _, noArgument => 0
  | _, lastArgument value => value.levels
  | _, argument value later => max value.levels later.levels

end Phrase

end Offside
