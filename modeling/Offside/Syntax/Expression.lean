import Offside.Decimal.Binary64

/-!
# Expressions

The expressions of the language as trees. Operators know the signs they are
written with.
-/

namespace Offside

/-- The operators with one operand. -/
inductive UnaryOp where
  | negate | plus | not
  deriving DecidableEq, Repr

/-- The operators of arithmetic. -/
inductive BinaryOp where
  | add | sub | mul | div | floorDiv | mod
  deriving DecidableEq, Repr

/-- The sign of an arithmetic operator. -/
def BinaryOp.symbol : BinaryOp → String
  | add => "+"
  | sub => "-"
  | mul => "*"
  | div => "/"
  | floorDiv => "//"
  | mod => "%"

/-- The operators that compare two values. -/
inductive CompareOp where
  | equal | notEqual | less | lessEqual | greater | greaterEqual | isIn | notIn
  deriving DecidableEq, Repr

/-- The sign of a comparison. -/
def CompareOp.symbol : CompareOp → String
  | equal => "=="
  | notEqual => "!="
  | less => "<"
  | lessEqual => "<="
  | greater => ">"
  | greaterEqual => ">="
  | isIn => "in"
  | notIn => "not in"

/-- The operators that may leave their right operand alone. -/
inductive LogicalOp where
  | and | or
  deriving DecidableEq, Repr

/-- An expression. -/
inductive Expression where
  | integer (value : Int64)
  | float (value : Decimal.Binary64)
  | text (content : String)
  | boolean (value : Bool)
  | none
  | name (word : String)
  | list (elements : List Expression)
  | index (object position : Expression)
  | member (object : Expression) (word : String)
  | call (callee : Expression) (arguments : List Expression)
  | unary (op : UnaryOp) (operand : Expression)
  | binary (left : Expression) (op : BinaryOp) (right : Expression)
  /-- A chain such as `a < b <= c`: every neighbouring pair must hold. -/
  | compare (left : Expression) (links : List (CompareOp × Expression))
  | logical (left : Expression) (op : LogicalOp) (right : Expression)

namespace Expression

/-- What an expression is called where only a name could be assigned. -/
def asTarget : Expression → String
  | call .. => "function call"
  | index .. => "subscript"
  | member .. => "attribute"
  | integer _ | float _ | text _ | boolean _ | none | list _ => "literal"
  | name _ | unary .. | binary .. | compare .. | logical .. => "expression"

end Expression

end Offside
