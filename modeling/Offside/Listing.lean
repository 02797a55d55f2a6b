import Offside.Decimal.Layout
import Offside.Syntax.Statement
import Offside.Text.Quoted

/-!
# Listings of programs

A listing shows a program as nested records, one item on each line and each
level indented by four spaces.
-/

namespace Offside

/-- What a listing shows. -/
inductive Listing where
  | atom (text : String)
  | record (name : String) (fields : List (String × Listing))
  /-- Items between parentheses, with a name in front that may be empty. -/
  | tuple (name : String) (items : List Listing)
  | sequence (items : List Listing)

namespace Listing

/-- The blanks in front of a line at some depth. -/
def margin (depth : Nat) : String :=
  String.ofList (List.replicate (4 * depth) ' ')

mutual

/-- The text of a listing whose first line begins at some depth. -/
def write (depth : Nat) : Listing → String
  | atom text => text
  | record name fields =>
      name ++ " \x7b\n" ++ writeFields (depth + 1) fields ++ margin depth ++ "\x7d"
  | tuple name items => name ++ "(\n" ++ writeItems (depth + 1) items ++ margin depth ++ ")"
  | sequence [] => "[]"
  | sequence (item :: items) =>
      "[\n" ++ writeItems (depth + 1) (item :: items) ++ margin depth ++ "]"

/-- The lines of some items, each with a comma at its end. -/
def writeItems (depth : Nat) : List Listing → String
  | [] => ""
  | item :: later => margin depth ++ write depth item ++ ",\n" ++ writeItems depth later

/-- The lines of some fields, each with a comma at its end. -/
def writeFields (depth : Nat) : List (String × Listing) → String
  | [] => ""
  | (name, value) :: later =>
      margin depth ++ name ++ ": " ++ write depth value ++ ",\n" ++ writeFields depth later

end

/-- A listed text. -/
def text (content : String) : Listing := atom (Text.quoted content)

/-- Listed floats are written in full from 10⁻⁴ to below 10¹⁶ and never look like integers;
an exponent is as short as it can be. -/
def floatLayout : Decimal.Layout where
  writtenInFull exponent := -4 ≤ exponent && exponent < 16
  keepsFraction := true
  plusSign := false
  exponentDigits := 1
  nanText := "NaN"

end Listing

/-- The name of an operator in listings. -/
def UnaryOp.listing : UnaryOp → Listing
  | negate => .atom "Negate"
  | plus => .atom "Plus"
  | not => .atom "Not"

/-- The name of an operator in listings. -/
def BinaryOp.listing : BinaryOp → Listing
  | add => .atom "Add"
  | sub => .atom "Sub"
  | mul => .atom "Mul"
  | div => .atom "Div"
  | floorDiv => .atom "FloorDiv"
  | mod => .atom "Mod"

/-- The name of an operator in listings. -/
def CompareOp.listing : CompareOp → Listing
  | equal => .atom "Equal"
  | notEqual => .atom "NotEqual"
  | less => .atom "Less"
  | lessEqual => .atom "LessEqual"
  | greater => .atom "Greater"
  | greaterEqual => .atom "GreaterEqual"
  | isIn => .atom "In"
  | notIn => .atom "NotIn"

/-- The name of an operator in listings. -/
def LogicalOp.listing : LogicalOp → Listing
  | and => .atom "And"
  | or => .atom "Or"

mutual

/-- The listing of an expression. -/
def Expression.listing : Expression → Listing
  | .integer value => .tuple "Integer" [.atom (toString value.toInt)]
  | .float value => .tuple "Float" [.atom (Listing.floatLayout.write value)]
  | .text content => .tuple "String" [.text content]
  | .boolean value => .tuple "Boolean" [.atom (if value then "true" else "false")]
  | .none => .atom "None"
  | .name word => .tuple "Identifier" [.text word]
  | .list elements => .tuple "List" [.sequence (expressionListings elements)]
  | .index object position =>
      .record "Index" [("object", object.listing), ("index", position.listing)]
  | .member object word =>
      .record "Attribute" [("object", object.listing), ("name", .text word)]
  | .call callee arguments =>
      .record "Call"
        [("callee", callee.listing), ("args", .sequence (expressionListings arguments))]
  | .unary op operand => .record "Unary" [("op", op.listing), ("operand", operand.listing)]
  | .binary left op right =>
      .record "BinaryOp" [("left", left.listing), ("op", op.listing), ("right", right.listing)]
  | .compare left links =>
      .record "Compare"
        [("left", left.listing), ("comparisons", .sequence (linkListings links))]
  | .logical left op right =>
      .record "Logical" [("left", left.listing), ("op", op.listing), ("right", right.listing)]

/-- The listings of expressions. -/
def expressionListings : List Expression → List Listing
  | [] => []
  | first :: later => first.listing :: expressionListings later

/-- The listings of the comparisons of a chain. -/
def linkListings : List (CompareOp × Expression) → List Listing
  | [] => []
  | (op, right) :: later => .tuple "" [op.listing, right.listing] :: linkListings later

end

mutual

/-- The listing of a statement. -/
def Statement.listing : Statement → Listing
  | .assign target value =>
      .record "Assign" [("name", .text target), ("value", value.listing)]
  | .update target op value =>
      .record "AugAssign"
        [("name", .text target), ("op", op.listing), ("value", value.listing)]
  | .forEach target iterable body =>
      .record "For"
        [("target", .text target), ("iterable", iterable.listing),
          ("body", .sequence (statementListings body))]
  | .whileLoop condition body =>
      .record "While"
        [("condition", condition.listing), ("body", .sequence (statementListings body))]
  | .conditional chain =>
      .record "If"
        [("branches", .sequence chain.branchListings), ("else_body", chain.lastListing)]
  | .stop => .atom "Break"
  | .next => .atom "Continue"
  | .pass => .atom "Pass"
  | .expression value => .tuple "Expr" [value.listing]

/-- The listings of the branches of a chain. -/
def Chain.branchListings : Chain → List Listing
  | .done | .otherwise _ => []
  | .branch condition body rest =>
      .record "ConditionalBranch"
          [("condition", condition.listing), ("body", .sequence (statementListings body))]
        :: rest.branchListings

/-- The listing of the body for the case that no condition holds. -/
def Chain.lastListing : Chain → Listing
  | .done => .atom "None"
  | .otherwise body => .tuple "Some" [.sequence (statementListings body)]
  | .branch _ _ rest => rest.lastListing

/-- The listings of statements. -/
def statementListings : List Statement → List Listing
  | [] => []
  | first :: later => first.listing :: statementListings later

end

/-- The text of a program's listing. -/
def Program.listing (program : Program) : String :=
  (Listing.record "Program" [("statements", .sequence (statementListings program))]).write 0

end Offside
