import Offside.Decimal.Layout

/-!
# Tokens

A token is a word, a number, a text or a symbol of one source line, together
with its place in that line. `Kind.description` is how a token is called in
messages.
-/

namespace Offside

/-- The names that the language keeps for itself. -/
inductive Keyword where
  | kwFor | kwIn | kwWhile | kwIf | kwElif | kwElse | kwAnd | kwOr | kwNot
  | kwPass | kwBreak | kwContinue | kwTrue | kwFalse | kwNone
  deriving DecidableEq, Repr

namespace Keyword

/-- Every keyword. -/
def all : List Keyword :=
  [kwFor, kwIn, kwWhile, kwIf, kwElif, kwElse, kwAnd, kwOr, kwNot,
    kwPass, kwBreak, kwContinue, kwTrue, kwFalse, kwNone]

/-- The word that a keyword is written as. -/
def spelling : Keyword → String
  | kwFor => "for"
  | kwIn => "in"
  | kwWhile => "while"
  | kwIf => "if"
  | kwElif => "elif"
  | kwElse => "else"
  | kwAnd => "and"
  | kwOr => "or"
  | kwNot => "not"
  | kwPass => "pass"
  | kwBreak => "break"
  | kwContinue => "continue"
  | kwTrue => "True"
  | kwFalse => "False"
  | kwNone => "None"

/-- The keyword that a word is, if it is one. -/
def ofSpelling? (word : String) : Option Keyword :=
  all.find? (·.spelling == word)

/-- A keyword is found by its spelling. -/
theorem ofSpelling?_spelling (keyword : Keyword) : ofSpelling? keyword.spelling = some keyword := by
  cases keyword <;> decide

end Keyword

/-- The tokens that are written with signs. -/
inductive Symbol where
  | equal | plusEqual | minusEqual | starEqual | slashEqual | doubleSlashEqual | percentEqual
  | equalEqual | notEqual | less | lessEqual | greater | greaterEqual
  | plus | minus | star | slash | doubleSlash | percent
  | colon | comma | dot | leftParen | rightParen | leftBracket | rightBracket
  deriving DecidableEq, Repr

namespace Symbol

/-- Every symbol, longer spellings first. -/
def all : List Symbol :=
  [doubleSlashEqual,
    plusEqual, minusEqual, starEqual, slashEqual, percentEqual, equalEqual, notEqual,
    lessEqual, greaterEqual, doubleSlash,
    equal, less, greater, plus, minus, star, slash, percent,
    colon, comma, dot, leftParen, rightParen, leftBracket, rightBracket]

/-- The signs that a symbol is written as. -/
def spelling : Symbol → String
  | equal => "="
  | plusEqual => "+="
  | minusEqual => "-="
  | starEqual => "*="
  | slashEqual => "/="
  | doubleSlashEqual => "//="
  | percentEqual => "%="
  | equalEqual => "=="
  | notEqual => "!="
  | less => "<"
  | lessEqual => "<="
  | greater => ">"
  | greaterEqual => ">="
  | plus => "+"
  | minus => "-"
  | star => "*"
  | slash => "/"
  | doubleSlash => "//"
  | percent => "%"
  | colon => ":"
  | comma => ","
  | dot => "."
  | leftParen => "("
  | rightParen => ")"
  | leftBracket => "["
  | rightBracket => "]"

/-- The longest symbol that a text begins with. -/
def atStart? (text : List Char) : Option Symbol :=
  all.find? (·.spelling.toList.isPrefixOf text)

/-- The list of symbols leaves none out. -/
theorem mem_all (symbol : Symbol) : symbol ∈ all := by
  cases symbol <;> decide

end Symbol

namespace Token

/-- What a token is, apart from its place. -/
inductive Kind where
  | name (word : String)
  | integer (value : Int64)
  | float (value : Decimal.Binary64)
  | text (content : String)
  | keyword (keyword : Keyword)
  | symbol (symbol : Symbol)
  | lineEnd
  deriving DecidableEq

/-- Floats in messages are written in full, whole ones without a fraction. -/
def floatLayout : Decimal.Layout where
  writtenInFull _ := true
  keepsFraction := false
  plusSign := false
  exponentDigits := 1
  nanText := "NaN"

/-- How a token is called in messages. -/
def Kind.description : Kind → String
  | .name word => s!"name '{word}'"
  | .integer value => s!"number {value.toInt}"
  | .float value => "number " ++ floatLayout.write value
  | .text _ => "string literal"
  | .keyword kept => s!"'{kept.spelling}'"
  | .symbol sign => s!"'{sign.spelling}'"
  | .lineEnd => "end of line"

/-- The place of a token: bytes of the line's text before its start and before its end,
the number of the line, and characters of the line's text before its start. -/
structure Span where
  start : Nat
  stop : Nat
  line : Nat
  column : Nat
  deriving DecidableEq

end Token

/-- A token at its place. -/
structure Token where
  kind : Token.Kind
  span : Token.Span
  deriving DecidableEq

end Offside
