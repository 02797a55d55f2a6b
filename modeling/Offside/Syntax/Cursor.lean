import Offside.Token.Lexer

/-!
# Reading tokens one by one

A cursor stands before the next token of a list. Past the end it keeps showing
the last token of the list, and on an empty list the end of a line. What a
cursor meets and what was expected there make up a `ParseError`.
-/

namespace Offside

/-- Why tokens are not a line of the language. -/
inductive ParseError where
  | lexical (error : LexError)
  | unexpected (expected : String) (found : Token.Kind) (column : Nat)
  | invalidTarget (target : String)
  | tooDeeplyNested (limit : Nat)
  deriving DecidableEq

namespace ParseError

/-- The message of an error. -/
def message : ParseError → String
  | lexical error => error.message
  | unexpected expected found _ => s!"Expected {expected}, got {found.description}"
  | invalidTarget target => s!"Cannot assign to {target}"
  | tooDeeplyNested limit => s!"Expression nested more than {limit} levels deep"

/-- The number of characters before the place of an error that has one. -/
def column? : ParseError → Option Nat
  | lexical error => some error.column
  | unexpected _ _ column => some column
  | invalidTarget _ | tooDeeplyNested _ => none

end ParseError

/-- A place in a list of tokens. -/
structure Cursor where
  /-- The tokens that have not been read. -/
  ahead : List Token
  /-- The token shown past the end. -/
  last : Token
  /-- The number of tokens that have not been read. -/
  remaining : Nat
  remaining_eq : remaining = ahead.length

namespace Cursor

/-- The cursor before the first of some tokens. -/
def ofTokens (tokens : List Token) : Cursor where
  ahead := tokens
  last := tokens.getLast?.getD ⟨.lineEnd, ⟨0, 0, 0, 0⟩⟩
  remaining := tokens.length
  remaining_eq := rfl

/-- The next token. -/
def current (cursor : Cursor) : Token :=
  cursor.ahead.headD cursor.last

/-- The token after the next. -/
def second (cursor : Cursor) : Token :=
  cursor.ahead.tail.headD cursor.last

/-- The cursor behind the next token. -/
def advance (cursor : Cursor) : Cursor where
  ahead := cursor.ahead.tail
  last := cursor.last
  remaining := cursor.remaining - 1
  remaining_eq := by rw [cursor.remaining_eq, List.length_tail]

/-- A cursor is determined by the tokens that it shows. -/
theorem ext_shown {first second : Cursor} (ahead : first.ahead = second.ahead)
    (last : first.last = second.last) : first = second := by
  obtain ⟨_, _, _, rfl⟩ := first
  obtain ⟨_, _, _, rfl⟩ := second
  cases ahead
  cases last
  rfl

/-- The error that something else than the next token was expected. -/
def expected (cursor : Cursor) (expected : String) : ParseError :=
  .unexpected expected cursor.current.kind cursor.current.span.column

/-- Whether the next token is a symbol. -/
def isAt (cursor : Cursor) (symbol : Symbol) : Bool :=
  match cursor.current.kind with
  | .symbol found => found == symbol
  | _ => false

/-- Whether the next token is a keyword. -/
def isAtKeyword (cursor : Cursor) (keyword : Keyword) : Bool :=
  match cursor.current.kind with
  | .keyword found => found == keyword
  | _ => false

/-- Whether the next token is the end of the line. -/
def isAtEnd (cursor : Cursor) : Bool :=
  match cursor.current.kind with
  | .lineEnd => true
  | _ => false

/-- Reads past a symbol. -/
def expect (cursor : Cursor) (symbol : Symbol) : Except ParseError Cursor :=
  if cursor.isAt symbol then .ok cursor.advance
  else .error (cursor.expected s!"'{symbol.spelling}'")

/-- Reads past a keyword. -/
def expectKeyword (cursor : Cursor) (keyword : Keyword) : Except ParseError Cursor :=
  if cursor.isAtKeyword keyword then .ok cursor.advance
  else .error (cursor.expected s!"'{keyword.spelling}'")

/-- Reads past the end of the line, and so makes sure that nothing else follows. -/
def expectEnd (cursor : Cursor) : Except ParseError Unit :=
  if cursor.isAtEnd then .ok () else .error (cursor.expected "end of line")

/-- Reads a name. -/
def expectName (cursor : Cursor) : Except ParseError (String × Cursor) :=
  match cursor.current.kind with
  | .name word => .ok (word, cursor.advance)
  | _ => .error (cursor.expected "identifier")

end Cursor

end Offside
