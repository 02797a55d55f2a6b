import Offside.Source

/-!
# Defects that can be seen on a line

A defect is seen by looking at the characters of one line: a missing colon,
brackets or quotes that do not pair up, or a colon inside the parentheses of
`range`. `Defect.first?` finds the first line with a defect and names the
defect that comes first in a fixed order.
-/

namespace Offside

/-- What is wrong with a line, in the order in which it is looked for. -/
inductive DefectKind where
  | missingColon
  | missingClosingParen | missingOpeningParen
  | missingClosingBracket | missingOpeningBracket
  | unmatchedSingleQuote | unmatchedDoubleQuote
  | invalidRange
  deriving DecidableEq, Repr

namespace DefectKind

/-- Every kind of defect, in the order in which they are looked for. -/
def all : List DefectKind :=
  [missingColon, missingClosingParen, missingOpeningParen, missingClosingBracket,
    missingOpeningBracket, unmatchedSingleQuote, unmatchedDoubleQuote, invalidRange]

/-- The text of a defect. -/
def message : DefectKind → String
  | missingColon => "Missing colon (:) at end of line"
  | missingClosingParen => "Missing closing parenthesis )"
  | missingOpeningParen => "Missing opening parenthesis ("
  | missingClosingBracket => "Missing closing bracket ]"
  | missingOpeningBracket => "Missing opening bracket ["
  | unmatchedSingleQuote => "Unmatched single quote (')"
  | unmatchedDoubleQuote => "Unmatched double quote (\")"
  | invalidRange =>
      "Invalid range() syntax - did you mean to close the parenthesis before the colon?"

/-- The list of kinds leaves none out. -/
theorem mem_all (kind : DefectKind) : kind ∈ all := by
  cases kind <;> decide

end DefectKind

/-- A defect on a numbered line. -/
structure Defect where
  line : Nat
  kind : DefectKind
  deriving DecidableEq, Repr

namespace Defect

/-- The message of a defect. -/
def message (defect : Defect) : String :=
  s!"Syntax error on line {defect.line}: {defect.kind.message}"

/-- The words that the header of a block begins with. -/
def blockWords : List String := ["for", "while", "if", "elif", "else"]

/-- Whether a trimmed line begins with the first word of a header and a blank. -/
def opensBlock (trimmed : List Char) : Bool :=
  blockWords.any fun word =>
    word.toList.isPrefixOf trimmed && (trimmed.drop word.toList.length).head?.any Text.isBlank

/-- Whether a quote occurs an odd number of times. -/
def isUnmatched (characters : List Char) (quote : Char) : Bool :=
  characters.count quote % 2 == 1

/-- Whether a colon, before the first closing parenthesis of a text, is followed by
anything but blanks and a closing parenthesis. -/
def hasLooseColon : List Char → Bool
  | [] => false
  | ')' :: _ => false
  | ':' :: rest => (Text.trimStart rest).head? != some ')' || hasLooseColon rest
  | _ :: rest => hasLooseColon rest

/-- Whether a colon stands inside the parentheses of some `range`. -/
def hasInvalidRange : List Char → Bool
  | [] => false
  | first :: rest =>
      ("range(".toList.isPrefixOf (first :: rest)
          && hasLooseColon ((first :: rest).drop "range(".toList.length))
        || hasInvalidRange rest

/-- Whether a line has a defect of some kind. -/
def isOn (line : SourceLine) : DefectKind → Bool
  | .missingColon => opensBlock line.trimmed && line.trimmed.getLast? != some ':'
  | .missingClosingParen => line.characters.count ')' < line.characters.count '('
  | .missingOpeningParen => line.characters.count '(' < line.characters.count ')'
  | .missingClosingBracket => line.characters.count ']' < line.characters.count '['
  | .missingOpeningBracket => line.characters.count '[' < line.characters.count ']'
  | .unmatchedSingleQuote => isUnmatched line.characters '\''
  | .unmatchedDoubleQuote => isUnmatched line.characters '"'
  | .invalidRange => hasInvalidRange line.characters

/-- The first defect of a line. -/
def ofLine? (line : SourceLine) : Option DefectKind :=
  DefectKind.all.find? (isOn line)

/-- The first defect of a source text. -/
def first? (source : String) : Option Defect :=
  (Source.codeLines source).findSome? fun line => (ofLine? line).map (⟨line.number, ·⟩)

end Defect

end Offside
