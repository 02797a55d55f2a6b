import Offside.Text.Blank
import Offside.Text.Alphabetic
import Offside.Token

/-!
# Cutting a line into tokens

The lexer cuts the text of a line into lexemes. Each is the longest name,
number, quoted text or symbol that starts where the one before it ended, blanks
left out, and a `#` outside a quoted text hides the rest of the line.
`Token.lex` goes on after a lexeme that is no token; `Token.tokenize` gives the
tokens of a text that has no such lexeme.
-/

namespace Offside

/-- Why a lexeme is no token; `column` counts the characters before it. -/
inductive LexError where
  | unexpectedCharacter (character : Char) (column : Nat)
  | invalidNumber (literal : String) (column : Nat)
  | unterminatedString (column : Nat)
  deriving DecidableEq

namespace LexError

/-- The message of an error. -/
def message : LexError → String
  | unexpectedCharacter character column =>
      s!"Unexpected character '{character}' at column {column}"
  | invalidNumber literal column => s!"Invalid number literal '{literal}' at column {column}"
  | unterminatedString column => s!"Unterminated string literal at column {column}"

/-- The number of characters before the lexeme. -/
def column : LexError → Nat
  | unexpectedCharacter _ column => column
  | invalidNumber _ column => column
  | unterminatedString column => column

end LexError

namespace Token

/-- Whether a name can begin with the character. -/
def startsName (character : Char) : Bool :=
  Text.isAlphabetic character || character == '_'

/-- Whether a name can go on with the character. -/
def continuesName (character : Char) : Bool :=
  Text.isAlphanumeric character || character == '_'

/-- The number that decimal digits stand for. -/
def digitsValue (digits : List Char) : Nat :=
  digits.foldl (fun value digit => 10 * value + (digit.toNat - '0'.toNat)) 0

/-- What an escaped character stands for inside quotes. A backslash before any other
character stands for itself. -/
def unescape : Char → List Char
  | 'n' => ['\n']
  | 't' => ['\t']
  | '\\' => ['\\']
  | '\'' => ['\'']
  | '"' => ['"']
  | other => ['\\', other]

/-- A text after its opening quote: what it contains, how that and the closing quote are
spelled, and what follows. There is none without a closing quote. -/
def quotedBody (quote : Char) : List Char → Option (List Char × List Char × List Char)
  | [] => none
  | first :: rest =>
      if first = quote then some ([], [first], rest)
      else if first = '\\' then
        match rest with
        | [] => none
        | escaped :: rest =>
            (quotedBody quote rest).map fun (content, spelling, following) =>
              (unescape escaped ++ content, first :: escaped :: spelling, following)
      else
        (quotedBody quote rest).map fun (content, spelling, following) =>
          (first :: content, first :: spelling, following)

/-- A piece cut off the front of a text. -/
structure Lexeme where
  outcome : Except LexError Kind
  spelling : List Char
  rest : List Char

/-- The quoted text that begins with `quote`; without a closing quote it takes the whole rest. -/
def readQuoted (column : Nat) (quote : Char) (following : List Char) : Lexeme :=
  match quotedBody quote following with
  | some (content, spelling, rest) =>
      ⟨.ok (.text (String.ofList content)), quote :: spelling, rest⟩
  | none => ⟨.error (.unterminatedString column), quote :: following, []⟩

/-- The name or keyword that begins with `first`. -/
def readName (first : Char) (following : List Char) : Lexeme :=
  let spelling := first :: following.takeWhile continuesName
  let word := String.ofList spelling
  let kind := match Keyword.ofSpelling? word with
    | some keyword => .keyword keyword
    | none => .name word
  ⟨.ok kind, spelling, following.dropWhile continuesName⟩

/-- The largest integer of the language. -/
def mostInteger : Nat := 0x7FFFFFFFFFFFFFFF

/-- The integer that digits stand for, if it is not too large. -/
def integerOf (column : Nat) (digits : List Char) : Except LexError Kind :=
  let value := digitsValue digits
  if value ≤ mostInteger then .ok (.integer (Int64.ofNat value))
  else .error (.invalidNumber (String.ofList digits) column)

/-- The float that digits before and after a point stand for. -/
def floatOf (whole fraction : List Char) : Decimal.Binary64 :=
  Decimal.Binary64.nearest (digitsValue (whole ++ fraction)) (Nat.pow 10 fraction.length)

/-- The number that begins with the digit `first`. A point belongs to it only before a digit. -/
def readNumber (column : Nat) (first : Char) (following : List Char) : Lexeme :=
  let whole := first :: following.takeWhile Char.isDigit
  match following.dropWhile Char.isDigit with
  | '.' :: digit :: rest =>
      if digit.isDigit then
        let fraction := digit :: rest.takeWhile Char.isDigit
        ⟨.ok (.float (floatOf whole fraction)), whole ++ '.' :: fraction,
          rest.dropWhile Char.isDigit⟩
      else ⟨integerOf column whole, whole, '.' :: digit :: rest⟩
  | rest => ⟨integerOf column whole, whole, rest⟩

/-- The symbol that a text begins with; any other character is not expected. -/
def readSymbol (column : Nat) (first : Char) (following : List Char) : Lexeme :=
  match Symbol.atStart? (first :: following) with
  | some symbol =>
      let further := symbol.spelling.toList.length - 1
      ⟨.ok (.symbol symbol), first :: following.take further, following.drop further⟩
  | none => ⟨.error (.unexpectedCharacter first column), [first], following⟩

/-- The lexeme that begins with `first`, which is neither blank nor `#`. -/
def readLexeme (column : Nat) (first : Char) (following : List Char) : Lexeme :=
  if first = '\'' ∨ first = '"' then readQuoted column first following
  else if startsName first then readName first following
  else if first.isDigit then readNumber column first following
  else readSymbol column first following

/-- A place in a text: the bytes and the characters before it. -/
structure Place where
  bytes : Nat
  column : Nat
  deriving DecidableEq

/-- The place after one more character. -/
def Place.next (place : Place) (character : Char) : Place :=
  ⟨place.bytes + character.utf8Size, place.column + 1⟩

/-- The place after some more characters. -/
def Place.after (place : Place) (characters : List Char) : Place :=
  characters.foldl Place.next place

/-- Characters are counted one after the other. -/
theorem Place.after_append (place : Place) (first second : List Char) :
    place.after (first ++ second) = (place.after first).after second :=
  List.foldl_append

/-- The column counts every character once. -/
theorem Place.column_after (place : Place) (characters : List Char) :
    (place.after characters).column = place.column + characters.length := by
  induction characters generalizing place with
  | nil => rfl
  | cons character rest inductionHypothesis =>
      have step := inductionHypothesis (place.next character)
      simp only [Place.next] at step
      simp only [Place.after, List.foldl_cons, List.length_cons] at step ⊢
      rw [Place.next, step]
      omega

/-- The span of a lexeme between two places. -/
def Place.spanTo (place stop : Place) (line : Nat) : Span :=
  ⟨place.bytes, stop.bytes, line, place.column⟩

/-- The spelling of a quoted text and what follows it make up the text. -/
theorem quotedBody_append {quote : Char} {text content spelling rest : List Char}
    (found : quotedBody quote text = some (content, spelling, rest)) : spelling ++ rest = text := by
  fun_induction quotedBody quote text generalizing content spelling rest with
  | case1 => simp at found
  | case2 following =>
      simp only [Option.some.injEq, Prod.mk.injEq] at found
      simp [← found.2.1, found.2.2]
  | case3 => simp at found
  | case4 _ escaped following inductionHypothesis =>
      obtain ⟨⟨_, _, _⟩, inner, equal⟩ := Option.map_eq_some_iff.mp found
      cases equal
      simp_all
  | case5 _ following _ _ inductionHypothesis =>
      obtain ⟨⟨_, _, _⟩, inner, equal⟩ := Option.map_eq_some_iff.mp found
      cases equal
      simp [inductionHypothesis inner]

/-- A lexeme is cut off the front: its spelling begins with the first character, and with
what is left it makes up the text. -/
theorem readLexeme_append (column : Nat) (first : Char) (following : List Char) :
    ∃ further, (readLexeme column first following).spelling = first :: further ∧
      further ++ (readLexeme column first following).rest = following := by
  unfold readLexeme
  split
  · unfold readQuoted
    split
    · next found => exact ⟨_, rfl, quotedBody_append found⟩
    · exact ⟨following, rfl, List.append_nil _⟩
  · split
    · exact ⟨_, rfl, List.takeWhile_append_dropWhile⟩
    · split
      · have digits := List.takeWhile_append_dropWhile (p := Char.isDigit) (l := following)
        unfold readNumber
        split
        · next digit rest shape =>
            split
            · refine ⟨_, rfl, ?_⟩
              have fraction := List.takeWhile_append_dropWhile (p := Char.isDigit) (l := rest)
              rw [shape] at digits
              simpa [fraction] using digits
            · exact ⟨_, rfl, shape ▸ digits⟩
        · exact ⟨_, rfl, digits⟩
      · unfold readSymbol
        split
        · exact ⟨_, rfl, List.take_append_drop _ _⟩
        · exact ⟨[], rfl, rfl⟩

/-- What follows a lexeme is no longer than what follows its first character. -/
theorem readLexeme_rest_length (column : Nat) (first : Char) (following : List Char) :
    (readLexeme column first following).rest.length ≤ following.length := by
  obtain ⟨further, _, whole⟩ := readLexeme_append column first following
  rw [← congrArg List.length whole, List.length_append]
  omega

/-- The tokens and errors of a text that stands at `place`. -/
def lexFrom (line : Nat) (place : Place) (text : List Char) : List (Except LexError Token) :=
  let start := place.after (text.takeWhile Text.isBlank)
  match _ : text.dropWhile Text.isBlank with
  | [] => [.ok ⟨.lineEnd, start.spanTo start line⟩]
  | first :: following =>
      if first = '#' then
        let stop := start.after (first :: following)
        [.ok ⟨.lineEnd, stop.spanTo stop line⟩]
      else
        let lexeme := readLexeme start.column first following
        let stop := start.after lexeme.spelling
        lexeme.outcome.map (⟨·, start.spanTo stop line⟩) :: lexFrom line stop lexeme.rest
termination_by text.length
decreasing_by
  rename_i shape _
  have blanks := (List.dropWhile_suffix Text.isBlank (l := text)).length_le
  rw [shape, List.length_cons] at blanks
  exact Nat.lt_of_le_of_lt (readLexeme_rest_length _ first following) blanks

/-- The tokens and errors of a line's text; the last of them is the end of the line. -/
def lex (text : String) (line : Nat) : List (Except LexError Token) :=
  lexFrom line ⟨0, 0⟩ text.toList

/-- The tokens of a line's text, or its first error. -/
def tokenize (text : String) (line : Nat) : Except LexError (List Token) :=
  (lex text line).mapM id

end Token

end Offside
