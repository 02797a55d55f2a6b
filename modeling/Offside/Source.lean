import Offside.Text.Blank

/-!
# Lines of source text

Source text is a sequence of lines parted by newlines and by nothing else. A
line without blanks at its ends may be empty or begin with a `#`; such a line
says nothing. The indentation of a line counts the blanks in front, whatever
kind they are.
-/

namespace Offside

/-- A line of source text with its number, counted from one. -/
structure SourceLine where
  number : Nat
  characters : List Char
  deriving DecidableEq

namespace SourceLine

/-- The line without the blanks at its ends. -/
def trimmed (line : SourceLine) : List Char :=
  Text.trim line.characters

/-- The number of blanks in front. -/
def indent (line : SourceLine) : Nat :=
  (line.characters.takeWhile Text.isBlank).length

/-- Whether the line is blank or a comment. -/
def isSkipped (line : SourceLine) : Bool :=
  line.trimmed.isEmpty || line.trimmed.head? == some '#'

end SourceLine

namespace Source

/-- The pieces of a text between newlines; a text without one is a single piece. -/
def pieces (text : List Char) : List (List Char) :=
  text.foldr (fun character pieces =>
    if character = '\n' then [] :: pieces
    else
      match pieces with
      | piece :: later => (character :: piece) :: later
      | [] => [[character]]) [[]]

/-- The lines of a source text. -/
def lines (source : String) : List SourceLine :=
  (pieces source.toList).zipIdx.map fun (piece, before) => ⟨before + 1, piece⟩

/-- The lines that say something. -/
def codeLines (source : String) : List SourceLine :=
  (lines source).filter (!·.isSkipped)

/-- A text has at least one piece, be it empty. -/
theorem pieces_ne_nil (text : List Char) : pieces text ≠ [] := by
  cases text with
  | nil => simp [pieces]
  | cons first rest =>
      simp only [pieces, List.foldr_cons]
      split
      · simp
      · split <;> simp

/-- A newline ends a piece, and the text after it makes up the further ones. -/
theorem pieces_newline_cons (rest : List Char) : pieces ('\n' :: rest) = [] :: pieces rest := by
  simp [pieces]

/-- A character other than a newline goes to the front of the first piece. -/
theorem pieces_cons {character : Char} (other : character ≠ '\n') {rest first : List Char}
    {later : List (List Char)} (shape : pieces rest = first :: later) :
    pieces (character :: rest) = (character :: first) :: later := by
  rw [pieces, List.foldr_cons, ← pieces, shape]
  simp [other]

/-- A newline between two texts parts the pieces of one from those of the other. -/
theorem pieces_append_newline (before after : List Char) :
    pieces (before ++ '\n' :: after) = pieces before ++ pieces after := by
  induction before with
  | nil => exact pieces_newline_cons after
  | cons character rest inductionHypothesis =>
      by_cases newline : character = '\n'
      · subst newline
        simp [pieces_newline_cons, inductionHypothesis]
      · obtain ⟨first, later, shape⟩ := List.exists_cons_of_ne_nil (pieces_ne_nil rest)
        have whole : pieces (rest ++ '\n' :: after) = first :: (later ++ pieces after) := by
          rw [inductionHypothesis, shape, List.cons_append]
        rw [List.cons_append, pieces_cons newline whole, pieces_cons newline shape,
          List.cons_append]

/-- A text without a newline is its only piece. -/
theorem pieces_of_no_newline {text : List Char} (oneLine : '\n' ∉ text) : pieces text = [text] := by
  induction text with
  | nil => rfl
  | cons character rest inductionHypothesis =>
      simp only [List.mem_cons, not_or] at oneLine
      exact pieces_cons (Ne.symm oneLine.1) (inductionHypothesis oneLine.2)

end Source

end Offside
