/-!
# Blank characters

Blanks are the characters with the Unicode property White_Space. They part
tokens, make up the indentation of a line and are what trimming removes.
`trim` takes off blanks at both ends and nothing else.
-/

namespace Offside.Text

/-- Whether a character has the property White_Space. -/
def isBlank (character : Char) : Bool :=
  let point := character.toNat
  (9 ≤ point && point ≤ 13) || point == 0x20 || point == 0x85 || point == 0xA0
    || point == 0x1680 || (0x2000 ≤ point && point ≤ 0x200A) || point == 0x2028
    || point == 0x2029 || point == 0x202F || point == 0x205F || point == 0x3000

/-- The text from its first character that is no blank. -/
def trimStart (characters : List Char) : List Char :=
  characters.dropWhile isBlank

/-- The text up to its last character that is no blank. -/
def trimEnd (characters : List Char) : List Char :=
  (characters.reverse.dropWhile isBlank).reverse

/-- The text between its first and its last character that is no blank. -/
def trim (characters : List Char) : List Char :=
  trimEnd (trimStart characters)

/-- Blanks in front are left out of `trimStart`. -/
theorem trimStart_append_of_blank {blanks : List Char} (blank : ∀ c ∈ blanks, isBlank c)
    (characters : List Char) : trimStart (blanks ++ characters) = trimStart characters := by
  induction blanks with
  | nil => rfl
  | cons first later inductionHypothesis =>
      have here : isBlank first := blank first (by simp)
      have rest := inductionHypothesis fun c member => blank c (by simp [member])
      simpa [trimStart, here] using rest

/-- Blanks at the end are left out of `trimEnd`. -/
theorem trimEnd_append_of_blank {blanks : List Char} (blank : ∀ c ∈ blanks, isBlank c)
    (characters : List Char) : trimEnd (characters ++ blanks) = trimEnd characters := by
  have reversed : ∀ c ∈ blanks.reverse, isBlank c := fun c member =>
    blank c (List.mem_reverse.mp member)
  have start := trimStart_append_of_blank reversed characters.reverse
  simpa [trimEnd, trimStart] using congrArg List.reverse start

end Offside.Text
