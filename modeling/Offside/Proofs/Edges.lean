import Offside.Proofs.Comment

/-!
# Blanks at the ends of a line

The search for defects counts the characters of a whole line and looks for a colon
in all of it, the blanks at its ends among them. It finds the same there as on the
line without those blanks (`Defect.ofLine?_congr`).
-/

namespace Offside

namespace Text

/-- A text is made up of blanks, what trimming leaves of it, and blanks. -/
theorem exists_append_trim (characters : List Char) :
    ∃ before after, characters = before ++ (trim characters ++ after) ∧
      (∀ blank ∈ before, isBlank blank) ∧ ∀ blank ∈ after, isBlank blank := by
  obtain ⟨after, behind, blankAfter⟩ := exists_trimEnd_append (trimStart characters)
  refine ⟨characters.takeWhile isBlank, after, ?_, ?_, blankAfter⟩
  · rw [trim, ← behind, trimStart, List.takeWhile_append_dropWhile]
  · exact List.all_eq_true.mp List.all_takeWhile

/-- A character that is no blank occurs as often without the blanks at the ends. -/
theorem count_trim (characters : List Char) {mark : Char} (visible : isBlank mark = false) :
    (trim characters).count mark = characters.count mark := by
  obtain ⟨before, after, whole, blankBefore, blankAfter⟩ := exists_append_trim characters
  have absent : ∀ {blanks : List Char}, (∀ blank ∈ blanks, isBlank blank) →
      blanks.count mark = 0 := by
    intro blanks blank
    refine List.count_eq_zero.mpr fun member => ?_
    rw [blank mark member] at visible
    cases visible
  conv_rhs => rw [whole, List.count_append, List.count_append, absent blankBefore,
    absent blankAfter, Nat.zero_add, Nat.add_zero]

end Text

namespace Defect

section

variable {blanks : List Char}

/-- There is no colon among blanks. -/
theorem hasLooseColon_of_blank (blank : ∀ character ∈ blanks, Text.isBlank character) :
    hasLooseColon blanks = false := by
  induction blanks with
  | nil => rfl
  | cons first later inductionHypothesis =>
      have here : Text.isBlank first := blank first List.mem_cons_self
      have rest := inductionHypothesis fun character member =>
        blank character (List.mem_cons_of_mem first member)
      unfold hasLooseColon
      split
      · rfl
      · rfl
      · next same =>
          cases same
          cases here
      · next same =>
          cases same
          exact rest

/-- A colon is as loose with blanks at the end of the text. -/
theorem hasLooseColon_append (blank : ∀ character ∈ blanks, Text.isBlank character)
    (text : List Char) : hasLooseColon (text ++ blanks) = hasLooseColon text := by
  induction text with
  | nil => exact hasLooseColon_of_blank blank
  | cons first rest inductionHypothesis =>
      have behind : (Text.trimStart (rest ++ blanks)).head? = (Text.trimStart rest).head? := by
        by_cases nothing : Text.trimStart rest = []
        · have allBlank : ∀ character ∈ rest, Text.isBlank character :=
            List.dropWhile_eq_nil_iff.mp nothing
          rw [Text.trimStart_append_of_blank allBlank, nothing]
          rw [Text.trimStart, List.dropWhile_eq_nil_iff.mpr blank]
        · obtain ⟨visible, later, shape⟩ := List.exists_cons_of_ne_nil nothing
          rw [Text.trimStart_append nothing, shape]
          rfl
      rw [List.cons_append]
      by_cases closes : first = ')'
      · rw [closes]
        rfl
      by_cases colon : first = ':'
      · rw [colon, hasLooseColon, hasLooseColon, behind, inductionHypothesis]
      · rw [hasLooseColon, hasLooseColon, inductionHypothesis] <;> assumption

/-- No `range` begins among the blanks in front of a text. -/
theorem hasInvalidRange_of_blank_append (blank : ∀ character ∈ blanks, Text.isBlank character)
    (text : List Char) : hasInvalidRange (blanks ++ text) = hasInvalidRange text := by
  induction blanks with
  | nil => rfl
  | cons first later inductionHypothesis =>
      have here : Text.isBlank first := blank first List.mem_cons_self
      have rest := inductionHypothesis fun character member =>
        blank character (List.mem_cons_of_mem first member)
      have other : 'r' ≠ first := by
        rintro rfl
        cases here
      have begins : "range(".toList.isPrefixOf (first :: (later ++ text)) = false := by
        simp [List.isPrefixOf, other]
      rw [List.cons_append, hasInvalidRange, begins, rest]
      rfl

/-- The parentheses of a `range` are as valid with blanks at the end of the text. -/
theorem hasInvalidRange_append (blank : ∀ character ∈ blanks, Text.isBlank character)
    (text : List Char) : hasInvalidRange (text ++ blanks) = hasInvalidRange text := by
  have parted : Token.IsParted blanks := fun first shown =>
    blank first (List.mem_of_mem_head? shown)
  have visible : ∀ character ∈ "range(".toList, ¬ Text.isBlank character := by
    have noBlank : "range(".toList.all (!Text.isBlank ·) = true := by decide +kernel
    simpa only [List.all_eq_true, Bool.not_eq_true', Bool.not_eq_true] using noBlank
  induction text with
  | nil =>
      have nothing := hasInvalidRange_of_blank_append blank []
      rwa [List.append_nil] at nothing
  | cons first rest inductionHypothesis =>
      have begins := Token.isPrefixOf_append_parted parted visible (first :: rest)
      rw [List.cons_append] at begins
      rw [List.cons_append, hasInvalidRange, hasInvalidRange, begins, inductionHypothesis]
      cases isPrefix : "range(".toList.isPrefixOf (first :: rest) with
      | false => rfl
      | true =>
          obtain ⟨inside, whole⟩ := List.isPrefixOf_iff_prefix.mp isPrefix
          rw [← List.cons_append, ← whole, List.append_assoc, List.drop_left, List.drop_left,
            hasLooseColon_append blank]

end

/-- The parentheses of a `range` are as valid without the blanks at the ends of the text. -/
theorem hasInvalidRange_trim (characters : List Char) :
    hasInvalidRange (Text.trim characters) = hasInvalidRange characters := by
  obtain ⟨before, after, whole, blankBefore, blankAfter⟩ := Text.exists_append_trim characters
  conv_rhs => rw [whole, hasInvalidRange_of_blank_append blankBefore,
    hasInvalidRange_append blankAfter]

/-- Lines that differ in the blanks at their ends have the same first defect. -/
theorem ofLine?_congr {line other : SourceLine} (same : other.trimmed = line.trimmed) :
    ofLine? other = ofLine? line := by
  have counts : ∀ mark, Text.isBlank mark = false →
      other.characters.count mark = line.characters.count mark := by
    intro mark visible
    rw [← Text.count_trim other.characters visible, ← Text.count_trim line.characters visible]
    exact congrArg (List.count mark) same
  have ranges : hasInvalidRange other.characters = hasInvalidRange line.characters := by
    rw [← hasInvalidRange_trim other.characters, ← hasInvalidRange_trim line.characters]
    exact congrArg hasInvalidRange same
  have kinds : isOn other = isOn line := by
    funext kind
    cases kind with
    | missingColon => rw [isOn, isOn, same]
    | invalidRange => exact ranges
    | unmatchedSingleQuote | unmatchedDoubleQuote =>
        rw [isOn, isOn, isUnmatched, isUnmatched, counts _ rfl]
    | missingClosingParen | missingOpeningParen | missingClosingBracket
    | missingOpeningBracket => rw [isOn, isOn, counts _ rfl, counts _ rfl]
  rw [ofLine?, ofLine?, kinds]

end Defect

end Offside
