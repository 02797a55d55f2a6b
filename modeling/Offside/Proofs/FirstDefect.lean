import Mathlib.Algebra.Group.Nat.Even
import Offside.Proofs.Defects
import Offside.Proofs.Numbering

/-!
# The first defect

What is wrong with a line can be said without looking for it: how the line begins and ends,
how often a character occurs, how it can be taken apart (`DefectKind.Applies`). The search finds
the first line with a defect, counting every line, and on it the kind of defect that goes before
all others that apply there (`Defect.IsFirst`). Behind another source a defect is found
on the same line further down, if that source has none itself.
-/

namespace Offside

namespace DefectKind

/-- The place of a kind in the order of precedence. -/
def priority : DefectKind → Nat
  | missingColon => 1
  | missingClosingParen | missingOpeningParen => 2
  | missingClosingBracket | missingOpeningBracket => 3
  | unmatchedSingleQuote => 4
  | unmatchedDoubleQuote => 5
  | invalidRange => 6

/-- Whether a line has a defect of some kind. -/
def Applies (line : SourceLine) : DefectKind → Prop
  | missingColon =>
      (∃ word ∈ Defect.blockWords, ∃ blank rest,
        Text.isBlank blank ∧ line.trimmed = word.toList ++ blank :: rest) ∧
      ¬ [':'] <:+ line.trimmed
  | missingClosingParen => line.characters.count ')' < line.characters.count '('
  | missingOpeningParen => line.characters.count '(' < line.characters.count ')'
  | missingClosingBracket => line.characters.count ']' < line.characters.count '['
  | missingOpeningBracket => line.characters.count '[' < line.characters.count ']'
  | unmatchedSingleQuote => Odd (line.characters.count '\'')
  | unmatchedDoubleQuote => Odd (line.characters.count '"')
  | invalidRange =>
      ∃ before inside after,
        line.characters = before ++ "range(".toList ++ inside ++ ':' :: after ∧ ')' ∉ inside ∧
        ¬ ∃ blanks rest, (∀ character ∈ blanks, Text.isBlank character) ∧
          after = blanks ++ ')' :: rest

/-- Kinds are looked for in the order of precedence. -/
theorem all_pairwise : all.Pairwise (·.priority ≤ ·.priority) := by
  decide

/-- Of the kinds that share a place in the order, at most one applies to a line. -/
theorem Applies.unique {line : SourceLine} {kind other : DefectKind} (applies : kind.Applies line)
    (otherApplies : other.Applies line) (same : kind.priority = other.priority) : kind = other := by
  -- Only missing brackets share a place, and there one count is less than the other.
  cases kind <;> cases other <;> first | rfl | cases same
  case missingClosingParen.missingOpeningParen | missingOpeningParen.missingClosingParen
      | missingClosingBracket.missingOpeningBracket
      | missingOpeningBracket.missingClosingBracket =>
    exact absurd applies (Nat.lt_asymm otherApplies)

end DefectKind

/-- What comes next behind blanks is a character exactly when the text is blanks and then that
character. -/
theorem Text.head?_trimStart_eq_some_iff {text : List Char} {character : Char}
    (shown : Text.isBlank character = false) :
    (Text.trimStart text).head? = some character ↔ ∃ blanks rest,
      (∀ blank ∈ blanks, Text.isBlank blank) ∧ text = blanks ++ character :: rest := by
  constructor
  · intro next
    obtain ⟨rest, behind⟩ := List.head?_eq_some_iff.mp next
    refine ⟨text.takeWhile Text.isBlank, rest, fun blank member => ?_, ?_⟩
    · exact List.mem_takeWhile_imp member
    · rw [← behind, Text.trimStart, List.takeWhile_append_dropWhile]
  · rintro ⟨blanks, rest, blank, rfl⟩
    rw [Text.trimStart_append_of_blank blank, Text.trimStart,
      List.dropWhile_cons_of_neg (by simp [shown]), List.head?_cons]

namespace Defect

/-- A text begins like a block when a word for that and a blank stand at its front. -/
theorem opensBlock_iff {text : List Char} :
    opensBlock text ↔ ∃ word ∈ blockWords, ∃ blank rest,
      Text.isBlank blank ∧ text = word.toList ++ blank :: rest := by
  rw [opensBlock, List.any_eq_true]
  refine exists_congr fun word => and_congr_right fun _ => ?_
  rw [Bool.and_eq_true, List.isPrefixOf_iff_prefix]
  constructor
  · rintro ⟨⟨behind, rfl⟩, next⟩
    rw [List.drop_left] at next
    cases behind with
    | nil => cases next
    | cons blank rest => exact ⟨blank, rest, next, rfl⟩
  · rintro ⟨blank, rest, isBlank, rfl⟩
    rw [List.drop_left]
    exact ⟨List.prefix_append _ _, isBlank⟩

/-- The search for a kind finds it where it applies. -/
theorem isOn_iff {line : SourceLine} {kind : DefectKind} : isOn line kind ↔ kind.Applies line := by
  cases kind with
  | missingColon =>
      rw [isOn, Bool.and_eq_true, opensBlock_iff, bne_iff_ne, ne_eq, List.getLast?_eq_some_iff]
      exact and_congr_right fun _ => not_congr (exists_congr fun _ => eq_comm)
  | missingClosingParen | missingOpeningParen | missingClosingBracket | missingOpeningBracket =>
      exact decide_eq_true_iff
  | unmatchedSingleQuote | unmatchedDoubleQuote => exact beq_iff_eq.trans Nat.odd_iff.symm
  | invalidRange =>
      rw [isOn, hasInvalidRange_iff]
      constructor
      · rintro ⟨before, rest, shape, loose⟩
        obtain ⟨inside, after, rfl, absent, next⟩ := hasLooseColon_iff.mp loose
        rw [ne_eq, Text.head?_trimStart_eq_some_iff rfl] at next
        exact ⟨before, inside, after, by rw [shape, List.append_assoc _ inside], absent, next⟩
      · rintro ⟨before, inside, after, shape, absent, next⟩
        rw [← Text.head?_trimStart_eq_some_iff rfl] at next
        exact ⟨before, inside ++ ':' :: after, by rw [shape, List.append_assoc],
          hasLooseColon_iff.mpr ⟨inside, after, rfl, absent, next⟩⟩

/-- A line has no defect when no kind applies to it. -/
theorem ofLine?_eq_none_iff_forall {line : SourceLine} :
    ofLine? line = none ↔ ∀ kind : DefectKind, ¬ kind.Applies line := by
  rw [ofLine?_eq_none_iff]
  exact forall_congr' fun kind => by rw [← isOn_iff, Bool.not_eq_true]

/-- The first defect of a line applies to it and goes before all others that do. -/
theorem ofLine?_eq_some {line : SourceLine} {kind : DefectKind} (found : ofLine? line = some kind) :
    kind.Applies line ∧
      ∀ other : DefectKind, other.Applies line → kind.priority ≤ other.priority := by
  obtain ⟨isOnLine, before, after, shape, notBefore⟩ := List.find?_eq_some_iff_append.mp found
  refine ⟨isOn_iff.mp isOnLine, fun other applies => ?_⟩
  have ordered := DefectKind.all_pairwise
  have member := other.mem_all
  rw [shape] at ordered member
  rcases List.mem_append.mp member with earlier | behind
  · have absent := notBefore other earlier
    rw [isOn_iff.mpr applies] at absent
    cases absent
  · rcases List.mem_cons.mp behind with rfl | later
    · exact Nat.le_refl _
    · exact (List.pairwise_cons.mp (List.pairwise_append.mp ordered).2.1).1 other later

/-- Whether a defect is the first one of a source, on some line: that line says something and has
the defect, no kind of defect that goes before is on that line, and none at all is on an earlier
line that says something. -/
structure IsFirst (source : String) (defect : Defect) (line : SourceLine) : Prop where
  /-- The line has the number of the defect when all lines are counted from one. -/
  stands : 0 < defect.line ∧ (Source.lines source)[defect.line - 1]? = some line
  /-- The line says something. -/
  code : line.isSkipped = false
  /-- The defect is on the line. -/
  applies : defect.kind.Applies line
  /-- No kind of defect that goes before this one is on the line. -/
  precedes : ∀ kind : DefectKind, kind.Applies line → defect.kind.priority ≤ kind.priority
  /-- Earlier lines have no defect unless they are skipped. -/
  earliest : ∀ (index : Nat) (earlier : SourceLine), (Source.lines source)[index]? = some earlier →
    index + 1 < defect.line → earlier.isSkipped = false →
      ∀ kind : DefectKind, ¬ kind.Applies earlier

/-- There is one first defect at most. -/
theorem IsFirst.unique {source : String} {defect other : Defect} {line otherLine : SourceLine}
    (isFirst : IsFirst source defect line) (otherFirst : IsFirst source other otherLine) :
    defect = other := by
  have noEarlier : ∀ {first second : Defect} {firstLine secondLine : SourceLine},
      IsFirst source first firstLine → IsFirst source second secondLine →
        ¬ second.line < first.line := by
    intro first second firstLine secondLine firstIs secondIs less
    have positive := secondIs.stands.1
    exact firstIs.earliest _ _ secondIs.stands.2 (by omega) secondIs.code _ secondIs.applies
  have sameLine : defect.line = other.line :=
    Nat.le_antisymm (Nat.le_of_not_lt (noEarlier isFirst otherFirst))
      (Nat.le_of_not_lt (noEarlier otherFirst isFirst))
  have found := otherFirst.stands.2
  rw [← sameLine, isFirst.stands.2] at found
  cases found
  have samePlace : defect.kind.priority = other.kind.priority :=
    Nat.le_antisymm (isFirst.precedes _ otherFirst.applies) (otherFirst.precedes _ isFirst.applies)
  have sameKind := isFirst.applies.unique otherFirst.applies samePlace
  calc defect = ⟨defect.line, defect.kind⟩ := rfl
    _ = ⟨other.line, other.kind⟩ := by rw [sameLine, sameKind]

/-- There is no defect where no line that says something has one. -/
theorem first?_eq_none_iff {source : String} :
    first? source = none ↔ ∀ line ∈ Source.lines source, line.isSkipped = false →
      ∀ kind : DefectKind, ¬ kind.Applies line := by
  rw [first?, List.findSome?_eq_none_iff]
  simp only [Option.map_eq_none_iff, ofLine?_eq_none_iff_forall, Source.codeLines, List.mem_filter,
    Bool.not_eq_true', and_imp]

/-- What the search finds is the first defect. -/
theorem exists_isFirst {source : String} {defect : Defect} (found : first? source = some defect) :
    ∃ line, IsFirst source defect line := by
  obtain ⟨before, line, after, shape, gives, notBefore⟩ := List.findSome?_eq_some_iff.mp found
  obtain ⟨kind, onLine, rfl⟩ := Option.map_eq_some_iff.mp gives
  have member : line ∈ Source.codeLines source := by simp [shape]
  obtain ⟨inside, code⟩ := List.mem_filter.mp member
  obtain ⟨index, shown⟩ := List.getElem?_of_mem inside
  have number := Source.number_of_getElem? shown
  obtain ⟨applies, precedes⟩ := ofLine?_eq_some onLine
  refine ⟨line, ⟨by simp [number], by simpa [number] using shown⟩, by simpa using code, applies,
    precedes, fun other earlier found less saysSomething => ?_⟩
  have ordered := Source.codeLines_pairwise source
  have earlierMember := Source.mem_codeLines found saysSomething
  have earlierNumber := Source.number_of_getElem? found
  rw [shape] at ordered earlierMember
  dsimp only at less
  rcases List.mem_append.mp earlierMember with ahead | behind
  · exact ofLine?_eq_none_iff_forall.mp (Option.map_eq_none_iff.mp (notBefore earlier ahead))
  · rcases List.mem_cons.mp behind with rfl | later
    · omega
    · have further := (List.pairwise_cons.mp (List.pairwise_append.mp ordered).2.1).1 earlier later
      omega

/-- The search finds a defect exactly when it is the first one. -/
theorem first?_eq_some_iff {source : String} {defect : Defect} :
    first? source = some defect ↔ ∃ line, IsFirst source defect line := by
  refine ⟨exists_isFirst, ?_⟩
  rintro ⟨line, isFirst⟩
  cases found : first? source with
  | none =>
      have member := List.mem_of_getElem? isFirst.stands.2
      exact absurd isFirst.applies (first?_eq_none_iff.mp found line member isFirst.code _)
  | some other =>
      obtain ⟨otherLine, otherFirst⟩ := exists_isFirst found
      rw [otherFirst.unique isFirst]

/-- A defect with the number that its line has behind `lines` further ones. -/
def behind (lines : Nat) (defect : Defect) : Defect :=
  { defect with line := defect.line + lines }

/-- The first defect of two sources with a newline between them is that of the first one, or else
that of the second one further down. -/
theorem first?_append (first second : String) :
    first? (first ++ "\n" ++ second) =
      (first? first).or ((first? second).map (·.behind (Source.lines first).length)) := by
  rw [first?, Source.codeLines_append, List.findSome?_append, List.findSome?_map, ← first?]
  congr 1
  rw [first?, List.map_findSome?]
  congr 1
  funext line
  simp only [Function.comp, Option.map_map]
  rfl

/-- The search finds nothing exactly when no line that says something has a defect, and otherwise
the defect of the first such line that goes before the others there. It can be made in one part of a
source after the other. -/
theorem first?_isFirst :
    (∀ source, first? source = none ↔ ∀ line ∈ Source.lines source, line.isSkipped = false →
      ∀ kind : DefectKind, ¬ kind.Applies line) ∧
    (∀ source defect, first? source = some defect ↔ ∃ line, IsFirst source defect line) ∧
    ∀ first second, first? (first ++ "\n" ++ second) =
      (first? first).or ((first? second).map (·.behind (Source.lines first).length)) :=
  ⟨fun _ => first?_eq_none_iff, fun _ _ => first?_eq_some_iff, first?_append⟩

/-- A comment counts as a line, and a missing colon goes before an unclosed bracket. -/
example : first? "# (\nif items[0:" = some ⟨2, .missingClosingBracket⟩ ∧
    first? "# (\nif items[0" = some ⟨2, .missingColon⟩ := by
  refine ⟨?_, ?_⟩ <;> cbv

end Defect

end Offside
