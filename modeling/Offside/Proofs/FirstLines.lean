import Offside.Proofs.Comment
import Offside.Proofs.Joining
import Offside.Proofs.Numbering

/-!
# The first lines of a source

Lines are placed one after the other and blocks can always be closed, so what is wrong with a
source is found on the first line that cannot be placed: the lines before it are a program, and
what stands behind it does not matter (`BlockTree.ofSource_firstLines`).
-/

namespace Offside

namespace Source

/-- The first `count` lines of a source. -/
def firstLines (source : String) (count : Nat) : String :=
  String.ofList (ofPieces ((pieces source.toList).take count))

/-- The first lines of a source have the numbers they have there. -/
theorem lines_firstLines (source : String) {count : Nat} (nonzero : count ≠ 0) :
    lines (firstLines source count) = numbered 0 ((pieces source.toList).take count) := by
  rw [lines, firstLines, String.toList_ofList, pieces_ofPieces]
  · rfl
  · simpa [nonzero] using pieces_ne_nil source.toList
  · exact fun text member => not_mem_of_mem_pieces (List.mem_of_mem_take member)

/-- What a source says is what its first `count` lines say, which have no larger numbers, and then
what lines with larger numbers say. -/
theorem exists_codeLines_append (source : String) (count : Nat) :
    ∃ later, codeLines source = codeLines (firstLines source count) ++ later ∧
      (∀ line ∈ codeLines (firstLines source count), line.number ≤ count) ∧
      ∀ line ∈ later, count < line.number := by
  by_cases none : count = 0
  · subst none
    refine ⟨codeLines source, rfl, by simp [show codeLines (firstLines source 0) = [] from rfl], ?_⟩
    exact fun line member => (number_of_mem_numbered (List.mem_filter.mp member).1).1
  · have whole : lines source = lines (firstLines source count) ++
        numbered (0 + ((pieces source.toList).take count).length)
          ((pieces source.toList).drop count) := by
      rw [lines_firstLines source none, ← numbered_append, List.take_append_drop]
      rfl
    refine ⟨_, by rw [codeLines, whole, List.filter_append, ← codeLines], ?_, ?_⟩
    · intro line member
      have inside := (List.mem_filter.mp member).1
      rw [lines_firstLines source none] at inside
      have number := (number_of_mem_numbered inside).2
      rw [List.length_take] at number
      omega
    · intro line member
      obtain ⟨above, below⟩ := number_of_mem_numbered (List.mem_filter.mp member).1
      rw [List.length_take] at above below
      rw [List.length_drop] at below
      omega

end Source

namespace BlockTree

open Source

/-- What is wrong with a source is wrong with more lines behind it. -/
theorem ofSource_append_of_error {first : String} {error : OutlineError}
    (failed : ofSource first = .error error) (further : String) :
    ofSource (first ++ "\n" ++ further) = .error error := by
  rw [ofSource_eq_error_iff] at failed ⊢
  rw [codeLines_append, List.foldlM_append, failed]
  rfl

/-- Either the first lines of a source fail with its error, which is on one of them, or they are a
program and an error of the source is behind them. -/
theorem ofSource_firstLines_cases (source : String) (count : Nat) :
    (∃ error, error.line ≤ count ∧ ofSource (firstLines source count) = .error error ∧
      ofSource source = .error error) ∨
    (∃ tree, ofSource (firstLines source count) = .ok tree) ∧
      ∀ error, ofSource source = .error error → count < error.line := by
  obtain ⟨later, whole, upTo, behind⟩ := exists_codeLines_append source count
  have joinable : Outline.empty.Joinable := Outline.joinable_of_nil rfl
  -- the later lines are placed behind the first ones, and an error names the line that is at fault
  cases placed : (codeLines (firstLines source count)).foldlM Outline.place Outline.empty with
  | ok outline =>
      refine .inr ⟨exists_ofSource_iff.mpr ⟨outline, placed⟩, fun error failed => ?_⟩
      rw [ofSource_eq_error_iff, whole, List.foldlM_append, placed] at failed
      have fits := joinable.of_foldlM_place placed
      obtain ⟨line, member, same, -⟩ := fits.of_foldlM_place_error failed
      exact same ▸ behind line member
  | error error =>
      obtain ⟨line, member, same, -⟩ := joinable.of_foldlM_place_error placed
      refine .inl ⟨error, same ▸ upTo line member, ofSource_eq_error_iff.mpr placed, ?_⟩
      rw [ofSource_eq_error_iff, whole, List.foldlM_append, placed]
      rfl

/-- The error of a source is on one of its lines. -/
theorem line_of_ofSource_error {source : String} {error : OutlineError}
    (failed : ofSource source = .error error) :
    0 < error.line ∧ error.line ≤ (lines source).length := by
  have joinable : Outline.empty.Joinable := Outline.joinable_of_nil rfl
  obtain ⟨line, member, same, -⟩ :=
    joinable.of_foldlM_place_error (ofSource_eq_error_iff.mp failed)
  have bounds := number_of_mem_numbered (List.mem_filter.mp member).1
  simpa [same, lines] using bounds

/-- The first line at fault decides. If a source is a program, its first lines are one, however many
they are. If it is not, the error names a line: the lines before it are a program, those up to
it fail with the same error, and so do they with any lines behind. Closing blocks is never what
fails: wherever the lines can be placed, all blocks can be closed. -/
theorem ofSource_firstLines (source : String) :
    (match ofSource source with
    | .ok _ => ∀ count, ∃ tree, ofSource (firstLines source count) = .ok tree
    | .error error =>
        (0 < error.line ∧ error.line ≤ (lines source).length) ∧
        (∀ count < error.line, ∃ tree, ofSource (firstLines source count) = .ok tree) ∧
        ofSource (firstLines source error.line) = .error error ∧
        ∀ further, ofSource (firstLines source error.line ++ "\n" ++ further) = .error error) ∧
    ∀ count outline,
      (codeLines (firstLines source count)).foldlM Outline.place Outline.empty = .ok outline →
        ∀ indent, ∃ closed, outline.closeFrom indent = .ok closed := by
  constructor
  · cases result : ofSource source with
    | ok tree =>
        intro count
        rcases ofSource_firstLines_cases source count with ⟨error, -, -, fails⟩ | ⟨accepted, -⟩
        · cases result.symm.trans fails
        · exact accepted
    | error error =>
        have atFault : ofSource (firstLines source error.line) = .error error := by
          rcases ofSource_firstLines_cases source error.line with
            ⟨other, -, gives, same⟩ | ⟨-, behind⟩
          · cases result.symm.trans same
            exact gives
          · exact absurd (behind error result) (Nat.lt_irrefl _)
        refine ⟨line_of_ofSource_error result, fun count before => ?_, atFault,
          ofSource_append_of_error atFault⟩
        rcases ofSource_firstLines_cases source count with ⟨other, upTo, -, same⟩ | ⟨accepted, -⟩
        · cases result.symm.trans same
          exact absurd before (Nat.not_lt_of_le upTo)
        · exact accepted
  · intro count outline placed indent
    have joinable : Outline.empty.Joinable := Outline.joinable_of_nil rfl
    obtain ⟨closed, closes, -⟩ :=
      Outline.exists_closeFrom (joinable.of_foldlM_place placed) indent
    exact ⟨closed, closes⟩

/-- A second branch behind an `else` is at fault, not the unfinished line behind it, and the chain
before it is a program. -/
theorem ofSource_firstLines_elif :
    ofSource "if x:\n  pass\nelse:\n  pass\nelif y:\n  while" =
        .error ⟨5, .danglingBranch "elif"⟩ ∧
      (∃ tree, ofSource "if x:\n  pass\nelse:\n  pass" = .ok tree) ∧
      ofSource ("if x:\n  pass\nelse:\n  pass\nelif y:" ++ "\n" ++ "else:") =
        .error ⟨5, .danglingBranch "elif"⟩ := by
  have fails : ofSource "if x:\n  pass\nelse:\n  pass\nelif y:\n  while" =
      .error ⟨5, .danglingBranch "elif"⟩ := by cbv
  have four : firstLines "if x:\n  pass\nelse:\n  pass\nelif y:\n  while" 4 =
      "if x:\n  pass\nelse:\n  pass" := by decide +kernel
  have five : firstLines "if x:\n  pass\nelse:\n  pass\nelif y:\n  while" 5 =
      "if x:\n  pass\nelse:\n  pass\nelif y:" := by decide +kernel
  have decided := (ofSource_firstLines "if x:\n  pass\nelse:\n  pass\nelif y:\n  while").1
  rw [fails] at decided
  obtain ⟨-, accepted, -, further⟩ := decided
  exact ⟨fails, four ▸ accepted 4 (by decide), five ▸ further "else:"⟩

end BlockTree

end Offside
