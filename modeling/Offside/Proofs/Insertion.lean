import Mathlib.Data.List.InsertIdx
import Offside.Proofs.Numbering

/-!
# Lines that say nothing

A blank line or a comment can be inserted anywhere, whatever its indent and its content.
It ends no block and no chain and is no defect: the source runs as before, and an error
behind the line is reported one line further down (`execute_insertLine`).
-/

namespace Offside

/-- A line is skipped exactly when its first character that is no blank, if it has one, begins a
comment. -/
theorem SourceLine.isSkipped_iff {line : SourceLine} :
    line.isSkipped ↔ ∀ first ∈ (Text.trimStart line.characters).head?, first = '#' := by
  rw [isSkipped, trimmed, Text.trim]
  cases shape : Text.trimStart line.characters with
  | nil => simp [Text.trimEnd]
  | cons first later =>
      have visible : Text.isBlank first = false := by
        have head := List.head?_dropWhile_not Text.isBlank line.characters
        rw [← Text.trimStart, shape] at head
        simpa using head
      have kept : Text.trimEnd (first :: later) = first :: Text.trimEnd later :=
        Text.trimEnd_append_cons [] visible later
      simp [kept]

namespace Source

/-- The source with one more line behind the first `position` ones. -/
def insertLine (source : String) (position : Nat) (text : List Char) : String :=
  String.ofList (ofPieces ((pieces source.toList).insertIdx position text))

/-- The number of a line with one more line behind the first `position` ones. -/
def numberAfter (position number : Nat) : Nat :=
  if number ≤ position then number else number + 1

/-- The pieces of a source with one more line are those of the source and the line. -/
theorem pieces_insertLine (source : String) (position : Nat) {text : List Char}
    (oneLine : '\n' ∉ text) : pieces (insertLine source position text).toList =
      (pieces source.toList).insertIdx position text := by
  rw [insertLine, String.toList_ofList, pieces_ofPieces]
  · obtain ⟨first, later, shape⟩ := List.exists_cons_of_ne_nil (pieces_ne_nil source.toList)
    rw [shape]
    cases position <;> simp
  · intro piece member
    rcases List.mem_cons.mp (List.insertIdx_subset_cons position text _ member) with rfl | inside
    · exact oneLine
    · exact not_mem_of_mem_pieces inside

/-- A text that says nothing only changes the numbers of the lines that say something. -/
theorem numbered_insertIdx {text : List Char}
    (skipped : ∀ number, (⟨number, text⟩ : SourceLine).isSkipped) (before position : Nat)
    (texts : List (List Char)) :
    (numbered before (texts.insertIdx position text)).filter (!·.isSkipped) =
      ((numbered before texts).filter (!·.isSkipped)).map
        (·.renumber (numberAfter (before + position))) := by
  -- by the position: what stands before it keeps its number, and past the end nothing is inserted
  induction position generalizing before texts with
  | zero =>
      have here : (⟨before + 1, text⟩ : SourceLine).isSkipped := skipped (before + 1)
      rw [List.insertIdx_zero, numbered_cons, List.filter_cons_of_neg (by simpa using here),
        numbered_add, List.filter_map]
      refine List.map_congr_left fun line member => ?_
      have behind : ¬ line.number ≤ before :=
        Nat.not_le_of_lt (number_of_mem_numbered (List.mem_filter.mp member).1).1
      simp [SourceLine.renumber, numberAfter, behind]
  | succ position inductionHypothesis =>
      cases texts with
      | nil => rfl
      | cons first later =>
          have ahead : before + 1 ≤ before + (position + 1) := by omega
          have rest := inductionHypothesis (before + 1) later
          rw [Nat.add_right_comm, Nat.add_assoc] at rest
          rw [List.insertIdx_succ_cons, numbered_cons, numbered_cons, List.filter_cons,
            List.filter_cons]
          split
          · simp [rest, SourceLine.renumber, numberAfter, ahead]
          · exact rest

/-- In a source, too, a line that says nothing only changes the numbers of the lines that say
something. -/
theorem codeLines_insertLine (source : String) (position : Nat) {text : List Char}
    (oneLine : '\n' ∉ text) (silent : ∀ first ∈ (Text.trimStart text).head?, first = '#') :
    codeLines (insertLine source position text) =
      (codeLines source).map (·.renumber (numberAfter position)) := by
  have skipped : ∀ number, (⟨number, text⟩ : SourceLine).isSkipped := fun number =>
    SourceLine.isSkipped_iff.mpr silent
  have inserted := numbered_insertIdx skipped 0 position (pieces source.toList)
  rw [← pieces_insertLine source position oneLine, Nat.zero_add] at inserted
  exact inserted

end Source

/-- A line that says nothing can be inserted anywhere: the source is the same program and prints the
same, or it fails alike, one line further down if the line at fault is behind the new one. -/
theorem execute_insertLine (source : String) (position : Nat) {text : List Char}
    (oneLine : '\n' ∉ text) (silent : ∀ first ∈ (Text.trimStart text).head?, first = '#') :
    BlockTree.ofSource (Source.insertLine source position text) =
        (BlockTree.ofSource source).mapError (·.renumber (Source.numberAfter position)) ∧
      ∀ limits, execute (Source.insertLine source position text) limits =
        (execute source limits).map
          (·.mapError (·.renumber (Source.numberAfter position))) := by
  have matched := Matching.matched_map (Source.numberAfter position) ⟨[], 0, 0⟩
    (Source.codeLines source)
  rw [← Source.codeLines_insertLine source position oneLine silent] at matched
  exact ⟨Matching.ofSource_eq matched rfl, Matching.execute_eq matched rfl⟩

/-- A comment in the first column, with a quote and a bracket that nothing closes, moves an error in
the branch behind it, and the branch stays one of the chain before it. -/
theorem execute_insertLine_comment :
    Source.insertLine "if True:\n  pass\nelse:\n  x = 1 +" 2 "# it's (".toList =
        "if True:\n  pass\n# it's (\nelse:\n  x = 1 +" ∧
      execute "if True:\n  pass\n# it's (\nelse:\n  x = 1 +" {} =
        some (.error (.outline ⟨5, .parse (.unexpected "expression" .lineEnd 7)⟩)) := by
  have inserted : Source.insertLine "if True:\n  pass\nelse:\n  x = 1 +" 2 "# it's (".toList =
      "if True:\n  pass\n# it's (\nelse:\n  x = 1 +" := by decide +kernel
  have silent : ∀ first ∈ (Text.trimStart "# it's (".toList).head?, first = '#' := by
    rintro _ ⟨⟩
    rfl
  have runs := (execute_insertLine "if True:\n  pass\nelse:\n  x = 1 +" 2 (by decide) silent).2 {}
  rw [inserted] at runs
  exact ⟨inserted, runs.trans (by cbv)⟩

end Offside
