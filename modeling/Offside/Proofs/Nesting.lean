import Mathlib
import Offside.Proofs.Closing

/-!
# Indentation places every line

A header encloses the lines below it as long as they stand further right than
the header does. `BlockTree.reading_ofSource` says that a program read back in
preorder gives the lines of its source, each in the blocks of exactly the headers
that enclose it. The invariant is `Outline.Holds`: after some lines have been
placed, the open blocks are those of the headers that enclose all lines after
them.
-/

namespace Offside

namespace SourceLine

/-- Whether a line is the header of a block. -/
def isHeader (line : SourceLine) : Bool :=
  match line.parsed with
  | .ok said => said.isHeader
  | .error _ => false

/-- Whether a line is a header that encloses all of the lines that follow it. -/
def encloses (header : SourceLine) (following : List SourceLine) : Bool :=
  header.isHeader && following.all fun line => header.indent < line.indent

/-- The number of headers among the lines `earlier` that enclose `line`, which follows them. -/
def enclosers (line : SourceLine) : List SourceLine → Nat
  | [] => 0
  | header :: between =>
      (if header.encloses (between ++ [line]) then 1 else 0) + line.enclosers between

/-- A header encloses one more line if it stands to its left. -/
theorem encloses_append (header : SourceLine) (following : List SourceLine) (line : SourceLine) :
    header.encloses (following ++ [line]) =
      (header.encloses following && decide (header.indent < line.indent)) := by
  simp [encloses, Bool.and_assoc]

/-- The headers that enclose all lines after them, in their order. -/
def openHeaders : List SourceLine → List SourceLine
  | [] => []
  | header :: later =>
      if header.encloses later then header :: openHeaders later else openHeaders later

/-- The open headers are among the lines. -/
theorem mem_of_mem_openHeaders {lines : List SourceLine} {line : SourceLine}
    (member : line ∈ openHeaders lines) : line ∈ lines := by
  induction lines with
  | nil => cases member
  | cons header later inductionHypothesis =>
      simp only [openHeaders] at member
      split at member
      · rcases List.mem_cons.mp member with rfl | further
        · exact List.mem_cons_self
        · exact List.mem_cons_of_mem header (inductionHypothesis further)
      · exact List.mem_cons_of_mem header (inductionHypothesis member)

/-- A line behind others leaves those of their open headers open that stand to its left. -/
theorem openHeaders_append (lines : List SourceLine) (line : SourceLine) :
    openHeaders (lines ++ [line]) =
      (openHeaders lines).filter (·.indent < line.indent) ++
        (if line.isHeader then [line] else []) := by
  induction lines with
  | nil => simp [openHeaders, encloses]
  | cons header later inductionHypothesis =>
      simp only [List.cons_append, openHeaders, inductionHypothesis, encloses_append]
      by_cases wraps : header.encloses later <;> by_cases left : header.indent < line.indent <;>
        simp [wraps, left]

/-- The indents of the headers that enclose all lines after them, in their order. -/
def openIndents : List SourceLine → List Nat
  | [] => []
  | header :: later =>
      if header.encloses later then header.indent :: openIndents later else openIndents later

/-- The open indents are those of the open headers. -/
theorem openIndents_eq_map (lines : List SourceLine) :
    openIndents lines = (openHeaders lines).map (·.indent) := by
  induction lines with
  | nil => rfl
  | cons header later inductionHypothesis =>
      simp only [openIndents, openHeaders, inductionHypothesis]
      split <;> rfl

/-- Headers that enclose all lines after them stand further right the later they come. -/
theorem pairwise_openIndents (lines : List SourceLine) :
    (openIndents lines).Pairwise (· < ·) := by
  induction lines with
  | nil => exact .nil
  | cons header later inductionHypothesis =>
      simp only [openIndents]
      split
      · next encloses =>
          refine .cons (fun indent member => ?_) inductionHypothesis
          rw [openIndents_eq_map] at member
          obtain ⟨line, isOpen, rfl⟩ := List.mem_map.mp member
          have further := (Bool.and_eq_true_iff.mp encloses).2
          exact of_decide_eq_true (List.all_eq_true.mp further line (mem_of_mem_openHeaders isOpen))
      · exact inductionHypothesis

/-- A line behind others leaves those of their open indents open that are less than its own. -/
theorem openIndents_append (lines : List SourceLine) (line : SourceLine) :
    openIndents (lines ++ [line]) =
      (openIndents lines).filter (· < line.indent) ++
        (if line.isHeader then [line.indent] else []) := by
  simp only [openIndents_eq_map, openHeaders_append, List.map_append, List.filter_map]
  congr 1
  split <;> rfl

/-- The headers that enclose a line are the open ones that stand to its left. -/
theorem enclosers_eq_length (line : SourceLine) (earlier : List SourceLine) :
    line.enclosers earlier = ((openIndents earlier).filter (· < line.indent)).length := by
  induction earlier with
  | nil => rfl
  | cons header between inductionHypothesis =>
      simp only [enclosers, openIndents, inductionHypothesis, encloses_append]
      by_cases wraps : header.encloses between <;> by_cases left : header.indent < line.indent <;>
        simp [wraps, left, Nat.add_comm]

/-- What the lines of a source say, each with the number of headers that enclose it. -/
def placements (lines : List SourceLine) : List (Except ParseError Line × Nat) :=
  lines.zipIdx.map fun (line, before) => (line.parsed, line.enclosers (lines.take before))

/-- The placement of a line depends on the lines before it and on no other. -/
theorem placements_append (lines : List SourceLine) (line : SourceLine) :
    placements (lines ++ [line]) = placements lines ++ [(line.parsed, line.enclosers lines)] := by
  simp only [placements, List.zipIdx_append, List.map_append, List.zipIdx_cons, List.zipIdx_nil,
    List.map_cons, List.map_nil, Nat.zero_add, List.take_left]
  congr 1
  apply List.map_congr_left
  rintro ⟨other, before⟩ member
  have bound : before ≤ lines.length :=
    Nat.le_of_lt (by simpa using (List.mem_zipIdx member).2.1)
  rw [List.take_append_of_le_length bound]

end SourceLine

/-- In a descending list, all that lies below a bound comes last. -/
theorem dropWhile_eq_filter_of_descending {indents : List Nat} (bound : Nat)
    (descending : indents.Pairwise (· > ·)) :
    indents.dropWhile (bound ≤ ·) = indents.filter (· < bound) := by
  induction descending with
  | nil => rfl
  | @cons first later below _ inductionHypothesis =>
      by_cases outside : bound ≤ first
      · simp [outside, Nat.not_lt.mpr outside, inductionHypothesis]
      · have kept : ∀ indent ∈ first :: later, indent < bound := by
          intro indent member
          rcases List.mem_cons.mp member with rfl | further
          · omega
          · have less := below indent further
            omega
        rw [List.filter_eq_self.mpr (by simpa using kept)]
        simp [outside]

namespace Outline

open SourceLine

/-- What holds of an outline when some lines have been placed. -/
structure Holds (outline : Outline) (lines : List SourceLine) : Prop where
  reading : outline.reading.map (Prod.map Except.ok id) = placements lines
  branches : outline.HasBranches
  indents : outline.indents = (openIndents lines).reverse
  opened : outline.opened = lines.countP isHeader
  balance : outline.closed + outline.blocks.length = lines.countP isHeader

/-- Before any line there is nothing to hold. -/
theorem holds_empty : Holds empty [] where
  reading := rfl
  branches := ⟨fun _ absent => by simp [empty] at absent, by simp [empty]⟩
  indents := rfl
  opened := rfl
  balance := rfl

/-- The open blocks that stand to the left of a further line are those that enclose it. -/
theorem Holds.indentsLeftOf {outline : Outline} {lines : List SourceLine}
    (holds : outline.Holds lines) (indent : Nat) :
    outline.indentsLeftOf indent = ((openIndents lines).filter (· < indent)).reverse := by
  have descending : (openIndents lines).reverse.Pairwise (· > ·) :=
    List.pairwise_reverse.mpr (pairwise_openIndents lines)
  rw [Outline.indentsLeftOf, holds.indents, dropWhile_eq_filter_of_descending indent descending,
    List.filter_reverse]

/-- Placing one more line keeps the invariant. -/
theorem Holds.of_place {outline after : Outline} {lines : List SourceLine} {line : SourceLine}
    (holds : outline.Holds lines) (placed : outline.place line = .ok after) :
    after.Holds (lines ++ [line]) := by
  obtain ⟨said, parsed, places⟩ := place_spec holds.branches placed
  have header : line.isHeader = said.isHeader := by rw [isHeader, parsed]
  have left := holds.indentsLeftOf line.indent
  have counted : (lines ++ [line]).countP isHeader =
      lines.countP isHeader + (if said.isHeader then 1 else 0) := by
    simp [List.countP_cons, header]
  exact {
    reading := by
      rw [places.reading, left, List.map_append, holds.reading, placements_append,
        enclosers_eq_length, parsed]
      simp
    branches := places.branches
    indents := by
      rw [places.indents, left, openIndents_append, header]
      by_cases opens : said.isHeader <;> simp [opens]
    opened := by rw [places.opened, holds.opened, counted]
    balance := by rw [places.balance, holds.balance, counted] }

/-- Placing lines one after the other keeps the invariant. -/
theorem Holds.of_foldlM_place {outline after : Outline} {lines more : List SourceLine}
    (holds : outline.Holds lines) (placed : more.foldlM place outline = .ok after) :
    after.Holds (lines ++ more) :=
  foldlM_place_induction (motive := fun lines outline => outline.Holds lines)
    (fun holds placed => holds.of_place placed) lines holds placed

/-- At the end all blocks are closed, and the lines are those that were placed. -/
theorem ofLines_spec {lines : List SourceLine} {outline : Outline}
    (made : ofLines lines = .ok outline) :
    (Program.reading outline.root.reverse).map (Prod.map Except.ok id) = placements lines ∧
      outline.opened = lines.countP isHeader ∧ outline.closed = lines.countP isHeader := by
  obtain ⟨placed, places, closes⟩ := bind_eq_ok_iff.mp made
  have holds : placed.Holds lines := by simpa using holds_empty.of_foldlM_place places
  have closing := closeFrom_spec holds.branches closes
  have none_left : outline.blocks = [] := by
    have indents : outline.indents = [] := by
      rw [closing.indents]
      exact List.dropWhile_eq_nil_iff.mpr (by simp)
    exact List.map_eq_nil_iff.mp indents
  refine ⟨?_, ?_, ?_⟩
  · have whole := holds.reading
    rw [← closing.reading, Outline.reading, none_left] at whole
    simpa [blocksReading, Program.reading] using whole
  · rw [closing.opened, holds.opened]
  · have counts := closing.balance
    rw [holds.balance, none_left] at counts
    simpa using counts

end Outline

/-- Translation places every line by its indentation and loses, repeats or reorders none: the
program of a source, read back in preorder, consists of what the lines of the source say, each
inside as many blocks as there are headers that enclose the line. Every header opens one block,
and every block is closed. -/
theorem BlockTree.reading_ofSource {source : String} {tree : BlockTree}
    (accepted : BlockTree.ofSource source = .ok tree) :
    (tree.program.reading).map (Prod.map Except.ok id) =
        SourceLine.placements (Source.codeLines source) ∧
      tree.opened = (Source.codeLines source).countP SourceLine.isHeader ∧
      tree.closed = (Source.codeLines source).countP SourceLine.isHeader := by
  obtain ⟨outline, made, result⟩ := bind_eq_ok_iff.mp accepted
  cases result
  exact Outline.ofLines_spec made

/-- A source with a body that is not aligned, a body without lines and blocks that end where the
source does. -/
def raggedSource : String :=
  "if a:\n    b\n      c\nelif d:\n  for e in f:\nelse:\n   while g:\n      break"

/-- The program of the ragged source has the lines of that source in five blocks. -/
theorem BlockTree.reading_raggedSource :
    ∃ tree, BlockTree.ofSource raggedSource = .ok tree ∧
      tree.program.reading.map (Prod.map Except.ok id) =
        SourceLine.placements (Source.codeLines raggedSource) ∧
      tree.opened = (Source.codeLines raggedSource).countP SourceLine.isHeader ∧
      tree.closed = (Source.codeLines raggedSource).countP SourceLine.isHeader := by
  have accepted : BlockTree.ofSource raggedSource = .ok {
      program := [.conditional
        (.branch (.name "a") [.expression (.name "b"), .expression (.name "c")]
          (.branch (.name "d") [.forEach "e" (.name "f") []]
            (.otherwise [.whileLoop (.name "g") [.stop]])))]
      opened := 5
      closed := 5 } := by cbv
  exact ⟨_, accepted, BlockTree.reading_ofSource accepted⟩

end Offside
