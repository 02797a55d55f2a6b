import Offside.Outline
import Offside.Proofs.Outcome

/-!
# Closing blocks never fails

A branch that goes on with a conditional statement is opened only behind one that
awaits it, and until the branch is closed nothing else is added there. So every
open block fits into the body around it (`Outline.Joinable`), all blocks can be
closed at any time, and a line that cannot be placed is itself at fault. What a source
fails with is what placing its lines fails with (`BlockTree.ofSource_eq_error_iff`).
-/

namespace Offside

namespace OpenBlock

/-- Whether a block can become part of the body around it, whose latest statement is first: the
later branches of a conditional statement need one that has room for them. -/
def Fits (block : OpenBlock) (around : List Statement) : Prop :=
  block.header.isContinuation →
    ∃ chain earlier, around = .conditional chain :: earlier ∧ chain.isOpen

/-- A chain with room for a further branch is extended by it. -/
theorem exists_extendChain {block : OpenBlock} {around : List Statement} (rest : Chain)
    (room : ∃ chain earlier, around = .conditional chain :: earlier ∧ chain.isOpen) :
    ∃ body, block.extendChain rest around = .ok body := by
  obtain ⟨chain, earlier, rfl, isOpen⟩ := room
  rw [← Chain.isSome_extend? chain rest] at isOpen
  obtain ⟨longer, found⟩ := Option.isSome_iff_exists.mp isOpen
  exact ⟨.conditional longer :: earlier, by simp only [extendChain, found]⟩

/-- A block that fits is joined to the body around it. -/
theorem exists_joinTo {block : OpenBlock} {around : List Statement} (fits : block.Fits around) :
    ∃ body, block.joinTo around = .ok body := by
  unfold joinTo
  unfold Fits at fits
  cases shape : block.header with
  | forEach target iterable => exact ⟨_, rfl⟩
  | whileLoop condition => exact ⟨_, rfl⟩
  | branch condition => exact ⟨_, rfl⟩
  | elseBranch condition => exact exists_extendChain _ (fits (by rw [shape]; rfl))
  | otherwise => exact exists_extendChain _ (fits (by rw [shape]; rfl))

end OpenBlock

namespace Outline

/-- Whether every open block fits into the body around it. -/
def Joinable (outline : Outline) : Prop :=
  ∀ block outer, block :: outer <:+ outline.blocks →
    block.Fits { outline with blocks := outer }.body

/-- Without open blocks there is nothing to fit. -/
theorem joinable_of_nil {outline : Outline} (noBlocks : outline.blocks = []) :
    outline.Joinable := by
  intro block outer isSuffix
  rw [noBlocks] at isSuffix
  exact absurd (List.suffix_nil.mp isSuffix) (List.cons_ne_nil block outer)

variable {outline after : Outline} {block : OpenBlock} {outer : List OpenBlock} {indent : Nat}

/-- The blocks around a block fit as before. -/
theorem Joinable.enclosing (joinable : outline.Joinable) (isSuffix : outer <:+ outline.blocks) :
    Joinable { outline with blocks := outer } :=
  fun block further inside => joinable block further (inside.trans isSuffix)

/-- One more block that fits can be opened. -/
theorem Joinable.cons (joinable : outline.Joinable) (fits : block.Fits outline.body)
    (opened : Nat) :
    Joinable { outline with blocks := block :: outline.blocks, opened := opened } := by
  intro other outer isSuffix
  rcases List.suffix_cons_iff.mp isSuffix with same | further
  · obtain ⟨rfl, rfl⟩ := List.cons_eq_cons.mp same
    exact fits
  · exact joinable other outer further

/-- Changing the innermost body does not change whether the open blocks fit. -/
theorem Joinable.withBody (joinable : outline.Joinable) (body : List Statement) :
    (outline.withBody body).Joinable := by
  obtain ⟨root, blocks, opened, closed⟩ := outline
  cases blocks with
  | nil => exact joinable_of_nil rfl
  | cons block outer =>
      have fits : { block with body }.Fits _ := joinable block outer (List.suffix_refl _)
      exact (joinable.enclosing (List.suffix_cons block outer)).cons fits opened

/-- Blocks that fit can be closed, innermost first, and those that stay open still fit. -/
theorem exists_closeBlock (joinable : Joinable { outline with blocks := block :: outer }) :
    ∃ after, closeBlock indent outline block outer = .ok after ∧ after.Joinable := by
  induction outer generalizing outline block with
  | nil =>
      unfold closeBlock
      obtain ⟨root, joined⟩ := OpenBlock.exists_joinTo (joinable block [] (List.suffix_refl _))
      have joined : block.joinTo outline.root = .ok root := joined
      split
      · exact ⟨_, by rw [joined]; rfl, joinable_of_nil rfl⟩
      · exact ⟨_, rfl, joinable⟩
  | cons around outer inductionHypothesis =>
      unfold closeBlock
      obtain ⟨body, joined⟩ :=
        OpenBlock.exists_joinTo (joinable block (around :: outer) (List.suffix_refl _))
      have joined : block.joinTo around.body = .ok body := joined
      split
      · rw [joined]
        refine inductionHypothesis ?_
        have inner := joinable.enclosing (List.suffix_cons block (around :: outer))
        exact inner.withBody body
      · exact ⟨_, rfl, joinable⟩

/-- Blocks that fit can be closed as far as a line asks for it. -/
theorem exists_closeFrom (joinable : outline.Joinable) (indent : Nat) :
    ∃ after, outline.closeFrom indent = .ok after ∧ after.Joinable := by
  obtain ⟨root, blocks, opened, closed⟩ := outline
  cases blocks with
  | nil => exact ⟨_, rfl, joinable⟩
  | cons block outer => exact exists_closeBlock joinable

/-- A body that awaits a branch has room for it. -/
theorem exists_of_awaitsBranch (awaits : outline.awaitsBranch) :
    ∃ chain earlier, outline.body = .conditional chain :: earlier ∧ chain.isOpen := by
  unfold awaitsBranch at awaits
  split at awaits
  · next chain earlier shape => exact ⟨chain, earlier, shape, awaits⟩
  · cases awaits

/-- A header opens a block that fits, or its line is at fault. -/
theorem openBlock_cases (joinable : outline.Joinable) (line : SourceLine) (header : Header) :
    (∃ after, outline.openBlock line header = .ok after ∧ after.Joinable) ∨
      ∃ error, outline.openBlock line header = .error error ∧ error.line = line.number := by
  unfold openBlock
  split
  · exact .inr ⟨_, rfl, rfl⟩
  · next branches =>
      split
      · exact .inr ⟨_, rfl, rfl⟩
      · refine .inl ⟨_, rfl, joinable.cons (fun isContinuation => ?_) _⟩
        have isContinuation : header.isContinuation := isContinuation
        exact exists_of_awaitsBranch (by simpa [isContinuation] using branches)

/-- A statement is added, or its line is at fault. -/
theorem addStatement_cases (joinable : outline.Joinable) (line : SourceLine)
    (statement : Statement) :
    (∃ after, outline.addStatement line statement = .ok after ∧ after.Joinable) ∨
      ∃ error, outline.addStatement line statement = .error error ∧ error.line = line.number := by
  unfold addStatement
  split
  · split
    · exact .inl ⟨_, rfl, joinable.withBody _⟩
    · exact .inr ⟨_, rfl, rfl⟩
  · exact .inl ⟨_, rfl, joinable.withBody _⟩

/-- A line is placed and leaves blocks that fit, or it is itself at fault. -/
theorem place_cases (joinable : outline.Joinable) (line : SourceLine) :
    (∃ after, outline.place line = .ok after ∧ after.Joinable) ∨
      ∃ error, outline.place line = .error error ∧ error.line = line.number := by
  obtain ⟨closed, closes, closedJoinable⟩ := exists_closeFrom joinable line.indent
  unfold place
  rw [closes]
  dsimp only [bind, Except.bind]
  split
  · exact openBlock_cases closedJoinable line _
  · exact addStatement_cases closedJoinable line _
  · exact .inr ⟨_, rfl, rfl⟩

/-- Lines are placed and leave blocks that fit, or one of them is at fault: it cannot be placed
behind those before it. -/
theorem foldlM_place_cases (joinable : outline.Joinable) (lines : List SourceLine) :
    (∃ after, lines.foldlM place outline = .ok after ∧ after.Joinable) ∨
      ∃ error, lines.foldlM place outline = .error error ∧
        ∃ line ∈ lines, error.line = line.number ∧
          ∃ reached : Outline, reached.Joinable ∧ reached.place line = .error error := by
  induction lines generalizing outline with
  | nil => exact .inl ⟨outline, rfl, joinable⟩
  | cons line later inductionHypothesis =>
      rw [List.foldlM_cons]
      rcases place_cases joinable line with ⟨next, placed, nextJoinable⟩ | ⟨error, failed, same⟩
      · rw [placed]
        rcases inductionHypothesis nextJoinable with done | ⟨error, failed, other, member, culprit⟩
        · exact .inl done
        · exact .inr ⟨error, failed, other, List.mem_cons_of_mem line member, culprit⟩
      · rw [failed]
        exact .inr ⟨error, rfl, line, List.mem_cons_self, same, outline, joinable, failed⟩

/-- Lines that are placed leave blocks that fit. -/
theorem Joinable.of_foldlM_place (joinable : outline.Joinable) {lines : List SourceLine}
    (placed : lines.foldlM place outline = .ok after) : after.Joinable := by
  rcases foldlM_place_cases joinable lines with ⟨same, gives, fits⟩ | ⟨error, gives, -⟩
  · cases placed.symm.trans gives
    exact fits
  · cases placed.symm.trans gives

/-- Where lines cannot be placed, the error is that of one of them. -/
theorem Joinable.of_foldlM_place_error (joinable : outline.Joinable) {lines : List SourceLine}
    {error : OutlineError} (failed : lines.foldlM place outline = .error error) :
    ∃ line ∈ lines, error.line = line.number ∧
      ∃ reached : Outline, reached.Joinable ∧ reached.place line = .error error := by
  rcases foldlM_place_cases joinable lines with ⟨after, gives, -⟩ | ⟨other, gives, culprit⟩
  · cases failed.symm.trans gives
  · cases failed.symm.trans gives
    exact culprit

end Outline

namespace BlockTree

/-- A source is no program exactly when one of its lines cannot be placed: the blocks that are open
at its end can be closed. -/
theorem ofSource_eq_error_iff {source : String} {error : OutlineError} :
    ofSource source = .error error ↔
      (Source.codeLines source).foldlM Outline.place Outline.empty = .error error := by
  have joinable : Outline.empty.Joinable := Outline.joinable_of_nil rfl
  unfold ofSource Outline.ofLines
  cases placed : (Source.codeLines source).foldlM Outline.place Outline.empty with
  | ok outline =>
      obtain ⟨closed, closes, -⟩ := Outline.exists_closeFrom (joinable.of_foldlM_place placed) 0
      simp [bind, Except.bind, closes]
  | error other => simp [bind, Except.bind]

/-- A source is a program exactly when all its lines can be placed. -/
theorem exists_ofSource_iff {source : String} :
    (∃ tree, ofSource source = .ok tree) ↔
      ∃ outline, (Source.codeLines source).foldlM Outline.place Outline.empty = .ok outline := by
  cases accepted : ofSource source with
  | ok tree =>
      cases placed : (Source.codeLines source).foldlM Outline.place Outline.empty with
      | ok outline => exact ⟨fun _ => ⟨outline, rfl⟩, fun _ => ⟨tree, rfl⟩⟩
      | error error => cases accepted.symm.trans (ofSource_eq_error_iff.mpr placed)
  | error error => simp [ofSource_eq_error_iff.mp accepted]

end BlockTree

end Offside
