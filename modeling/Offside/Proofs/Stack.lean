import Mathlib.Logic.Relation
import Offside.Proofs.Joining
import Offside.Proofs.Placing

/-!
# The stack of open blocks

`Placing.Step` takes the placing of lines apart: one block is closed, or else the next line is
placed where no block is left to close for it. Between any two of these steps the open blocks stand
one inside the other, and those that go on with a chain have one to go on with
(`Outline.IsStacked`). So no block is ever at fault when it is closed: the steps lead to the end,
where all blocks are closed, or stop at a line that cannot be placed, and that is what a source is
read as (`BlockTree.isStacked_of_reaches`).
-/

namespace Offside

/-- Lines that are being placed. -/
structure Placing where
  /-- The lines that are left. -/
  ahead : List SourceLine
  /-- The outline of the lines before those that are left. -/
  outline : Outline

namespace Placing

/-- The lines of a source before any of them is placed. -/
def start (source : String) : Placing :=
  ⟨Source.codeLines source, .empty⟩

/-- The indent from which on blocks are closed before some lines: that of the first one. At the end
all blocks are closed. -/
def limit (ahead : List SourceLine) : Nat :=
  (ahead.head?.map (·.indent)).getD 0

/-- One step: the innermost block is closed, or there is none to close and the next line is
placed. -/
inductive Step : Placing → Placing → Prop
  | close {ahead root block outer opened closed joined} (right : limit ahead ≤ block.indent)
      (joins : block.joinTo (Outline.body ⟨root, outer, opened, closed⟩) = .ok joined) :
      Step ⟨ahead, ⟨root, block :: outer, opened, closed⟩⟩
        ⟨ahead, Outline.withBody ⟨root, outer, opened, closed + 1⟩ joined⟩
  | place {line later outline after} (left : outline.IsLeftOf line.indent)
      (places : outline.place line = .ok after) : Step ⟨line :: later, outline⟩ ⟨later, after⟩

/-- Whether one moment of placing lines comes some steps before another one. -/
abbrev Reaches : Placing → Placing → Prop :=
  Relation.ReflTransGen Step

/-- Whether no step is left. -/
def IsLast (placing : Placing) : Prop :=
  ∀ next, ¬ placing.Step next

/-- What it means that lines have been placed as far as they can be. -/
inductive Ends : Placing → Except OutlineError BlockTree → Prop
  /-- All lines are placed and all blocks closed. -/
  | placed {outline : Outline} (empty : outline.blocks = [])
      (balance : outline.opened = outline.closed) :
      Ends ⟨[], outline⟩ (.ok ⟨outline.root.reverse, outline.opened, outline.closed⟩)
  /-- A line cannot be placed. -/
  | stuck {line later outline error} (left : outline.IsLeftOf line.indent)
      (fails : outline.place line = .error error) : Ends ⟨line :: later, outline⟩ (.error error)

end Placing

namespace Outline

/-- What is known of the open blocks of an outline. -/
structure IsStacked (outline : Outline) : Prop where
  /-- Inner blocks stand further right. -/
  indents : outline.indents.Pairwise (· > ·)
  few : outline.blocks.length ≤ mostBlocks
  /-- The blocks that were opened are closed or open. -/
  balance : outline.opened = outline.closed + outline.blocks.length
  /-- A block that goes on with a chain has one at the end of the body around it. -/
  joinable : outline.Joinable

/-- Where no block is open, there is nothing to know. -/
theorem isStacked_empty : empty.IsStacked where
  indents := .nil
  few := Nat.zero_le _
  balance := rfl
  joinable := joinable_of_nil rfl

section

variable {root : List Statement} {block : OpenBlock} {outer : List OpenBlock}
  {opened closed : Nat} {outline after : Outline} {line : SourceLine}

/-- The statements of the innermost body do not matter to the stack. -/
theorem IsStacked.withBody (stacked : outline.IsStacked) (body : List Statement) :
    (outline.withBody body).IsStacked := by
  have joinable := stacked.joinable.withBody body
  obtain ⟨root, blocks, opened, closed⟩ := outline
  cases blocks with
  | nil => exact ⟨stacked.indents, stacked.few, stacked.balance, joinable⟩
  | cons block outer => exact ⟨stacked.indents, stacked.few, stacked.balance, joinable⟩

/-- The blocks around a block that is closed are a stack. -/
theorem IsStacked.enclosing (stacked : IsStacked ⟨root, block :: outer, opened, closed⟩) :
    IsStacked ⟨root, outer, opened, closed + 1⟩ where
  indents := (List.pairwise_cons.mp stacked.indents).2
  few := Nat.le_of_succ_le stacked.few
  balance := by
    have balance := stacked.balance
    simp only [List.length_cons] at balance ⊢
    omega
  joinable := stacked.joinable.enclosing (List.suffix_cons block outer)

/-- A header puts its block on the stack. -/
theorem IsStacked.openBlock (stacked : outline.IsStacked) (left : outline.IsLeftOf line.indent)
    {header : Header} (opens : outline.openBlock line header = .ok after) : after.IsStacked := by
  obtain ⟨attached, room, rfl⟩ := openBlock_eq_ok_iff.mp opens
  exact {
    indents := List.pairwise_cons.mpr ⟨left.lt_of_mem_indents stacked.indents, stacked.indents⟩
    few := room
    balance := by
      have balance := stacked.balance
      simp only [List.length_cons]
      omega
    joinable := stacked.joinable.cons (fun further => exists_of_awaitsBranch (attached further)) _ }

/-- What placing a line does where there is no block to close for it. -/
theorem IsLeftOf.place_eq (left : outline.IsLeftOf line.indent) :
    outline.place line =
      match line.parsed with
      | .ok (.header header) => outline.openBlock line header
      | .ok (.simple statement) => outline.addStatement line statement
      | .error error => .error ⟨line.number, .parse error⟩ := by
  rw [Outline.place, left.closeFrom]
  rfl

/-- Placing a line for which there is no block to close leaves one more block open at most. -/
theorem IsLeftOf.length_blocks_place (left : outline.IsLeftOf line.indent)
    (places : outline.place line = .ok after) :
    after.blocks.length ≤ outline.blocks.length + 1 := by
  rw [left.place_eq] at places
  split at places
  · obtain ⟨-, -, rfl⟩ := openBlock_eq_ok_iff.mp places
    exact Nat.le_refl _
  · obtain ⟨-, rfl⟩ := addStatement_eq_ok_iff.mp places
    rw [length_blocks_append]
    exact Nat.le_succ _
  · cases places

/-- A line that is placed leaves a stack, where there is no block to close for it. -/
theorem IsStacked.place (stacked : outline.IsStacked) (left : outline.IsLeftOf line.indent)
    (places : outline.place line = .ok after) : after.IsStacked := by
  rw [left.place_eq] at places
  split at places
  · exact stacked.openBlock left places
  · obtain ⟨-, rfl⟩ := addStatement_eq_ok_iff.mp places
    exact stacked.withBody _
  · cases places

end

end Outline

namespace Placing

variable {placing next last : Placing}

/-- A step leaves a stack. -/
theorem Step.isStacked (step : placing.Step next) (stacked : placing.outline.IsStacked) :
    next.outline.IsStacked := by
  cases step with
  | close right joins => exact stacked.enclosing.withBody _
  | place left places => exact stacked.place left places

/-- Any number of steps leaves a stack. -/
theorem Reaches.isStacked (reaches : placing.Reaches next) (stacked : placing.outline.IsStacked) :
    next.outline.IsStacked := by
  induction reaches with
  | refl => exact stacked
  | tail _ step inductionHypothesis => exact step.isStacked inductionHypothesis

/-! ### Where the steps lead -/

/-- The outline of all lines, with all blocks closed. -/
def result (placing : Placing) : Except OutlineError Outline :=
  placing.ahead.foldlM Outline.place placing.outline >>= Outline.closeFrom 0

/-- A source is read as what placing its lines results in. -/
theorem ofSource_eq (source : String) : BlockTree.ofSource source =
    (start source).result.map fun outline =>
      ⟨outline.root.reverse, outline.opened, outline.closed⟩ := by
  rw [BlockTree.ofSource, Outline.ofLines, result, start]
  exact bind_pure_comp _ _

/-- A step does not change what placing the lines results in. -/
theorem Step.result_eq (step : placing.Step next) : placing.result = next.result := by
  cases step with
  | @close ahead root block outer opened closed joined right joins =>
      have closes : Outline.closeFrom (limit ahead) ⟨root, block :: outer, opened, closed⟩ =
          Outline.closeFrom (limit ahead)
            (Outline.withBody ⟨root, outer, opened, closed + 1⟩ joined) := by
        rw [Outline.closeFrom_of_le right, joins]
        rfl
      cases ahead with
      | nil => exact closes
      | cons line later =>
          have places : Outline.place ⟨root, block :: outer, opened, closed⟩ line =
              Outline.place (Outline.withBody ⟨root, outer, opened, closed + 1⟩ joined) line := by
            unfold Outline.place
            exact congrArg (· >>= _) closes
          simp only [result, List.foldlM_cons, places]
  | place left places =>
      simp only [result, List.foldlM_cons, places]
      rfl

/-- Any number of steps leaves what placing the lines results in as it is. -/
theorem Reaches.result_eq (reaches : placing.Reaches next) : placing.result = next.result := by
  induction reaches with
  | refl => rfl
  | tail _ step inductionHypothesis => exact inductionHypothesis.trans step.result_eq

/-- The most steps that can be left: each line can be placed, and each block that is open or that a
line opens can be closed. -/
def most (placing : Placing) : Nat :=
  2 * placing.ahead.length + placing.outline.blocks.length

/-- Behind a step, the most steps that can be left are fewer. -/
theorem Step.most_lt (step : placing.Step next) : next.most < placing.most := by
  cases step with
  | close right joins =>
      simp only [most, Outline.length_blocks_withBody, List.length_cons]
      omega
  | place left places =>
      have fewer := left.length_blocks_place places
      simp only [most, List.length_cons]
      omega

/-- The steps come to an end. -/
theorem exists_isLast (placing : Placing) : ∃ last, placing.Reaches last ∧ last.IsLast := by
  induction count : placing.most using Nat.strongRecOn generalizing placing with
  | ind count inductionHypothesis =>
      by_cases more : ∃ next, placing.Step next
      · obtain ⟨next, step⟩ := more
        obtain ⟨last, reaches, isLast⟩ :=
          inductionHypothesis next.most (count ▸ step.most_lt) next rfl
        exact ⟨last, .head step reaches, isLast⟩
      · exact ⟨placing, .refl, not_exists.mp more⟩

/-- A block of a stack can be closed, so that where no step is left, no block is to be closed. -/
theorem IsLast.isLeftOf (isLast : placing.IsLast) (stacked : placing.outline.IsStacked) :
    placing.outline.IsLeftOf (limit placing.ahead) := by
  obtain ⟨ahead, ⟨root, blocks, opened, closed⟩⟩ := placing
  cases blocks with
  | nil => exact nofun
  | cons block outer =>
      rintro _ ⟨⟩
      refine Nat.lt_of_not_le fun right => ?_
      obtain ⟨joined, joins⟩ :=
        OpenBlock.exists_joinTo (stacked.joinable block outer (List.suffix_refl _))
      exact isLast _ (.close right joins)

/-- Where no step is left, all lines are placed and all blocks closed, or a line cannot be
placed. -/
theorem IsLast.ends (isLast : placing.IsLast) (stacked : placing.outline.IsStacked) :
    placing.Ends (placing.result.map fun outline =>
      ⟨outline.root.reverse, outline.opened, outline.closed⟩) := by
  have left := isLast.isLeftOf stacked
  obtain ⟨ahead, outline⟩ := placing
  cases ahead with
  | nil =>
      have result : Placing.result ⟨[], outline⟩ = .ok outline := left.closeFrom
      have empty : outline.blocks = [] := by
        have noBlock : ∀ block, block ∉ outline.blocks.head? := fun block first =>
          Nat.not_lt_zero _ (left block first)
        exact List.head?_eq_none_iff.mp (Option.eq_none_iff_forall_not_mem.mpr noBlock)
      have balance := stacked.balance
      rw [empty] at balance
      rw [result]
      exact .placed empty balance
  | cons line later =>
      cases places : outline.place line with
      | ok after => exact absurd (.place left places) (isLast ⟨later, after⟩)
      | error error =>
          have result : Placing.result ⟨line :: later, outline⟩ = .error error := by
            simp only [Placing.result, List.foldlM_cons, places]
            rfl
          rw [result]
          exact .stuck left places

end Placing

/-- While the lines of any source are placed, the open blocks are a stack. The steps come to an end,
and where they do, all blocks are closed and the source is read, or a line cannot be
placed. -/
theorem BlockTree.isStacked_of_reaches (source : String) :
    (∀ reached, (Placing.start source).Reaches reached → reached.outline.IsStacked) ∧
      (∃ last, (Placing.start source).Reaches last ∧ last.IsLast) ∧
      ∀ last, (Placing.start source).Reaches last → last.IsLast → last.Ends (ofSource source) := by
  have stacked : ∀ reached, (Placing.start source).Reaches reached →
      reached.outline.IsStacked := fun _ reaches => reaches.isStacked Outline.isStacked_empty
  refine ⟨stacked, Placing.exists_isLast _, fun last reaches isLast => ?_⟩
  rw [Placing.ofSource_eq, reaches.result_eq]
  exact isLast.ends (stacked last reaches)

end Offside
