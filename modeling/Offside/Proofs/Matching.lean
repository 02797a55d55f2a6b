import Mathlib.Data.List.Forall2
import Offside.Proofs.Attaching
import Offside.Proofs.Edges
import Offside.Proofs.Grammar.Agreement

/-!
# Sources that match line by line

Two sources match when their lines say the same and are indented alike: which of two
lines stands further left is the same in both, though the widths need not be. The lines
may have other numbers in the second source, and other lines may come first there
(`Matching`). Placing the lines goes the same way in both (`Outlines.foldlM_place`), so
the second source is the same program behind the one of the lines that come first, or
fails alike on the matching line (`Matching.agree_ofSource`).
-/

namespace Offside

/-- An error with another number of its line. -/
def OutlineError.renumber (number : Nat → Nat) (error : OutlineError) : OutlineError :=
  { error with line := number error.line }

/-- A defect with another number of its line. -/
def Defect.renumber (number : Nat → Nat) (defect : Defect) : Defect :=
  { defect with line := number defect.line }

/-- A failure with another number of its line. -/
def Failure.renumber (number : Nat → Nat) : Failure → Failure
  | .defect found => .defect (found.renumber number)
  | .outline error => .outline (error.renumber number)
  | .runtime error => .runtime error

/-- How the lines of one source match those of another. -/
structure Matching where
  /-- The number in the second source of a line of the first. -/
  renumber : Nat → Nat
  /-- The indents in the first source and in the second that belong to each other. -/
  indents : Nat → Nat → Prop
  /-- What the lines make up that come first in the second source. -/
  prior : BlockTree
  /-- Of two lines, the same one stands further left in both sources. -/
  ordered : ∀ {low high otherLow otherHigh : Nat}, indents low otherLow → indents high otherHigh →
    (low ≤ high ↔ otherLow ≤ otherHigh)

namespace OpenBlock

/-- A block becomes part of a body alike when the body has earlier statements, too. -/
theorem joinTo_append {block other : OpenBlock} {around body : List Statement}
    (joined : block.joinTo around = .ok body) (header : other.header = block.header)
    (inside : other.body = block.body) (earlier : List Statement) :
    other.joinTo (around ++ earlier) = .ok (body ++ earlier) := by
  have extending : ∀ {rest : Chain}, block.extendChain rest around = .ok body →
      other.extendChain rest (around ++ earlier) = .ok (body ++ earlier) := by
    intro rest extended
    obtain ⟨chain, before, longer, rfl, found, rfl⟩ := extendChain_eq_ok_iff.mp extended
    exact extendChain_eq_ok_iff.mpr ⟨chain, before ++ earlier, longer, rfl, found, rfl⟩
  unfold joinTo at joined ⊢
  rw [header, inside]
  cases shape : block.header with
  | forEach | whileLoop | branch =>
      rw [shape] at joined
      cases joined
      rfl
  | elseBranch | otherwise =>
      rw [shape] at joined
      exact extending joined

/-- What a block became part of is not empty. -/
theorem ne_nil_of_joinTo {block : OpenBlock} {around body : List Statement}
    (joined : block.joinTo around = .ok body) : body ≠ [] := by
  rcases joinTo_eq_ok joined with ⟨_, rfl, -⟩ | ⟨_, _, _, _, -, -, rfl, -⟩ <;> simp

end OpenBlock

namespace Outline

/-- Whether a line has been placed. -/
def Begun (outline : Outline) : Prop :=
  outline.root ≠ [] ∨ outline.blocks ≠ []

/-- Closing blocks takes no line away. -/
theorem Begun.closeFrom {outline after : Outline} (begun : outline.Begun) {indent : Nat}
    (closes : outline.closeFrom indent = .ok after) : after.Begun := by
  refine (closeFrom_induction begun closes ?_).1
  intro root block outer opened closed joined _ _ joins
  cases outer with
  | nil => exact .inl (OpenBlock.ne_nil_of_joinTo joins)
  | cons around outer => exact .inr (List.cons_ne_nil _ _)

/-- An outline that a statement has been added to has a line. -/
theorem begun_append (outline : Outline) (statement : Statement) :
    (outline.append statement).Begun := by
  obtain ⟨root, blocks, opened, closed⟩ := outline
  cases blocks with
  | nil => exact .inl (List.cons_ne_nil _ _)
  | cons block outer => exact .inr (List.cons_ne_nil _ _)

end Outline

namespace Matching

variable (matching : Matching)

/-- Whether a line of the first source matches one of the second. -/
structure Lines (line other : SourceLine) : Prop where
  number : other.number = matching.renumber line.number
  trimmed : other.trimmed = line.trimmed
  indent : matching.indents line.indent other.indent

/-- Whether open blocks of the two sources have the same header and hold the same. -/
structure Blocks (block other : OpenBlock) : Prop where
  indent : matching.indents block.indent other.indent
  header : other.header = block.header
  body : other.body = block.body

/-- Whether the second outline is the first one behind the lines that come first. -/
structure Outlines (outline other : Outline) : Prop where
  joinable : outline.Joinable
  root : other.root = outline.root ++ matching.prior.program.reverse
  blocks : List.Forall₂ matching.Blocks outline.blocks other.blocks
  opened : other.opened = matching.prior.opened + outline.opened
  closed : other.closed = matching.prior.closed + outline.closed

/-- The statements of the lines that come first, latest first, where they belong to the body that
the next statement belongs to. -/
def margin (outline : Outline) : List Statement :=
  if outline.blocks.isEmpty then matching.prior.program.reverse else []

/-- The error of the first source on the matching line of the second. -/
def Errors (error other : OutlineError) : Prop :=
  other = error.renumber matching.renumber

namespace Outlines

variable {matching : Matching} {outline other : Outline}

/-- Matching outlines have the same innermost body, apart from the lines that come first. -/
theorem body (related : matching.Outlines outline other) :
    other.body = outline.body ++ matching.margin outline := by
  obtain ⟨root, blocks, opened, closed⟩ := outline
  obtain ⟨otherRoot, otherBlocks, otherOpened, otherClosed⟩ := other
  cases related.blocks with
  | nil => exact related.root
  | cons first _ => exact first.body.trans (List.append_nil _).symm

/-- Matching outlines still match when their innermost bodies are replaced alike. -/
theorem withBody (related : matching.Outlines outline other) (body : List Statement) :
    matching.Outlines (outline.withBody body)
      (other.withBody (body ++ matching.margin outline)) := by
  have joinable := related.joinable.withBody body
  obtain ⟨root, blocks, opened, closed⟩ := outline
  obtain ⟨otherRoot, otherBlocks, otherOpened, otherClosed⟩ := other
  cases related.blocks with
  | nil => exact ⟨joinable, rfl, .nil, related.opened, related.closed⟩
  | cons first outer =>
      have same : body ++ [] = body := List.append_nil body
      exact ⟨joinable, related.root, .cons ⟨first.indent, first.header, same⟩ outer,
        related.opened, related.closed⟩

/-- Matching outlines still match when a line closes their blocks. -/
theorem closeFrom (related : matching.Outlines outline other) {indent otherIndent : Nat}
    (alike : ∀ {width otherWidth : Nat}, matching.indents width otherWidth →
      (indent ≤ width ↔ otherIndent ≤ otherWidth)) :
    ∃ after otherAfter, outline.closeFrom indent = .ok after ∧
      other.closeFrom otherIndent = .ok otherAfter ∧ matching.Outlines after otherAfter := by
  -- joining a block changes the one around it, so the induction is on the number of blocks
  induction count : outline.blocks.length generalizing outline other with
  | zero =>
      obtain ⟨root, blocks, opened, closed⟩ := outline
      obtain ⟨otherRoot, otherBlocks, otherOpened, otherClosed⟩ := other
      obtain rfl := List.eq_nil_of_length_eq_zero count
      obtain rfl := List.forall₂_nil_left_iff.mp related.blocks
      exact ⟨_, _, rfl, rfl, related⟩
  | succ number inductionHypothesis =>
      obtain ⟨root, blocks, opened, closed⟩ := outline
      obtain ⟨otherRoot, otherBlocks, otherOpened, otherClosed⟩ := other
      obtain ⟨block, outer, rfl⟩ := List.exists_cons_of_length_eq_add_one count
      obtain ⟨otherBlock, otherOuter, first, around, rfl⟩ :=
        List.forall₂_cons_left_iff.mp related.blocks
      by_cases right : indent ≤ block.indent
      · have otherRight : otherIndent ≤ otherBlock.indent := (alike first.indent).mp right
        have enclosing : matching.Outlines ⟨root, outer, opened, closed + 1⟩
            ⟨otherRoot, otherOuter, otherOpened, otherClosed + 1⟩ :=
          ⟨related.joinable.enclosing (List.suffix_cons block outer), related.root, around,
            related.opened, congrArg (· + 1) related.closed⟩
        obtain ⟨joined, joins⟩ :=
          OpenBlock.exists_joinTo (related.joinable block outer (List.suffix_refl _))
        have otherJoins := OpenBlock.joinTo_append joins first.header first.body
          (matching.margin ⟨root, outer, opened, closed + 1⟩)
        have otherBody : Outline.body ⟨otherRoot, otherOuter, otherOpened, otherClosed⟩ =
            Outline.body ⟨root, outer, opened, closed⟩ ++ _ := enclosing.body
        have fewer : (Outline.withBody ⟨root, outer, opened, closed + 1⟩ joined).blocks.length =
            number := by
          rw [Outline.length_blocks_withBody]
          exact Nat.succ.inj count
        rw [Outline.closeFrom_of_le right, joins, Outline.closeFrom_of_le otherRight, otherBody,
          otherJoins]
        exact inductionHypothesis (enclosing.withBody joined) fewer
      · have otherLeft : ¬ otherIndent ≤ otherBlock.indent := mt (alike first.indent).mpr right
        exact ⟨_, _, Outline.closeFrom_of_lt (Nat.lt_of_not_le right),
          Outline.closeFrom_of_lt (Nat.lt_of_not_le otherLeft), related⟩

/-- Matching outlines both have room for a branch or neither has, if the lines that come first are
not asked. -/
theorem awaitsBranch (related : matching.Outlines outline other)
    (begun : matching.prior.program = [] ∨ outline.Begun) :
    other.awaitsBranch = outline.awaitsBranch := by
  -- an empty root would let the chain be seen that the lines before may end in
  have same : matching.margin outline = [] ∨ outline.body ≠ [] := by
    obtain ⟨root, blocks, opened, closed⟩ := outline
    cases blocks with
    | cons => exact .inl rfl
    | nil =>
        rcases begun with nothing | some | some
        · exact .inl (congrArg List.reverse nothing)
        · exact .inr some
        · exact absurd rfl some
  unfold Outline.awaitsBranch
  rw [related.body]
  rcases same with nothing | some
  · rw [nothing, List.append_nil]
  · obtain ⟨latest, earlier, shape⟩ := List.exists_cons_of_ne_nil some
    rw [shape]
    cases latest <;> rfl

/-- Matching outlines are both in a loop, or neither is. -/
theorem inLoop (related : matching.Outlines outline other) : other.inLoop = outline.inLoop := by
  have loops : ∀ {blocks others : List OpenBlock}, List.Forall₂ matching.Blocks blocks others →
      others.any (·.header.isLoop) = blocks.any (·.header.isLoop) := by
    intro blocks others same
    induction same with
    | nil => rfl
    | cons first _ inductionHypothesis =>
        rw [List.any_cons, List.any_cons, first.header, inductionHypothesis]
  exact loops related.blocks

/-- Matching outlines still match when both go on with a statement. -/
theorem append (related : matching.Outlines outline other) (statement : Statement) :
    matching.Outlines (outline.append statement) (other.append statement) := by
  unfold Outline.append
  rw [related.body]
  exact related.withBody (statement :: outline.body)

variable {line otherLine : SourceLine}

/-- A header opens a block in both of two matching outlines, or it is at fault in both. -/
theorem openBlock (related : matching.Outlines outline other)
    (lines : matching.Lines line otherLine) {header : Header}
    (begun : header.isContinuation → matching.prior.program = [] ∨ outline.Begun) :
    Agree matching.Errors (fun after otherAfter => matching.Outlines after otherAfter ∧ after.Begun)
      (outline.openBlock line header) (other.openBlock otherLine header) := by
  have dangles : (header.isContinuation && !other.awaitsBranch) =
      (header.isContinuation && !outline.awaitsBranch) := by
    cases isContinuation : header.isContinuation with
    | false => rfl
    | true => rw [related.awaitsBranch (begun isContinuation)]
  have many : other.blocks.length = outline.blocks.length := related.blocks.length_eq.symm
  have joinable := Outline.openBlock_cases related.joinable line header
  unfold Outline.openBlock at joinable ⊢
  rw [dangles, many, lines.number]
  split
  · exact .error rfl
  · split
    · exact .error rfl
    · next attached few =>
        rw [if_neg attached, if_neg few] at joinable
        rcases joinable with ⟨_, ⟨⟩, fits⟩ | ⟨_, impossible, -⟩
        · exact .ok ⟨⟨fits, related.root, .cons ⟨lines.indent, rfl, rfl⟩ related.blocks,
            congrArg (· + 1) related.opened, related.closed⟩, .inr (List.cons_ne_nil _ _)⟩
        · cases impossible

/-- A statement is added to both of two matching outlines, or it is at fault in both. -/
theorem addStatement (related : matching.Outlines outline other)
    (lines : matching.Lines line otherLine) (statement : Statement) :
    Agree matching.Errors (fun after otherAfter => matching.Outlines after otherAfter ∧ after.Begun)
      (outline.addStatement line statement) (other.addStatement otherLine statement) := by
  have added := And.intro (related.append statement) (outline.begun_append statement)
  unfold Outline.addStatement
  rw [related.inLoop, lines.number]
  split
  · split
    · exact .ok added
    · exact .error rfl
  · exact .ok added

/-- Matching lines are placed alike, or are at fault alike. -/
theorem place (related : matching.Outlines outline other) (lines : matching.Lines line otherLine)
    (begun : line.isContinuation → matching.prior.program = [] ∨ outline.Begun) :
    Agree matching.Errors (fun after otherAfter => matching.Outlines after otherAfter ∧ after.Begun)
      (outline.place line) (other.place otherLine) := by
  obtain ⟨closed, otherClosed, closes, otherCloses, closedRelated⟩ :=
    related.closeFrom fun belong => matching.ordered lines.indent belong
  have parsed : Line.ofText (String.ofList otherLine.trimmed) otherLine.number = line.parsed := by
    rw [lines.trimmed, SourceLine.parsed, Line.ofText_number]
  unfold Outline.place
  rw [closes, otherCloses]
  dsimp only [bind, Except.bind]
  rw [parsed, ← SourceLine.parsed]
  cases said : line.parsed with
  | error error =>
      have sameNumber := lines.number
      exact .error (by rw [Errors, sameNumber]; rfl)
  | ok meaning =>
      cases meaning with
      | simple statement => exact closedRelated.addStatement lines statement
      | header header =>
          refine closedRelated.openBlock lines fun isContinuation => ?_
          have goesOn : line.isContinuation := by
            rw [SourceLine.isContinuation, SourceLine.header?_of_parsed said]
            exact isContinuation
          exact (begun goesOn).imp_right fun placed => placed.closeFrom closes

/-- Matching lines are placed alike one after the other, or one of them is at fault alike, if the
first of them does not go on with a chain of the lines that come first. -/
theorem foldlM_place {lines others : List SourceLine} (related : matching.Outlines outline other)
    (matched : List.Forall₂ matching.Lines lines others)
    (begun : ∀ line ∈ lines.head?, line.isContinuation →
      matching.prior.program = [] ∨ outline.Begun) :
    Agree matching.Errors matching.Outlines
      (lines.foldlM Outline.place outline) (others.foldlM Outline.place other) := by
  induction matched generalizing outline other with
  | nil => exact .ok related
  | cons first _ inductionHypothesis =>
      rw [List.foldlM_cons, List.foldlM_cons]
      -- behind the first line nothing sees the lines before any more
      refine (related.place first (begun _ rfl)).bind ?_
      rintro after otherAfter ⟨relatedAfter, begunAfter⟩
      exact inductionHypothesis relatedAfter fun _ _ _ => .inr begunAfter

end Outlines

/-- Matching lines make up the same program behind the one of the lines that come first, or one of
them is at fault alike. -/
theorem agree_ofSource {source : String} {others : List SourceLine} {start : Outline}
    (related : matching.Outlines .empty start)
    (matched : List.Forall₂ matching.Lines (Source.codeLines source) others)
    (begun : ∀ line ∈ (Source.codeLines source).head?, line.isContinuation →
      matching.prior.program = []) :
    Agree matching.Errors
      (fun tree otherTree : BlockTree => otherTree = ⟨matching.prior.program ++ tree.program,
        matching.prior.opened + tree.opened, matching.prior.closed + tree.closed⟩)
      (BlockTree.ofSource source)
      (do
        let outline ← others.foldlM Outline.place start >>= Outline.closeFrom 0
        .ok ⟨outline.root.reverse, outline.opened, outline.closed⟩) := by
  have placed := related.foldlM_place matched fun line first goesOn =>
    .inl (begun line first goesOn)
  have all : ∀ {width otherWidth : Nat}, matching.indents width otherWidth →
      (0 ≤ width ↔ 0 ≤ otherWidth) := fun _ => iff_of_true (Nat.zero_le _) (Nat.zero_le _)
  have closed : Agree matching.Errors matching.Outlines (Outline.ofLines (Source.codeLines source))
      (others.foldlM Outline.place start >>= Outline.closeFrom 0) := by
    refine placed.bind fun outline other relatedAfter => ?_
    obtain ⟨after, otherAfter, closes, otherCloses, closedRelated⟩ := relatedAfter.closeFrom all
    rw [closes, otherCloses]
    exact .ok closedRelated
  refine closed.bind fun outline other relatedAfter => .ok ?_
  rw [relatedAfter.root, relatedAfter.opened, relatedAfter.closed, List.reverse_append,
    List.reverse_reverse]

section

variable {matching} {source other : String}
  (matched : List.Forall₂ matching.Lines (Source.codeLines source) (Source.codeLines other))

include matched

/-- The first defect of matching sources is the same one. -/
theorem first?_eq :
    Defect.first? other = (Defect.first? source).map (·.renumber matching.renumber) := by
  unfold Defect.first?
  generalize Source.codeLines source = lines, Source.codeLines other = others at matched ⊢
  induction matched with
  | nil => rfl
  | cons first _ inductionHypothesis =>
      rw [List.findSome?_cons, List.findSome?_cons, Defect.ofLine?_congr first.trimmed,
        inductionHypothesis, first.number]
      cases Defect.ofLine? _ <;> rfl

variable (alone : matching.prior = ⟨[], 0, 0⟩)

include alone

/-- Matching sources without other lines are the same program, or fail alike. -/
theorem ofSource_eq : BlockTree.ofSource other =
    (BlockTree.ofSource source).mapError (·.renumber matching.renumber) := by
  have start : matching.Outlines .empty .empty :=
    ⟨Outline.joinable_of_nil rfl, by rw [alone]; rfl, .nil, by rw [alone]; rfl, by rw [alone]; rfl⟩
  have agree := matching.agree_ofSource start matched fun _ _ _ => congrArg BlockTree.program alone
  have same : BlockTree.ofSource other = _ := agree.eq_map
  rw [same, alone]
  cases BlockTree.ofSource source with
  | ok tree => simp [Except.map, Except.mapError]
  | error error => rfl

/-- Matching sources without other lines run alike. -/
theorem execute_eq (limits : Resources) : execute other limits =
    (execute source limits).map (·.mapError (·.renumber matching.renumber)) := by
  unfold execute Program.ofSource
  rw [first?_eq matched, ofSource_eq matched alone]
  cases Defect.first? source with
  | some found => rfl
  | none =>
      cases BlockTree.ofSource source with
      | error error => rfl
      | ok tree =>
          change (tree.program.run limits).map _ = ((tree.program.run limits).map _).map _
          rw [Option.map_map]
          congr 1
          funext result
          cases result <;> rfl

end

end Matching

end Offside
