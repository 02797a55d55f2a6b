import Offside.Proofs.Closing

/-!
# Lines of a program make it up again

A program written down line by line, every block further right than its header by
the same number of blanks, is placed as that program. Statement by statement the
lines leave an outline that, once the blocks further right are closed, has the
statement at the end of its body (`Outline.Settles`); a block is settled there by
closing it into the body around it.
-/

namespace Offside

/-! ### Programs that can be placed -/

mutual

/-- Whether a statement can be placed where `room` more blocks may be open, inside a loop or not:
every conditional statement has a branch, and what only a loop may hold is in one. -/
def Statement.IsPlaceable (room : Nat) (inLoop : Bool) : Statement → Prop
  | .forEach _ _ body | .whileLoop _ body => 0 < room ∧ ArePlaceable (room - 1) true body
  | .conditional chain => chain.hasBranch ∧ chain.IsPlaceable room inLoop
  | .stop | .next => inLoop
  | .assign .. | .update .. | .pass | .expression _ => True

/-- Whether the branches of a chain can be placed. -/
def Chain.IsPlaceable (room : Nat) (inLoop : Bool) : Chain → Prop
  | .done => True
  | .otherwise body => 0 < room ∧ ArePlaceable (room - 1) inLoop body
  | .branch _ body rest =>
      (0 < room ∧ ArePlaceable (room - 1) inLoop body) ∧ rest.IsPlaceable room inLoop

/-- Whether statements one after the other can be placed. -/
def ArePlaceable (room : Nat) (inLoop : Bool) : List Statement → Prop
  | [] => True
  | statement :: later => statement.IsPlaceable room inLoop ∧ ArePlaceable room inLoop later

end

/-! ### Chains that grow -/

namespace Chain

/-- Extending an open chain by nothing leaves it as it is. -/
theorem extend?_done : ∀ {chain : Chain}, chain.isOpen → chain.extend? .done = some chain
  | .done, _ => rfl
  | .otherwise _, isOpen => nomatch isOpen
  | .branch condition body later, isOpen => by
      have rest : later.extend? .done = some later := extend?_done isOpen
      rw [extend?, rest]
      rfl

/-- A chain goes on with a branch and what follows that as with the two one after the other. -/
theorem extend?_branch (condition : Expression) (body : List Statement) (rest : Chain) :
    ∀ chain : Chain, chain.extend? (.branch condition body rest) =
      (chain.extend? (.branch condition body .done)).bind (·.extend? rest)
  | .done => rfl
  | .otherwise _ => rfl
  | .branch other before later => by
      rw [extend?, extend?_branch condition body rest later, extend?]
      cases later.extend? (.branch condition body .done) <;> rfl

/-- A chain that goes on with a branch stays open. -/
theorem isOpen_of_extend? {condition : Expression} {body : List Statement} :
    ∀ {chain longer : Chain}, chain.extend? (.branch condition body .done) = some longer →
      longer.isOpen
  | .done, _, extended => by
      cases extended
      rfl
  | .otherwise _, _, extended => nomatch extended
  | .branch other before later, _, extended => by
      obtain ⟨further, extension, rfl⟩ := Option.map_eq_some_iff.mp extended
      change further.isOpen
      exact isOpen_of_extend? extension

end Chain

namespace Outline

/-! ### Closing step by step -/

/-- Which blocks an outline still lists does not matter to closing given ones. -/
theorem closeBlock_congr (indent : Nat) (root : List Statement) (blocks others : List OpenBlock)
    (opened closed : Nat) (block : OpenBlock) (outer : List OpenBlock) :
    closeBlock indent ⟨root, blocks, opened, closed⟩ block outer =
      closeBlock indent ⟨root, others, opened, closed⟩ block outer := by
  induction outer generalizing block closed with
  | nil => rfl
  | cons around outer inductionHypothesis =>
      unfold closeBlock
      split
      · exact bind_congr fun body => inductionHypothesis _ _
      · rfl

section

variable {root : List Statement} {block : OpenBlock} {outer : List OpenBlock}
  {indent opened closed : Nat}

/-- A block to the left stays open. -/
theorem closeFrom_of_lt (left : block.indent < indent) :
    closeFrom indent ⟨root, block :: outer, opened, closed⟩ =
      .ok ⟨root, block :: outer, opened, closed⟩ := by
  cases outer with
  | nil => exact if_neg (Nat.not_le_of_lt left)
  | cons around outer => exact if_neg (Nat.not_le_of_lt left)

/-- A block that is not to the left becomes part of the body around it, and the blocks around it
come next. -/
theorem closeFrom_of_le (right : indent ≤ block.indent) :
    closeFrom indent ⟨root, block :: outer, opened, closed⟩ =
      block.joinTo (body ⟨root, outer, opened, closed⟩) >>= fun joined =>
        closeFrom indent (withBody ⟨root, outer, opened, closed + 1⟩ joined) := by
  cases outer with
  | nil => exact if_pos right
  | cons around outer =>
      refine (if_pos right).trans (bind_congr fun body => ?_)
      exact closeBlock_congr _ _ _ _ _ _ _ _

end

/-- Blocks further right are closed first. -/
theorem closeFrom_of_closeFrom {low high : Nat} (lowHigh : low ≤ high) {outline middle : Outline}
    (closes : outline.closeFrom high = .ok middle) :
    outline.closeFrom low = middle.closeFrom low := by
  obtain ⟨root, blocks, opened, closed⟩ := outline
  -- joining a block changes the one around it, so the induction is on the number of blocks
  induction count : blocks.length generalizing root blocks closed with
  | zero =>
      obtain rfl := List.eq_nil_of_length_eq_zero count
      cases closes
      rfl
  | succ count inductionHypothesis =>
      cases blocks with
      | nil => cases count
      | cons block outer =>
          by_cases right : high ≤ block.indent
          · rw [closeFrom_of_le right] at closes
            obtain ⟨body, joined, further⟩ := bind_eq_ok_iff.mp closes
            rw [closeFrom_of_le (Nat.le_trans lowHigh right), joined]
            have length : outer.length = _ := Nat.succ.inj count
            cases outer with
            | nil => exact inductionHypothesis _ _ _ further length
            | cons around outer => exact inductionHypothesis _ _ _ further length
          · rw [closeFrom_of_lt (Nat.lt_of_not_le right)] at closes
            cases closes
            rfl

/-! ### Outlines that are settled -/

/-- Whether every block of an outline stands to the left of `indent`, the innermost one being the
furthest right. -/
def IsLeftOf (indent : Nat) (outline : Outline) : Prop :=
  ∀ block ∈ outline.blocks.head?, block.indent < indent

/-- What holds of an outline, and is kept whenever a block at `indent` or further right is joined
to the body around it, holds of the outline with all these blocks closed. -/
theorem closeFrom_induction {indent : Nat} {motive : Outline → Prop} {outline after : Outline}
    (start : motive outline) (closes : outline.closeFrom indent = .ok after)
    (joins : ∀ (root : List Statement) (block : OpenBlock) (outer : List OpenBlock)
      (opened closed : Nat) (joined : List Statement),
      motive ⟨root, block :: outer, opened, closed⟩ → indent ≤ block.indent →
        block.joinTo (body ⟨root, outer, opened, closed⟩) = .ok joined →
          motive (withBody ⟨root, outer, opened, closed + 1⟩ joined)) :
    motive after ∧ after.IsLeftOf indent := by
  obtain ⟨root, blocks, opened, closed⟩ := outline
  -- joining a block changes the one around it, so the induction is on the number of blocks
  induction count : blocks.length generalizing root blocks closed with
  | zero =>
      obtain rfl := List.eq_nil_of_length_eq_zero count
      cases closes
      exact ⟨start, nofun⟩
  | succ count inductionHypothesis =>
      cases blocks with
      | nil => cases count
      | cons block outer =>
          by_cases right : indent ≤ block.indent
          · rw [closeFrom_of_le right] at closes
            obtain ⟨body, joined, further⟩ := bind_eq_ok_iff.mp closes
            have next := joins root block outer opened closed body start right joined
            have length : outer.length = _ := Nat.succ.inj count
            cases outer with
            | nil => exact inductionHypothesis _ _ _ next further length
            | cons around outer => exact inductionHypothesis _ _ _ next further length
          · rw [closeFrom_of_lt (Nat.lt_of_not_le right)] at closes
            cases closes
            refine ⟨start, ?_⟩
            rintro _ ⟨⟩
            exact Nat.lt_of_not_le right

/-- The outline with other counts of blocks. -/
def recount (outline : Outline) (opened closed : Nat) : Outline :=
  { outline with opened, closed }

/-- Whether closing the blocks at `indent` or further right leaves the blocks of `base`, the
innermost body being `body`. -/
def Settles (indent : Nat) (outline base : Outline) (body : List Statement) : Prop :=
  ∃ opened closed, outline.closeFrom indent = .ok ((base.withBody body).recount opened closed)

section

variable {indent : Nat} {outline base : Outline} {body : List Statement}

/-- Where all blocks stand to the left of `indent`, none is closed. -/
theorem IsLeftOf.closeFrom (left : base.IsLeftOf indent) : base.closeFrom indent = .ok base := by
  obtain ⟨root, blocks, opened, closed⟩ := base
  cases blocks with
  | nil => rfl
  | cons block outer => exact closeFrom_of_lt (left block rfl)

/-- If the innermost block stands to the left and inner blocks stand further right, all blocks stand
to the left. -/
theorem IsLeftOf.lt_of_mem_indents (left : base.IsLeftOf indent)
    (descending : base.indents.Pairwise (· > ·)) : ∀ inner ∈ base.indents, inner < indent := by
  obtain ⟨root, blocks, opened, closed⟩ := base
  cases blocks with
  | nil => exact nofun
  | cons block outer =>
      have first : block.indent < indent := left block rfl
      intro inner member
      rcases List.mem_cons.mp member with rfl | further
      · exact first
      · exact Nat.lt_trans (List.rel_of_pairwise_cons descending further) first

/-- Changing the innermost body and the counts leaves the blocks where they are. -/
theorem IsLeftOf.withBody (left : base.IsLeftOf indent) (body : List Statement)
    (opened closed : Nat) : ((base.withBody body).recount opened closed).IsLeftOf indent := by
  obtain ⟨root, blocks, _, _⟩ := base
  cases blocks with
  | nil => exact nofun
  | cons block outer =>
      rintro _ ⟨⟩
      exact left block rfl

/-- Changing the innermost body leaves the blocks the loops they are. -/
theorem inLoop_withBody (base : Outline) (body : List Statement) :
    (base.withBody body).inLoop = base.inLoop := by
  obtain ⟨root, blocks, opened, closed⟩ := base
  cases blocks <;> rfl

/-- The last body that an outline is given counts. -/
theorem withBody_recount (base : Outline) (first second : List Statement) (opened closed : Nat) :
    ((base.withBody first).recount opened closed).withBody second =
      (base.withBody second).recount opened closed := by
  obtain ⟨root, blocks, _, _⟩ := base
  cases blocks <;> rfl

/-- A header opens a block behind the blocks that its line closes. -/
theorem place_of_header {line : SourceLine} {header : Header} {closed : Outline}
    (closes : outline.closeFrom line.indent = .ok closed)
    (parsed : line.parsed = .ok (.header header)) :
    outline.place line = closed.openBlock line header := by
  unfold SourceLine.parsed at parsed
  rw [place, closes, parsed]
  rfl

/-- A statement is added behind the blocks that its line closes. -/
theorem place_of_simple {line : SourceLine} {statement : Statement} {closed : Outline}
    (closes : outline.closeFrom line.indent = .ok closed)
    (parsed : line.parsed = .ok (.simple statement)) :
    outline.place line = closed.addStatement line statement := by
  unfold SourceLine.parsed at parsed
  rw [place, closes, parsed]
  rfl

/-- A line that says a simple statement adds it to the body. -/
theorem Settles.place_simple {line : SourceLine} {statement : Statement}
    (settles : Settles indent outline base body) (left : base.IsLeftOf indent)
    (parsed : line.parsed = .ok (.simple statement)) (here : line.indent = indent)
    (allowed : (loopWord? statement).isSome → base.inLoop) :
    ∃ after, outline.place line = .ok after ∧ Settles indent after base (statement :: body) := by
  obtain ⟨opened, closed, closes⟩ := settles
  have appended : ((base.withBody body).recount opened closed).append statement =
      (base.withBody (statement :: body)).recount opened closed := by
    obtain ⟨root, blocks, _, _⟩ := base
    cases blocks <;> rfl
  have added : ((base.withBody body).recount opened closed).addStatement line statement =
      .ok ((base.withBody (statement :: body)).recount opened closed) := by
    refine addStatement_eq_ok_iff.mpr ⟨fun control => ?_, appended.symm⟩
    exact (inLoop_withBody base body).trans (allowed control)
  refine ⟨_, ?_, opened, closed, (left.withBody (statement :: body) opened closed).closeFrom⟩
  rw [place_of_simple (here ▸ closes) parsed]
  exact added

/-- The outline with one more block. -/
def withBlock (outline : Outline) (block : OpenBlock) : Outline :=
  { outline with blocks := block :: outline.blocks }

/-- A block that is not to the left is closed into the body around it. -/
theorem closeFrom_withBlock {block : OpenBlock} {joined : List Statement} {opened closed : Nat}
    (left : base.IsLeftOf indent) (right : indent ≤ block.indent)
    (joins : block.joinTo body = .ok joined) :
    (((base.withBody body).withBlock block).recount opened closed).closeFrom indent =
      .ok ((base.withBody joined).recount opened (closed + 1)) := by
  have around : (withBlock (base.withBody body) block).recount opened closed =
      ⟨(base.withBody body).root, block :: (base.withBody body).blocks, opened, closed⟩ := rfl
  have inner :
      Outline.body ⟨(base.withBody body).root, (base.withBody body).blocks, opened, closed⟩ =
        body :=
    body_withBody base body
  rw [around, closeFrom_of_le right, inner, joins]
  change closeFrom indent (((base.withBody body).recount opened (closed + 1)).withBody joined) = _
  rw [withBody_recount]
  exact (left.withBody joined opened (closed + 1)).closeFrom

/-- A header opens a block, the lines behind it fill that, and closed it becomes part of the
body. -/
theorem Settles.place_block {further : Nat} {line : SourceLine} {header : Header}
    {lines : List SourceLine} {inside joined : List Statement}
    (settles : Settles indent outline base body) (left : base.IsLeftOf indent)
    (right : indent < further) (room : base.blocks.length < mostBlocks)
    (parsed : line.parsed = .ok (.header header)) (here : line.indent = indent)
    (attaches : header.isContinuation →
      ∃ chain earlier, body = .conditional chain :: earlier ∧ chain.isOpen)
    (joins : ∀ number, OpenBlock.joinTo ⟨indent, number, header, inside⟩ body = .ok joined)
    (fills : ∀ inner outline : Outline, inner.IsLeftOf further →
      inner.blocks.length = base.blocks.length + 1 →
      inner.inLoop = (header.isLoop || base.inLoop) → Settles further outline inner [] →
      ∃ after, lines.foldlM place outline = .ok after ∧ Settles further after inner inside) :
    ∃ after, (line :: lines).foldlM place outline = .ok after ∧
      Settles indent after base joined := by
  obtain ⟨opened, closed, closes⟩ := settles
  have opens : ((base.withBody body).recount opened closed).openBlock line header =
      .ok (((base.withBody body).withBlock ⟨indent, line.number, header, []⟩).recount
        (opened + 1) closed) := by
    have awaits : header.isContinuation →
        ((base.withBody body).recount opened closed).awaitsBranch := by
      intro isContinuation
      obtain ⟨chain, earlier, rfl, isOpen⟩ := attaches isContinuation
      have shown : ((base.withBody (.conditional chain :: earlier)).recount opened closed).body =
          .conditional chain :: earlier := body_withBody _ _
      rw [awaitsBranch, shown]
      exact isOpen
    have few : ((base.withBody body).recount opened closed).blocks.length < mostBlocks := by
      have same := length_blocks_withBody base body
      rw [recount, same]
      exact room
    refine openBlock_eq_ok_iff.mpr ⟨awaits, few, ?_⟩
    rw [here]
    rfl
  have innerLeft : ((base.withBody body).withBlock ⟨indent, line.number, header, []⟩).IsLeftOf
      further := by
    rintro _ ⟨⟩
    exact right
  have innerLoop : ((base.withBody body).withBlock ⟨indent, line.number, header, []⟩).inLoop =
      (header.isLoop || base.inLoop) :=
    congrArg (header.isLoop || ·) (inLoop_withBody base body)
  obtain ⟨after, placed, opened', closed', filled⟩ := fills _ _ innerLeft
    (congrArg (· + 1) (length_blocks_withBody base body)) innerLoop
    ⟨opened + 1, closed, (innerLeft.withBody [] (opened + 1) closed).closeFrom⟩
  refine ⟨after, ?_, opened', closed' + 1, ?_⟩
  · rw [List.foldlM_cons, place_of_header (here ▸ closes) parsed, opens]
    exact placed
  · rw [closeFrom_of_closeFrom (Nat.le_of_lt right) filled]
    exact closeFrom_withBlock left (Nat.le_refl indent) (joins line.number)

end

end Outline

/-! ### Lines of a program -/

/-- Whether some lines say what is read, each with `width` blanks for every block around it. -/
def Writes (width : Nat) (lines : List SourceLine) (reading : List (Line × Nat)) : Prop :=
  lines.map (fun line => (line.parsed, line.indent)) =
    reading.map fun placed => (.ok placed.1, width * placed.2)

namespace Writes

variable {width depth : Nat} {lines : List SourceLine} {said : Line} {later : List (Line × Nat)}

/-- If lines say what is read, the first line says what is read first. -/
theorem of_cons (writes : Writes width lines ((said, depth) :: later)) :
    ∃ line more, lines = line :: more ∧ line.parsed = .ok said ∧ line.indent = width * depth ∧
      Writes width more later := by
  obtain ⟨line, more, rfl, first, rest⟩ := List.map_eq_cons_iff.mp writes
  obtain ⟨parsed, indent⟩ := Prod.mk.inj first
  exact ⟨line, more, rfl, parsed, indent, rest⟩

/-- Lines that say one thing after another are those for the first and then those for the second. -/
theorem of_append {first second : List (Line × Nat)}
    (writes : Writes width lines (first ++ second)) :
    ∃ before after, lines = before ++ after ∧ Writes width before first ∧
      Writes width after second := by
  rw [Writes, List.map_append] at writes
  exact List.map_eq_append_iff.mp writes

/-- Lines that say nothing are no lines. -/
theorem eq_nil (writes : Writes width lines []) : lines = [] :=
  List.map_eq_nil_iff.mp writes

end Writes

namespace Outline

variable {width : Nat}

/-- Whether lines that are read so make a body longer: wherever the lines can be placed, a settled
outline with the one body becomes one with the other. -/
def Adds (width depth : Nat) (placeable : Nat → Bool → Prop) (reading : List (Line × Nat))
    (body joined : List Statement) : Prop :=
  ∀ (room : Nat) (outline base : Outline) (lines : List SourceLine),
    placeable room base.inLoop → base.blocks.length + room ≤ mostBlocks →
    base.IsLeftOf (width * depth) → Settles (width * depth) outline base body →
    Writes width lines reading →
    ∃ after, lines.foldlM place outline = .ok after ∧ Settles (width * depth) after base joined

namespace Adds

variable {depth : Nat} {body middle joined : List Statement}

/-- No lines leave a body as it is. -/
theorem nil (placeable : Nat → Bool → Prop) : Adds width depth placeable [] body body := by
  intro room outline base lines _ _ _ settles writes
  obtain rfl := writes.eq_nil
  exact ⟨outline, rfl, settles⟩

/-- Lines behind others add to the body that these have made. -/
theorem append {first second : Nat → Bool → Prop} {before after : List (Line × Nat)}
    (firstAdds : Adds width depth first before body middle)
    (secondAdds : Adds width depth second after middle joined) :
    Adds width depth (fun room inLoop => first room inLoop ∧ second room inLoop) (before ++ after)
      body joined := by
  intro room outline base lines placeable few left settles writes
  obtain ⟨front, back, rfl, frontWrites, backWrites⟩ := writes.of_append
  obtain ⟨between, frontPlaced, frontSettles⟩ :=
    firstAdds room outline base front placeable.1 few left settles frontWrites
  obtain ⟨last, backPlaced, backSettles⟩ :=
    secondAdds room between base back placeable.2 few left frontSettles backWrites
  refine ⟨last, ?_, backSettles⟩
  rw [List.foldlM_append, frontPlaced]
  exact backPlaced

/-- The line of a simple statement adds it to the body. -/
theorem of_isSimple {statement : Statement} (simple : statement.isSimple) :
    Adds width depth (fun room inLoop => statement.IsPlaceable room inLoop)
      (statement.reading depth) body (statement :: body) := by
  intro room outline base lines placeable few left settles writes
  rw [Statement.reading_of_isSimple simple] at writes
  obtain ⟨line, more, rfl, parsed, here, rest⟩ := writes.of_cons
  obtain rfl := rest.eq_nil
  have allowed : (loopWord? statement).isSome → base.inLoop := by
    intro isLoopWord
    cases statement with
    | stop | next => exact placeable
    | assign | update | forEach | whileLoop | conditional | pass | expression => cases isLoopWord
  obtain ⟨after, placed, settled⟩ := settles.place_simple left parsed here allowed
  refine ⟨after, ?_, settled⟩
  rw [List.foldlM_cons, placed]
  rfl

/-- A header and the lines of its body add the block to the body around it. -/
theorem block (header : Header) {inside : List Statement} (positive : 0 < width)
    (fills : Adds width (depth + 1) (fun room inLoop => ArePlaceable room inLoop inside)
      (readingOf (depth + 1) inside) [] inside.reverse)
    (attaches : header.isContinuation →
      ∃ chain earlier, body = .conditional chain :: earlier ∧ chain.isOpen)
    (joins : ∀ number, OpenBlock.joinTo ⟨width * depth, number, header, inside.reverse⟩ body =
      .ok joined) :
    Adds width depth
      (fun room inLoop => 0 < room ∧ ArePlaceable (room - 1) (header.isLoop || inLoop) inside)
      ((.header header, depth) :: readingOf (depth + 1) inside) body joined := by
  intro room outline base lines placeable few left settles writes
  obtain ⟨line, more, rfl, parsed, here, rest⟩ := writes.of_cons
  obtain ⟨positiveRoom, insidePlaceable⟩ := placeable
  have right : width * depth < width * (depth + 1) := Nat.mul_lt_mul_of_pos_left (by omega) positive
  refine settles.place_block left right (by omega) parsed here attaches joins ?_
  intro inner opened innerLeft count innerLoop innerSettles
  exact fills (room - 1) opened inner more (innerLoop ▸ insidePlaceable) (by omega) innerLeft
    innerSettles rest

end Adds

mutual

/-- The lines of a statement add it to the body. -/
theorem adds_statement (positive : 0 < width) : (statement : Statement) →
    ∀ (depth : Nat) (body : List Statement),
      Adds width depth (fun room inLoop => statement.IsPlaceable room inLoop)
        (statement.reading depth) body (statement :: body)
  | .forEach target iterable inside, depth, body => by
      have fills := adds_body positive inside (depth + 1) []
      rw [List.append_nil] at fills
      exact .block (.forEach target iterable) positive fills nofun fun number => by
        simp [OpenBlock.joinTo]
  | .whileLoop condition inside, depth, body => by
      have fills := adds_body positive inside (depth + 1) []
      rw [List.append_nil] at fills
      exact .block (.whileLoop condition) positive fills nofun fun number => by
        simp [OpenBlock.joinTo]
  | .conditional (.branch condition inside rest), depth, body => by
      have fills := adds_body positive inside (depth + 1) []
      rw [List.append_nil] at fills
      have first : Adds width depth _ _ body
          (.conditional (.branch condition inside .done) :: body) :=
        .block (.branch condition) positive fills nofun fun number => by simp [OpenBlock.joinTo]
      have whole : (Chain.branch condition inside .done).extend? rest =
          some (.branch condition inside rest) := rfl
      have both := first.append (adds_chain positive rest depth body rfl whole)
      intro room outline base lines placeable
      exact both room outline base lines placeable.2
  | .conditional .done, _, _ => fun _ _ _ _ placeable => nomatch placeable.1
  | .conditional (.otherwise _), _, _ => fun _ _ _ _ placeable => nomatch placeable.1
  | .assign .., _, _ | .update .., _, _ | .stop, _, _ | .next, _, _ | .pass, _, _
  | .expression _, _, _ => .of_isSimple rfl

/-- The lines of further branches make the conditional statement at the end of the body longer. -/
theorem adds_chain (positive : 0 < width) : (rest : Chain) →
    ∀ (depth : Nat) {chain longer : Chain} (earlier : List Statement),
      chain.isOpen → chain.extend? rest = some longer →
      Adds width depth (fun room inLoop => rest.IsPlaceable room inLoop)
        (rest.reading depth Header.elseBranch) (.conditional chain :: earlier)
        (.conditional longer :: earlier)
  | .done, depth, chain, longer, earlier, isOpen, extended => by
      rw [Chain.extend?_done isOpen] at extended
      cases extended
      exact .nil _
  | .otherwise inside, depth, chain, longer, earlier, isOpen, extended => by
      have fills := adds_body positive inside (depth + 1) []
      rw [List.append_nil] at fills
      refine .block .otherwise positive fills (fun _ => ⟨chain, earlier, rfl, isOpen⟩) ?_
      simp [OpenBlock.joinTo, OpenBlock.extendChain, extended]
  | .branch condition inside rest, depth, chain, longer, earlier, isOpen, extended => by
      have fills := adds_body positive inside (depth + 1) []
      rw [List.append_nil] at fills
      rw [Chain.extend?_branch] at extended
      obtain ⟨middle, extension, further⟩ := Option.bind_eq_some_iff.mp extended
      have first : Adds width depth _ _ (.conditional chain :: earlier)
          (.conditional middle :: earlier) :=
        .block (.elseBranch condition) positive fills (fun _ => ⟨chain, earlier, rfl, isOpen⟩)
          fun number => by simp [OpenBlock.joinTo, OpenBlock.extendChain, extension]
      exact first.append
        (adds_chain positive rest depth earlier (Chain.isOpen_of_extend? extension) further)

/-- The lines of statements one after the other add them to the body. -/
theorem adds_body (positive : 0 < width) : (statements : List Statement) →
    ∀ (depth : Nat) (body : List Statement),
      Adds width depth (fun room inLoop => ArePlaceable room inLoop statements)
        (readingOf depth statements) body (statements.reverse ++ body)
  | [], _, _ => .nil _
  | statement :: later, depth, body => by
      have first := adds_statement positive statement depth body
      have rest := adds_body positive later depth (statement :: body)
      rw [List.reverse_cons, List.append_assoc]
      exact first.append rest

end

end Outline

end Offside
