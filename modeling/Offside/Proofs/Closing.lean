import Offside.Proofs.Preorder

/-!
# What closing and placing do to an outline

`Outline.reading` reads an outline as the lines that made it up, those of its
open blocks last. A block that is closed becomes part of the body around it
without a change to that reading, and a line that is placed is added to its end.
`closeFrom_spec` and `place_spec` say all that the two steps do to the reading,
to the indents of the open blocks and to the counts of blocks.
-/

namespace Offside

/-- Every conditional statement of a body has a branch, so that more of its branches are not
taken for the first one. -/
def IsBranched (body : List Statement) : Prop :=
  ∀ chain, .conditional chain ∈ body → chain.hasBranch = true

/-- A body stays branched when a statement that is a line by itself is added. -/
theorem IsBranched.cons_of_isSimple {body : List Statement} (branched : IsBranched body)
    {statement : Statement} (simple : statement.isSimple) : IsBranched (statement :: body) := by
  intro chain member
  rcases List.mem_cons.mp member with rfl | earlier
  · simp [Statement.isSimple] at simple
  · exact branched chain earlier

namespace OpenBlock

/-- A chain is extended where the body ends in an open one, and nowhere else. -/
theorem extendChain_eq_ok_iff {block : OpenBlock} {rest : Chain} {around body : List Statement} :
    block.extendChain rest around = .ok body ↔
      ∃ chain earlier longer, around = .conditional chain :: earlier ∧
        chain.extend? rest = some longer ∧ body = .conditional longer :: earlier := by
  constructor
  · intro extended
    unfold extendChain at extended
    split at extended
    · next chain earlier =>
        split at extended
        · next longer found => exact ⟨chain, earlier, longer, rfl, found, by simp_all⟩
        · simp at extended
    · simp at extended
  · rintro ⟨chain, earlier, longer, rfl, found, rfl⟩
    simp [extendChain, found]

/-- A closed block either becomes a statement of its own at the end of the body around it, or
makes the chain at that end longer. -/
theorem joinTo_eq_ok {block : OpenBlock} {around body : List Statement}
    (joined : block.joinTo around = .ok body) :
    (∃ statement, body = statement :: around ∧
      (∀ depth, statement.reading depth =
        (.header block.header, depth) :: readingOf (depth + 1) block.body.reverse) ∧
      ∀ chain, statement = .conditional chain → chain.hasBranch) ∨
    ∃ chain rest earlier longer, around = .conditional chain :: earlier ∧
      chain.extend? rest = some longer ∧ body = .conditional longer :: earlier ∧
      ∀ depth, rest.reading depth Header.elseBranch =
        (.header block.header, depth) :: readingOf (depth + 1) block.body.reverse := by
  unfold joinTo at joined
  split at joined
  · next target iterable shape =>
      cases joined
      exact .inl ⟨_, rfl, fun depth => by rw [Statement.reading, shape], by simp⟩
  · next condition shape =>
      cases joined
      exact .inl ⟨_, rfl, fun depth => by rw [Statement.reading, shape], by simp⟩
  · next condition shape =>
      cases joined
      refine .inl ⟨_, rfl, fun depth => by simp [Statement.reading, Chain.reading, shape], ?_⟩
      rintro chain ⟨rfl⟩
      rfl
  · next condition shape =>
      obtain ⟨chain, earlier, longer, at_end, found, rfl⟩ := extendChain_eq_ok_iff.mp joined
      exact .inr ⟨chain, _, earlier, longer, at_end, found, rfl,
        fun depth => by simp [Chain.reading, shape]⟩
  · next shape =>
      obtain ⟨chain, earlier, longer, at_end, found, rfl⟩ := extendChain_eq_ok_iff.mp joined
      exact .inr ⟨chain, _, earlier, longer, at_end, found, rfl,
        fun depth => by rw [Chain.reading, shape]⟩

/-- Joining a block to the body around it reads its header and its body at the end. -/
theorem reading_joinTo {block : OpenBlock} {around body : List Statement}
    (joined : block.joinTo around = .ok body) (branched : IsBranched around) (depth : Nat) :
    readingOf depth body.reverse = readingOf depth around.reverse ++
      (.header block.header, depth) :: readingOf (depth + 1) block.body.reverse := by
  rcases joinTo_eq_ok joined with
    ⟨statement, rfl, lines, _⟩ | ⟨chain, rest, earlier, longer, rfl, extended, rfl, lines⟩
  · rw [readingOf_reverse_cons, lines]
  · have nonempty : chain.hasBranch := branched chain (by simp)
    rw [readingOf_reverse_cons, readingOf_reverse_cons, Statement.reading, Statement.reading,
      Chain.reading_extend? depth extended nonempty, lines, List.append_assoc]

/-- A branched body stays branched when a block is joined to it. -/
theorem isBranched_joinTo {block : OpenBlock} {around body : List Statement}
    (joined : block.joinTo around = .ok body) (branched : IsBranched around) : IsBranched body := by
  intro chain member
  rcases joinTo_eq_ok joined with
    ⟨statement, rfl, _, rooted⟩ | ⟨shorter, rest, earlier, longer, rfl, extended, rfl, _⟩
  · rcases List.mem_cons.mp member with same | earlier
    · exact rooted chain same.symm
    · exact branched chain earlier
  · rcases List.mem_cons.mp member with same | before
    · cases same
      exact Chain.hasBranch_extend? extended (branched shorter (by simp))
    · exact branched chain (by simp [before])

end OpenBlock

namespace Outline

/-- The lines of open blocks, innermost first. -/
def blocksReading : List OpenBlock → List (Line × Nat)
  | [] => []
  | block :: outer =>
      blocksReading outer ++
        (.header block.header, outer.length) :: readingOf (outer.length + 1) block.body.reverse

/-- The lines of an outline, each with the number of blocks around it. -/
def reading (outline : Outline) : List (Line × Nat) :=
  readingOf 0 outline.root.reverse ++ blocksReading outline.blocks

/-- The indents of the open blocks, innermost first. -/
def indents (outline : Outline) : List Nat :=
  outline.blocks.map (·.indent)

/-- All bodies of an outline that may still grow are branched. -/
structure HasBranches (outline : Outline) : Prop where
  root : IsBranched outline.root
  blocks : ∀ block ∈ outline.blocks, IsBranched block.body

/-- All that closing the blocks at `indent` or further right does. -/
structure ClosesTo (indent : Nat) (before after : Outline) : Prop where
  reading : after.reading = before.reading
  branches : after.HasBranches
  indents : after.indents = before.indents.dropWhile (indent ≤ ·)
  opened : after.opened = before.opened
  balance : after.closed + after.blocks.length = before.closed + before.blocks.length

/-- Where no open block stands at `indent` or further right, closing changes nothing. -/
theorem ClosesTo.refl {indent : Nat} {outline : Outline} (branches : outline.HasBranches)
    (inside : ∀ block ∈ outline.blocks.head?, block.indent < indent) :
    ClosesTo indent outline outline where
  reading := rfl
  branches := branches
  indents := by
    obtain ⟨root, blocks, opened, closed⟩ := outline
    cases blocks with
    | nil => rfl
    | cons block outer =>
        have outside : ¬ indent ≤ block.indent := Nat.not_le_of_lt (inside block (by simp))
        simp [Outline.indents, outside]
  opened := rfl
  balance := rfl

/-- `closeBlock` closes blocks as `ClosesTo` says, starting with the innermost one. -/
theorem closeBlock_spec {indent : Nat} {outline after : Outline} {block : OpenBlock}
    {outer : List OpenBlock}
    (branches : HasBranches { outline with blocks := block :: outer })
    (closes : closeBlock indent outline block outer = .ok after) :
    ClosesTo indent { outline with blocks := block :: outer } after := by
  induction outer generalizing outline block with
  | nil =>
      unfold closeBlock at closes
      split at closes
      · next within =>
          obtain ⟨root, joined, result⟩ := bind_eq_ok_iff.mp closes
          cases result
          exact {
            reading := by
              simp [reading, blocksReading, OpenBlock.reading_joinTo joined branches.root]
            branches := ⟨OpenBlock.isBranched_joinTo joined branches.root, by simp⟩
            indents := by simp [indents, within]
            opened := rfl
            balance := by simp }
      · next outside =>
          cases closes
          exact .refl branches (by simpa using outside)
  | cons around outer inductionHypothesis =>
      unfold closeBlock at closes
      split at closes
      · next within =>
          obtain ⟨body, joined, later⟩ := bind_eq_ok_iff.mp closes
          have branched : IsBranched around.body := branches.blocks around (by simp)
          have grown : HasBranches
              { outline with closed := outline.closed + 1
                             blocks := { around with body } :: outer } := by
            refine ⟨branches.root, fun other member => ?_⟩
            rcases List.mem_cons.mp member with rfl | further
            · exact OpenBlock.isBranched_joinTo joined branched
            · exact branches.blocks other (by simp [further])
          have rest := inductionHypothesis grown later
          exact {
            reading := by
              rw [rest.reading]
              simp [reading, blocksReading, OpenBlock.reading_joinTo joined branched]
            branches := rest.branches
            indents := by
              rw [rest.indents]
              simp [indents, within]
            opened := rest.opened
            balance := by
              have counts := rest.balance
              simp only [List.length_cons] at counts ⊢
              omega }
      · next outside =>
          cases closes
          exact .refl branches (by simpa using outside)

/-- `closeFrom` closes blocks as `ClosesTo` says. -/
theorem closeFrom_spec {indent : Nat} {outline after : Outline} (branches : outline.HasBranches)
    (closes : outline.closeFrom indent = .ok after) : ClosesTo indent outline after := by
  obtain ⟨root, blocks, opened, closed⟩ := outline
  cases blocks with
  | nil =>
      cases closes
      exact .refl branches (by simp)
  | cons block outer => exact closeBlock_spec branches closes

/-- The reading of an outline ends with the body that may still grow. -/
theorem reading_append {outline : Outline} {statement : Statement} (simple : statement.isSimple) :
    (outline.append statement).reading =
      outline.reading ++ [(.simple statement, outline.blocks.length)] := by
  obtain ⟨root, blocks, opened, closed⟩ := outline
  have line := Statement.reading_of_isSimple simple
  cases blocks with
  | nil => simp [append, withBody, body, reading, blocksReading, readingOf_append, readingOf, line]
  | cons block outer =>
      simp [append, withBody, body, reading, blocksReading, readingOf_append, readingOf, line]

/-- A statement that is a line by itself keeps all bodies branched. -/
theorem HasBranches.append {outline : Outline} (branches : outline.HasBranches)
    {statement : Statement} (simple : statement.isSimple) :
    (outline.append statement).HasBranches := by
  obtain ⟨root, blocks, opened, closed⟩ := outline
  cases blocks with
  | nil => exact ⟨branches.root.cons_of_isSimple simple, by simp [Outline.append, withBody]⟩
  | cons block outer =>
      refine ⟨branches.root, fun other member => ?_⟩
      rcases List.mem_cons.mp member with rfl | further
      · exact (branches.blocks block (by simp)).cons_of_isSimple simple
      · exact branches.blocks other (by simp [further])

/-- Adding a statement leaves the indents of the open blocks as they are. -/
@[simp]
theorem indents_append (outline : Outline) (statement : Statement) :
    (outline.append statement).indents = outline.indents := by
  obtain ⟨root, blocks, opened, closed⟩ := outline
  cases blocks <;> rfl

/-- Adding a statement opens no block. -/
@[simp]
theorem opened_append (outline : Outline) (statement : Statement) :
    (outline.append statement).opened = outline.opened := by
  obtain ⟨root, blocks, opened, closed⟩ := outline
  cases blocks <;> rfl

/-- Adding a statement closes no block. -/
@[simp]
theorem closed_append (outline : Outline) (statement : Statement) :
    (outline.append statement).closed = outline.closed := by
  obtain ⟨root, blocks, opened, closed⟩ := outline
  cases blocks <;> rfl

/-- Adding a statement leaves as many blocks open. -/
@[simp]
theorem length_blocks_append (outline : Outline) (statement : Statement) :
    (outline.append statement).blocks.length = outline.blocks.length :=
  outline.length_blocks_withBody (statement :: outline.body)

end Outline

namespace SourceLine

/-- What a line says by itself. -/
def parsed (line : SourceLine) : Except ParseError Line :=
  Line.ofText (String.ofList line.trimmed) line.number

end SourceLine

namespace Outline

/-- The indents of the open blocks that stand to the left of `indent`, innermost first. -/
def indentsLeftOf (indent : Nat) (outline : Outline) : List Nat :=
  outline.indents.dropWhile (indent ≤ ·)

/-- A block is opened exactly where its header does not dangle and there is room for it. -/
theorem openBlock_eq_ok_iff {line : SourceLine} {header : Header} {outline after : Outline} :
    outline.openBlock line header = .ok after ↔
      (header.isContinuation → outline.awaitsBranch) ∧ outline.blocks.length < mostBlocks ∧
        after = { outline with
          blocks := ⟨line.indent, line.number, header, []⟩ :: outline.blocks
          opened := outline.opened + 1 } := by
  unfold openBlock
  constructor
  · intro opens
    split at opens
    · cases opens
    · next attached =>
        split at opens
        · cases opens
        · next few =>
            cases opens
            exact ⟨by simpa using attached, Nat.lt_of_not_le few, rfl⟩
  · rintro ⟨attached, few, rfl⟩
    rw [if_neg (by simpa using attached), if_neg (Nat.not_le_of_lt few)]

/-- A statement is added exactly where it is allowed. -/
theorem addStatement_eq_ok_iff {line : SourceLine} {statement : Statement}
    {outline after : Outline} :
    outline.addStatement line statement = .ok after ↔
      ((loopWord? statement).isSome → outline.inLoop) ∧ after = outline.append statement := by
  unfold addStatement
  cases loopWord? statement with
  | none =>
      constructor
      · rintro ⟨⟩
        exact ⟨by simp, rfl⟩
      · rintro ⟨-, rfl⟩
        rfl
  | some word =>
      dsimp only
      constructor
      · intro adds
        split at adds
        · next inLoop =>
            cases adds
            exact ⟨fun _ => inLoop, rfl⟩
        · cases adds
      · rintro ⟨allowed, rfl⟩
        exact if_pos (allowed rfl)

/-- All that placing a line that reads as `said` does. -/
structure PlacesTo (line : SourceLine) (said : Line) (before after : Outline) : Prop where
  reading : after.reading = before.reading ++ [(said, (before.indentsLeftOf line.indent).length)]
  branches : after.HasBranches
  indents : after.indents =
    (if said.isHeader then [line.indent] else []) ++ before.indentsLeftOf line.indent
  opened : after.opened = before.opened + (if said.isHeader then 1 else 0)
  balance : after.closed + after.blocks.length =
    before.closed + before.blocks.length + (if said.isHeader then 1 else 0)

/-- A header that opens a block becomes the last line of the reading. -/
theorem openBlock_spec {line : SourceLine} {header : Header} {before closed after : Outline}
    (closing : ClosesTo line.indent before closed)
    (opens : closed.openBlock line header = .ok after) :
    PlacesTo line (.header header) before after := by
  obtain ⟨-, -, rfl⟩ := openBlock_eq_ok_iff.mp opens
  have depth : closed.blocks.length = (before.indentsLeftOf line.indent).length := by
    rw [indentsLeftOf, ← closing.indents, indents, List.length_map]
  exact {
    reading := by
      rw [← closing.reading, ← depth]
      simp [reading, blocksReading, readingOf]
    branches := by
      refine ⟨closing.branches.root, fun block member => ?_⟩
      rcases List.mem_cons.mp member with rfl | further
      · intro chain absent
        simp at absent
      · exact closing.branches.blocks block further
    indents := by
      rw [indentsLeftOf, ← closing.indents]
      simp [indents, Line.isHeader]
    opened := by simp [Line.isHeader, closing.opened]
    balance := by
      have counts := closing.balance
      simp only [List.length_cons, Line.isHeader, if_true]
      omega }

/-- A statement becomes the last line of the reading. -/
theorem addStatement_spec {line : SourceLine} {statement : Statement}
    {before closed after : Outline} (closing : ClosesTo line.indent before closed)
    (simple : statement.isSimple) (adds : closed.addStatement line statement = .ok after) :
    PlacesTo line (.simple statement) before after := by
  obtain ⟨-, rfl⟩ := addStatement_eq_ok_iff.mp adds
  have depth : closed.blocks.length = (before.indentsLeftOf line.indent).length := by
    rw [indentsLeftOf, ← closing.indents, indents, List.length_map]
  exact {
    reading := by rw [reading_append simple, closing.reading, depth]
    branches := closing.branches.append simple
    indents := by
      rw [indentsLeftOf, ← closing.indents]
      simp [Line.isHeader]
    opened := by simp [Line.isHeader, closing.opened]
    balance := by simpa [Line.isHeader] using closing.balance }

/-- A line that is placed says something, and is placed as `PlacesTo` says. -/
theorem place_spec {outline after : Outline} {line : SourceLine} (branches : outline.HasBranches)
    (placed : outline.place line = .ok after) :
    ∃ said, line.parsed = .ok said ∧ PlacesTo line said outline after := by
  obtain ⟨closed, closes, later⟩ := bind_eq_ok_iff.mp placed
  have closing := closeFrom_spec branches closes
  split at later
  · next header parsed => exact ⟨.header header, parsed, openBlock_spec closing later⟩
  · next statement parsed =>
      have simple := Line.isSimple_of_ofText parsed
      exact ⟨.simple statement, parsed, addStatement_spec closing simple later⟩
  · cases later

/-- What holds of some lines and an outline, and still holds when one more line is placed, holds
when lines are placed one after the other. -/
theorem foldlM_place_induction {motive : List SourceLine → Outline → Prop}
    (step : ∀ {lines : List SourceLine} {outline after : Outline} {line : SourceLine},
      motive lines outline → outline.place line = .ok after → motive (lines ++ [line]) after)
    (lines : List SourceLine) {more : List SourceLine} {outline after : Outline}
    (start : motive lines outline) (placed : more.foldlM place outline = .ok after) :
    motive (lines ++ more) after := by
  induction more generalizing outline lines with
  | nil =>
      cases placed
      rwa [List.append_nil]
  | cons line later inductionHypothesis =>
      rw [List.foldlM_cons] at placed
      obtain ⟨next, first, rest⟩ := bind_eq_ok_iff.mp placed
      have further := inductionHypothesis (lines ++ [line]) (step start first) rest
      rwa [List.append_assoc] at further

end Outline

end Offside
