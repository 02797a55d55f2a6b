import Offside.Proofs.Joining
import Offside.Proofs.Nesting
import Offside.Proofs.Placing

/-!
# Which chain a branch goes on with

A branch line goes on with the conditional statement at the end of the body it falls
in, and the blocks that its line closes decide what that is. `Statement.lags` counts
for every line of a program the lines since its chain was opened.
-/

namespace Offside

/-! ### Lines and the chains they belong to -/

mutual

/-- For every line of a statement, the number of lines since the chain it belongs to was opened;
that is none for a line that goes on with no chain. -/
def Statement.lags : Statement → List Nat
  | .forEach _ _ body | .whileLoop _ body => 0 :: lagsOf body
  | .conditional chain => chain.lags 0
  | .assign .. | .update .. | .stop | .next | .pass | .expression _ => [0]

/-- For every line of a chain that `since` lines precede in its statement, the number of lines since
the chain it belongs to was opened. -/
def Chain.lags (since : Nat) : Chain → List Nat
  | .done => []
  | .otherwise body => since :: lagsOf body
  | .branch _ body rest =>
      since :: lagsOf body ++ rest.lags (since + (1 + (lagsOf body).length))

/-- For every line of statements one after the other, the number of lines since the chain it belongs
to was opened; that is none for a line that goes on with no chain. -/
def lagsOf : List Statement → List Nat
  | [] => []
  | statement :: later => statement.lags ++ lagsOf later

end

/-- Whether two lines belong to one chain, that opened by the second. -/
def Attaches (lags : List Nat) (lines : List SourceLine) (line opener : SourceLine) : Prop :=
  ∃ index lag : Nat, lags[index]? = some lag ∧ lines[index]? = some line ∧
    lines[index - lag]? = some opener

/-- A line that is added at the end belongs to a chain as its lag says, and the lines before it
belong to the same chains as without it. -/
theorem attaches_append {lags : List Nat} {lines : List SourceLine}
    (length : lags.length = lines.length) (lag : Nat) (last line opener : SourceLine) :
    Attaches (lags ++ [lag]) (lines ++ [last]) line opener ↔
      Attaches lags lines line opener ∨
        line = last ∧ (lines ++ [last])[lines.length - lag]? = some opener := by
  constructor
  · rintro ⟨index, found, lagged, here, there⟩
    rcases Nat.lt_trichotomy index lines.length with before | rfl | behind
    · left
      rw [List.getElem?_append_left (by omega)] at lagged here there
      exact ⟨index, found, lagged, here, there⟩
    · right
      rw [← length, List.getElem?_concat_length] at lagged
      rw [List.getElem?_concat_length] at here
      cases lagged
      exact ⟨(Option.some.inj here).symm, there⟩
    · rw [List.getElem?_eq_none (by simp; omega)] at here
      cases here
  · rintro (⟨index, found, lagged, here, there⟩ | ⟨rfl, there⟩)
    · have inside : index < lines.length := (List.getElem?_eq_some_iff.mp here).1
      refine ⟨index, found, ?_, ?_, ?_⟩
      · rwa [List.getElem?_append_left (by omega)]
      · rwa [List.getElem?_append_left (by omega)]
      · rwa [List.getElem?_append_left (by omega)]
    · refine ⟨lines.length, lag, ?_, ?_, there⟩
      · rw [← length, List.getElem?_concat_length]
      · rw [List.getElem?_concat_length]

/-- The lines of statements one after the other belong to the chains of these. -/
theorem lagsOf_append (first second : List Statement) :
    lagsOf (first ++ second) = lagsOf first ++ lagsOf second := by
  induction first with
  | nil => rfl
  | cons statement later inductionHypothesis =>
      simp only [List.cons_append, lagsOf, inductionHypothesis, List.append_assoc]

/-- The lines of a statement that is added at the end come last. -/
theorem lagsOf_reverse_cons (statement : Statement) (earlier : List Statement) :
    lagsOf (statement :: earlier).reverse = lagsOf earlier.reverse ++ statement.lags := by
  rw [List.reverse_cons, lagsOf_append]
  simp only [lagsOf, List.append_nil]

/-- A statement that is a line by itself goes on with no chain. -/
theorem Statement.lags_of_isSimple {statement : Statement} (simple : statement.isSimple) :
    statement.lags = [0] := by
  cases statement <;> first | rfl | cases simple

namespace Chain

/-- A further piece of a chain belongs to it from its first line on. -/
theorem lags_extend? (rest : Chain) : ∀ {chain longer : Chain} (since : Nat),
    chain.extend? rest = some longer →
      longer.lags since = chain.lags since ++ rest.lags (since + (chain.lags since).length)
  | .done, longer, since, extended => by
      obtain rfl : rest = longer := Option.some.inj extended
      simp [lags]
  | .otherwise _, _, _, extended => nomatch extended
  | .branch condition body later, longer, since, extended => by
      obtain ⟨further, extension, rfl⟩ := Option.map_eq_some_iff.mp extended
      have tail := lags_extend? rest (since + (1 + (lagsOf body).length)) extension
      have sum : since + (1 + (lagsOf body).length) +
          (later.lags (since + (1 + (lagsOf body).length))).length =
          since + ((branch condition body later).lags since).length := by
        simp only [lags, List.length_append, List.length_cons]
        omega
      rw [lags, tail, sum, lags, List.append_assoc]

/-- A chain that ends with a body for the case that no condition holds is not open. -/
theorem isOpen_extend?_otherwise {body : List Statement} :
    ∀ {chain longer : Chain}, chain.extend? (.otherwise body) = some longer →
      longer.isOpen = false
  | .done, _, extended => by
      cases extended
      rfl
  | .otherwise _, _, extended => nomatch extended
  | .branch condition before later, _, extended => by
      obtain ⟨further, extension, rfl⟩ := Option.map_eq_some_iff.mp extended
      change further.isOpen = false
      exact isOpen_extend?_otherwise extension

end Chain

/-- Whether more branches can follow the block of a header. -/
def Header.awaitsBranch : Header → Bool
  | .branch _ | .elseBranch _ => true
  | .forEach .. | .whileLoop _ | .otherwise => false

/-- The number of lines of the statement at the end of a body, whose latest statement is first. -/
def lastLength : List Statement → Nat
  | [] => 0
  | statement :: _ => statement.lags.length

/-- Whether the statement at the end of a body has room for a branch. -/
def endsOpen : List Statement → Bool
  | .conditional chain :: _ => chain.isOpen
  | _ => false

/-- The lag of a header that opens a block at the end of a body. -/
def Header.lag (header : Header) (around : List Statement) : Nat :=
  if header.isContinuation then lastLength around else 0

namespace OpenBlock

/-- All that joining a block does to the body around it, as far as chains are concerned. -/
structure Continues (block : OpenBlock) (around body : List Statement) : Prop where
  lags : lagsOf body.reverse =
    lagsOf around.reverse ++ block.header.lag around :: lagsOf block.body.reverse
  lastLength : lastLength body = block.header.lag around + (1 + (lagsOf block.body.reverse).length)
  endsOpen : endsOpen body = block.header.awaitsBranch

/-- A block that begins a statement of its own goes on with no chain. -/
theorem Continues.of_cons {block : OpenBlock} {around : List Statement} {statement : Statement}
    (alone : block.header.isContinuation = false)
    (lags : statement.lags = 0 :: lagsOf block.body.reverse)
    (endsOpen : Offside.endsOpen (statement :: around) = block.header.awaitsBranch) :
    block.Continues around (statement :: around) where
  lags := by rw [lagsOf_reverse_cons, lags, Header.lag, alone]; rfl
  lastLength := by
    rw [Header.lag, alone, Offside.lastLength, lags, List.length_cons]
    simp [Nat.add_comm]
  endsOpen := endsOpen

/-- A block that makes a chain longer goes on with that. -/
theorem Continues.of_extend? {block : OpenBlock} {chain rest longer : Chain}
    {earlier : List Statement} (further : block.header.isContinuation)
    (extended : chain.extend? rest = some longer)
    (lags : ∀ since, rest.lags since = since :: lagsOf block.body.reverse)
    (isOpen : longer.isOpen = block.header.awaitsBranch) :
    block.Continues (.conditional chain :: earlier) (.conditional longer :: earlier) := by
  have lag : block.header.lag (.conditional chain :: earlier) = (chain.lags 0).length :=
    if_pos further
  have whole := Chain.lags_extend? rest 0 extended
  rw [Nat.zero_add, lags] at whole
  exact {
    lags := by
      rw [lag, lagsOf_reverse_cons, lagsOf_reverse_cons, Statement.lags, Statement.lags, whole,
        List.append_assoc]
    lastLength := by
      rw [lag, Offside.lastLength, Statement.lags, whole, List.length_append, List.length_cons]
      omega
    endsOpen := isOpen }

/-- A block is joined as `Continues` says. -/
theorem continues_of_joinTo {block : OpenBlock} {around body : List Statement}
    (joined : block.joinTo around = .ok body) : block.Continues around body := by
  unfold joinTo at joined
  split at joined
  · next target iterable shape =>
      cases joined
      exact .of_cons (by rw [shape]; rfl) (by rw [Statement.lags]) (by rw [shape]; rfl)
  · next condition shape =>
      cases joined
      exact .of_cons (by rw [shape]; rfl) (by rw [Statement.lags]) (by rw [shape]; rfl)
  · next condition shape =>
      cases joined
      refine .of_cons (by rw [shape]; rfl) ?_ (by rw [shape]; rfl)
      rw [Statement.lags, Chain.lags, Chain.lags, List.append_nil]
  · next condition shape =>
      obtain ⟨chain, earlier, longer, rfl, extended, rfl⟩ := extendChain_eq_ok_iff.mp joined
      refine .of_extend? (by rw [shape]; rfl) extended (fun since => ?_) ?_
      · rw [Chain.lags, Chain.lags, List.append_nil]
      · rw [shape]
        exact Chain.isOpen_of_extend? extended
  · next shape =>
      obtain ⟨chain, earlier, longer, rfl, extended, rfl⟩ := extendChain_eq_ok_iff.mp joined
      refine .of_extend? (by rw [shape]; rfl) extended (fun since => by rw [Chain.lags]) ?_
      rw [shape]
      exact Chain.isOpen_extend?_otherwise extended

end OpenBlock

/-! ### Outlines -/

/-- Where an open block stands among the lines: how many precede its header, how many of these
belong to the chain that the header goes on with, its indent and its header. -/
structure Mark where
  position : Nat
  lag : Nat
  indent : Nat
  header : Header

namespace Outline

/-- The lags of the lines of open blocks, innermost first, and of the lines around them. -/
def blockLags (root : List Statement) : List OpenBlock → List Nat
  | [] => lagsOf root.reverse
  | block :: outer =>
      blockLags root outer ++
        block.header.lag (body ⟨root, outer, 0, 0⟩) :: lagsOf block.body.reverse

/-- The lags of the lines of an outline. -/
def lags (outline : Outline) : List Nat :=
  blockLags outline.root outline.blocks

/-- Where open blocks stand, innermost first. -/
def blockMarks (root : List Statement) : List OpenBlock → List Mark
  | [] => []
  | block :: outer =>
      ⟨(blockLags root outer).length, block.header.lag (body ⟨root, outer, 0, 0⟩), block.indent,
        block.header⟩ :: blockMarks root outer

/-- Where the open blocks of an outline stand. -/
def marks (outline : Outline) : List Mark :=
  blockMarks outline.root outline.blocks

/-- There are as many marks as open blocks. -/
theorem length_marks (outline : Outline) : outline.marks.length = outline.blocks.length := by
  obtain ⟨root, blocks, opened, closed⟩ := outline
  simp only [marks]
  induction blocks with
  | nil => rfl
  | cons block outer inductionHypothesis =>
      rw [blockMarks, List.length_cons, List.length_cons, inductionHypothesis]

/-- The marks stand where the open blocks do. -/
theorem map_indent_marks (outline : Outline) : outline.marks.map (·.indent) = outline.indents := by
  obtain ⟨root, blocks, opened, closed⟩ := outline
  simp only [marks, indents]
  induction blocks with
  | nil => rfl
  | cons block outer inductionHypothesis =>
      rw [blockMarks, List.map_cons, List.map_cons, inductionHypothesis]

/-- The lag of a header is found at its place. -/
theorem lags_of_mem_marks {outline : Outline} {mark : Mark} (member : mark ∈ outline.marks) :
    outline.lags[mark.position]? = some mark.lag := by
  obtain ⟨root, blocks, opened, closed⟩ := outline
  simp only [marks, lags] at member ⊢
  induction blocks with
  | nil => cases member
  | cons block outer inductionHypothesis =>
      rcases List.mem_cons.mp member with rfl | further
      · simp [blockLags]
      · have here := inductionHypothesis further
        have inside := (List.getElem?_eq_some_iff.mp here).1
        rw [blockLags, List.getElem?_append_left inside, here]

/-- A header that goes on with no chain has no lag. -/
theorem lag_of_mem_marks {outline : Outline} {mark : Mark} (member : mark ∈ outline.marks)
    (alone : mark.header.isContinuation = false) : mark.lag = 0 := by
  obtain ⟨root, blocks, opened, closed⟩ := outline
  simp only [marks] at member
  induction blocks with
  | nil => cases member
  | cons block outer inductionHypothesis =>
      rcases List.mem_cons.mp member with rfl | further
      · exact if_neg (by simp [alone])
      · exact inductionHypothesis further

/-- When a body gets further lines at its end, so does the outline whose innermost body it is. -/
theorem lags_withBody {outline : Outline} {body : List Statement} {further : List Nat}
    (longer : lagsOf body.reverse = lagsOf outline.body.reverse ++ further) :
    (outline.withBody body).lags = outline.lags ++ further := by
  obtain ⟨root, blocks, opened, closed⟩ := outline
  cases blocks with
  | nil => exact longer
  | cons block outer =>
      have longer : lagsOf body.reverse = lagsOf block.body.reverse ++ further := longer
      simp only [lags, withBody, blockLags, longer, List.append_assoc, List.cons_append]

/-- Changing the innermost body leaves the open blocks where they are. -/
theorem marks_withBody (outline : Outline) (body : List Statement) :
    (outline.withBody body).marks = outline.marks := by
  obtain ⟨root, blocks, opened, closed⟩ := outline
  cases blocks <;> rfl

/-- Whether an outline ends with the statement that a block has become part of: a branch that is
added there goes on with the chain of that block, if there is room for one. -/
structure EndsWith (outline : Outline) (mark : Mark) : Prop where
  opener : outline.lags.length - lastLength outline.body = mark.position - mark.lag
  awaitsBranch : outline.awaitsBranch = mark.header.awaitsBranch

/-- All that closing the blocks at `indent` or further right does to chains: the lines belong to
those they belonged to, and if a block is closed, the outline ends with the outermost one. -/
structure KeepsChains (indent : Nat) (before after : Outline) : Prop where
  lags : after.lags = before.lags
  ends : after = before ∨ ∃ mark,
    mark :: after.marks <:+ before.marks ∧ indent ≤ mark.indent ∧ after.EndsWith mark

/-- Closing keeps chains. -/
theorem keepsChains_closeFrom {indent : Nat} {outline after : Outline}
    (closes : outline.closeFrom indent = .ok after) :
    KeepsChains indent outline after ∧ after.IsLeftOf indent := by
  have start : KeepsChains indent outline outline := ⟨rfl, .inl rfl⟩
  refine closeFrom_induction start closes ?_
  rintro root block outer opened closed joined ⟨sameLags, how⟩ right joins
  let around : Outline := ⟨root, outer, opened, closed + 1⟩
  have continues : block.Continues around.body joined := OpenBlock.continues_of_joinTo joins
  let mark : Mark := ⟨(blockLags root outer).length, block.header.lag around.body, block.indent,
    block.header⟩
  have lags : (around.withBody joined).lags = outline.lags := by
    rw [lags_withBody continues.lags, ← sameLags]
    rfl
  have whole : mark :: around.marks <:+ outline.marks := by
    rcases how with rfl | ⟨inner, isSuffix, -, -⟩
    · exact List.suffix_refl _
    · exact (List.suffix_cons inner _).trans isSuffix
  refine ⟨lags, .inr ⟨mark, ?_, right, ?_, ?_⟩⟩
  · rw [marks_withBody]
    exact whole
  · have length : (around.withBody joined).lags.length =
        (blockLags root outer).length + (1 + (lagsOf block.body.reverse).length) := by
      rw [lags_withBody continues.lags, List.length_append, List.length_cons,
        Nat.add_comm 1]
      rfl
    rw [body_withBody, continues.lastLength, length]
    exact Nat.add_sub_add_right _ _ _
  · have ends : (around.withBody joined).awaitsBranch =
        endsOpen (around.withBody joined).body := rfl
    rw [ends, body_withBody]
    exact continues.endsOpen

end Outline

/-! ### Lines -/

/-- The header that a line says, if it says one. -/
def Line.header? : Line → Option Header
  | .header found => some found
  | .simple _ => none

namespace SourceLine

/-- The header that stands on a line, if there is one. -/
def header? (line : SourceLine) : Option Header :=
  match line.parsed with
  | .ok said => said.header?
  | .error _ => none

/-- Whether a line goes on with a chain. -/
def isContinuation (line : SourceLine) : Bool :=
  line.header?.any (·.isContinuation)

/-- Whether a line opens a chain. -/
def opensChain (line : SourceLine) : Prop :=
  ∃ condition, line.header? = some (.branch condition)

/-- Whether there is room for a branch where a line stands: of the blocks that the line closes, the
outermost one is a branch that others can follow. -/
def rejoins (line : SourceLine) (earlier : List SourceLine) : Bool :=
  ((openHeaders earlier).find? (line.indent ≤ ·.indent)).any fun header =>
    header.header?.any (·.awaitsBranch)

/-- Whether every line that goes on with a chain stands at the indent of a block that is still open
there. -/
def AreAligned (lines : List SourceLine) : Prop :=
  ∀ earlier line later, lines = earlier ++ line :: later → line.isContinuation →
    line.indent ∈ openIndents earlier

/-- The header on a line is the one that the line says. -/
theorem header?_of_parsed {line : SourceLine} {said : Line} (parsed : line.parsed = .ok said) :
    line.header? = said.header? := by
  rw [header?, parsed]

/-- Exactly the headers are header lines. -/
theorem isSome_header? (line : SourceLine) : line.header?.isSome = line.isHeader := by
  unfold header? isHeader
  rcases line.parsed with error | said
  · rfl
  · cases said <;> rfl

/-- One more line is aligned or not, whatever the lines before it are. -/
theorem areAligned_append {lines : List SourceLine} {line : SourceLine} :
    AreAligned (lines ++ [line]) ↔
      AreAligned lines ∧ (line.isContinuation → line.indent ∈ openIndents lines) := by
  constructor
  · intro aligned
    refine ⟨fun earlier other later same => ?_, aligned lines line [] rfl⟩
    exact aligned earlier other (later ++ [line]) (by simp [same])
  · rintro ⟨aligned, last⟩ earlier other later same
    rcases List.eq_nil_or_concat later with rfl | ⟨front, final, rfl⟩
    · obtain ⟨rfl, rfl⟩ := List.append_singleton_inj.mp same
      exact last
    · have split : lines ++ [line] = (earlier ++ other :: front) ++ [final] := by simp [same]
      exact aligned earlier other front (List.append_singleton_inj.mp split).1

end SourceLine

namespace Outline

open SourceLine

/-- What is known of chains when some lines have been placed. -/
structure Traces (outline : Outline) (lines : List SourceLine) : Prop where
  length : outline.lags.length = lines.length
  /-- The last line is no branch that has ended. -/
  rests : outline.awaitsBranch = false
  few : outline.blocks.length ≤ mostBlocks
  stands : ∀ mark ∈ outline.marks, ∃ line, lines[mark.position]? = some line ∧
    line.indent = mark.indent ∧ line.header? = some mark.header
  headers : outline.marks.reverse.map (fun mark => (mark.indent, some mark.header)) =
    (openHeaders lines).map fun line => (line.indent, line.header?)
  /-- The lines of a chain stand no further right than the line that opened it. -/
  falls : ∀ line opener, Attaches outline.lags lines line opener →
    line.indent ≤ opener.indent ∧ (line.isContinuation → opener.opensChain)
  level : (∀ line opener, Attaches outline.lags lines line opener →
    line.indent = opener.indent) ↔ AreAligned lines

section

variable {outline closed : Outline} {lines : List SourceLine}

/-- Before any line there is nothing to know. -/
theorem traces_empty : Traces empty [] where
  length := rfl
  rests := rfl
  few := Nat.zero_le _
  stands := nofun
  headers := rfl
  falls := by
    rintro line opener ⟨index, lag, lagged, -⟩
    cases lagged
  level := by
    refine ⟨fun _ earlier line later same => ?_, fun _ line opener => ?_⟩
    · simp at same
    · rintro ⟨index, lag, lagged, -⟩
      cases lagged

/-- The marks of an outline stand at the indents of the open headers. -/
theorem Traces.indents (traces : outline.Traces lines) :
    outline.marks.reverse.map (·.indent) = openIndents lines := by
  have same := congrArg (List.map Prod.fst) traces.headers
  rw [List.map_map, List.map_map] at same
  rw [openIndents_eq_map]
  exact same

/-- Inner blocks stand further right. -/
theorem Traces.descending (traces : outline.Traces lines) :
    outline.marks.Pairwise (·.indent > ·.indent) := by
  have ascending := pairwise_openIndents lines
  rw [← traces.indents, List.pairwise_map, List.pairwise_reverse] at ascending
  exact ascending

/-- A line finds room for a branch at the outermost block that it closes. -/
theorem Traces.rejoins_eq (traces : outline.Traces lines) (line : SourceLine) :
    line.rejoins lines = (outline.marks.reverse.find? (line.indent ≤ ·.indent)).any
      (·.header.awaitsBranch) := by
  have found : ((openHeaders lines).map fun line => (line.indent, line.header?)).find?
      (line.indent ≤ ·.1) = (outline.marks.reverse.map fun mark =>
        (mark.indent, some mark.header)).find? (line.indent ≤ ·.1) := by rw [traces.headers]
  rw [List.find?_map, List.find?_map] at found
  have same := congrArg (Option.any fun pair => pair.2.any Header.awaitsBranch) found
  rw [Option.any_map, Option.any_map] at same
  exact same

/-- Where blocks are left open to the left of `indent`, all of them stand there. -/
theorem lt_of_mem_marks {indent : Nat} (left : closed.IsLeftOf indent)
    (descending : closed.marks.Pairwise (·.indent > ·.indent)) :
    ∀ mark ∈ closed.marks, mark.indent < indent := by
  have indents : closed.indents.Pairwise (· > ·) := by
    rw [← map_indent_marks, List.pairwise_map]
    exact descending
  intro mark member
  have stands : mark.indent ∈ closed.indents := by
    rw [← map_indent_marks]
    exact List.mem_map_of_mem member
  exact left.lt_of_mem_indents indents mark.indent stands

/-- What is known of chains when a line has closed the blocks that it does. -/
structure ClosesFor (line : SourceLine) (lines : List SourceLine) (before closed : Outline) :
    Prop where
  lags : closed.lags = before.lags
  marks : closed.marks = before.marks.filter (·.indent < line.indent)
  awaitsBranch : closed.awaitsBranch = line.rejoins lines
  /-- The chain at the end has been opened by a line that does not stand further left. -/
  opener : closed.awaitsBranch → closed.blocks.length < before.blocks.length ∧
    ∃ opener, lines[lines.length - lastLength closed.body]? = some opener ∧
      line.indent ≤ opener.indent ∧ opener.opensChain ∧ (AreAligned lines →
        (line.indent = opener.indent ↔ line.indent ∈ openIndents lines))

/-- Closing blocks for a line does as `ClosesFor` says. -/
theorem Traces.closesFor (traces : outline.Traces lines) {line : SourceLine}
    (closes : outline.closeFrom line.indent = .ok closed) :
    ClosesFor line lines outline closed := by
  obtain ⟨⟨lags, ends⟩, left⟩ := keepsChains_closeFrom closes
  have descending := traces.descending
  rcases ends with rfl | ⟨mark, ⟨inner, whole⟩, right, endsWith⟩
  · -- no block is closed, so the line stands in the body of the last line or behind it
    have low := lt_of_mem_marks left descending
    exact {
      lags := rfl
      marks := (List.filter_eq_self.mpr (by simpa using low)).symm
      awaitsBranch := by
        have none : closed.marks.reverse.find? (line.indent ≤ ·.indent) = none := by
          simpa using low
        rw [traces.rests, traces.rejoins_eq, none]
        rfl
      opener := fun awaits => by
        rw [traces.rests] at awaits
        cases awaits }
  · rw [← whole, List.pairwise_append] at descending
    obtain ⟨-, outerDescending, beyond⟩ := descending
    have low := lt_of_mem_marks left (List.pairwise_cons.mp outerDescending).2
    have further : ∀ other ∈ inner, mark.indent < other.indent := fun other member =>
      beyond other member mark (by simp)
    have member : mark ∈ outline.marks := by simp [← whole]
    exact {
      lags := lags
      marks := by
        have innerOut : inner.filter (·.indent < line.indent) = [] := by
          refine List.filter_eq_nil_iff.mpr fun other inside => ?_
          have above := further other inside
          simp only [decide_eq_true_eq]
          omega
        have markOut : ¬ mark.indent < line.indent := Nat.not_lt.mpr right
        rw [← whole, List.filter_append, innerOut, List.nil_append, List.filter_cons,
          if_neg (by simpa using markOut), List.filter_eq_self.mpr (by simpa using low)]
      awaitsBranch := by
        have noneOuter : closed.marks.reverse.find? (line.indent ≤ ·.indent) = none := by
          simpa using low
        have found : outline.marks.reverse.find? (line.indent ≤ ·.indent) = some mark := by
          rw [← whole, List.reverse_append, List.reverse_cons, List.append_assoc,
            List.find?_append, noneOuter]
          simp [right]
        rw [endsWith.awaitsBranch, traces.rejoins_eq, found]
        rfl
      opener := fun awaits => by
        obtain ⟨header, placed, same, shown⟩ := traces.stands mark member
        have inside := (List.getElem?_eq_some_iff.mp placed).1
        have bound : mark.position - mark.lag < lines.length := by omega
        have opened := List.getElem?_eq_getElem bound
        have attaches : Attaches outline.lags lines header lines[mark.position - mark.lag] :=
          ⟨mark.position, mark.lag, lags_of_mem_marks member, placed, opened⟩
        have count := congrArg List.length whole
        simp only [List.length_append, List.length_cons, length_marks] at count
        have falls := traces.falls _ _ attaches
        refine ⟨by omega, lines[mark.position - mark.lag], ?_, by omega, ?_, fun aligned => ?_⟩
        · rw [← traces.length, ← lags, endsWith.opener]
          exact opened
        · rw [endsWith.awaitsBranch] at awaits
          cases kind : mark.header with
          | branch condition =>
              have alone : mark.lag = 0 := lag_of_mem_marks member (by rw [kind]; rfl)
              have first : lines[mark.position - mark.lag] = header := by
                rw [List.getElem?_eq_getElem inside] at placed
                simpa [alone] using placed
              exact ⟨condition, by rw [first, shown, kind]⟩
          | elseBranch condition =>
              exact falls.2 (by rw [SourceLine.isContinuation, shown, kind]; rfl)
          | forEach | whileLoop | otherwise =>
              rw [kind] at awaits
              cases awaits
        · rw [← traces.level.mpr aligned _ _ attaches, same, ← traces.indents]
          constructor
          · intro here
            rw [here]
            exact List.mem_map_of_mem (List.mem_reverse.mpr member)
          · intro here
            obtain ⟨other, among, level⟩ := List.mem_map.mp here
            rw [List.mem_reverse, ← whole, List.mem_append, List.mem_cons] at among
            rcases among with among | rfl | among
            · have above := further other among
              omega
            · exact level.symm
            · have below := low other among
              omega }

/-- What a line adds to the lags and to the open blocks, when it goes on with the chain at the end
or with none. -/
structure AddsLine (line : SourceLine) (lines : List SourceLine) (closed after : Outline) :
    Prop where
  lags : after.lags = closed.lags ++ [if line.isContinuation then lastLength closed.body else 0]
  marks : after.marks = (line.header?.map fun header =>
    ⟨closed.lags.length, header.lag closed.body, line.indent, header⟩).toList ++ closed.marks
  rests : after.awaitsBranch = false
  few : after.blocks.length ≤ mostBlocks
  attached : line.isContinuation → closed.awaitsBranch

/-- One more line keeps what is known of chains. -/
theorem Traces.append {after : Outline} {line : SourceLine} (traces : outline.Traces lines)
    (closing : ClosesFor line lines outline closed) (adds : AddsLine line lines closed after) :
    after.Traces (lines ++ [line]) := by
  have count : closed.lags.length = lines.length := by rw [closing.lags, traces.length]
  have lags : after.lags =
      outline.lags ++ [if line.isContinuation then lastLength closed.body else 0] := by
    rw [adds.lags, closing.lags]
  have opener : ∀ opener, (lines ++ [line])[lines.length -
      if line.isContinuation then lastLength closed.body else 0]? = some opener →
        (line.indent ≤ opener.indent ∧ (line.isContinuation → opener.opensChain)) ∧
          (AreAligned lines → (line.indent = opener.indent ↔
            (line.isContinuation → line.indent ∈ openIndents lines))) := by
    intro opener found
    by_cases continues : line.isContinuation
    · obtain ⟨-, other, opened, falls, opens, level⟩ := closing.opener (adds.attached continues)
      have inside := (List.getElem?_eq_some_iff.mp opened).1
      rw [if_pos continues, List.getElem?_append_left inside, opened] at found
      cases found
      exact ⟨⟨falls, fun _ => opens⟩, fun aligned => by simpa [continues] using level aligned⟩
    · rw [if_neg continues, Nat.sub_zero, List.getElem?_concat_length] at found
      cases found
      exact ⟨⟨Nat.le_refl _, fun absurdly => absurd absurdly continues⟩,
        fun _ => by simp [continues]⟩
  exact {
    length := by rw [lags, List.length_append, List.length_append, traces.length]; rfl
    rests := adds.rests
    few := adds.few
    stands := by
      intro mark member
      rw [adds.marks, List.mem_append] at member
      rcases member with here | earlier
      · obtain ⟨header, shown, rfl⟩ : ∃ header, line.header? = some header ∧ _ = mark := by
          simpa using here
        refine ⟨line, ?_, rfl, shown⟩
        rw [count, List.getElem?_concat_length]
      · rw [closing.marks] at earlier
        obtain ⟨other, found, same⟩ := traces.stands mark (List.mem_filter.mp earlier).1
        have inside := (List.getElem?_eq_some_iff.mp found).1
        exact ⟨other, by rw [List.getElem?_append_left inside, found], same⟩
    headers := by
      have outer := congrArg (List.filter (·.1 < line.indent)) traces.headers
      rw [List.filter_map, List.filter_map, List.filter_reverse] at outer
      rw [adds.marks, closing.marks, openHeaders_append, List.reverse_append, List.map_append,
        List.map_append, ← isSome_header?]
      refine congr (congrArg _ outer) ?_
      cases shown : line.header? with
      | none => rfl
      | some header => simp [shown]
    falls := by
      intro other opened attaches
      rw [lags, attaches_append traces.length] at attaches
      rcases attaches with before | ⟨rfl, found⟩
      · exact traces.falls other opened before
      · exact (opener opened found).1
    level := by
      rw [areAligned_append, lags, ← traces.level]
      constructor
      · intro same
        have before : ∀ other opened, Attaches outline.lags lines other opened →
            other.indent = opened.indent := fun other opened attaches =>
          same other opened
            ((attaches_append traces.length _ line other opened).mpr (.inl attaches))
        refine ⟨before, fun continues => ?_⟩
        obtain ⟨-, other, opened, -, -, level⟩ := closing.opener (adds.attached continues)
        have inside := (List.getElem?_eq_some_iff.mp opened).1
        refine (level (traces.level.mp before)).mp (same line other ?_)
        refine (attaches_append traces.length _ line line other).mpr (.inr ⟨rfl, ?_⟩)
        rw [if_pos continues, List.getElem?_append_left inside, opened]
      · rintro ⟨before, last⟩ other opened attaches
        rw [attaches_append traces.length] at attaches
        rcases attaches with earlier | ⟨rfl, found⟩
        · exact before other opened earlier
        · exact ((opener opened found).2 (traces.level.mp before)).mpr last }

/-- A header that opens a block adds its line. -/
theorem addsLine_openBlock {line : SourceLine} {header : Header} {after : Outline}
    (parsed : line.parsed = .ok (.header header))
    (opens : closed.openBlock line header = .ok after) : AddsLine line lines closed after := by
  have shown : line.header? = some header := header?_of_parsed parsed
  have continues : line.isContinuation = header.isContinuation := by
    rw [SourceLine.isContinuation, shown]
    rfl
  obtain ⟨attached, few, rfl⟩ := openBlock_eq_ok_iff.mp opens
  exact {
    lags := by
      rw [continues]
      rfl
    marks := by
      rw [shown]
      rfl
    rests := rfl
    few := few
    attached := by simpa [continues] using attached }

/-- A statement adds its line. -/
theorem addsLine_addStatement {line : SourceLine} {statement : Statement} {after : Outline}
    (parsed : line.parsed = .ok (.simple statement)) (few : closed.blocks.length ≤ mostBlocks)
    (adds : closed.addStatement line statement = .ok after) :
    AddsLine line lines closed after := by
  have shown : line.header? = none := header?_of_parsed parsed
  have continues : line.isContinuation = false := by
    rw [SourceLine.isContinuation, shown]
    rfl
  have simple : statement.isSimple := Line.isSimple_of_ofText parsed
  obtain ⟨-, rfl⟩ := addStatement_eq_ok_iff.mp adds
  have last : lagsOf (statement :: closed.body).reverse = lagsOf closed.body.reverse ++ [0] := by
    rw [lagsOf_reverse_cons, Statement.lags_of_isSimple simple]
  exact {
    lags := by
      rw [continues]
      exact lags_withBody last
    marks := by
      rw [shown]
      exact marks_withBody _ _
    rests := by
      have ends : (closed.append statement).awaitsBranch =
          endsOpen (closed.append statement).body := rfl
      rw [ends, append, body_withBody]
      cases statement <;> first | rfl | cases simple
    few := by
      rw [length_blocks_append]
      exact few
    attached := by simp [continues] }

/-- Placing one more line keeps what is known of chains. -/
theorem Traces.of_place {after : Outline} {line : SourceLine} (traces : outline.Traces lines)
    (placed : outline.place line = .ok after) : after.Traces (lines ++ [line]) := by
  obtain ⟨closed, closes, later⟩ := bind_eq_ok_iff.mp placed
  have closing := traces.closesFor closes
  refine traces.append closing ?_
  split at later
  · next header parsed => exact addsLine_openBlock parsed later
  · next statement parsed =>
      have fewer : closed.blocks.length ≤ outline.blocks.length := by
        rw [← length_marks, ← length_marks, closing.marks]
        exact List.length_filter_le _ _
      exact addsLine_addStatement parsed (Nat.le_trans fewer traces.few) later
  · cases later

/-- Placing lines one after the other keeps what is known of chains. -/
theorem Traces.of_foldlM_place {after : Outline} {more : List SourceLine}
    (traces : outline.Traces lines) (placed : more.foldlM place outline = .ok after) :
    after.Traces (lines ++ more) :=
  foldlM_place_induction (motive := fun lines outline => outline.Traces lines)
    (fun traces placed => traces.of_place placed) lines traces placed

/-- The lines of a program belong to chains as those of the last outline do. -/
theorem lagsOf_ofLines (made : ofLines lines = .ok closed) :
    ∃ placed : Outline, placed.Traces lines ∧ lagsOf closed.root.reverse = placed.lags := by
  obtain ⟨placed, places, closes⟩ := bind_eq_ok_iff.mp made
  have traces : placed.Traces lines := by simpa using traces_empty.of_foldlM_place places
  obtain ⟨kept, left⟩ := keepsChains_closeFrom closes
  refine ⟨placed, traces, ?_⟩
  rw [← kept.lags]
  obtain ⟨root, blocks, opened, count⟩ := closed
  cases blocks with
  | nil => rfl
  | cons block outer => exact absurd (left block rfl) (Nat.not_lt_zero _)

/-- Where lines have been placed, a line that goes on with a chain is placed if there is room for
it, and is dangling if not. -/
theorem Traces.place_continuation (traces : outline.Traces lines) (joinable : outline.Joinable)
    {line : SourceLine} {header : Header} (parsed : line.parsed = .ok (.header header))
    (continues : header.isContinuation) :
    if line.rejoins lines then ∃ after, outline.place line = .ok after
    else outline.place line = .error ⟨line.number, .danglingBranch header.keyword⟩ := by
  obtain ⟨closed, closes, -⟩ := exists_closeFrom joinable line.indent
  have closing := traces.closesFor closes
  rw [place_of_header closes parsed, ← closing.awaitsBranch, openBlock]
  split
  · next awaits =>
      have fewer := (closing.opener awaits).1
      have few := traces.few
      rw [if_neg (by simp [awaits]), if_neg (by omega)]
      exact ⟨_, rfl⟩
  · next dangling => rw [if_pos (by simpa [continues] using dangling)]

end

end Outline

/-- Which chain a branch line goes on with is decided by the blocks that it closes, not by its
indent alone. The lines of a chain stand no further right than the `if` line that opened it; all of
them stand exactly there if and only if every such line stands at the indent of a block that is
still open. A branch line is dangling exactly when the outermost block that it closes is no branch
that others can follow, or when it closes none. -/
theorem BlockTree.attaches_ofSource (source : String) :
    (∀ tree, ofSource source = .ok tree →
      (lagsOf tree.program).length = (Source.codeLines source).length ∧
      (∀ line opener, Attaches (lagsOf tree.program) (Source.codeLines source) line opener →
        line.indent ≤ opener.indent ∧ (line.isContinuation → opener.opensChain)) ∧
      ((∀ line opener, Attaches (lagsOf tree.program) (Source.codeLines source) line opener →
        line.indent = opener.indent) ↔ SourceLine.AreAligned (Source.codeLines source))) ∧
    ∀ earlier line later outline header,
      Source.codeLines source = earlier ++ line :: later →
      earlier.foldlM Outline.place Outline.empty = .ok outline →
      line.parsed = .ok (.header header) → header.isContinuation →
        if line.rejoins earlier then ∃ after, outline.place line = .ok after
        else ofSource source = .error ⟨line.number, .danglingBranch header.keyword⟩ := by
  constructor
  · intro tree accepted
    obtain ⟨outline, made, result⟩ := bind_eq_ok_iff.mp accepted
    cases result
    obtain ⟨placed, traces, same⟩ := Outline.lagsOf_ofLines made
    simp only [same]
    exact ⟨traces.length, traces.falls, traces.level⟩
  · intro earlier line later outline header split placed parsed continues
    have traces : outline.Traces earlier := by
      simpa using Outline.traces_empty.of_foldlM_place placed
    have joinable : outline.Joinable := by
      have start : Outline.empty.Joinable := Outline.joinable_of_nil rfl
      rcases Outline.foldlM_place_cases start earlier with ⟨same, gives, fits⟩ | ⟨error, gives, -⟩
      · cases placed.symm.trans gives
        exact fits
      · cases placed.symm.trans gives
    have decided := traces.place_continuation joinable parsed continues
    split
    · next room => rwa [if_pos room] at decided
    · next none =>
        rw [if_neg none] at decided
        unfold ofSource Outline.ofLines
        rw [split, List.foldlM_append, placed]
        change ((List.foldlM Outline.place outline (line :: later) >>= _) >>= _) = _
        rw [List.foldlM_cons, decided]
        rfl

/-- A source with an `else` that stands to the left of the `if` before it, but inside the loop
around both. -/
def slantedSource : String :=
  "for i in range(1):\n    if False:\n        pass\n  else:\n    print(i)"

/-- What the slanted source makes up. -/
def slantedTree : BlockTree where
  program := [.forEach "i" (.call (.name "range") [.integer 1])
    [.conditional (.branch (.boolean false) [.pass]
      (.otherwise [.expression (.call (.name "print") [.name "i"])]))]]
  opened := 3
  closed := 3

/-- The slanted source is accepted. -/
theorem BlockTree.ofSource_slantedSource : ofSource slantedSource = .ok slantedTree := by
  cbv

/-- The fourth line of the slanted source goes on with the chain that the second one opens. -/
theorem attaches_slantedTree :
    Attaches (lagsOf slantedTree.program) (Source.codeLines slantedSource)
      ⟨4, "  else:".toList⟩ ⟨2, "    if False:".toList⟩ :=
  ⟨3, 2, rfl, by cbv, by cbv⟩

/-- An `else` that stands inside the body of its `if` closes no block and is dangling. In the
slanted source the `else` is placed, but not all branch lines are at the indent of a block. -/
theorem BlockTree.attaches_ofSource_inside :
    ofSource "if a:\n    b\n  else:\n    c" = .error ⟨3, .danglingBranch "else"⟩ ∧
      ¬ SourceLine.AreAligned (Source.codeLines slantedSource) := by
  constructor
  · have split : Source.codeLines "if a:\n    b\n  else:\n    c" =
        [⟨1, "if a:".toList⟩, ⟨2, "    b".toList⟩] ++
          ⟨3, "  else:".toList⟩ :: [⟨4, "    c".toList⟩] := by cbv
    have placed : List.foldlM Outline.place Outline.empty
        [⟨1, "if a:".toList⟩, ⟨2, "    b".toList⟩] =
          .ok ⟨[], [⟨0, 1, .branch (.name "a"), [.expression (.name "b")]⟩], 1, 0⟩ := by cbv
    have parsed : SourceLine.parsed ⟨3, "  else:".toList⟩ = .ok (.header .otherwise) := by cbv
    have alone : SourceLine.rejoins ⟨3, "  else:".toList⟩
        [⟨1, "if a:".toList⟩, ⟨2, "    b".toList⟩] = false := by cbv
    have decided := (attaches_ofSource _).2 _ _ _ _ _ split placed parsed rfl
    rwa [alone, if_neg (by decide)] at decided
  · intro aligned
    have level := (((attaches_ofSource slantedSource).1 _ ofSource_slantedSource).2.2.mpr aligned)
      _ _ attaches_slantedTree
    exact absurd level (by decide)

/-- The `else` of the slanted source goes on with the chain of an `if` that stands further right. -/
theorem BlockTree.attaches_slantedSource :
    ∃ tree line opener, ofSource slantedSource = .ok tree ∧
      Attaches (lagsOf tree.program) (Source.codeLines slantedSource) line opener ∧
      line.number = 4 ∧ line.isContinuation ∧ opener.number = 2 ∧ opener.opensChain ∧
      line.indent = 2 ∧ opener.indent = 4 := by
  refine ⟨_, _, _, ofSource_slantedSource, attaches_slantedTree, rfl, ?_, rfl,
    ⟨.boolean false, ?_⟩, ?_, ?_⟩
  · cbv
  · cbv
  · decide
  · decide

end Offside
