import Offside.Proofs.Placing

/-!
# What is placed can be placed again

The bodies of an outline, finished or not, hold only statements that can be placed
where these bodies are (`Outline.IsPlaceable`). So a program that is made up by the
lines of a source has a branch in every conditional statement, leaves or goes on with
loops only inside of them, and does not nest its blocks too deeply.
-/

namespace Offside

/-- Statements can be placed one after the other when each of them can. -/
theorem arePlaceable_iff {room : Nat} {inLoop : Bool} {statements : List Statement} :
    ArePlaceable room inLoop statements ↔
      ∀ statement ∈ statements, statement.IsPlaceable room inLoop := by
  induction statements with
  | nil => simp [ArePlaceable]
  | cons statement later inductionHypothesis =>
      rw [ArePlaceable, inductionHypothesis, List.forall_mem_cons]

/-- Statements can be placed in one order exactly when they can be placed in the other. -/
theorem arePlaceable_reverse {room : Nat} {inLoop : Bool} {statements : List Statement} :
    ArePlaceable room inLoop statements.reverse ↔ ArePlaceable room inLoop statements := by
  simp only [arePlaceable_iff, List.mem_reverse]

/-- A chain that goes on with branches that can be placed can be placed, too. -/
theorem Chain.isPlaceable_extend? {room : Nat} {inLoop : Bool} {rest : Chain}
    (restPlaceable : rest.IsPlaceable room inLoop) : ∀ {chain longer : Chain},
      chain.extend? rest = some longer → chain.IsPlaceable room inLoop →
        longer.IsPlaceable room inLoop
  | .done, _, extended, _ => by
      cases extended
      exact restPlaceable
  | .otherwise _, _, extended, _ => nomatch extended
  | .branch condition body later, _, extended, placeable => by
      obtain ⟨further, extension, rfl⟩ := Option.map_eq_some_iff.mp extended
      exact ⟨placeable.1, isPlaceable_extend? restPlaceable extension placeable.2⟩

/-- A block whose body can be placed inside of it becomes part of the body around it. -/
theorem OpenBlock.arePlaceable_joinTo {room : Nat} {inLoop : Bool} {block : OpenBlock}
    {around body : List Statement} (joined : block.joinTo around = .ok body) (positive : 0 < room)
    (inside : ArePlaceable (room - 1) (block.header.isLoop || inLoop) block.body)
    (placeable : ArePlaceable room inLoop around) : ArePlaceable room inLoop body := by
  rw [← arePlaceable_reverse] at inside
  have extending : ∀ {chain rest longer : Chain} {earlier : List Statement},
      ArePlaceable room inLoop (.conditional chain :: earlier) → rest.IsPlaceable room inLoop →
        chain.extend? rest = .some longer →
          ArePlaceable room inLoop (.conditional longer :: earlier) := by
    rintro chain rest longer earlier ⟨⟨branched, first⟩, others⟩ further extended
    exact ⟨⟨Chain.hasBranch_extend? extended branched,
      Chain.isPlaceable_extend? further extended first⟩, others⟩
  unfold joinTo at joined
  split at joined
  · next target iterable shape =>
      rw [shape] at inside
      cases joined
      exact ⟨⟨positive, inside⟩, placeable⟩
  · next condition shape =>
      rw [shape] at inside
      cases joined
      exact ⟨⟨positive, inside⟩, placeable⟩
  · next condition shape =>
      rw [shape] at inside
      cases joined
      exact ⟨⟨rfl, ⟨positive, inside⟩, trivial⟩, placeable⟩
  · next condition shape =>
      rw [shape] at inside
      obtain ⟨chain, earlier, longer, rfl, extended, rfl⟩ := extendChain_eq_ok_iff.mp joined
      have further : Chain.IsPlaceable room inLoop (.branch condition block.body.reverse .done) :=
        ⟨⟨positive, inside⟩, trivial⟩
      exact extending placeable further extended
  · next shape =>
      rw [shape] at inside
      obtain ⟨chain, earlier, longer, rfl, extended, rfl⟩ := extendChain_eq_ok_iff.mp joined
      have further : Chain.IsPlaceable room inLoop (.otherwise block.body.reverse) :=
        ⟨positive, inside⟩
      exact extending placeable further extended

namespace Outline

/-- Whether every body of an outline can be placed where it is, inside the blocks around it. -/
def IsPlaceable (outline : Outline) : Prop :=
  ∀ outer, outer <:+ outline.blocks → outer.length ≤ mostBlocks ∧
    ArePlaceable (mostBlocks - outer.length) (outer.any (·.header.isLoop))
      { outline with blocks := outer }.body

/-- An outline without lines can be placed. -/
theorem isPlaceable_empty : empty.IsPlaceable := by
  intro outer isSuffix
  obtain rfl : outer = [] := List.suffix_nil.mp isSuffix
  exact ⟨Nat.zero_le _, trivial⟩

variable {outline after : Outline}

/-- The innermost body can be replaced by another that can be placed there. -/
theorem IsPlaceable.withBody (placeable : outline.IsPlaceable) {body : List Statement}
    (inside : ArePlaceable (mostBlocks - outline.blocks.length) outline.inLoop body) :
    (outline.withBody body).IsPlaceable := by
  obtain ⟨root, blocks, opened, closed⟩ := outline
  cases blocks with
  | nil =>
      intro outer isSuffix
      obtain rfl : outer = [] := List.suffix_nil.mp isSuffix
      exact ⟨Nat.zero_le _, inside⟩
  | cons block around =>
      intro outer isSuffix
      rcases List.suffix_cons_iff.mp isSuffix with rfl | further
      · exact ⟨(placeable (block :: around) (List.suffix_refl _)).1, inside⟩
      · exact placeable outer (further.trans (List.suffix_cons _ _))

/-- Closing blocks keeps all bodies placeable. -/
theorem IsPlaceable.closeFrom (placeable : outline.IsPlaceable) {indent : Nat}
    (closes : outline.closeFrom indent = .ok after) : after.IsPlaceable := by
  refine (closeFrom_induction placeable closes ?_).1
  intro root block outer opened closed joined before _ joins
  obtain ⟨few, inside⟩ := before (block :: outer) (List.suffix_refl _)
  have around := before outer (List.suffix_cons block outer)
  have outerPlaceable : IsPlaceable ⟨root, outer, opened, closed + 1⟩ :=
    fun further isSuffix => before further (isSuffix.trans (List.suffix_cons block outer))
  have positive : 0 < mostBlocks - outer.length := by
    rw [List.length_cons] at few
    omega
  refine outerPlaceable.withBody ?_
  exact OpenBlock.arePlaceable_joinTo joins positive inside around.2

/-- A header that opens a block keeps all bodies placeable. -/
theorem IsPlaceable.openBlock (placeable : outline.IsPlaceable) {line : SourceLine}
    {header : Header} (opens : outline.openBlock line header = .ok after) :
    after.IsPlaceable := by
  obtain ⟨-, few, rfl⟩ := openBlock_eq_ok_iff.mp opens
  intro outer isSuffix
  rcases List.suffix_cons_iff.mp isSuffix with rfl | further
  · exact ⟨few, trivial⟩
  · exact placeable outer further

/-- A statement that is a line by itself can be placed wherever it is allowed. -/
theorem isPlaceable_of_isSimple {statement : Statement} (simple : statement.isSimple)
    {inLoop : Bool} (allowed : (loopWord? statement).isSome → inLoop) (room : Nat) :
    statement.IsPlaceable room inLoop := by
  cases statement with
  | stop | next => exact allowed rfl
  | assign | update | pass | expression => trivial
  | forEach | whileLoop | conditional => cases simple

/-- A statement that is added keeps all bodies placeable. -/
theorem IsPlaceable.addStatement (placeable : outline.IsPlaceable) {line : SourceLine}
    {statement : Statement} (simple : statement.isSimple)
    (adds : outline.addStatement line statement = .ok after) : after.IsPlaceable := by
  obtain ⟨allowed, rfl⟩ := addStatement_eq_ok_iff.mp adds
  have inside := (placeable outline.blocks (List.suffix_refl _)).2
  exact placeable.withBody ⟨isPlaceable_of_isSimple simple allowed _, inside⟩

/-- Placing one more line keeps all bodies placeable. -/
theorem IsPlaceable.place (placeable : outline.IsPlaceable) {line : SourceLine}
    (placed : outline.place line = .ok after) : after.IsPlaceable := by
  obtain ⟨closed, closes, later⟩ := bind_eq_ok_iff.mp placed
  have closedPlaceable := placeable.closeFrom closes
  split at later
  · exact closedPlaceable.openBlock later
  · next parsed => exact closedPlaceable.addStatement (Line.isSimple_of_ofText parsed) later
  · cases later

/-- Placing lines one after the other keeps all bodies placeable. -/
theorem IsPlaceable.foldlM_place (placeable : outline.IsPlaceable) {lines : List SourceLine}
    (placed : lines.foldlM Outline.place outline = .ok after) : after.IsPlaceable :=
  foldlM_place_induction (motive := fun _ outline => outline.IsPlaceable)
    (fun placeable placed => placeable.place placed) [] placeable placed

end Outline

/-- The program that a source makes up can be placed. -/
theorem BlockTree.arePlaceable {source : String} {tree : BlockTree}
    (accepted : ofSource source = .ok tree) :
    ArePlaceable Outline.mostBlocks false tree.program := by
  obtain ⟨outline, made, result⟩ := bind_eq_ok_iff.mp accepted
  obtain ⟨placed, places, closes⟩ := bind_eq_ok_iff.mp made
  cases result
  have placeable := (Outline.isPlaceable_empty.foldlM_place places).closeFrom closes
  exact arePlaceable_reverse.mpr (placeable [] (List.nil_suffix)).2

end Offside
