import Mathlib
import Offside.Proofs.Placeable
import Offside.Proofs.Run.Related

/-!
# No loop is left from outside

What leaves a loop or goes on with its next round is refused where no loop is around it,
once when a source is made up to a program and once more when that program has
run. The first check is enough. A statement that can be placed outside of all loops
ends in the ordinary way if it ends at all, whatever is in its blocks, because loops keep the
signals of their bodies to themselves (`Statement.gives_done`). And apart from
the end of a program, no part of a run fails for the control of a loop (`Run.Contained`).
-/

namespace Offside

/-! ### Which statements are inside of loops -/

/-- Whether a statement is a loop. -/
def Statement.isLoop : Statement → Bool
  | .forEach .. | .whileLoop .. => true
  | .conditional _ | .assign .. | .update .. | .stop | .next | .pass | .expression _ => false

/-- The statements in the blocks of a chain. -/
def Chain.inner : Chain → List Statement
  | .done => []
  | .otherwise body => body
  | .branch _ body rest => body ++ rest.inner

/-- The statements in the blocks of a statement, but not those in blocks further inside. -/
def Statement.inner : Statement → List Statement
  | .forEach _ _ body | .whileLoop _ body => body
  | .conditional chain => chain.inner
  | .assign .. | .update .. | .stop | .next | .pass | .expression _ => []

/-- A statement holds another one somewhere in its blocks, and these are the statements around that
other one, from the outside to the inside. -/
inductive Statement.Holds : Statement → List Statement → Statement → Prop
  | itself (statement : Statement) : Holds statement [] statement
  | within {statement child nested : Statement} {around : List Statement}
      (member : child ∈ statement.inner) (holds : child.Holds around nested) :
      Holds statement (statement :: around) nested

variable {room : Nat} {inLoop : Bool}

/-- What is in the blocks of a chain can be placed there. -/
theorem Chain.isPlaceable_of_mem_inner {statement : Statement} :
    ∀ {chain : Chain}, chain.IsPlaceable room inLoop → statement ∈ chain.inner →
      statement.IsPlaceable (room - 1) inLoop
  | .done, _, member => nomatch member
  | .otherwise _, placeable, member => arePlaceable_iff.mp placeable.2 statement member
  | .branch _ _ _, placeable, member => by
      rcases List.mem_append.mp member with here | later
      · exact arePlaceable_iff.mp placeable.1.2 statement here
      · exact isPlaceable_of_mem_inner placeable.2 later

/-- What is in the blocks of a statement can be placed there. -/
theorem Statement.isPlaceable_of_mem_inner {statement child : Statement}
    (placeable : statement.IsPlaceable room inLoop) (member : child ∈ statement.inner) :
    child.IsPlaceable (room - 1) (statement.isLoop || inLoop) := by
  cases statement with
  | forEach | whileLoop => exact arePlaceable_iff.mp placeable.2 child member
  | conditional chain => exact Chain.isPlaceable_of_mem_inner placeable.2 member
  | assign | update | stop | next | pass | expression => cases member

/-- The control of a loop is inside of a loop, where the whole statement is or further inside. -/
theorem Statement.Holds.exists_isLoop {statement nested : Statement} {around : List Statement}
    (holds : statement.Holds around nested) (placeable : statement.IsPlaceable room inLoop)
    (control : (Outline.loopWord? nested).isSome) : inLoop ∨ ∃ loop ∈ around, loop.isLoop := by
  induction holds generalizing room inLoop with
  | itself statement =>
      cases statement with
      | stop | next => exact .inl placeable
      | assign | update | forEach | whileLoop | conditional | pass | expression => cases control
  | @within statement child nested around member _ inductionHypothesis =>
      rcases inductionHypothesis (isPlaceable_of_mem_inner placeable member) control with
        inside | ⟨loop, further, isLoop⟩
      · rcases Bool.or_eq_true_iff.mp inside with isLoop | inside
        · exact .inr ⟨statement, List.mem_cons_self, isLoop⟩
        · exact .inl inside
      · exact .inr ⟨loop, List.mem_cons_of_mem statement further, isLoop⟩

/-! ### How statements end -/

section

open Run (Gives)

variable (limits : Resources) (rounds : Nat)

/-- A loop ends in the ordinary way, however its body ends. -/
theorem Statement.gives_done_of_isLoop {loop : Statement} (isLoop : loop.isLoop) :
    Gives (· = .done) (loop.exec limits rounds) := by
  cases loop with
  | forEach target iterable body =>
      exact .after fun _ => .after fun _ => .after fun _ => .after fun _ => .pure rfl
  | whileLoop condition body => exact .after fun _ => .after fun _ => .pure rfl
  | conditional | assign | update | stop | next | pass | expression => cases isLoop

mutual

/-- A statement that can be placed outside of all loops ends in the ordinary way. -/
theorem Statement.gives_done {room : Nat} : (statement : Statement) →
    statement.IsPlaceable room false → Gives (· = .done) (statement.exec limits rounds)
  | .forEach .., _ | .whileLoop .., _ =>
      Statement.gives_done_of_isLoop limits rounds rfl
  | .conditional chain, placeable => .after fun _ => chain.gives_done placeable.2
  | .assign .., _ => .after fun _ => .after fun _ => .after fun _ => .pure rfl
  | .update .., _ =>
      .after fun _ => .after fun _ => .after fun _ => .after fun _ => .after fun _ => .pure rfl
  | .stop, placeable | .next, placeable => nomatch placeable
  | .pass, _ => .after fun _ => .pure rfl
  | .expression _, _ => .after fun _ => .after fun _ => .pure rfl

/-- A chain that can be placed outside of all loops ends in the ordinary way. -/
theorem Chain.gives_done {room : Nat} : (chain : Chain) → chain.IsPlaceable room false →
    Gives (· = .done) (chain.exec limits rounds)
  | .done, _ => .pure rfl
  | .otherwise body, placeable => execBody_gives_done body placeable.2
  | .branch _ body rest, placeable => .after fun holds => by
      cases holds
      · exact rest.gives_done placeable.2
      · exact execBody_gives_done body placeable.1.2

/-- Statements that can be placed outside of all loops end in the ordinary way one after the
other. -/
theorem execBody_gives_done {room : Nat} : (body : List Statement) →
    ArePlaceable room false body → Gives (· = .done) (execBody limits rounds body)
  | [], _ => .pure rfl
  | statement :: later, placeable => by
      refine .bind (statement.gives_done placeable.1) ?_
      rintro _ rfl
      exact execBody_gives_done later placeable.2

end

end

/-! ### How parts of a run fail -/

namespace Run

/-- Whether no part of a run fails for the control of a loop, as a relation that can be carried
through a whole run; its second part plays no role. -/
def Contained (α : Type) (part _ : Run α) : Prop :=
  ∀ state after word, part state ≠ .error (.failed (.loopControlOutsideLoop word)) after

namespace Contained

/-- No place where limits are looked at fails for the control of a loop. -/
theorem respects (limits : Resources) : Respects limits limits Contained where
  idle quiet := quiet.ne_outside
  bind firstContained nextContained state after word fails := by
    rcases bind_stops_iff.mp fails with stops | ⟨value, middle, -, later⟩
    · exact firstContained state after word stops
    · exact nextContained value middle after word later
  tick state after word fails := by
    rcases tick_cases limits state with ⟨-, counts⟩ | ⟨limit, stops⟩
    · cases counts.symm.trans fails
    · cases stops.symm.trans fails
  binary op first second := (Quiet.ofExcept (Value.settled_applyBinary op first second)).ne_outside
  range bounds := (Quiet.ofExcept (Progression.settled_value bounds _ _)).ne_outside

/-- A `while` loop does not fail for the control of a loop, either: it can only be left
unfinished. -/
theorem respectsLoops (limits : Resources) (rounds : Nat) :
    RespectsLoops limits limits rounds rounds Contained where
  toRespects := respects limits
  loop := by
    intro condition condition' body body' sameCondition sameBody
    induction rounds with
    | zero => exact fun state after word fails => nomatch fails
    | succ rounds inductionHypothesis =>
        exact (respects limits).whileHolds_succ sameCondition sameBody inductionHypothesis

end Contained

end Run

namespace Program

variable {program : Program}

/-- A program that can be placed does not fail for the control of a loop. -/
theorem exec_ne_outside (placeable : ArePlaceable room false program) (limits : Resources)
    (rounds : Nat) (state after : State) (word : String) :
    program.exec limits rounds state ≠ .error (.failed (.loopControlOutsideLoop word)) after := by
  intro fails
  rcases Run.bind_stops_iff.mp fails with stops | ⟨signal, middle, ends, later⟩
  · exact (Run.Contained.respectsLoops limits rounds).execBody program state after word stops
  · obtain rfl := execBody_gives_done limits rounds program placeable state signal middle ends
    cases later

/-- The result of a program that can be placed is no failure for the control of a loop, however many
rounds its loops are given. -/
theorem runWithin_ne_outside (placeable : ArePlaceable room false program) (limits : Resources)
    (rounds : Nat) (word : String) :
    program.runWithin rounds limits ≠ some (.error (.loopControlOutsideLoop word)) := by
  intro fails
  unfold runWithin at fails
  split at fails
  · cases fails
  · next error after ends =>
      cases fails
      exact exec_ne_outside placeable limits rounds {} after word ends
  · cases fails

end Program

/-- Everything that controls a loop is inside of one in a program that a source makes up, and such
a program never ends because it is not. That is so because no loop at all, whatever is in it and
wherever it is run, hands a signal of its body on to what is around it. -/
theorem BlockTree.loopControl_ofSource :
    (∀ source tree, ofSource source = .ok tree →
      (∀ statement ∈ tree.program, ∀ around nested, statement.Holds around nested →
        (Outline.loopWord? nested).isSome → ∃ loop ∈ around, loop.isLoop) ∧
      ∀ limits word, tree.program.run limits ≠ some (.error (.loopControlOutsideLoop word)) ∧
        ∀ rounds, tree.program.runWithin rounds limits ≠
          some (.error (.loopControlOutsideLoop word))) ∧
    ∀ loop : Statement, loop.isLoop → ∀ limits rounds state signal after,
      loop.exec limits rounds state = .ok signal after → signal = .done := by
  refine ⟨fun source tree accepted => ?_, fun loop isLoop limits rounds state signal after =>
    Statement.gives_done_of_isLoop limits rounds isLoop state signal after⟩
  have placeable := arePlaceable accepted
  refine ⟨fun statement member around nested holds control => ?_, fun limits word => ?_⟩
  · have here := arePlaceable_iff.mp placeable statement member
    exact (holds.exists_isLoop here control).resolve_left (by simp)
  · exact ⟨Program.runWithin_ne_outside placeable limits _ word, fun rounds =>
      Program.runWithin_ne_outside placeable limits rounds word⟩

/-- A loop that a branch inside of it leaves. -/
def guardedLoop : Statement :=
  .forEach "i" (.list [.integer 1]) [.conditional (.branch (.name "i") [.stop] .done)]

/-- What leaves the guarded loop is inside of it, and the loop itself ends in the ordinary way. -/
theorem BlockTree.loopControl_ofSource_guarded :
    ∃ tree, ofSource "for i in [1]:\n    if i:\n        break" = .ok tree ∧
      tree.program = [guardedLoop] ∧
      (∃ loop ∈ [guardedLoop, .conditional (.branch (.name "i") [.stop] .done)], loop.isLoop) ∧
      tree.program.run {} ≠ some (.error (.loopControlOutsideLoop "break")) ∧
      ∃ signal after, guardedLoop.exec {} 0 {} = .ok signal after ∧ signal = .done := by
  have accepted : ofSource "for i in [1]:\n    if i:\n        break" = .ok {
      program := [guardedLoop]
      opened := 2
      closed := 2 } := by cbv
  have holds : guardedLoop.Holds [guardedLoop, .conditional (.branch (.name "i") [.stop] .done)]
      .stop := .within (.head _) (.within (.head _) (.itself _))
  have ends : ∃ signal after, guardedLoop.exec {} 0 {} = .ok signal after := ⟨_, _, rfl⟩
  obtain ⟨signal, after, ends⟩ := ends
  obtain ⟨inside, free⟩ := loopControl_ofSource.1 _ _ accepted
  exact ⟨_, accepted, rfl, inside _ (.head _) _ _ holds rfl, (free {} "break").1, signal, after,
    ends, loopControl_ofSource.2 _ rfl _ _ _ _ _ ends⟩

end Offside
