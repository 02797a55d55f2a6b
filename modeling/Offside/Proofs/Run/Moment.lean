import Mathlib.Logic.Relation
import Offside.Proofs.Run.Bindings

/-!
# The moments of a run

A run goes through moments, at each of which it is about to do something, holds on to values it
needs later, and has a state. `Moment.Leads` looks into a run: from a moment it leads to
those before the parts of what is done next and to the one behind it. Every variable and
every operand of a run, whether the run ends or not, is there at a moment that the
start of its program reaches. What is known of variables and values holds at all of them.
-/

namespace Offside

/-- What a run is about to do. -/
inductive Task where
  | evaluate (expression : Expression)
  | perform (statement : Statement)
  | choose (chain : Chain)
  | performAll (body : List Statement)
  /-- The rounds of a loop over the items that are left. -/
  | loopOver (target : String) (items : List Value) (body : List Statement)
  /-- The rounds of a loop as long as its condition holds. -/
  | loopWhile (condition : Expression) (body : List Statement)
  /-- What is left of a run that cannot be looked into. -/
  | rest

/-- A moment of a run. -/
structure Moment where
  task : Task
  /-- The values that are held for later: operands that are evaluated already, the value of an
  expression, and the items of loops. -/
  operands : List Value
  state : State

/-- The moment at which a program starts. -/
def Program.start (program : Program) : Moment :=
  ⟨.performAll program, [], {}⟩

/-- The expression that a statement evaluates first. -/
def Statement.subject? : Statement → Option Expression
  | .assign _ value | .forEach _ value _ | .expression value => some value
  | .update .. | .whileLoop .. | .conditional _ | .stop | .next | .pass => none

namespace Moment

open Run (stateOf)

/-- From a moment of a run to the next ones inside of what is done there, and to the one behind
it. An operand counts as evaluated behind all operands before it, even if one of these
decides that it is left alone. -/
inductive Leads (limits : Resources) (rounds : Nat) : Moment → Moment → Prop
  | operand {expression operand : Expression} {before behind operands values state after}
      (among : expression.operands = before ++ operand :: behind)
      (evaluated : Expression.evalAll limits before state = .ok values after) :
      Leads limits rounds ⟨.evaluate expression, operands, state⟩
        ⟨.evaluate operand, values ++ operands, after⟩
  | value {expression : Expression} {operands value state after}
      (gives : expression.eval limits state = .ok value after) :
      Leads limits rounds ⟨.evaluate expression, operands, state⟩ ⟨.rest, value :: operands, after⟩
  | failure {expression : Expression} {operands stop state after}
      (stops : expression.eval limits state = .error stop after) :
      Leads limits rounds ⟨.evaluate expression, operands, state⟩ ⟨.rest, operands, after⟩
  | subject {statement : Statement} {expression operands state after}
      (begins : statement.subject? = some expression)
      (ticks : Run.tick limits state = .ok () after) :
      Leads limits rounds ⟨.perform statement, operands, state⟩
        ⟨.evaluate expression, operands, after⟩
  | updated {target op value operands current state middle after}
      (ticks : Run.tick limits state = .ok () middle)
      (found : Run.lookup target middle = .ok current after) :
      Leads limits rounds ⟨.perform (.update target op value), operands, state⟩
        ⟨.evaluate value, current :: operands, after⟩
  | items {target} {iterable : Expression} {body operands value items state middle after}
      (ticks : Run.tick limits state = .ok () middle)
      (gives : iterable.eval limits middle = .ok value after)
      (iterates : value.iterate = .ok items) :
      Leads limits rounds ⟨.perform (.forEach target iterable body), operands, state⟩
        ⟨.loopOver target items body, items ++ operands, after⟩
  | loop {condition body operands state after} (ticks : Run.tick limits state = .ok () after) :
      Leads limits rounds ⟨.perform (.whileLoop condition body), operands, state⟩
        ⟨.loopWhile condition body, operands, after⟩
  | branches {chain operands state after} (ticks : Run.tick limits state = .ok () after) :
      Leads limits rounds ⟨.perform (.conditional chain), operands, state⟩
        ⟨.choose chain, operands, after⟩
  | performed {statement : Statement} {operands state} :
      Leads limits rounds ⟨.perform statement, operands, state⟩
        ⟨.rest, operands, stateOf (statement.exec limits rounds state)⟩
  | condition {condition body rest operands state} :
      Leads limits rounds ⟨.choose (.branch condition body rest), operands, state⟩
        ⟨.evaluate condition, operands, state⟩
  | taken {condition : Expression} {body rest operands state after}
      (holds : condition.holds limits state = .ok true after) :
      Leads limits rounds ⟨.choose (.branch condition body rest), operands, state⟩
        ⟨.performAll body, operands, after⟩
  | passed {condition : Expression} {body rest operands state after}
      (fails : condition.holds limits state = .ok false after) :
      Leads limits rounds ⟨.choose (.branch condition body rest), operands, state⟩
        ⟨.choose rest, operands, after⟩
  | otherwise {body operands state} :
      Leads limits rounds ⟨.choose (.otherwise body), operands, state⟩
        ⟨.performAll body, operands, state⟩
  | first {statement later operands state} :
      Leads limits rounds ⟨.performAll (statement :: later), operands, state⟩
        ⟨.perform statement, operands, state⟩
  | later {statement : Statement} {later operands state after}
      (ends : statement.exec limits rounds state = .ok .done after) :
      Leads limits rounds ⟨.performAll (statement :: later), operands, state⟩
        ⟨.performAll later, operands, after⟩
  | allPerformed {body operands state} :
      Leads limits rounds ⟨.performAll body, operands, state⟩
        ⟨.rest, operands, stateOf (execBody limits rounds body state)⟩
  | round {target item later body operands state after}
      (begins : (Run.tick limits >>= fun _ => Run.assign target item) state = .ok () after) :
      Leads limits rounds ⟨.loopOver target (item :: later) body, operands, state⟩
        ⟨.performAll body, operands, after⟩
  | nextRound {target item later body operands signal state middle after}
      (begins : (Run.tick limits >>= fun _ => Run.assign target item) state = .ok () middle)
      (ends : execBody limits rounds body middle = .ok signal after) (goesOn : signal ≠ .stop) :
      Leads limits rounds ⟨.loopOver target (item :: later) body, operands, state⟩
        ⟨.loopOver target later body, operands, after⟩
  | again {condition body operands state} :
      Leads limits rounds ⟨.loopWhile condition body, operands, state⟩
        ⟨.evaluate condition, operands, state⟩
  | whileRound {condition : Expression} {body operands state middle after}
      (holds : condition.holds limits state = .ok true middle)
      (ticks : Run.tick limits middle = .ok () after) :
      Leads limits rounds ⟨.loopWhile condition body, operands, state⟩
        ⟨.performAll body, operands, after⟩
  | nextWhileRound {condition : Expression} {body operands signal state middle inside after}
      (holds : condition.holds limits state = .ok true middle)
      (ticks : Run.tick limits middle = .ok () inside)
      (ends : execBody limits rounds body inside = .ok signal after) (goesOn : signal ≠ .stop) :
      Leads limits rounds ⟨.loopWhile condition body, operands, state⟩
        ⟨.loopWhile condition body, operands, after⟩

/-- The moments of a run that begins with a moment. -/
def Reaches (limits : Resources) (rounds : Nat) : Moment → Moment → Prop :=
  Relation.ReflTransGen (Leads limits rounds)

/-- Whether a run has a value at a moment: as an operand or in a variable. -/
def Has (moment : Moment) (value : Value) : Prop :=
  value ∈ moment.operands ∨ ∃ name, moment.state.scope.get? name = some value

end Moment

/-! ### What holds at every moment -/

section

variable (admitted : Expression → Prop) (settable : String → Prop) (good : Value → Prop)

/-- Whether what is about to be done uses admitted expressions, settable variables and good
items. -/
def Task.Meets : Task → Prop
  | .evaluate expression => expression.Meets admitted
  | .perform statement => statement.Meets admitted settable
  | .choose chain => chain.Meets admitted settable
  | .performAll body => Program.Meets admitted settable body
  | .loopOver target items body =>
      settable target ∧ (∀ item ∈ items, good item) ∧ Program.Meets admitted settable body
  | .loopWhile condition body => condition.Meets admitted ∧ Program.Meets admitted settable body
  | .rest => True

/-- Whether all values of a moment are good, and those that its task can make, too. -/
structure Moment.IsSound (moment : Moment) : Prop where
  task : moment.task.Meets admitted settable good
  operands : ∀ value ∈ moment.operands, good value
  binds : moment.state.Binds settable good

end

namespace Moment

variable {limits : Resources} {rounds : Nat} {admitted : Expression → Prop}
  {settable : String → Prop}
  {good : Value → Prop} {moment next : Moment}

/-- A statement that meets something evaluates an expression that does. -/
theorem meets_subject {statement : Statement} {expression : Expression}
    (meets : statement.Meets admitted settable) (begins : statement.subject? = some expression) :
    expression.Meets admitted := by
  cases statement with
  | assign target value =>
      cases begins
      exact meets.2
  | forEach target iterable body =>
      cases begins
      exact meets.2.1
  | expression value =>
      cases begins
      exact meets
  | update | whileLoop | conditional | stop | next | pass => cases begins

/-- A sound moment leads to sound moments. -/
theorem IsSound.of_leads
    (carries : Run.CarriesLoops limits limits rounds rounds admitted settable good
      (Run.Keeps settable good))
    (sound : moment.IsSound admitted settable good) (leads : Leads limits rounds moment next) :
    next.IsSound admitted settable good := by
  obtain ⟨task, operands, binds⟩ := sound
  cases leads with
  | operand among evaluated =>
      have allBefore := carries.evalAll _ fun part before =>
        task.operand part (by rw [among]; exact List.mem_append_left _ before)
      obtain ⟨⟨-, values⟩, kept⟩ := allBefore.of_ok binds evaluated
      refine ⟨task.operand _ (by rw [among]; simp), ?_, kept⟩
      exact List.forall_mem_append.mpr ⟨values, operands⟩
  | value gives =>
      obtain ⟨has, kept⟩ := (carries.eval _ task).of_ok binds gives
      exact ⟨trivial, List.forall_mem_cons.mpr ⟨has, operands⟩, kept⟩
  | failure stops =>
      have kept := (carries.eval _ task _ binds).1
      rw [stops] at kept
      exact ⟨trivial, operands, kept⟩
  | subject begins ticks =>
      have kept := (carries.tick.of_ok binds ticks).2
      exact ⟨meets_subject task begins, operands, kept⟩
  | updated ticks found =>
      obtain ⟨-, known, meets⟩ := task
      have ticked := (carries.tick.of_ok binds ticks).2
      obtain ⟨has, kept⟩ := (carries.lookup known).of_ok ticked found
      exact ⟨meets, List.forall_mem_cons.mpr ⟨has, operands⟩, kept⟩
  | items ticks gives iterates =>
      obtain ⟨set, meets, meetsBody⟩ := task
      have ticked := (carries.tick.of_ok binds ticks).2
      obtain ⟨has, kept⟩ := (carries.eval _ meets).of_ok ticked gives
      have goodItems := carries.iterate iterates has
      exact ⟨⟨set, goodItems, meetsBody⟩, List.forall_mem_append.mpr ⟨goodItems, operands⟩, kept⟩
  | loop ticks | branches ticks => exact ⟨task, operands, (carries.tick.of_ok binds ticks).2⟩
  | performed => exact ⟨trivial, operands, (carries.exec _ task _ binds).1⟩
  | condition => exact ⟨task.1, operands, binds⟩
  | taken holds => exact ⟨task.2.1, operands, ((carries.holds task.1).of_ok binds holds).2⟩
  | passed fails => exact ⟨task.2.2, operands, ((carries.holds task.1).of_ok binds fails).2⟩
  | otherwise => exact ⟨task, operands, binds⟩
  | first => exact ⟨task.1, operands, binds⟩
  | later ends => exact ⟨task.2, operands, ((carries.exec _ task.1).of_ok binds ends).2⟩
  | allPerformed => exact ⟨trivial, operands, (carries.execBody _ task _ binds).1⟩
  | round begins =>
      obtain ⟨set, goodItems, meetsBody⟩ := task
      have starts := carries.bind carries.tick fun _ _ => carries.assign set (goodItems _ (.head _))
      exact ⟨meetsBody, operands, (starts.of_ok binds begins).2⟩
  | nextRound begins ends =>
      obtain ⟨set, goodItems, meetsBody⟩ := task
      have starts := carries.bind carries.tick fun _ _ => carries.assign set (goodItems _ (.head _))
      have inside := (starts.of_ok binds begins).2
      have kept := ((carries.execBody _ meetsBody).of_ok inside ends).2
      exact ⟨⟨set, fun item among => goodItems item (.tail _ among), meetsBody⟩, operands, kept⟩
  | again => exact ⟨task.1, operands, binds⟩
  | whileRound holds ticks =>
      have held := ((carries.holds task.1).of_ok binds holds).2
      exact ⟨task.2, operands, (carries.tick.of_ok held ticks).2⟩
  | nextWhileRound holds ticks ends =>
      have held := ((carries.holds task.1).of_ok binds holds).2
      have inside := (carries.tick.of_ok held ticks).2
      exact ⟨task, operands, ((carries.execBody _ task.2).of_ok inside ends).2⟩

/-- All moments of a run that begins with a sound one are sound. -/
theorem IsSound.of_reaches
    (carries : Run.CarriesLoops limits limits rounds rounds admitted settable good
      (Run.Keeps settable good))
    (sound : moment.IsSound admitted settable good) (reaches : Reaches limits rounds moment next) :
    next.IsSound admitted settable good := by
  induction reaches with
  | refl => exact sound
  | tail _ leads inductionHypothesis => exact inductionHypothesis.of_leads carries leads

/-- All values of a sound moment are good. -/
theorem IsSound.of_has (sound : moment.IsSound admitted settable good) {value : Value}
    (has : moment.Has value) : good value := by
  rcases has with held | ⟨name, found⟩
  · exact sound.operands value held
  · exact (sound.binds name value found).2

end Moment

end Offside
