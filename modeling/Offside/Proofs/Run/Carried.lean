import Offside.Proofs.Run.Inside
import Offside.Proofs.Run.Settled
import Offside.Run.Program

/-!
# What is carried through a run

A run looks at variables, values and limits in a few places only, and everything else is putting
parts of it together. `Run.CarriesExpressions` collects what a relation between the parts of two
runs, together with a property of the values they give, must satisfy in these places for it
to hold of every expression. `Run.Carries` adds steps and assignments, and the relation then
holds of every statement whose blocks it holds of.
Variables and literals may be restricted: a relation need not say anything about
programs that use others.
-/

namespace Offside

/-- Whether a value holds no other values and is bound to none. -/
def Value.isPlain : Value → Bool
  | .integer _ | .float _ | .boolean _ | .builtin _ | .none => true
  | .text _ | .list _ | .method .. => false

/-- A property of values that no way of making a value breaks, if the literals and attributes in
question are admitted. Operators of arithmetic and `range`, which can make long sequences,
are left open. -/
structure Value.Closed (admitted : Expression → Prop) (good : Value → Prop) : Prop where
  plain : ∀ {value}, value.isPlain → good value
  text : ∀ {content}, admitted (.text content) → good (.text content)
  list : ∀ {elements : List Expression} {values : List Value}, admitted (.list elements) →
    values.length = elements.length → (∀ value ∈ values, good value) → good (.list values)
  items : ∀ {value : Value} {items}, value.items? = some items → good value →
    ∀ item ∈ items, good item
  method : ∀ {object word receiver called}, admitted (.member object word) →
    TextMethod.ofName? word = some called → good (.text receiver) → good (.method receiver called)
  applied : ∀ {receiver called}, good (.method receiver called) →
    good (.text (called.apply receiver))

namespace Value.Closed

variable {admitted : Expression → Prop} {good : Value → Prop} (closed : Closed admitted good)

/-- Every value has no property at all. -/
theorem anything : Closed admitted fun _ => True where
  plain _ := trivial
  text _ := trivial
  list _ _ _ := trivial
  items _ _ _ _ := trivial
  method _ _ _ := trivial
  applied _ := trivial

include closed

/-- The items that a loop runs over are good. -/
theorem iterate {value : Value} {items : List Value} (iterates : value.iterate = .ok items)
    (has : good value) : ∀ item ∈ items, good item := by
  unfold Value.iterate at iterates
  split at iterates
  · next found =>
      cases iterates
      exact closed.items found has
  · cases iterates

/-- The item at an index of a good value is good. -/
theorem subscript {value index item : Value} (found : value.subscript index = .ok item)
    (has : good value) : good item := by
  unfold Value.subscript at found
  split at found
  · cases found
  · split at found
    · cases found
    · split at found
      · next picked =>
          cases found
          obtain ⟨place, -, picked⟩ := Option.bind_eq_some_iff.mp picked
          rw [Value.item?_eq] at picked
          obtain ⟨items, sequence, here⟩ := Option.bind_eq_some_iff.mp picked
          exact closed.items sequence has item (List.mem_of_getElem? here)
      · cases found

/-- An attribute of a good value is good. -/
theorem member {object : Expression} {word : String} {value found : Value}
    (known : admitted (.member object word)) (is : value.member word = .ok found)
    (has : good value) : good found := by
  unfold Value.member at is
  split at is
  · next receiver called name =>
      cases is
      exact closed.method known name has
  · cases is

/-- An operator with one operand makes plain values. -/
theorem applyUnary {op : UnaryOp} {operand result : Value}
    (applied : Value.applyUnary op operand = .ok result) : good result := by
  unfold Value.applyUnary at applied
  split at applied
  case h_1 | h_2 | h_3 | h_6 =>
    cases applied
    exact closed.plain rfl
  case h_4 | h_7 => cases applied
  case h_5 =>
    split at applied
    · cases applied
      exact closed.plain rfl
    · cases applied

end Value.Closed

/-! ### Statements one after the other -/

namespace Run

/-- What follows statements: those behind them are run if they end in the ordinary way. -/
def goOn (later : Run Signal) : Signal → Run Signal
  | .done => later
  | signal => pure signal

end Run

open Run (goOn)

section

variable (limits : Resources) (rounds : Nat)

/-- The first statement is run and then the later ones. -/
theorem execBody_cons (statement : Statement) (later : List Statement) :
    execBody limits rounds (statement :: later) =
      statement.exec limits rounds >>= goOn (execBody limits rounds later) := by
  rw [execBody]
  refine bind_congr fun signal => ?_
  cases signal <;> rfl

/-- A single statement is run. -/
theorem execBody_singleton (statement : Statement) :
    execBody limits rounds [statement] = statement.exec limits rounds := by
  rw [execBody_cons]
  refine (bind_congr fun signal => ?_).trans (bind_pure _)
  cases signal <;> rfl

/-- Statements are run in two parts one after the other. -/
theorem execBody_append (body later : List Statement) :
    execBody limits rounds (body ++ later) =
      execBody limits rounds body >>= goOn (execBody limits rounds later) := by
  induction body with
  | nil => rfl
  | cons statement others inductionHypothesis =>
      rw [List.cons_append, execBody_cons, execBody_cons, inductionHypothesis, bind_assoc]
      refine bind_congr fun signal => ?_
      cases signal <;> rfl

end

/-! ### Relations between runs -/

namespace Run

/-- The property that everything has. -/
abbrev Anything {α : Type} : α → Prop := fun _ => True

/-- A relation between the parts of two evaluations, under `left` and under `right`, that no way of
putting parts together breaks. Related parts give values that have a property; the values of
variables and expressions are `good`. -/
structure CarriesExpressions (left right : Resources) (admitted : Expression → Prop)
    (good : Value → Prop) (Related : (α : Type) → (α → Prop) → Run α → Run α → Prop) : Prop
    extends Value.Closed admitted good where
  pure : ∀ {α : Type} {has : α → Prop} {value : α}, has value →
    Related α has (Pure.pure value) (Pure.pure value)
  fail : ∀ {α : Type} {has : α → Prop} {error : RuntimeError}, error.isOfCourse = false →
    Related α has (Run.fail error) (Run.fail error)
  bind : ∀ {α β : Type} {has : α → Prop} {further : β → Prop} {first first' : Run α}
    {next next' : α → Run β}, Related α has first first' →
      (∀ value, has value → Related β further (next value) (next' value)) →
        Related β further (first >>= next) (first' >>= next')
  print : ∀ line, Related Unit Anything (Run.print line) (Run.print line)
  lookup : ∀ {word}, admitted (.name word) →
    Related Value good (Run.lookup word) (Run.lookup word)
  binary : ∀ (op : BinaryOp) {first second : Value}, good first → good second →
    Related Value good (ofExcept (first.applyBinary op second left.sequence? left.memory))
      (ofExcept (first.applyBinary op second right.sequence? right.memory))
  range : ∀ bounds : List Int64,
    Related Value good (ofExcept (Progression.value bounds left.range? left.memory))
      (ofExcept (Progression.value bounds right.range? right.memory))

namespace CarriesExpressions

variable {left right : Resources} {admitted : Expression → Prop} {good : Value → Prop}
  {Related : (α : Type) → (α → Prop) → Run α → Run α → Prop}
  (carries : CarriesExpressions left right admitted good Related)

include carries

/-- Operations with the same outcome under `left` and under `right` are related. -/
theorem ofExcept {α : Type} {has : α → Prop} {result : Except RuntimeError α}
    (settled : Settled result) (gives : ∀ value, result = .ok value → has value) :
    Related α has (Run.ofExcept result) (Run.ofExcept result) := by
  cases result with
  | ok value => exact carries.pure (gives value rfl)
  | error error => exact carries.fail (settled error rfl)

/-- Operations with the same outcome of whose values nothing is asked are related. -/
theorem settled {α : Type} {result : Except RuntimeError α} (settled : Settled result) :
    Related α Anything (Run.ofExcept result) (Run.ofExcept result) :=
  carries.ofExcept settled fun _ _ => trivial

/-- Calls of the same value under `left` and under `right` are related. -/
theorem invoke {callee : Value} (goodCallee : good callee) (arguments : List Value) :
    Related Value good (callee.invoke left arguments) (callee.invoke right arguments) := by
  have range_eq : ∀ limits, Value.invoke limits (.builtin .range) arguments =
      Run.ofExcept (integers arguments) >>= fun bounds =>
        Run.ofExcept (Progression.value bounds limits.range? limits.memory) := by
    intro limits
    unfold Value.invoke Progression.value
    refine bind_congr fun bounds => ?_
    cases Progression.ofBounds bounds limits.range? limits.memory <;> rfl
  cases callee with
  | builtin function =>
      cases function with
      | print => exact carries.bind (carries.print _) fun _ _ => carries.pure (carries.plain rfl)
      | range =>
          rw [range_eq, range_eq]
          exact carries.bind (carries.settled (settled_integers arguments)) fun _ _ =>
            carries.range _
  | method receiver called =>
      unfold Value.invoke
      dsimp only
      split
      · exact carries.pure (carries.applied goodCallee)
      · exact carries.fail (by simp)
  | integer | float | boolean | text | list | none => exact carries.fail (by simp)

mutual

/-- Evaluations of an expression under `left` and under `right` are related. -/
theorem eval : (expression : Expression) → expression.Meets admitted →
    Related Value good (expression.eval left) (expression.eval right)
  | .integer _, _ | .float _, _ | .boolean _, _ | .none, _ => carries.pure (carries.plain rfl)
  | .text _, meets => carries.pure (carries.text meets.here)
  | .name _, meets => carries.lookup meets.here
  | .list elements, meets =>
      carries.bind (evalAll elements meets.operand) fun _ ⟨count, values⟩ =>
        carries.pure (carries.list meets.here count values)
  | .index object position, meets =>
      carries.bind (eval object (meets.operand _ (by simp [Expression.operands]))) fun _ whole =>
        carries.bind (eval position (meets.operand _ (by simp [Expression.operands]))) fun _ _ =>
          carries.ofExcept (Value.settled_subscript _ _) fun _ found =>
            carries.subscript found whole
  | .member object word, meets =>
      carries.bind (eval object (meets.operand _ (by simp [Expression.operands]))) fun _ whole =>
        carries.ofExcept (Value.settled_member _ _) fun _ found =>
          carries.member meets.here found whole
  | .call callee arguments, meets =>
      carries.bind (eval callee (meets.operand _ (by simp [Expression.operands]))) fun _ called =>
        carries.bind (evalAll arguments fun _ among => meets.operand _ (.tail _ among))
          fun _ _ => carries.invoke called _
  | .unary op operand, meets =>
      carries.bind (eval operand (meets.operand _ (by simp [Expression.operands]))) fun _ _ =>
        carries.ofExcept (Value.settled_applyUnary _ _) fun _ found => carries.applyUnary found
  | .binary first op second, meets =>
      carries.bind (eval first (meets.operand _ (by simp [Expression.operands]))) fun _ goodFirst =>
        carries.bind (eval second (meets.operand _ (by simp [Expression.operands])))
          fun _ goodSecond => carries.binary op goodFirst goodSecond
  | .compare first links, meets =>
      carries.bind (eval first (meets.operand _ (by simp [Expression.operands]))) fun _ _ =>
        carries.bind (evalLinks _ links fun _ among => meets.operand _ (.tail _ among))
          fun _ _ => carries.pure (carries.plain rfl)
  | .logical first op second, meets => by
      refine carries.bind (eval first (meets.operand _ (by simp [Expression.operands])))
        fun value goodFirst => ?_
      have secondAlike := eval second (meets.operand _ (by simp [Expression.operands]))
      -- Both runs have the same first operand, so they decide alike whether it is the result.
      cases op <;> cases value.isTruthy
      · exact carries.pure goodFirst
      · exact secondAlike
      · exact secondAlike
      · exact carries.pure goodFirst

/-- Evaluations of expressions one after the other under `left` and under `right` are related. -/
theorem evalAll : (expressions : List Expression) →
    (∀ expression ∈ expressions, expression.Meets admitted) →
    Related (List Value)
      (fun values => values.length = expressions.length ∧ ∀ value ∈ values, good value)
      (Expression.evalAll left expressions) (Expression.evalAll right expressions)
  | [], _ => carries.pure ⟨rfl, fun _ among => nomatch among⟩
  | first :: later, meets =>
      carries.bind (eval first (meets _ (.head _))) fun _ goodFirst =>
        carries.bind (evalAll later fun _ among => meets _ (.tail _ among))
          fun _ ⟨count, goodLater⟩ =>
            carries.pure ⟨congrArg (· + 1) count, List.forall_mem_cons.mpr ⟨goodFirst, goodLater⟩⟩

/-- Evaluations of a chain of comparisons under `left` and under `right` are related. -/
theorem evalLinks : (value : Value) → (links : List (CompareOp × Expression)) →
    (∀ operand ∈ links.map Prod.snd, operand.Meets admitted) →
    Related Bool Anything (Expression.evalLinks left value links)
      (Expression.evalLinks right value links)
  | _, [], _ => carries.pure trivial
  | value, (op, operand) :: later, meets =>
      carries.bind (eval operand (meets _ (.head _))) fun next _ =>
        carries.bind (carries.settled (Value.settled_applyCompare op value next))
          fun holds _ => by
            cases holds
            · exact carries.pure trivial
            · exact evalLinks next later fun _ among => meets _ (.tail _ among)

end

/-- Evaluations of a condition under `left` and under `right` are related. -/
theorem holds {condition : Expression} (meets : condition.Meets admitted) :
    Related Bool Anything (condition.holds left) (condition.holds right) :=
  carries.bind (carries.eval condition meets) fun _ _ => carries.pure trivial

end CarriesExpressions

/-- A relation between the parts of two runs, under `left` and under `right`, that no way of putting
parts together breaks, where runs also count steps and give variables values. -/
structure Carries (left right : Resources) (admitted : Expression → Prop) (settable : String → Prop)
    (good : Value → Prop) (Related : (α : Type) → (α → Prop) → Run α → Run α → Prop) : Prop
    extends CarriesExpressions left right admitted good Related where
  tick : Related Unit Anything (Run.tick left) (Run.tick right)
  assign : ∀ {target value}, settable target → good value →
    Related Unit Anything (Run.assign target value) (Run.assign target value)

namespace Carries

variable {left right : Resources} {admitted : Expression → Prop} {settable : String → Prop}
  {good : Value → Prop} {Related : (α : Type) → (α → Prop) → Run α → Run α → Prop}
  (carries : Carries left right admitted settable good Related)

include carries

/-- Loops over the same items are related if their bodies are. -/
theorem forEach {target : String} (set : settable target) {body body' : Run Signal}
    (same : Related Signal Anything body body') (items : List Value)
    (goodItems : ∀ item ∈ items, good item) :
    Related Unit Anything (Run.forEach left target body items)
      (Run.forEach right target body' items) := by
  induction items with
  | nil => exact carries.pure trivial
  | cons item later inductionHypothesis =>
      rw [List.forall_mem_cons] at goodItems
      refine carries.bind carries.tick fun _ _ => ?_
      refine carries.bind (carries.assign set goodItems.1) fun _ _ => ?_
      refine carries.bind same fun signal _ => ?_
      cases signal with
      | stop => exact carries.pure trivial
      | done | next => exact inductionHypothesis goodItems.2

/-- Rounds of a `while` loop are related if the condition, the body and the later rounds are. -/
theorem whileHolds_succ {condition condition' : Run Bool} {body body' : Run Signal}
    {rounds rounds' : Nat} (sameCondition : Related Bool Anything condition condition')
    (sameBody : Related Signal Anything body body')
    (later : Related Unit Anything (Run.whileHolds left condition body rounds)
      (Run.whileHolds right condition' body' rounds')) :
    Related Unit Anything (Run.whileHolds left condition body (rounds + 1))
      (Run.whileHolds right condition' body' (rounds' + 1)) := by
  refine carries.bind sameCondition fun holds _ => ?_
  cases holds with
  | false => exact carries.pure trivial
  | true =>
      refine carries.bind carries.tick fun _ _ => carries.bind sameBody fun signal _ => ?_
      cases signal with
      | stop => exact carries.pure trivial
      | done | next => exact later

end Carries

/-- A relation that no way of putting parts together breaks and that holds of `while` loops with
some rounds when it holds of their conditions and bodies. -/
structure CarriesLoops (left right : Resources) (rounds rounds' : Nat)
    (admitted : Expression → Prop) (settable : String → Prop) (good : Value → Prop)
    (Related : (α : Type) → (α → Prop) → Run α → Run α → Prop) : Prop
    extends Carries left right admitted settable good Related where
  loop : ∀ {condition condition' : Run Bool} {body body' : Run Signal},
    Related Bool Anything condition condition' → Related Signal Anything body body' →
      Related Unit Anything (whileHolds left condition body rounds)
        (whileHolds right condition' body' rounds')

/-- With the same rounds on both sides it is enough that unfinished loops are related. -/
theorem Carries.loops {left right : Resources} {admitted : Expression → Prop}
    {settable : String → Prop} {good : Value → Prop}
    {Related : (α : Type) → (α → Prop) → Run α → Run α → Prop}
    (carries : Carries left right admitted settable good Related)
    (unfinished : Related Unit Anything (throw .unfinished) (throw .unfinished)) (rounds : Nat) :
    CarriesLoops left right rounds rounds admitted settable good Related where
  toCarries := carries
  loop := by
    intro condition condition' body body' sameCondition sameBody
    induction rounds with
    | zero => exact unfinished
    | succ rounds inductionHypothesis =>
        exact carries.whileHolds_succ sameCondition sameBody inductionHypothesis

namespace CarriesLoops

variable {left right : Resources} {rounds rounds' : Nat} {admitted : Expression → Prop}
  {settable : String → Prop} {good : Value → Prop}
  {Related : (α : Type) → (α → Prop) → Run α → Run α → Prop}
  (carries : CarriesLoops left right rounds rounds' admitted settable good Related)

include carries

/-! ### Statements with related blocks -/

/-- Loops over an expression are related if their bodies are. -/
theorem exec_forEach {target : String} {iterable : Expression} {body body' : List Statement}
    (set : settable target) (meets : iterable.Meets admitted)
    (same : Related Signal Anything (Offside.execBody left rounds body)
      (Offside.execBody right rounds' body')) :
    Related Signal Anything ((Statement.forEach target iterable body).exec left rounds)
      ((Statement.forEach target iterable body').exec right rounds') :=
  carries.bind carries.tick fun _ _ =>
    carries.bind (carries.eval iterable meets) fun value goodValue =>
      carries.bind (carries.ofExcept value.settled_iterate fun _ iterates =>
        carries.iterate iterates goodValue) fun items goodItems =>
          carries.bind (carries.forEach set same items goodItems) fun _ _ => carries.pure trivial

/-- Loops on a condition are related if their bodies are. -/
theorem exec_whileLoop {condition : Expression} {body body' : List Statement}
    (meets : condition.Meets admitted)
    (same : Related Signal Anything (Offside.execBody left rounds body)
      (Offside.execBody right rounds' body')) :
    Related Signal Anything ((Statement.whileLoop condition body).exec left rounds)
      ((Statement.whileLoop condition body').exec right rounds') :=
  carries.bind carries.tick fun _ _ =>
    carries.bind (carries.loop (carries.holds meets) same) fun _ _ => carries.pure trivial

/-- Conditional statements are related if their branches are. -/
theorem exec_conditional {chain chain' : Chain}
    (same : Related Signal Anything (chain.exec left rounds) (chain'.exec right rounds')) :
    Related Signal Anything ((Statement.conditional chain).exec left rounds)
      ((Statement.conditional chain').exec right rounds') :=
  carries.bind carries.tick fun _ _ => same

/-- Branches are related if their bodies and what follows them are. -/
theorem exec_branch {condition : Expression} {body body' : List Statement} {rest rest' : Chain}
    (meets : condition.Meets admitted)
    (same : Related Signal Anything (Offside.execBody left rounds body)
      (Offside.execBody right rounds' body'))
    (sameRest : Related Signal Anything (rest.exec left rounds) (rest'.exec right rounds')) :
    Related Signal Anything ((Chain.branch condition body rest).exec left rounds)
      ((Chain.branch condition body' rest').exec right rounds') :=
  carries.bind (carries.holds meets) fun holds _ => by
    cases holds
    · exact sameRest
    · exact same

/-- Statements one after the other are related if those before and those behind are. -/
theorem bind_goOn {first first' later later' : Run Signal}
    (same : Related Signal Anything first first')
    (sameLater : Related Signal Anything later later') :
    Related Signal Anything (first >>= goOn later) (first' >>= goOn later') :=
  carries.bind same fun signal _ => by
    cases signal with
    | done => exact sameLater
    | stop | next => exact carries.pure trivial

/-! ### The same statements on both sides -/

mutual

/-- Runs of a statement under `left` and under `right` are related. -/
theorem exec : (statement : Statement) → statement.Meets admitted settable →
    Related Signal Anything (statement.exec left rounds) (statement.exec right rounds')
  | .assign _ value, ⟨set, meets⟩ =>
      carries.bind carries.tick fun _ _ => carries.bind (carries.eval value meets)
        fun _ goodValue => carries.bind (carries.assign set goodValue) fun _ _ =>
          carries.pure trivial
  | .update _ op value, ⟨set, known, meets⟩ =>
      carries.bind carries.tick fun _ _ => carries.bind (carries.lookup known)
        fun _ goodCurrent => carries.bind (carries.eval value meets)
          fun _ goodValue => carries.bind (carries.binary op goodCurrent goodValue)
            fun _ goodResult => carries.bind (carries.assign set goodResult) fun _ _ =>
              carries.pure trivial
  | .forEach _ _ body, ⟨set, meets, meetsBody⟩ =>
      carries.exec_forEach set meets (execBody body meetsBody)
  | .whileLoop _ body, ⟨meets, meetsBody⟩ => carries.exec_whileLoop meets (execBody body meetsBody)
  | .conditional chain, meets => carries.exec_conditional (execChain chain meets)
  | .stop, _ | .next, _ | .pass, _ =>
      carries.bind carries.tick fun _ _ => carries.pure trivial
  | .expression value, meets =>
      carries.bind carries.tick fun _ _ => carries.bind (carries.eval value meets) fun _ _ =>
        carries.pure trivial

/-- Runs of the branches of a conditional statement under `left` and under `right` are related. -/
theorem execChain : (chain : Chain) → chain.Meets admitted settable →
    Related Signal Anything (chain.exec left rounds) (chain.exec right rounds')
  | .done, _ => carries.pure trivial
  | .otherwise body, meets => execBody body meets
  | .branch _ body rest, ⟨meets, meetsBody, meetsRest⟩ =>
      carries.exec_branch meets (execBody body meetsBody) (execChain rest meetsRest)

/-- Runs of statements one after the other under `left` and under `right` are related. -/
theorem execBody : (body : List Statement) → Program.Meets admitted settable body →
    Related Signal Anything (Offside.execBody left rounds body)
      (Offside.execBody right rounds' body)
  | [], _ => carries.pure trivial
  | statement :: later, ⟨meets, meetsLater⟩ => by
      rw [execBody_cons, execBody_cons]
      exact carries.bind_goOn (exec statement meets) (execBody later meetsLater)

end

end CarriesLoops

end Run

end Offside
