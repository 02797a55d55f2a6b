import Offside.Syntax.Statement

/-!
# What is inside of a program

The expressions that stand anywhere in a program, the variables that it gives values, and
all names it knows its variables by. A property of expressions and one of variables
that hold everywhere inside (`Program.Meets`) can be taken along when a run
descends into the program.
-/

namespace Offside

namespace Expression

/-- The expressions that an expression is put together from, from the left. -/
def operands : Expression → List Expression
  | integer _ | float _ | text _ | boolean _ | none | name _ => []
  | list elements => elements
  | index object position => [object, position]
  | member object _ => [object]
  | call callee arguments => callee :: arguments
  | unary _ operand => [operand]
  | binary left _ right => [left, right]
  | compare left links => left :: links.map Prod.snd
  | logical left _ right => [left, right]

mutual

/-- An expression and all expressions in it. -/
def parts : Expression → List Expression
  | integer value => [integer value]
  | float value => [float value]
  | text content => [text content]
  | boolean value => [boolean value]
  | none => [none]
  | name word => [name word]
  | list elements => list elements :: partsOfAll elements
  | index object position => index object position :: (object.parts ++ position.parts)
  | member object word => member object word :: object.parts
  | call callee arguments => call callee arguments :: (callee.parts ++ partsOfAll arguments)
  | unary op operand => unary op operand :: operand.parts
  | binary left op right => binary left op right :: (left.parts ++ right.parts)
  | compare left links => compare left links :: (left.parts ++ partsOfLinks links)
  | logical left op right => logical left op right :: (left.parts ++ right.parts)

/-- The parts of some expressions. -/
def partsOfAll : List Expression → List Expression
  | [] => []
  | first :: later => first.parts ++ partsOfAll later

/-- The parts of the operands in a chain of comparisons. -/
def partsOfLinks : List (CompareOp × Expression) → List Expression
  | [] => []
  | (_, operand) :: later => operand.parts ++ partsOfLinks later

end

/-- The parts of some expressions are those of each of them, one after the other. -/
theorem partsOfAll_eq (expressions : List Expression) :
    partsOfAll expressions = expressions.flatMap parts := by
  induction expressions with
  | nil => rfl
  | cons first later inductionHypothesis =>
      rw [partsOfAll, inductionHypothesis, List.flatMap_cons]

/-- The parts of a chain of comparisons are those of each operand, one after the other. -/
theorem partsOfLinks_eq (links : List (CompareOp × Expression)) :
    partsOfLinks links = (links.map Prod.snd).flatMap parts := by
  induction links with
  | nil => rfl
  | cons link later inductionHypothesis =>
      rw [partsOfLinks, inductionHypothesis, List.map_cons, List.flatMap_cons]

/-- The parts of an expression are itself and those of its operands. -/
theorem parts_eq (expression : Expression) :
    expression.parts = expression :: expression.operands.flatMap parts := by
  cases expression <;> simp [parts, operands, partsOfAll_eq, partsOfLinks_eq]

/-- Whether a property holds of all parts of an expression. -/
def Meets (admitted : Expression → Prop) (expression : Expression) : Prop :=
  ∀ part ∈ expression.parts, admitted part

/-- A property holds of all parts of an expression when it holds of the expression itself and of all
parts of its operands. -/
theorem meets_iff {admitted : Expression → Prop} {expression : Expression} :
    expression.Meets admitted ↔
      admitted expression ∧ ∀ operand ∈ expression.operands, operand.Meets admitted := by
  simp only [Meets, parts_eq expression, List.forall_mem_cons, List.mem_flatMap]
  constructor
  · rintro ⟨here, inside⟩
    exact ⟨here, fun operand among part within => inside part ⟨operand, among, within⟩⟩
  · rintro ⟨here, inside⟩
    exact ⟨here, fun part ⟨operand, among, within⟩ => inside operand among part within⟩

/-- A property of all parts of an expression is one of the expression itself. -/
theorem Meets.here {admitted : Expression → Prop} {expression : Expression}
    (meets : expression.Meets admitted) : admitted expression :=
  (meets_iff.mp meets).1

/-- A property of all parts of an expression is one of all parts of an operand. -/
theorem Meets.operand {admitted : Expression → Prop} {expression : Expression}
    (meets : expression.Meets admitted) :
    ∀ operand ∈ expression.operands, operand.Meets admitted :=
  (meets_iff.mp meets).2

/-- The name that an expression is, if it is one. -/
def name? : Expression → Option String
  | name word => some word
  | _ => Option.none

end Expression

/-! ### Expressions and variables of a program -/

mutual

/-- The expressions in a statement. An update reads its target, too. -/
def Statement.expressions : Statement → List Expression
  | .assign _ value => value.parts
  | .update target _ value => .name target :: value.parts
  | .forEach _ iterable body => iterable.parts ++ Program.expressions body
  | .whileLoop condition body => condition.parts ++ Program.expressions body
  | .conditional chain => chain.expressions
  | .stop | .next | .pass => []
  | .expression value => value.parts

/-- The expressions in the branches of a conditional statement. -/
def Chain.expressions : Chain → List Expression
  | .done => []
  | .otherwise body => Program.expressions body
  | .branch condition body rest =>
      condition.parts ++ (Program.expressions body ++ rest.expressions)

/-- The expressions in a program, at any depth. -/
def Program.expressions : List Statement → List Expression
  | [] => []
  | statement :: later => statement.expressions ++ Program.expressions later

end

mutual

/-- The variables that a statement gives values: by an assignment, by an update or as the target
of a loop. -/
def Statement.targets : Statement → List String
  | .assign target _ | .update target _ _ => [target]
  | .forEach target _ body => target :: Program.targets body
  | .whileLoop _ body => Program.targets body
  | .conditional chain => chain.targets
  | .stop | .next | .pass | .expression _ => []

/-- The variables that the branches of a conditional statement give values. -/
def Chain.targets : Chain → List String
  | .done => []
  | .otherwise body => Program.targets body
  | .branch _ body rest => Program.targets body ++ rest.targets

/-- The variables that a program gives values, at any depth. -/
def Program.targets : List Statement → List String
  | [] => []
  | statement :: later => statement.targets ++ Program.targets later

end

/-- The names that occur in a program: those that it gives values and those that it reads.
Attributes are no names of variables. -/
def Program.names (program : Program) : List String :=
  Program.targets program ++ (Program.expressions program).filterMap Expression.name?

/-! ### Properties of everything inside -/

section

variable (admitted : Expression → Prop) (settable : String → Prop)

mutual

/-- Whether a property holds of all expressions in a statement and another one of all variables
that it gives values. -/
def Statement.Meets : Statement → Prop
  | .assign target value => settable target ∧ value.Meets admitted
  | .update target _ value => settable target ∧ admitted (.name target) ∧ value.Meets admitted
  | .forEach target iterable body =>
      settable target ∧ iterable.Meets admitted ∧ Program.Meets body
  | .whileLoop condition body => condition.Meets admitted ∧ Program.Meets body
  | .conditional chain => chain.Meets
  | .stop | .next | .pass => True
  | .expression value => value.Meets admitted

/-- Whether a property holds of all expressions in the branches of a conditional statement and
another one of all variables that they give values. -/
def Chain.Meets : Chain → Prop
  | .done => True
  | .otherwise body => Program.Meets body
  | .branch condition body rest =>
      condition.Meets admitted ∧ Program.Meets body ∧ rest.Meets

/-- Whether a property holds of all expressions in a program and another one of all variables that
it gives values. -/
def Program.Meets : List Statement → Prop
  | [] => True
  | statement :: later => statement.Meets ∧ Program.Meets later

end

end

section

variable {admitted : Expression → Prop} {settable : String → Prop}

mutual

/-- Properties of all expressions and variables in a statement hold in it. -/
theorem Statement.meets : (statement : Statement) →
    (∀ part ∈ statement.expressions, admitted part) →
    (∀ name ∈ statement.targets, settable name) → statement.Meets admitted settable
  | .assign target value, inside, set => ⟨set target (.head _), inside⟩
  | .update target op value, inside, set =>
      ⟨set target (.head _), inside _ (.head _), fun part member => inside part (.tail _ member)⟩
  | .forEach target iterable body, inside, set => by
      rw [Statement.expressions, List.forall_mem_append] at inside
      rw [Statement.targets, List.forall_mem_cons] at set
      exact ⟨set.1, inside.1, Program.meets body inside.2 set.2⟩
  | .whileLoop condition body, inside, set => by
      rw [Statement.expressions, List.forall_mem_append] at inside
      exact ⟨inside.1, Program.meets body inside.2 set⟩
  | .conditional chain, inside, set => chain.meets inside set
  | .stop, _, _ | .next, _, _ | .pass, _, _ => trivial
  | .expression value, inside, _ => inside

/-- Properties of all expressions and variables in the branches of a conditional statement hold in
these. -/
theorem Chain.meets : (chain : Chain) → (∀ part ∈ chain.expressions, admitted part) →
    (∀ name ∈ chain.targets, settable name) → chain.Meets admitted settable
  | .done, _, _ => trivial
  | .otherwise body, inside, set => Program.meets body inside set
  | .branch condition body rest, inside, set => by
      rw [Chain.expressions, List.forall_mem_append, List.forall_mem_append] at inside
      rw [Chain.targets, List.forall_mem_append] at set
      exact ⟨inside.1, Program.meets body inside.2.1 set.1, rest.meets inside.2.2 set.2⟩

/-- Properties of all expressions and variables in a program hold in it. -/
theorem Program.meets : (program : List Statement) →
    (∀ part ∈ Program.expressions program, admitted part) →
    (∀ name ∈ Program.targets program, settable name) → Program.Meets admitted settable program
  | [], _, _ => trivial
  | statement :: later, inside, set => by
      rw [Program.expressions, List.forall_mem_append] at inside
      rw [Program.targets, List.forall_mem_append] at set
      exact ⟨statement.meets inside.1 set.1, Program.meets later inside.2 set.2⟩

end

end

/-- Every name that a program reads occurs in it. -/
theorem Program.meets_names (program : Program) : Program.Meets
    (fun part => ∀ name ∈ part.name?, name ∈ program.names) (fun _ => True) program := by
  refine Program.meets program (fun part among name named => ?_) fun _ _ => trivial
  exact List.mem_append_right _ (List.mem_filterMap.mpr ⟨part, among, named⟩)

end Offside
