import Offside.Syntax.Expression

/-!
# Statements

A program is a list of statements, and the body of a loop or of a branch is
again one. Indentation is gone from these trees.
-/

namespace Offside

mutual

/-- A statement. -/
inductive Statement where
  | assign (target : String) (value : Expression)
  /-- `target op= value` -/
  | update (target : String) (op : BinaryOp) (value : Expression)
  | forEach (target : String) (iterable : Expression) (body : List Statement)
  | whileLoop (condition : Expression) (body : List Statement)
  | conditional (chain : Chain)
  | stop
  | next
  | pass
  | expression (value : Expression)

/-- The branches of a conditional statement in their order, and at the end the body for
the case that no condition holds, if there is one. -/
inductive Chain where
  | done
  | otherwise (body : List Statement)
  | branch (condition : Expression) (body : List Statement) (rest : Chain)

end

namespace Chain

/-- The chain that goes on with `rest` where this one ends, if this one has no last body
for the case that no condition holds. -/
def extend? : Chain → Chain → Option Chain
  | done, rest => some rest
  | otherwise _, _ => none
  | branch condition body later, rest => (later.extend? rest).map (branch condition body)

/-- Whether more branches can follow. -/
def isOpen : Chain → Bool
  | done => true
  | otherwise _ => false
  | branch _ _ later => later.isOpen

/-- A chain can be extended exactly when it is open. -/
theorem isSome_extend? : ∀ chain rest : Chain, (chain.extend? rest).isSome = chain.isOpen
  | done, _ => rfl
  | otherwise _, _ => rfl
  | branch _ _ later, rest => by simpa [extend?, isOpen] using isSome_extend? later rest

end Chain

/-- A program. -/
abbrev Program := List Statement

end Offside
