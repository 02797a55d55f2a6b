import Offside.Proofs.Grammar.Line

/-!
# The height of expressions

Evaluation recurses once for each level of an expression, `Expression.height`.
The parser counts something else: an operand nests below the operators before it
in its chain, and a chain begins anew behind each of its operands. In the tree
that chain becomes, an operand lies below the operators at it and after it.
`Phrase.height` counts these, so that the height of an expression can be told
from how it is spelled.
-/

namespace Offside

namespace Expression

mutual

/-- The number of nodes on the longest way from the root to a leaf. -/
def height : Expression → Nat
  | integer _ | float _ | text _ | boolean _ | none | name _ => 1
  | list elements => heights elements + 1
  | index object position => max object.height position.height + 1
  | member object _ => object.height + 1
  | call callee arguments => max callee.height (heights arguments) + 1
  | unary _ operand => operand.height + 1
  | binary left _ right => max left.height right.height + 1
  | compare left links => max left.height (linkHeights links) + 1
  | logical left _ right => max left.height right.height + 1

/-- The height of the highest of some expressions. -/
def heights : List Expression → Nat
  | [] => 0
  | first :: later => max first.height (heights later)

/-- The height of the highest right operand of some comparisons. -/
def linkHeights : List (CompareOp × Expression) → Nat
  | [] => 0
  | (_, right) :: later => max right.height (linkHeights later)

end

end Expression

namespace Phrase

/-- The number of nodes that a phrase behind an operand puts above that operand. All comparisons
of a chain are one node. -/
def steps : {category : Category} → Phrase category → Nat
  | _, operator _ _ _ _ later => later.steps + 1
  | _, link .. => 1
  | _, call _ later | _, subscript _ later | _, member _ later => later.steps + 1
  | _, _ => 0

/-- The height of what a phrase stands for. Of a phrase that stands behind an operand it is that
of the part it contributes: every operand with the nodes that later operators or suffixes put
above it. -/
def height : {category : Category} → Phrase category → Nat
  | _, expression value => value.height
  | _, chain first more => max (first.height + more.steps) more.height
  | _, conjunction value => value.height
  | _, negation value => value.height
  | _, term value => value.height
  | _, signed value => value.height
  | _, noOperator => 0
  | _, operator _ _ _ right later => max (right.height + 1 + later.steps) later.height
  | _, not operand => operand.height + 1
  | _, comparison left links => max (left.height + links.steps) links.height
  | _, noLink => 0
  | _, link _ right later => max (right.height + 1) later.height
  | _, sign _ _ _ operand => operand.height + 1
  | _, suffixed object more => max (object.height + more.steps) more.height
  | _, noSuffix => 0
  | _, call given later => max (given.height + 1 + later.steps) later.height
  | _, subscript position later => max (position.height + 1 + later.steps) later.height
  | _, member _ later => later.height
  | _, atom .. => 1
  | _, bracketed inner => inner.height
  | _, list elements => elements.height + 1
  | _, noArgument => 0
  | _, lastArgument value => value.height
  | _, argument value later => max value.height later.height

/-- A phrase has the height of its meaning. Behind an operand, it puts its steps above that, and
its own parts beside it. -/
def HasHeight : {category : Category} → Phrase category → Prop
  | .operators _, phrase | .suffixes, phrase => ∀ before : Expression,
      (phrase.meaning before).height = max (before.height + phrase.steps) phrase.height
  | .comparisons, phrase =>
      phrase.meaning = [] ∧ phrase.steps = 0 ∧ phrase.height = 0 ∨
        phrase.meaning ≠ [] ∧ phrase.steps = 1 ∧
          phrase.height = Expression.linkHeights phrase.meaning + 1
  | .arguments, phrase => Expression.heights phrase.meaning = phrase.height
  | .expression, phrase | .chain _, phrase | .operand _, phrase | .negation, phrase
  | .signed, phrase | .primary, phrase => phrase.meaning.height = phrase.height

/-- Joining two operands puts a node above both. -/
theorem height_of_joins {level : Expression.Level} {word : Token.Kind}
    {join : Expression → Expression → Expression} (joins : Joins level word join)
    (left right : Expression) : (join left right).height = max left.height right.height + 1 := by
  cases joins <;> rfl

/-- A literal or a name is a leaf. -/
theorem height_of_isAtom {word : Token.Kind} {value : Expression} (isAtom : IsAtom word value) :
    value.height = 1 := by
  cases isAtom <;> rfl

/-- The comparisons of a chain are one node above all their operands. -/
theorem height_compared {left : Expression} {links : List (CompareOp × Expression)}
    (nonempty : links ≠ []) : (Expression.compared left links).height =
      max left.height (Expression.linkHeights links) + 1 := by
  cases links with
  | nil => exact absurd rfl nonempty
  | cons link later => rfl

/-- The height of a phrase is that of its meaning. -/
theorem hasHeight {category : Category} (phrase : Phrase category) : phrase.HasHeight := by
  induction phrase with
  | expression value same | conjunction value same | negation value same | term value same
  | signed value same | bracketed value same => exact same
  | chain first more firstSame moreSame =>
      have whole := moreSame first.meaning
      have firstHeight : first.meaning.height = first.height := firstSame
      change (more.meaning first.meaning).height = max (first.height + more.steps) more.height
      omega
  | noOperator | noSuffix =>
      intro before
      exact (Nat.max_zero _).symm
  | operator word join joins right later rightSame laterSame =>
      intro before
      have whole := laterSame (join before right.meaning)
      have node := height_of_joins joins before right.meaning
      have rightHeight : right.meaning.height = right.height := rightSame
      change (later.meaning (join before right.meaning)).height =
        max (before.height + (later.steps + 1)) (max (right.height + 1 + later.steps) later.height)
      omega
  | not operand same | sign word op isSign operand same => exact congrArg (· + 1) same
  | comparison left links leftSame linksSame =>
      have leftHeight : left.meaning.height = left.height := leftSame
      change (Expression.compared left.meaning links.meaning).height =
        max (left.height + links.steps) links.height
      rcases linksSame with ⟨none, steps, height⟩ | ⟨some, steps, height⟩
      · rw [none, steps, height, Expression.compared]
        omega
      · rw [height_compared some, steps, height]
        omega
  | noLink => exact .inl ⟨rfl, rfl, rfl⟩
  | link op right later rightSame laterSame =>
      have rightHeight : right.meaning.height = right.height := rightSame
      refine .inr ⟨List.cons_ne_nil _ _, rfl, ?_⟩
      change max (right.height + 1) later.height =
        max right.meaning.height (Expression.linkHeights later.meaning) + 1
      rcases laterSame with ⟨none, steps, height⟩ | ⟨some, steps, height⟩
      · rw [none, height, Expression.linkHeights]
        omega
      · omega
  | suffixed object more objectSame moreSame =>
      have whole := moreSame object.meaning
      have objectHeight : object.meaning.height = object.height := objectSame
      change (more.meaning object.meaning).height = max (object.height + more.steps) more.height
      omega
  | call given later givenSame laterSame =>
      intro before
      have whole := laterSame (.call before given.meaning)
      have givenHeight : Expression.heights given.meaning = given.height := givenSame
      rw [Expression.height] at whole
      change (later.meaning (.call before given.meaning)).height =
        max (before.height + (later.steps + 1)) (max (given.height + 1 + later.steps) later.height)
      omega
  | subscript position later positionSame laterSame =>
      intro before
      have whole := laterSame (.index before position.meaning)
      have positionHeight : position.meaning.height = position.height := positionSame
      rw [Expression.height] at whole
      change (later.meaning (.index before position.meaning)).height =
        max (before.height + (later.steps + 1))
          (max (position.height + 1 + later.steps) later.height)
      omega
  | member word later laterSame =>
      intro before
      have whole := laterSame (.member before word)
      rw [Expression.height] at whole
      change (later.meaning (.member before word)).height =
        max (before.height + (later.steps + 1)) later.height
      omega
  | atom word value isAtom => exact height_of_isAtom isAtom
  | list elements same => exact congrArg (· + 1) same
  | noArgument => rfl
  | lastArgument value same => exact (Nat.max_zero _).trans same
  | argument value later valueSame laterSame =>
      have valueHeight : value.meaning.height = value.height := valueSame
      have laterHeight : Expression.heights later.meaning = later.height := laterSame
      change max value.meaning.height (Expression.heights later.meaning) = _
      rw [valueHeight, laterHeight]
      rfl

end Phrase

/-- The expression of a line, if it has one. -/
def Line.value? : Line → Option Expression
  | .simple (.assign _ value) | .simple (.update _ _ value) | .simple (.expression value) =>
      some value
  | .header (.forEach _ value) | .header (.whileLoop value) | .header (.branch value)
  | .header (.elseBranch value) => some value
  | .simple _ | .header .otherwise => none

namespace LinePhrase

/-- The expression of a line phrase is that of the line it stands for. -/
theorem value?_line (phrase : LinePhrase) : phrase.line.value? = phrase.value?.map (·.meaning) := by
  cases phrase with
  | conditional word header begins => cases begins <;> rfl
  | plain word statement isWord => cases isWord <;> rfl
  | assignment target sign statement assigns => cases assigns <;> rfl
  | forEach | otherwise | bare => rfl

/-- The height of the expression of a line phrase; without an expression it is nothing. -/
def height (phrase : LinePhrase) : Nat :=
  (phrase.value?.map Phrase.height).getD 0

/-- A bound on the height of a line phrase is one on the expression of its line. -/
theorem height_line_le_iff (phrase : LinePhrase) (bound : Nat) :
    (∀ value ∈ phrase.line.value?, value.height ≤ bound) ↔ phrase.height ≤ bound := by
  rw [value?_line, height]
  cases phrase.value? with
  | none => simp
  | some value =>
      have same : value.meaning.height = value.height := value.hasHeight
      simp [same]

end LinePhrase

/-- No accepted expression is higher than the levels that the parser allows, exactly when this
holds of every line phrase that the words of the text spell: when no operand has so many
operators and suffixes at it, behind it and around it. -/
theorem Line.height_le_mostLevels_iff (text : String) (number : Nat) :
    (∀ line, ofText text number = .ok line → ∀ value ∈ line.value?, value.height ≤ 100) ↔
      ∀ phrase : LinePhrase, Token.Lexes text.toList phrase.words → phrase.levels ≤ 100 →
        phrase.height ≤ 100 := by
  constructor
  · intro low phrase lexes shallow
    have accepted : ofText text number = .ok phrase.line :=
      ofText_eq_ok_iff.mpr ⟨phrase, lexes, rfl, shallow⟩
    exact (phrase.height_line_le_iff 100).mp (low _ accepted)
  · intro low line accepted
    obtain ⟨phrase, lexes, rfl, shallow⟩ := ofText_eq_ok_iff.mp accepted
    exact (phrase.height_line_le_iff 100).mpr (low phrase lexes shallow)

/-- Ninety-nine signs before the first operand of a product. -/
def signedProduct : String :=
  String.ofList (List.replicate 99 '-') ++ "x*y"

set_option maxRecDepth 20000 in
/-- The product is one node higher than its signs. -/
theorem height_signedProduct : ∃ line value, Line.ofText signedProduct 1 = .ok line ∧
    line.value? = some value ∧ value.height = 101 := by
  let signed : Expression := Nat.repeat (.unary .negate) 99 (.name "x")
  refine ⟨.simple (.expression (.binary signed .mul (.name "y"))), _, ?_, rfl, ?_⟩
  · cbv
  · decide

end Offside
