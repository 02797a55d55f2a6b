import Offside.Proofs.Grammar.Height

/-!
# The tallest expressions

How high an expression with a given number of levels can be. On each of the five
levels of precedence that are chains, every operator adds a node above the first
operand, and the levels that it uses up are free again for that operand. So the
height grows with the square of the levels. `Phrase.height_le_tallest` is the
bound, and `tower` has just that height.
-/

namespace Offside

open Expression (Level)

/-- The height of the tallest expression with a number of levels. -/
def tallest : Nat → Nat
  | 0 => 0
  | levels + 1 => tallest levels + 5 * levels + 2

/-- More levels allow taller expressions. -/
theorem tallest_le_succ (levels : Nat) : tallest levels ≤ tallest (levels + 1) := by
  rw [tallest]
  omega

/-- The tallest expression has about five halves of the square of its levels. -/
theorem two_mul_tallest (levels : Nat) : 2 * tallest levels + levels = 5 * (levels * levels) := by
  induction levels with
  | zero => rfl
  | succ levels inductionHypothesis =>
      have square : (levels + 1) * (levels + 1) = levels * levels + 2 * levels + 1 := by
        rw [Nat.add_mul, Nat.mul_add]
        omega
      rw [tallest, square]
      omega

namespace Phrase

/-- The most nodes on a way down a phrase of a category to an expression that it has in brackets,
with a number of levels left. -/
def Category.reach (levels : Nat) : Category → Nat
  | .expression | .arguments => 0
  | .primary => 1
  | .signed | .suffixes | .operand .term => levels + 1
  | .chain .term | .operators .term | .operand .sum => 2 * levels + 1
  | .chain .sum | .operators .sum => 3 * levels + 1
  | .negation | .comparisons | .operand .conjunction => 3 * levels + 2
  | .chain .conjunction | .operators .conjunction | .operand .disjunction => 4 * levels + 2
  | .chain .disjunction | .operators .disjunction => 5 * levels + 2

/-- Every operator and every suffix that puts a node above the operand before it uses up a level;
only comparisons do not. -/
theorem steps_le_levels {category : Category} (phrase : Phrase category)
    (notLinks : category ≠ .comparisons) : phrase.steps ≤ phrase.levels := by
  induction phrase with
  | operator word join joins right later rightBound laterBound =>
      have bound := laterBound (by simp)
      simp only [steps, levels]
      omega
  | call given later givenBound laterBound =>
      have bound := laterBound (by simp)
      simp only [steps, levels]
      omega
  | subscript position later positionBound laterBound =>
      have bound := laterBound (by simp)
      simp only [steps, levels]
      omega
  | member word later laterBound => exact Nat.succ_le_succ (laterBound (by simp))
  | link => exact absurd rfl notLinks
  | _ => exact Nat.zero_le _

/-- Comparisons put one node above their first operand. -/
theorem steps_le_one (links : Phrase .comparisons) : links.steps ≤ 1 := by
  cases links with
  | noLink => exact Nat.zero_le 1
  | link => exact Nat.le_refl 1

/-- A phrase is no higher than its reach above the tallest expression that its levels allow in
brackets. -/
theorem height_le {category : Category} (phrase : Phrase category) {levels : Nat}
    (within : phrase.levels ≤ levels) :
    phrase.height ≤ tallest levels + category.reach levels := by
  induction phrase generalizing levels with
  | expression value bound =>
      cases levels with
      | zero => exact absurd within (Nat.not_succ_le_zero _)
      | succ below =>
          have inner := bound (Nat.le_of_succ_le_succ within)
          simp only [height, tallest, Category.reach] at inner ⊢
          omega
  | @chain level first more firstBound moreBound =>
      obtain ⟨firstWithin, moreWithin⟩ := Nat.max_le.mp within
      have before := firstBound firstWithin
      have behind := moreBound moreWithin
      have steps := more.steps_le_levels (by simp)
      simp only [height]
      cases level <;> simp only [Category.reach] at before behind ⊢ <;> omega
  | conjunction value bound | negation value bound | term value bound | signed value bound =>
      exact bound within
  | noOperator | noLink | noSuffix | noArgument => exact Nat.zero_le _
  | @operator level word join joins right later rightBound laterBound =>
      cases levels with
      | zero => exact absurd within (Nat.not_succ_le_zero _)
      | succ below =>
          obtain ⟨rightWithin, laterWithin⟩ := Nat.max_le.mp (Nat.le_of_succ_le_succ within)
          have beside := rightBound rightWithin
          have behind := laterBound laterWithin
          have steps := later.steps_le_levels (by simp)
          have more := tallest_le_succ below
          simp only [height]
          cases level <;> simp only [Category.reach] at beside behind ⊢ <;> omega
  | not operand bound | sign word op isSign operand bound =>
      cases levels with
      | zero => exact absurd within (Nat.not_succ_le_zero _)
      | succ below =>
          have inner := bound (Nat.le_of_succ_le_succ within)
          have more := tallest_le_succ below
          simp only [height, Category.reach] at inner ⊢
          omega
  | comparison left links leftBound linksBound =>
      obtain ⟨leftWithin, linksWithin⟩ := Nat.max_le.mp within
      have before := leftBound leftWithin
      have behind := linksBound linksWithin
      have steps := links.steps_le_one
      simp only [height, Category.reach] at before behind ⊢
      omega
  | link op right later rightBound laterBound =>
      obtain ⟨rightWithin, laterWithin⟩ := Nat.max_le.mp within
      have beside := rightBound rightWithin
      have behind := laterBound laterWithin
      simp only [height, Category.reach] at beside behind ⊢
      omega
  | suffixed object more objectBound moreBound =>
      obtain ⟨objectWithin, moreWithin⟩ := Nat.max_le.mp within
      have before := objectBound objectWithin
      have behind := moreBound moreWithin
      have steps := more.steps_le_levels (by simp)
      simp only [height, Category.reach] at before behind ⊢
      omega
  | call inner later innerBound laterBound | subscript inner later innerBound laterBound =>
      cases levels with
      | zero => exact absurd within (Nat.not_succ_le_zero _)
      | succ below =>
          obtain ⟨innerWithin, laterWithin⟩ := Nat.max_le.mp (Nat.le_of_succ_le_succ within)
          have beside := innerBound innerWithin
          have behind := laterBound laterWithin
          have steps := later.steps_le_levels (by simp)
          have more := tallest_le_succ below
          simp only [height, Category.reach] at beside behind ⊢
          omega
  | member word later laterBound =>
      cases levels with
      | zero => exact absurd within (Nat.not_succ_le_zero _)
      | succ below =>
          have behind := laterBound (Nat.le_of_succ_le_succ within)
          have more := tallest_le_succ below
          simp only [height, Category.reach] at behind ⊢
          omega
  | atom => simp only [height, Category.reach]; omega
  | bracketed inner bound | list inner bound =>
      have inside := bound within
      simp only [height, Category.reach] at inside ⊢
      omega
  | lastArgument value bound => exact bound within
  | argument value later valueBound laterBound =>
      obtain ⟨valueWithin, laterWithin⟩ := Nat.max_le.mp within
      exact Nat.max_le.mpr ⟨valueBound valueWithin, laterBound laterWithin⟩

/-- An expression is no higher than the tallest one with its levels. -/
theorem height_le_tallest (value : Phrase .expression) {levels : Nat}
    (within : value.levels ≤ levels) : value.height ≤ tallest levels :=
  value.height_le within

/-! ### An expression of this height -/

/-- The name that the smallest phrases consist of. -/
def leaf : Phrase .primary :=
  .atom (.name "x") (.name "x") (.name "x")

/-- The smallest sum. -/
def leafSum : Phrase (.chain .sum) :=
  .chain (.term (.chain (.signed (.suffixed leaf .noSuffix)) .noOperator)) .noOperator

/-- The smallest operand of each level. -/
def leafOperand : (level : Level) → Phrase (.operand level)
  | .term => .signed (.suffixed leaf .noSuffix)
  | .sum => .term (.chain (.signed (.suffixed leaf .noSuffix)) .noOperator)
  | .conjunction => .negation (.comparison leafSum .noLink)
  | .disjunction =>
      .conjunction (.chain (.negation (.comparison leafSum .noLink)) .noOperator)

/-- The smallest operands use up no level. -/
theorem levels_leafOperand (level : Level) : (leafOperand level).levels = 0 := by
  cases level <;> rfl

/-- The smallest operands are leaves. -/
theorem height_leafOperand (level : Level) : (leafOperand level).height = 1 := by
  cases level <;> rfl

section

variable {level : Level} {word : Token.Kind} {join : Expression → Expression → Expression}

/-- A chain of the smallest operands with one operator over and over. -/
def repeated (joins : Joins level word join) : Nat → Phrase (.operators level)
  | 0 => .noOperator
  | count + 1 => .operator word join joins (leafOperand level) (repeated joins count)

/-- Each of the operators uses up a level. -/
theorem levels_repeated (joins : Joins level word join) (count : Nat) :
    (repeated joins count).levels = count := by
  induction count with
  | zero => rfl
  | succ count inductionHypothesis =>
      rw [repeated, levels, levels_leafOperand, inductionHypothesis, Nat.zero_max]

/-- Each of the operators puts a node above what stands before it. -/
theorem steps_repeated (joins : Joins level word join) (count : Nat) :
    (repeated joins count).steps = count := by
  induction count with
  | zero => rfl
  | succ count inductionHypothesis => rw [repeated, steps, inductionHypothesis]

/-- The operands of the operators are no higher than a leaf before all of them. -/
theorem height_repeated_le (joins : Joins level word join) (count : Nat) :
    (repeated joins count).height ≤ count + 1 := by
  induction count with
  | zero => exact Nat.zero_le 1
  | succ count inductionHypothesis =>
      rw [repeated, height, height_leafOperand, steps_repeated]
      omega

/-- An operand with an operator for each of some levels. -/
def chainOf (joins : Joins level word join) (count : Nat) (first : Phrase (.operand level)) :
    Phrase (.chain level) :=
  .chain first (repeated joins count)

/-- The levels that the operators use up are free for the operand. -/
theorem levels_chainOf (joins : Joins level word join) (count : Nat)
    (first : Phrase (.operand level)) :
    (chainOf joins count first).levels = max first.levels count := by
  rw [chainOf, levels, levels_repeated]

/-- The operators stand above the operand. -/
theorem height_chainOf (joins : Joins level word join) (count : Nat)
    (first : Phrase (.operand level)) (positive : 0 < first.height) :
    (chainOf joins count first).height = first.height + count := by
  have beside := height_repeated_le joins count
  rw [chainOf, height, steps_repeated]
  omega

end

/-- A primary with attributes behind it, one after the other. -/
def members : Nat → Phrase .suffixes
  | 0 => .noSuffix
  | count + 1 => .member "x" (members count)

/-- Each attribute uses up a level, puts a node above the object, and has no other operand. -/
theorem members_spec (count : Nat) :
    (members count).levels = count ∧ (members count).steps = count ∧
      (members count).height = 0 := by
  induction count with
  | zero => exact ⟨rfl, rfl, rfl⟩
  | succ count inductionHypothesis =>
      obtain ⟨sameLevels, sameSteps, sameHeight⟩ := inductionHypothesis
      exact ⟨congrArg (· + 1) sameLevels, congrArg (· + 1) sameSteps, sameHeight⟩

/-- A primary with attributes and operators of every level behind it, as many as there are
levels. -/
def storey (count : Nat) (inner : Phrase .primary) : Phrase .expression :=
  let sum := chainOf .plus count (.term (chainOf .star count
    (.signed (.suffixed inner (members count)))))
  .expression (chainOf .or count (.conjunction (chainOf .and count
    (.negation (.comparison sum (.link .less leafSum .noLink))))))

/-- A storey needs one level more than its operators. -/
theorem levels_storey (count : Nat) (inner : Phrase .primary) (within : inner.levels ≤ count) :
    (storey count inner).levels = count + 1 := by
  obtain ⟨sameLevels, -, -⟩ := members_spec count
  have small : leafSum.levels = 0 := rfl
  simp only [storey, levels, levels_chainOf, sameLevels, small]
  omega

/-- A storey is higher than the primary by all its operators and attributes and a comparison. -/
theorem height_storey (count : Nat) (inner : Phrase .primary) (positive : 0 < inner.height) :
    (storey count inner).height = inner.height + 5 * count + 1 := by
  obtain ⟨-, sameSteps, sameHeight⟩ := members_spec count
  have object : (suffixed inner (members count)).height = inner.height + count := by
    rw [height, sameSteps, sameHeight, Nat.max_zero]
  let terms := chainOf .star count (.signed (.suffixed inner (members count)))
  have termsHeight : terms.height = inner.height + 2 * count := by
    rw [height_chainOf _ _ _ (by rw [height, object]; omega), height, object]
    omega
  let sum := chainOf .plus count (.term terms)
  have sumHeight : sum.height = inner.height + 3 * count := by
    rw [height_chainOf _ _ _ (by rw [height, termsHeight]; omega), height, termsHeight]
    omega
  let compared := comparison sum (.link .less leafSum .noLink)
  have comparedHeight : compared.height = inner.height + 3 * count + 1 := by
    have small : leafSum.height = 1 := rfl
    simp only [compared, height, steps, sumHeight, small]
    omega
  let both := chainOf .and count (.negation compared)
  have bothHeight : both.height = inner.height + 4 * count + 1 := by
    rw [height_chainOf _ _ _ (by rw [height, comparedHeight]; omega), height, comparedHeight]
    omega
  change (chainOf .or count (.conjunction both)).height = _
  rw [height_chainOf _ _ _ (by rw [height, bothHeight]; omega), height, bothHeight]
  omega

/-- A storey for every number of levels, each in the brackets of the next. -/
def tower : Nat → Phrase .expression
  | 0 => storey 0 leaf
  | count + 1 => storey (count + 1) (.list (.lastArgument (tower count)))

/-- A tower has one storey for each of its levels, and is the tallest expression with these. -/
theorem tower_spec (count : Nat) :
    (tower count).levels = count + 1 ∧ (tower count).height = tallest (count + 1) := by
  induction count with
  | zero =>
      refine ⟨levels_storey 0 leaf (Nat.zero_le 0), ?_⟩
      exact height_storey 0 leaf Nat.zero_lt_one
  | succ count inductionHypothesis =>
      obtain ⟨sameLevels, sameHeight⟩ := inductionHypothesis
      have inside : (list (.lastArgument (tower count))).height = tallest (count + 1) + 1 :=
        congrArg (· + 1) sameHeight
      refine ⟨levels_storey (count + 1) _ (Nat.le_of_eq sameLevels), ?_⟩
      have step : tallest (count + 1 + 1) = tallest (count + 1) + 5 * (count + 1) + 2 := rfl
      rw [tower, height_storey (count + 1) _ (by rw [inside]; omega), inside, step]
      omega

end Phrase

namespace Line

open Expression (mostLevels)

/-- A hundred levels allow a height of 24950. -/
theorem tallest_mostLevels : tallest mostLevels = 24950 := by
  have square := two_mul_tallest mostLevels
  rw [mostLevels] at square ⊢
  omega

/-- An accepted expression has a height of at most 24950. -/
theorem height_le_of_ofText {text : String} {number : Nat} {line : Line}
    (accepted : ofText text number = .ok line) : ∀ value ∈ line.value?, value.height ≤ 24950 := by
  obtain ⟨phrase, lexes, rfl, shallow⟩ := ofText_eq_ok_iff.mp accepted
  rw [phrase.height_line_le_iff, ← tallest_mostLevels]
  rw [LinePhrase.levels] at shallow
  rw [LinePhrase.height]
  cases shown : phrase.value? with
  | none => exact Nat.zero_le _
  | some value =>
      rw [shown] at shallow
      exact value.height_le_tallest shallow

/-- There is an accepted line whose expression has a height of 24950. -/
theorem exists_height_eq_tallest : ∃ tokens line value, ofTokens tokens = .ok line ∧
    line.value? = some value ∧ value.height = 24950 := by
  obtain ⟨sameLevels, sameHeight⟩ := Phrase.tower_spec 99
  let phrase := LinePhrase.bare (Phrase.tower 99)
  let token (kind : Token.Kind) : Token := ⟨kind, ⟨0, 0, 0, 0⟩⟩
  have words : phrase.words = (phrase.words.map token).map (·.kind) := by
    rw [List.map_map]
    exact (List.map_id _).symm
  have ended : (token .lineEnd).kind = .lineEnd := rfl
  have outcome := ofTokens_complete ended phrase words
  refine ⟨phrase.words.map token ++ [token .lineEnd], phrase.line, (Phrase.tower 99).meaning, ?_,
    rfl, ?_⟩
  · rw [outcome]
    exact if_pos (Nat.le_of_eq sameLevels)
  · have same : (Phrase.tower 99).meaning.height = (Phrase.tower 99).height :=
      (Phrase.tower 99).hasHeight
    rw [same, sameHeight]
    exact tallest_mostLevels

end Line

end Offside
