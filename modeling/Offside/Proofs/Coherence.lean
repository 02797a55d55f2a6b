import Mathlib.Data.List.Forall2
import Offside.Value.Comparison

/-!
# How comparisons agree

Equality and order are found in different ways, and so are equality of items and membership. On
values that hold no float they agree all the same. Two such values are equal exactly if they are the
same once every truth value in them counts as an integer (`equals_iff_counted`), and the order of
numbers and of texts is that of the integers and of the texts themselves
(`compare?_eq_some_iff`). `coherent_of_hasFloat` puts together what follows for the operators.
-/

namespace Offside

/-- The comparison that holds between two values in an order. -/
def CompareOp.ofOrdering : Ordering → CompareOp
  | .lt => .less
  | .eq => .equal
  | .gt => .greater

namespace Value

mutual

/-- Whether a value is a float, or a list that holds one at any depth. -/
def hasFloat : Value → Bool
  | float _ => true
  | list items => anyHasFloat items
  | _ => false

/-- Whether one of some values has a float. -/
def anyHasFloat : List Value → Bool
  | [] => false
  | item :: later => item.hasFloat || anyHasFloat later

end

mutual

/-- A value with integers in the places of its truth values. -/
def counted : Value → Value
  | boolean truth => integer (if truth then 1 else 0)
  | list items => list (countedItems items)
  | value => value

/-- Some values with integers in the places of their truth values. -/
def countedItems : List Value → List Value
  | [] => []
  | item :: later => item.counted :: countedItems later

end

/-- A list has a float if one of its items has. -/
theorem anyHasFloat_eq_false_iff (items : List Value) :
    anyHasFloat items = false ↔ ∀ item ∈ items, item.hasFloat = false := by
  induction items with
  | nil => simp [anyHasFloat]
  | cons item later inductionHypothesis => simp [anyHasFloat, inductionHypothesis]

/-! ### Equality -/

mutual

/-- Without floats, values are equal if they are the same once truth values count as integers. -/
theorem equals_iff_counted (left right : Value) (leftPlain : left.hasFloat = false)
    (rightPlain : right.hasFloat = false) :
    left.equals right = true ↔ left.counted = right.counted := by
  cases left with
  | float _ => cases leftPlain
  | list lefts =>
      cases right with
      | list rights =>
          rw [equals, counted, counted, list.injEq]
          exact equalItems_iff_counted lefts rights leftPlain rightPlain
      | float _ => cases rightPlain
      | _ => simp [equals, counted, number?]
  | _ =>
      cases right with
      | float _ => cases rightPlain
      | _ => simp [equals, counted, number?, Number.equals]

/-- Without floats, lists are equal if they are the same, item by item, once truth values count as
integers. -/
theorem equalItems_iff_counted (lefts rights : List Value) (leftPlain : anyHasFloat lefts = false)
    (rightPlain : anyHasFloat rights = false) :
    equalItems lefts rights = true ↔ countedItems lefts = countedItems rights := by
  cases lefts with
  | nil => cases rights <;> simp [equalItems, countedItems]
  | cons left laterLeft =>
      cases rights with
      | nil => simp [equalItems, countedItems]
      | cons right laterRight =>
          rw [anyHasFloat, Bool.or_eq_false_iff] at leftPlain rightPlain
          rw [equalItems, Bool.and_eq_true, countedItems, countedItems, List.cons.injEq,
            equals_iff_counted left right leftPlain.1 rightPlain.1,
            equalItems_iff_counted laterLeft laterRight leftPlain.2 rightPlain.2]

end

/-- Lists are equal if their items are, one by one. -/
theorem equalItems_iff_forall₂ (lefts rights : List Value) :
    equalItems lefts rights = true ↔
      List.Forall₂ (fun left right => left.equals right = true) lefts rights := by
  induction lefts generalizing rights with
  | nil => cases rights <;> simp [equalItems]
  | cons left later inductionHypothesis =>
      cases rights <;> simp [equalItems, inductionHypothesis]

/-- The items of a list are counted one by one. -/
theorem countedItems_eq_map (items : List Value) : countedItems items = items.map counted := by
  induction items with
  | nil => rfl
  | cons item later inductionHypothesis => rw [countedItems, inductionHypothesis, List.map_cons]

/-- Without floats, a value equals an item if it is one once truth values count as integers. -/
theorem any_equals_iff {items : List Value} {value : Value}
    (itemsPlain : (list items).hasFloat = false) (plain : value.hasFloat = false) :
    items.any (·.equals value) = true ↔ value.counted ∈ countedItems items := by
  have itemPlain := (anyHasFloat_eq_false_iff items).mp itemsPlain
  rw [List.any_eq_true, countedItems_eq_map, List.mem_map]
  refine exists_congr fun item => and_congr_right fun member => ?_
  exact equals_iff_counted item value (itemPlain item member) plain

/-! ### Order -/

/-- Whether two values have an order: two numbers have one, and two texts. -/
def AreOrdered (left right : Value) : Prop :=
  left.number?.isSome ∧ right.number?.isSome ∨ left.typeName = "str" ∧ right.typeName = "str"

/-- The order of two values that count as integers, and of two texts. -/
inductive HasOrder (left right : Value) (ordering : Ordering) : Prop
  | integers {first second : Int64} (leftCounts : left.integer? = some first)
      (rightCounts : right.integer? = some second)
      (is : Ord.compare first.toInt second.toInt = ordering)
  | texts {first second : String} (leftText : left = text first) (rightText : right = text second)
      (is : Ord.compare first second = ordering)

/-- Without floats, numbers are what counts as an integer. -/
theorem exists_integer? {value : Value} (plain : value.hasFloat = false)
    (isNumber : value.number?.isSome) : ∃ number, value.integer? = some number := by
  cases value with
  | integer _ | boolean _ => exact ⟨_, rfl⟩
  | float _ => cases plain
  | _ => cases isNumber

/-- What counts as an integer is that integer once truth values count as integers. -/
theorem counted_of_integer? {value : Value} {number : Int64}
    (counts : value.integer? = some number) : value.counted = integer number := by
  cases value with
  | integer _ | boolean _ => rw [← Option.some.inj counts]; rfl
  | _ => cases counts

/-- Only texts have the type of texts. -/
theorem exists_text {value : Value} (isText : value.typeName = "str") :
    ∃ content, value = text content := by
  cases value with
  | text content => exact ⟨content, rfl⟩
  | _ => simp [typeName] at isText

namespace HasOrder

variable {left right further : Value} {ordering : Ordering}

/-- Without floats, two numbers have an order, and so do two texts. -/
theorem of_areOrdered (leftPlain : left.hasFloat = false) (rightPlain : right.hasFloat = false)
    (areOrdered : AreOrdered left right) : ∃ ordering, HasOrder left right ordering := by
  rcases areOrdered with ⟨leftNumber, rightNumber⟩ | ⟨leftText, rightText⟩
  · obtain ⟨first, leftCounts⟩ := exists_integer? leftPlain leftNumber
    obtain ⟨second, rightCounts⟩ := exists_integer? rightPlain rightNumber
    exact ⟨_, .integers leftCounts rightCounts rfl⟩
  · obtain ⟨first, leftText⟩ := exists_text leftText
    obtain ⟨second, rightText⟩ := exists_text rightText
    exact ⟨_, .texts leftText rightText rfl⟩

/-- The order of two values is the one that comparing them finds. -/
theorem compare?_eq (hasOrder : HasOrder left right ordering) :
    left.compare? right = some ordering := by
  cases hasOrder with
  | integers leftCounts rightCounts is =>
      unfold compare?
      rw [number?_of_integer? leftCounts, number?_of_integer? rightCounts]
      exact congrArg some is
  | texts leftText rightText is =>
      subst leftText rightText
      exact congrArg some is

/-- The order of two values is reversed when the values change places. -/
theorem swap (hasOrder : HasOrder left right ordering) : HasOrder right left ordering.swap := by
  cases hasOrder with
  | integers leftCounts rightCounts is =>
      exact .integers rightCounts leftCounts (is ▸ Std.OrientedCmp.eq_swap)
  | texts leftText rightText is =>
      exact .texts rightText leftText (is ▸ Std.OrientedCmp.eq_swap)

/-- Without floats, values that have an order are equal exactly if neither comes first. -/
theorem eq_iff_equals (leftPlain : left.hasFloat = false) (rightPlain : right.hasFloat = false)
    (hasOrder : HasOrder left right ordering) : ordering = .eq ↔ left.equals right = true := by
  rw [equals_iff_counted left right leftPlain rightPlain]
  cases hasOrder with
  | integers leftCounts rightCounts is =>
      rw [counted_of_integer? leftCounts, counted_of_integer? rightCounts, integer.injEq, ← is,
        Std.compare_eq_iff_eq, Int64.toInt_inj]
  | texts leftText rightText is =>
      subst leftText rightText
      rw [counted, counted, text.injEq, ← is, Std.compare_eq_iff_eq]
      all_goals exact nofun

/-- A value that comes before a second one comes before all that the second one comes before. -/
theorem trans (first : HasOrder left right .lt) (second : HasOrder right further .lt) :
    HasOrder left further .lt := by
  cases first with
  | integers leftCounts rightCounts is =>
      cases second with
      | integers sameCounts furtherCounts isToo =>
          cases rightCounts.symm.trans sameCounts
          exact .integers leftCounts furtherCounts (Std.TransCmp.lt_trans is isToo)
      | texts rightText _ _ =>
          rw [rightText] at rightCounts
          cases rightCounts
  | texts leftText rightText is =>
      subst rightText
      cases second with
      | integers rightCounts _ _ => cases rightCounts
      | texts sameText furtherText isToo =>
          cases sameText
          exact .texts leftText furtherText (Std.TransCmp.lt_trans is isToo)

end HasOrder

/-- Values that are neither two numbers nor two texts have no order. -/
theorem compare?_eq_none {left right : Value} (unordered : ¬ AreOrdered left right) :
    left.compare? right = Option.none := by
  unfold compare?
  split
  · next leftNumber rightNumber =>
      exact absurd (.inl ⟨by rw [leftNumber]; rfl, by rw [rightNumber]; rfl⟩) unordered
  · exact absurd (.inr ⟨rfl, rfl⟩) unordered
  · rfl

/-! ### Operators -/

/-- Whether a comparison of two values holds. -/
def Compares (op : CompareOp) (left right : Value) : Prop :=
  applyCompare op left right = .ok true

/-- The comparisons that ask for the order of two values. -/
def orderings : List CompareOp :=
  [.less, .lessEqual, .greater, .greaterEqual]

/-- How the comparisons agree on some values. -/
structure Coherent (among : Value → Prop) : Prop where
  /-- `==` always has an answer, and `!=` the opposite one. -/
  opposite : ∀ {left right}, among left → among right → ∃ same,
    applyCompare .equal left right = .ok same ∧ applyCompare .notEqual left right = .ok (!same)
  reflexive : ∀ {value}, among value → Compares .equal value value
  symmetric : ∀ {left right}, among left → among right →
    Compares .equal left right → Compares .equal right left
  transitive : ∀ {left middle right}, among left → among middle → among right →
    Compares .equal left middle → Compares .equal middle right → Compares .equal left right
  /-- Truth values equal one and zero. -/
  truth : ∀ truth : Bool, Compares .equal (boolean truth) (integer (if truth then 1 else 0))
  /-- Lists are equal if their items are, one by one. -/
  items : ∀ {lefts rights}, among (list lefts) → among (list rights) →
    (Compares .equal (list lefts) (list rights) ↔
      List.Forall₂ (Compares .equal) lefts rights)
  /-- A value is in a list if it equals an item. -/
  membership : ∀ {value items}, among value → among (list items) → ∃ found,
    applyCompare .isIn value (list items) = .ok found ∧
      (found = true ↔ ∃ item ∈ items, Compares .equal item value)
  /-- Equal values are in the same lists. -/
  equalMember : ∀ {value other items}, among value → among other → among (list items) →
    Compares .equal value other →
      applyCompare .isIn value (list items) = applyCompare .isIn other (list items)
  /-- Equal lists have the same values in them. -/
  equalList : ∀ {value items other}, among value → among (list items) → among other →
    Compares .equal (list items) other →
      applyCompare .isIn value (list items) = applyCompare .isIn value other
  /-- Two numbers can be asked for their order, and so can two texts. -/
  ordered : ∀ {op left right}, op ∈ orderings → among left → among right →
    AreOrdered left right → ∃ holds, applyCompare op left right = .ok holds
  /-- It is an error to ask for the order of values that are neither two numbers nor two texts. -/
  unordered : ∀ {op left right}, op ∈ orderings → among left → among right →
    ¬ AreOrdered left right → applyCompare op left right =
      .error (.unsupportedComparison op.symbol left.typeName right.typeName)
  /-- Of two values that have an order one comes first, or they are equal. -/
  trichotomy : ∀ {left right}, among left → among right → AreOrdered left right →
    ∃! op, op ∈ [CompareOp.less, .equal, .greater] ∧ Compares op left right
  lessEqual : ∀ {left right}, among left → among right → AreOrdered left right →
    (Compares .lessEqual left right ↔ Compares .less left right ∨ Compares .equal left right)
  greaterEqual : ∀ {left right}, among left → among right → AreOrdered left right →
    (Compares .greaterEqual left right ↔
      Compares .greater left right ∨ Compares .equal left right)
  /-- A value comes before another one if that comes behind it. -/
  converse : ∀ {left right}, among left → among right → AreOrdered left right →
    (Compares .less left right ↔ Compares .greater right left)
  lessTransitive : ∀ {left middle right}, among left → among middle → among right →
    Compares .less left middle → Compares .less middle right → Compares .less left right

section

variable {left right value : Value} {items : List Value} {op : CompareOp}

/-- `==` holds between equal values. -/
theorem compares_equal_iff : Compares .equal left right ↔ left.equals right = true := by
  rw [Compares, applyCompare, Except.ok.injEq]

/-- Without floats, `==` holds between values that are the same once truth values count as
integers. -/
theorem compares_equal_iff_counted (leftPlain : left.hasFloat = false)
    (rightPlain : right.hasFloat = false) :
    Compares .equal left right ↔ left.counted = right.counted :=
  compares_equal_iff.trans (equals_iff_counted left right leftPlain rightPlain)

/-- Between values that have an order, the comparison for that order holds. -/
theorem HasOrder.compares_ofOrdering_iff {ordering : Ordering}
    (hasOrder : HasOrder left right ordering) (leftPlain : left.hasFloat = false)
    (rightPlain : right.hasFloat = false) (other : Ordering) :
    Compares (CompareOp.ofOrdering other) left right ↔ ordering = other := by
  cases other with
  | lt | gt =>
      simp only [CompareOp.ofOrdering, Compares, applyCompare, Value.ordered, hasOrder.compare?_eq]
      cases ordering <;> decide
  | eq => exact compares_equal_iff.trans (hasOrder.eq_iff_equals leftPlain rightPlain).symm

/-- Of two values one comes first, or they are equal. -/
theorem HasOrder.trichotomy {ordering : Ordering} (hasOrder : HasOrder left right ordering)
    (leftPlain : left.hasFloat = false) (rightPlain : right.hasFloat = false) :
    ∃! op, op ∈ [CompareOp.less, .equal, .greater] ∧ Compares op left right := by
  have holds := hasOrder.compares_ofOrdering_iff leftPlain rightPlain
  refine ⟨.ofOrdering ordering, ⟨?_, (holds ordering).mpr rfl⟩, ?_⟩
  · cases ordering <;> decide
  · rintro op ⟨among, compares⟩
    have named : ∃ other, op = CompareOp.ofOrdering other := by
      simp only [List.mem_cons, List.not_mem_nil, or_false] at among
      rcases among with rfl | rfl | rfl
      · exact ⟨.lt, rfl⟩
      · exact ⟨.eq, rfl⟩
      · exact ⟨.gt, rfl⟩
    obtain ⟨other, rfl⟩ := named
    rw [(holds other).mp compares]

/-- `<=` holds if `<` or `==` does, and `>=` if `>` or `==` does. -/
theorem HasOrder.compares_orEqual {ordering : Ordering}
    (hasOrder : HasOrder left right ordering) (leftPlain : left.hasFloat = false)
    (rightPlain : right.hasFloat = false) :
    (Compares .lessEqual left right ↔ Compares .less left right ∨ Compares .equal left right) ∧
      (Compares .greaterEqual left right ↔
        Compares .greater left right ∨ Compares .equal left right) := by
  have holds := hasOrder.compares_ofOrdering_iff leftPlain rightPlain
  have less : Compares .less left right ↔ ordering = .lt := holds .lt
  have equal : Compares .equal left right ↔ ordering = .eq := holds .eq
  have greater : Compares .greater left right ↔ ordering = .gt := holds .gt
  rw [less, equal, greater]
  simp only [Compares, applyCompare, Value.ordered, hasOrder.compare?_eq]
  cases ordering <;> decide

/-- Values that have an order can be asked for it. -/
theorem HasOrder.exists_applyCompare {ordering : Ordering}
    (hasOrder : HasOrder left right ordering) (among : op ∈ orderings) :
    ∃ holds, applyCompare op left right = .ok holds := by
  have found := hasOrder.compare?_eq
  simp only [orderings, List.mem_cons, List.not_mem_nil, or_false] at among
  rcases among with rfl | rfl | rfl | rfl <;>
    exact ⟨_, by simp only [applyCompare, Value.ordered, found]; rfl⟩

/-- Values that are neither two numbers nor two texts cannot be asked for their order. -/
theorem applyCompare_unordered (among : op ∈ orderings) (unordered : ¬ AreOrdered left right) :
    applyCompare op left right =
      .error (.unsupportedComparison op.symbol left.typeName right.typeName) := by
  have absent := compare?_eq_none unordered
  simp only [orderings, List.mem_cons, List.not_mem_nil, or_false] at among
  rcases among with rfl | rfl | rfl | rfl <;>
    simp only [applyCompare, Value.ordered, absent]

/-- Where one value comes before another one, they have that order. -/
theorem HasOrder.of_less (leftPlain : left.hasFloat = false) (rightPlain : right.hasFloat = false)
    (less : Compares .less left right) : HasOrder left right .lt := by
  by_cases areOrdered : AreOrdered left right
  · obtain ⟨ordering, hasOrder⟩ := HasOrder.of_areOrdered leftPlain rightPlain areOrdered
    rwa [(hasOrder.compares_ofOrdering_iff leftPlain rightPlain .lt).mp less] at hasOrder
  · have refused : applyCompare .less left right = .error _ :=
      applyCompare_unordered (by decide) areOrdered
    cases less.symm.trans refused

/-- Without floats, a value is in a list if it is one of the items once truth values count as
integers. -/
theorem applyCompare_isIn_list (itemsPlain : (list items).hasFloat = false)
    (plain : value.hasFloat = false) : ∃ found, applyCompare .isIn value (list items) = .ok found ∧
      (found = true ↔ value.counted ∈ countedItems items) :=
  ⟨_, rfl, any_equals_iff itemsPlain plain⟩

/-- Values without floats that are the same once truth values count as integers cannot be told apart
as items. -/
theorem applyCompare_isIn_congr {other : Value} {others : List Value}
    (plain : value.hasFloat = false) (otherPlain : other.hasFloat = false)
    (itemsPlain : (list items).hasFloat = false) (othersPlain : (list others).hasFloat = false)
    (same : value.counted = other.counted) (sameItems : countedItems items = countedItems others) :
    applyCompare .isIn value (list items) = applyCompare .isIn other (list others) := by
  obtain ⟨found, gives, isFound⟩ := applyCompare_isIn_list itemsPlain plain
  obtain ⟨foundToo, givesToo, isFoundToo⟩ := applyCompare_isIn_list othersPlain otherPlain
  rw [gives, givesToo, Except.ok.injEq, Bool.eq_iff_iff, isFound, isFoundToo, same, sameItems]

end

/-- Comparisons agree on all values that hold no float. -/
theorem coherent_of_hasFloat : Coherent (·.hasFloat = false) where
  opposite _ _ := ⟨_, rfl, rfl⟩
  reflexive plain := (compares_equal_iff_counted plain plain).mpr rfl
  symmetric leftPlain rightPlain same := by
    rw [compares_equal_iff_counted leftPlain rightPlain] at same
    rw [compares_equal_iff_counted rightPlain leftPlain]
    exact same.symm
  transitive leftPlain middlePlain rightPlain first second := by
    rw [compares_equal_iff_counted leftPlain middlePlain] at first
    rw [compares_equal_iff_counted middlePlain rightPlain] at second
    rw [compares_equal_iff_counted leftPlain rightPlain]
    exact first.trans second
  truth truth := by
    rw [compares_equal_iff_counted rfl rfl]
    rfl
  items {lefts rights} _ _ := by
    have same : Compares .equal = fun left right => left.equals right = true := by
      funext left right
      exact propext compares_equal_iff
    rw [same]
    exact equalItems_iff_forall₂ lefts rights
  membership _ _ := ⟨_, rfl, by simp only [List.any_eq_true, compares_equal_iff]⟩
  equalMember plain otherPlain itemsPlain same := by
    rw [compares_equal_iff_counted plain otherPlain] at same
    exact applyCompare_isIn_congr plain otherPlain itemsPlain itemsPlain same rfl
  equalList {value items other} plain itemsPlain otherPlain same := by
    rw [compares_equal_iff_counted itemsPlain otherPlain] at same
    cases other with
    | list others =>
        exact applyCompare_isIn_congr plain plain itemsPlain otherPlain rfl (list.inj same)
    | _ => cases same
  ordered among leftPlain rightPlain areOrdered := by
    obtain ⟨ordering, hasOrder⟩ := HasOrder.of_areOrdered leftPlain rightPlain areOrdered
    exact hasOrder.exists_applyCompare among
  unordered among _ _ := applyCompare_unordered among
  trichotomy leftPlain rightPlain areOrdered := by
    obtain ⟨ordering, hasOrder⟩ := HasOrder.of_areOrdered leftPlain rightPlain areOrdered
    exact hasOrder.trichotomy leftPlain rightPlain
  lessEqual leftPlain rightPlain areOrdered := by
    obtain ⟨ordering, hasOrder⟩ := HasOrder.of_areOrdered leftPlain rightPlain areOrdered
    exact (hasOrder.compares_orEqual leftPlain rightPlain).1
  greaterEqual leftPlain rightPlain areOrdered := by
    obtain ⟨ordering, hasOrder⟩ := HasOrder.of_areOrdered leftPlain rightPlain areOrdered
    exact (hasOrder.compares_orEqual leftPlain rightPlain).2
  converse leftPlain rightPlain areOrdered := by
    obtain ⟨ordering, hasOrder⟩ := HasOrder.of_areOrdered leftPlain rightPlain areOrdered
    have less := hasOrder.compares_ofOrdering_iff leftPlain rightPlain .lt
    have greater := hasOrder.swap.compares_ofOrdering_iff rightPlain leftPlain .gt
    exact less.trans (Ordering.swap_inj.symm.trans greater.symm)
  lessTransitive leftPlain middlePlain rightPlain first second := by
    have before := HasOrder.of_less leftPlain middlePlain first
    have further := HasOrder.of_less middlePlain rightPlain second
    exact ((before.trans further).compares_ofOrdering_iff leftPlain rightPlain .lt).mpr rfl

end Value

end Offside
