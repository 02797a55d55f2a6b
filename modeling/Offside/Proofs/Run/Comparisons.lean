import Offside.Proofs.Run.Printing

/-!
# Chains of comparisons

A chain such as `a < b <= c` says that each pair of neighbours compares as it should. The first
pair that does not hold or fails decides it, or else the last one does
(`Expression.IsDecidedBy`): the operands up to there are evaluated once each, in their order.
Where they print nothing, the pairs might as well be joined by `and`, although an operand
that stands in two of them is then evaluated twice.
-/

namespace Offside

namespace Expression

/-- The pairs of neighbours in a chain, each compared on its own. -/
def pairs (left : Expression) : List (CompareOp × Expression) → List Expression
  | [] => []
  | (op, right) :: later => compare left [(op, right)] :: pairs right later

/-- Expressions that are joined by `and`, from the left. -/
def conjunction (first : Expression) (later : List Expression) : Expression :=
  later.foldl (fun left right => logical left .and right) first

/-- The operands of a chain that are evaluated when the pair at an index decides it: those up to the
second one of the pair, or the first one alone if it fails. -/
def evaluated (limits : Resources) (state : State) (left : Expression)
    (links : List (CompareOp × Expression)) (index : Nat) : List Expression :=
  match (left.eval limits).outcome state with
  | .ok _ => (left :: links.map Prod.snd).take (index + 2)
  | .error _ => [left]

/-- Whether a pair decides a chain of comparisons in a state: the pairs before it hold, and if it
holds, too, there is none behind it. -/
structure IsDecidedBy (limits : Resources) (state : State) (left : Expression)
    (links : List (CompareOp × Expression)) (index : Nat) (pair : Expression) : Prop where
  found : (pairs left links)[index]? = some pair
  earlier : ∀ other ∈ (pairs left links).take index,
    (other.eval limits).outcome state = .ok (.boolean true)
  last : (pair.eval limits).outcome state = .ok (.boolean true) → index + 1 = links.length

/-- How the comparisons that follow a value end: with the result of the pair at an index, after the
operands up to there have printed some lines. -/
inductive Decides (limits : Resources) (state : State) : Value → List (CompareOp × Expression) →
    Nat → Except RuntimeError Bool → List String → Prop
  | here {value op right later operand lines} :
      (right.eval limits).EndsWith state operand lines →
      (operand >>= Value.applyCompare op value = .ok true → later = []) →
      Decides limits state value ((op, right) :: later) 0
        (operand >>= Value.applyCompare op value) lines
  | further {value op right later next lines index result more} :
      (right.eval limits).EndsWith state (.ok next) lines →
      Value.applyCompare op value next = .ok true →
      Decides limits state next later index result more →
      Decides limits state value ((op, right) :: later) (index + 1) result (lines ++ more)

section

variable {limits : Resources} {state : State} {left right first second : Expression}
  {links later : List (CompareOp × Expression)} {op : CompareOp} {value : Value} {index : Nat}
  {result : Except RuntimeError Bool} {lines more : List String}

/-- A pair whose outcome is that it holds holds. -/
theorem holds_of_outcome
    (holds : (result.map Value.boolean).mapError Stop.failed = .ok (.boolean true)) :
    result = .ok true := by
  cases result with
  | error error => cases holds
  | ok value =>
      cases holds
      rfl

/-- A pair that does not hold has no value that holds. -/
theorem isTruthy_of_ne (differs : result ≠ .ok true) :
    ∀ value, result.map Value.boolean = .ok value → value.isTruthy = false := by
  rintro value gives
  match result with
  | .ok true => exact absurd rfl differs
  | .ok false =>
      cases gives
      rfl

/-- Some pair decides how the comparisons that follow a value end. -/
theorem exists_decides (limits : Resources) (state : State) (value : Value) (op : CompareOp)
    (right : Expression) (later : List (CompareOp × Expression)) :
    ∃ index result lines, Decides limits state value ((op, right) :: later) index result lines := by
  induction later generalizing value op right with
  | nil =>
      obtain ⟨operand, lines, ends⟩ := onlyPrints_eval limits right state
      exact ⟨0, _, lines, .here ends fun _ => rfl⟩
  | cons link others inductionHypothesis =>
      obtain ⟨operand, lines, ends⟩ := onlyPrints_eval limits right state
      by_cases holds : operand >>= Value.applyCompare op value = .ok true
      · cases operand with
        | error error => cases holds
        | ok next =>
            obtain ⟨index, result, more, rest⟩ := inductionHypothesis next link.1 link.2
            exact ⟨index + 1, result, lines ++ more, .further ends holds rest⟩
      · exact ⟨0, _, lines, .here ends fun now => absurd now holds⟩

/-- Where the first operand fails, so does the chain. -/
theorem endsWith_compare_error {error : RuntimeError}
    (fails : (left.eval limits).EndsWith state (.error error) lines)
    (links : List (CompareOp × Expression)) :
    ((compare left links).eval limits).EndsWith state (.error error) lines := by
  rw [eval]
  exact fails.bind_error _

/-- Behind the value of the first operand, a chain gives what its comparisons give. -/
theorem endsWith_compare (gives : (left.eval limits).EndsWith state (.ok value) lines)
    (ends : (evalLinks limits value links).EndsWith state result more) :
    ((compare left links).eval limits).EndsWith state (result.map .boolean) (lines ++ more) := by
  rw [eval]
  refine gives.bind_ok ?_
  cases result with
  | error error => exact ends.bind_error _
  | ok holds => exact ends.bind_silent (.ofExcept (.ok (Value.boolean holds)) state)

/-- Behind the value of the first one of some expressions, the other ones are evaluated. -/
theorem endsWith_evalAll_cons {others : List Expression} {values : Except RuntimeError (List Value)}
    (gives : (left.eval limits).EndsWith state (.ok value) lines)
    (ends : (evalAll limits others).EndsWith state values more) :
    ∃ values, (evalAll limits (left :: others)).EndsWith state values (lines ++ more) := by
  rw [evalAll]
  cases values with
  | error error => exact ⟨_, gives.bind_ok (ends.bind_error _)⟩
  | ok values =>
      have whole := Run.EndsWith.ofExcept (.ok (value :: values)) state
      exact ⟨.ok (value :: values), gives.bind_ok (ends.bind_silent whole)⟩

/-- A single expression is evaluated. -/
theorem endsWith_evalAll_singleton {operand : Except RuntimeError Value}
    (ends : (left.eval limits).EndsWith state operand lines) :
    ∃ values, (evalAll limits [left]).EndsWith state values lines := by
  cases operand with
  | error error =>
      rw [evalAll]
      exact ⟨_, ends.bind_error _⟩
  | ok value =>
      rw [← List.append_nil lines]
      exact endsWith_evalAll_cons ends (.ofExcept (.ok []) state)

namespace Decides

/-- Comparisons that are decided have the result and print the lines. -/
theorem endsWith (decides : Decides limits state value links index result lines) :
    (evalLinks limits value links).EndsWith state result lines := by
  induction decides with
  | @here value op right later operand lines ends last =>
      rw [evalLinks]
      cases operand with
      | error error => exact ends.bind_error _
      | ok next =>
          change Run.EndsWith _ state (Value.applyCompare op value next) lines
          refine ends.bind_silent ?_
          match is : Value.applyCompare op value next with
          | .error error => exact .ofExcept_error rfl state _
          | .ok false => exact .ofExcept_ok rfl (.ofExcept (.ok false) state)
          | .ok true =>
              rw [last is]
              exact .ofExcept_ok rfl (.ofExcept (.ok true) state)
  | further ends holds _ inductionHypothesis =>
      rw [evalLinks]
      exact ends.bind_ok (.ofExcept_ok holds inductionHypothesis)

/-- Evaluating the operands up to the pair that decides prints the lines. -/
theorem endsWith_evalAll (decides : Decides limits state value links index result lines) :
    ∃ values, (evalAll limits ((links.map Prod.snd).take (index + 1))).EndsWith state values
      lines := by
  induction decides with
  | here ends => exact endsWith_evalAll_singleton ends
  | further ends _ _ inductionHypothesis =>
      obtain ⟨values, rest⟩ := inductionHypothesis
      exact endsWith_evalAll_cons ends rest

/-- The lines of comparisons that are decided are those of the operands up to the pair that decides,
one after the other. -/
theorem lines_eq (decides : Decides limits state value links index result lines) :
    lines = ((links.map Prod.snd).take (index + 1)).flatMap fun operand =>
      (operand.eval limits).printed state := by
  induction decides with
  | @here value op right later operand lines ends _ =>
      rw [List.map_cons, List.take_succ_cons, List.take_zero, List.flatMap_singleton,
        ends.printed_eq]
  | further ends _ _ inductionHypothesis =>
      rw [List.map_cons, List.take_succ_cons, List.flatMap_cons, ends.printed_eq,
        ← inductionHypothesis]

/-- A pair on its own evaluates both operands and compares them. -/
theorem endsWith_pair {operand : Except RuntimeError Value} (op : CompareOp)
    (known : (left.eval limits).EndsWith state (.ok value) lines)
    (ends : (right.eval limits).EndsWith state operand more) :
    ((compare left [(op, right)]).eval limits).EndsWith state
      ((operand >>= Value.applyCompare op value).map .boolean) (lines ++ more) := by
  have decides : Decides limits state value [(op, right)] 0 _ more := .here ends fun _ => rfl
  exact endsWith_compare known decides.endsWith

/-- A pair whose comparison holds ends with that, once both operands have been evaluated. -/
theorem endsWith_pair_of_holds {next : Value}
    (compared : Value.applyCompare op value next = .ok true)
    (known : (left.eval limits).EndsWith state (.ok value) lines)
    (ends : (right.eval limits).EndsWith state (.ok next) more) :
    ((compare left [(op, right)]).eval limits).EndsWith state (.ok (.boolean true))
      (lines ++ more) := by
  have pair := endsWith_pair op known ends
  have holds : (Except.ok next >>= Value.applyCompare op value) = .ok true := compared
  rwa [holds] at pair

/-- Behind the value of an operand, the pair at the index decides the chain. -/
theorem exists_isDecidedBy (decides : Decides limits state value links index result lines)
    {printed : List String} (known : (left.eval limits).EndsWith state (.ok value) printed) :
    ∃ pair, IsDecidedBy limits state left links index pair ∧
      (pair.eval limits).outcome state = (result.map Value.boolean).mapError .failed := by
  induction decides generalizing left printed with
  | @here value op right later operand lines ends last =>
      have alone := endsWith_pair op known ends
      refine ⟨compare left [(op, right)], ⟨rfl, List.forall_mem_nil _, fun holds => ?_⟩,
        alone.outcome_eq⟩
      rw [last (holds_of_outcome (alone.outcome_eq.symm.trans holds))]
      rfl
  | further ends compared _ inductionHypothesis =>
      obtain ⟨pair, ⟨found, earlier, last⟩, outcome⟩ := inductionHypothesis ends
      refine ⟨pair, ⟨found, ?_, fun now => congrArg (· + 1) (last now)⟩, outcome⟩
      rw [pairs, List.take_succ_cons, List.forall_mem_cons]
      exact ⟨(endsWith_pair_of_holds compared known ends).outcome_eq, earlier⟩

end Decides

/-- Behind a value that holds, `and` gives what its second operand gives. -/
theorem endsWith_and {holding : Value} {operand : Except RuntimeError Value}
    (holds : holding.isTruthy = true)
    (known : (first.eval limits).EndsWith state (.ok holding) lines)
    (ends : (second.eval limits).EndsWith state operand more) :
    ((logical first .and second).eval limits).EndsWith state operand (lines ++ more) := by
  rw [eval]
  refine known.bind_ok ?_
  rw [holds]
  exact ends

/-- Where an expression fails or does not hold, so do expressions that it is joined to by `and`. -/
theorem endsWith_conjunction {operand : Except RuntimeError Value}
    (decided : ∀ value, operand = .ok value → value.isTruthy = false)
    (ends : (first.eval limits).EndsWith state operand lines) (others : List Expression) :
    ((conjunction first others).eval limits).EndsWith state operand lines := by
  induction others generalizing first with
  | nil => exact ends
  | cons second others inductionHypothesis =>
      refine inductionHypothesis ?_
      rw [eval]
      cases operand with
      | error error => exact ends.bind_error _
      | ok value =>
          refine ends.bind_silent ?_
          rw [decided value rfl]
          exact .ofExcept (.ok value) state

/-- A pair that decides a chain ends the pairs behind it, joined to it by `and`, too. -/
theorem endsWith_conjunction_of_last (last : result = .ok true → later = [])
    (ends : (first.eval limits).EndsWith state (result.map .boolean) lines) (right : Expression) :
    ((conjunction first (pairs right later)).eval limits).EndsWith state (result.map .boolean)
      lines := by
  by_cases holds : result = .ok true
  · rw [last holds]
    exact ends
  · exact endsWith_conjunction (isTruthy_of_ne holds) ends _

namespace Decides

/-- Behind expressions that hold, the pairs of a chain joined to them by `and` give what the chain
gives, if they print nothing. -/
theorem endsWith_conjunction (decides : Decides limits state value links index result lines)
    (silent : lines = []) (known : (left.eval limits).EndsWith state (.ok value) [])
    (holds : (first.eval limits).EndsWith state (.ok (.boolean true)) []) :
    ((conjunction first (pairs left links)).eval limits).EndsWith state (result.map .boolean)
      [] := by
  induction decides generalizing left first with
  | @here value op right later operand lines ends last =>
      rw [silent] at ends
      have joined := endsWith_and rfl holds (endsWith_pair op known ends)
      exact endsWith_conjunction_of_last last joined right
  | further ends compared _ inductionHypothesis =>
      obtain ⟨rfl, rfl⟩ := List.append_eq_nil_iff.mp silent
      have pair := endsWith_pair_of_holds compared known ends
      exact inductionHypothesis rfl ends (endsWith_and rfl holds pair)

/-- The pairs of a chain joined by `and` give what the chain gives, if they print nothing. -/
theorem endsWith_pairs (decides : Decides limits state value ((op, right) :: later) index result
    lines) (silent : lines = []) (known : (left.eval limits).EndsWith state (.ok value) []) :
    ((conjunction (compare left [(op, right)]) (pairs right later)).eval limits).EndsWith state
      (result.map .boolean) [] := by
  cases decides with
  | here ends last =>
      rw [silent] at ends
      exact endsWith_conjunction_of_last last (endsWith_pair op known ends) _
  | further ends compared rest =>
      obtain ⟨rfl, rfl⟩ := List.append_eq_nil_iff.mp silent
      exact rest.endsWith_conjunction rfl ends (endsWith_pair_of_holds compared known ends)

end Decides

/-- Where the first operand fails, it is the only one that is evaluated. -/
theorem evaluated_of_error {error : RuntimeError}
    (fails : (left.eval limits).EndsWith state (.error error) lines) :
    evaluated limits state left links index = [left] := by
  rw [evaluated, fails.outcome_eq]
  rfl

/-- Behind the value of the first operand, the operands up to the pair that decides are
evaluated. -/
theorem evaluated_of_ok (gives : (left.eval limits).EndsWith state (.ok value) lines) :
    evaluated limits state left links index = left :: (links.map Prod.snd).take (index + 1) := by
  rw [evaluated, gives.outcome_eq]
  rfl

/-- The evaluated operands of a chain are its first ones, in their order. -/
theorem evaluated_isPrefixOf (limits : Resources) (state : State) (left : Expression)
    (links : List (CompareOp × Expression)) (index : Nat) :
    evaluated limits state left links index <+: left :: links.map Prod.snd := by
  unfold evaluated
  split
  · exact List.take_prefix _ _
  · exact ⟨links.map Prod.snd, rfl⟩

end

/-- One of its pairs decides a chain of comparisons: the value or error of the pair is that of the
chain. The operands up to there are evaluated in their order, once each, and print what they
print. If that is nothing, the chain does what its pairs joined by `and` do. -/
theorem eval_compare_eq_conjunction (limits : Resources) (state : State) (left : Expression)
    (op : CompareOp) (right : Expression) (later : List (CompareOp × Expression)) :
    ∃ index pair, IsDecidedBy limits state left ((op, right) :: later) index pair ∧
      ((compare left ((op, right) :: later)).eval limits).outcome state =
        (pair.eval limits).outcome state ∧
      Run.stateOf ((compare left ((op, right) :: later)).eval limits state) =
        Run.stateOf
          (evalAll limits (evaluated limits state left ((op, right) :: later) index) state) ∧
      (Run.stateOf ((compare left ((op, right) :: later)).eval limits state)).output =
        state.output ++ (evaluated limits state left ((op, right) :: later) index).flatMap
          (fun operand => (operand.eval limits).printed state) ∧
      ((∀ operand ∈ evaluated limits state left ((op, right) :: later) index,
          (operand.eval limits).printed state = []) →
        (compare left ((op, right) :: later)).eval limits state =
          (conjunction (compare left [(op, right)]) (pairs right later)).eval limits state) := by
  obtain ⟨first, printed, known⟩ := onlyPrints_eval limits left state
  cases first with
  | error error =>
      have chain := endsWith_compare_error known ((op, right) :: later)
      have pair := endsWith_compare_error known [(op, right)]
      obtain ⟨values, all⟩ := endsWith_evalAll_singleton known
      refine ⟨0, compare left [(op, right)], ⟨rfl, List.forall_mem_nil _, ?_⟩, ?_, ?_, ?_, ?_⟩
      · rw [pair.outcome_eq]
        rintro ⟨⟩
      · rw [chain.outcome_eq, pair.outcome_eq]
      · rw [evaluated_of_error known, chain.stateOf_eq, all.stateOf_eq]
      · rw [evaluated_of_error known, chain.stateOf_eq, State.output_printing,
          List.flatMap_singleton, known.printed_eq]
      · intro _
        have joined := endsWith_conjunction (by rintro value ⟨⟩) pair (pairs right later)
        exact chain.eq_of_same joined
  | ok value =>
      obtain ⟨index, result, lines, decides⟩ := exists_decides limits state value op right later
      have chain := endsWith_compare known decides.endsWith
      obtain ⟨pair, decided, outcome⟩ := decides.exists_isDecidedBy known
      obtain ⟨values, rest⟩ := decides.endsWith_evalAll
      obtain ⟨values, all⟩ := endsWith_evalAll_cons known rest
      refine ⟨index, pair, decided, ?_, ?_, ?_, ?_⟩
      · rw [chain.outcome_eq, outcome]
      · rw [evaluated_of_ok known, chain.stateOf_eq, all.stateOf_eq]
      · rw [evaluated_of_ok known, chain.stateOf_eq, State.output_printing, List.flatMap_cons,
          known.printed_eq, ← decides.lines_eq]
      · intro silent
        rw [evaluated_of_ok known, List.forall_mem_cons, known.printed_eq] at silent
        obtain ⟨rfl, others⟩ := silent
        obtain rfl : lines = [] := decides.lines_eq.trans (List.flatMap_eq_nil_iff.mpr others)
        exact chain.eq_of_same (decides.endsWith_pairs rfl known)

/-- A variable that is compared twice prints nothing. -/
theorem eval_compare_eq_conjunction_between :
    (∀ operand ∈ [integer 1, name "x", list [name "x", integer 5]],
      (operand.eval {}).printed { scope := ⟨[("x", .integer 3)]⟩ } = []) ∧
    (compare (integer 1) [(.less, name "x"), (.isIn, list [name "x", integer 5])]).eval {}
        { scope := ⟨[("x", .integer 3)]⟩ } =
      (logical (compare (integer 1) [(.less, name "x")]) .and
        (compare (name "x") [(.isIn, list [name "x", integer 5])])).eval {}
        { scope := ⟨[("x", .integer 3)]⟩ } := by
  have silent : ∀ operand ∈ [integer 1, name "x", list [name "x", integer 5]],
      (operand.eval {}).printed { scope := ⟨[("x", .integer 3)]⟩ } = [] := by
    rw [List.forall_mem_cons, List.forall_mem_cons, List.forall_mem_singleton]
    exact ⟨rfl, rfl, rfl⟩
  refine ⟨silent, ?_⟩
  obtain ⟨index, -, -, -, -, -, same⟩ := eval_compare_eq_conjunction {}
    { scope := ⟨[("x", .integer 3)]⟩ } (integer 1) .less (name "x")
    [(.isIn, list [name "x", integer 5])]
  exact same fun operand among => silent operand ((evaluated_isPrefixOf _ _ _ _ index).subset among)

end Expression

end Offside
