import Mathlib.Tactic.Ring
import Offside.Progression
import Offside.Proofs.Limited
import Offside.Proofs.Width

/-!
# Counting by steps

The terms of a progression are the numbers that one passes when counting from the start by the
step for as long as the stop is not reached. `Counts` says that without a formula, in integers
without bounds. `Progression.length` finds how many numbers these are by a division, and
`Progression.terms` finds each of them by a product; both agree with counting.

`Wide` does the same in words of 128 bits that are cut back to 64 at the end. No word is ever too
narrow, so that gives the same terms.
-/

namespace Offside

open Width

namespace Progression

/-- Whether counting goes on at a number: below the stop with a step up, and above the stop
otherwise. -/
def GoesOn (stop step number : Int) : Prop :=
  if 0 < step then number < stop else stop < number

/-- Counting on from a number passes some numbers before it ends. -/
inductive Counts (stop step : Int) : Int → List Int → Prop where
  | ended {number : Int} (reached : ¬ GoesOn stop step number) : Counts stop step number []
  | next {number : Int} {later : List Int} (goesOn : GoesOn stop step number)
      (counts : Counts stop step (number + step) later) : Counts stop step number (number :: later)

variable {start stop step : Int}

namespace Counts

/-- There is only one way to count. -/
theorem eq {numbers others : List Int} (counts : Counts stop step start numbers)
    (countsToo : Counts stop step start others) : numbers = others := by
  induction counts generalizing others with
  | ended reached =>
      cases countsToo with
      | ended _ => rfl
      | next goesOn _ => exact absurd goesOn reached
  | next goesOn _ inductionHypothesis =>
      cases countsToo with
      | ended reached => exact absurd goesOn reached
      | next _ later => rw [inductionHypothesis later]

/-- Counting goes on at every number that is passed, and none of them lies before the start. -/
theorem forall_mem {numbers : List Int} (counts : Counts stop step start numbers) :
    ∀ number ∈ numbers, GoesOn stop step number ∧
      (0 ≤ step → start ≤ number) ∧ (step ≤ 0 → number ≤ start) := by
  induction counts with
  | ended _ => exact fun _ among => nomatch among
  | next goesOn _ inductionHypothesis =>
      intro number among
      rcases List.mem_cons.mp among with rfl | later
      · exact ⟨goesOn, fun _ => Int.le_refl _, fun _ => Int.le_refl _⟩
      · obtain ⟨goesOnToo, above, below⟩ := inductionHypothesis number later
        refine ⟨goesOnToo, fun up => ?_, fun down => ?_⟩
        · have := above up
          omega
        · have := below down
          omega

/-- Counting between two integers of 64 bits passes only integers of 64 bits. -/
theorem forall_holds {numbers : List Int} (counts : Counts stop step start numbers)
    (startHolds : int64.Holds start) (stopHolds : int64.Holds stop) :
    ∀ number ∈ numbers, int64.Holds number := by
  intro number among
  obtain ⟨goesOn, above, below⟩ := counts.forall_mem number among
  unfold GoesOn at goesOn
  unfold Holds at startHolds stopHolds ⊢
  split at goesOn <;> omega

end Counts

/-! ### The length -/

/-- Turning all signs leaves the length. -/
theorem length_neg (start stop step : Int) :
    length (-start) (-stop) (-step) = length start stop step := by
  rcases Int.lt_trichotomy step 0 with down | rfl | up
  · have turned : 0 < -step ∧ -start < -stop ↔ step < 0 ∧ stop < start := by omega
    have upwards : ¬ (0 < step ∧ start < stop) := by omega
    have downwards : ¬ (-step < 0 ∧ -stop < -start) := by omega
    simp only [length, turned, upwards, downwards, if_false]
    congr 3
    omega
  · simp [length]
  · have turned : -step < 0 ∧ -stop < -start ↔ 0 < step ∧ start < stop := by omega
    have downwards : ¬ (step < 0 ∧ stop < start) := by omega
    have upwards : ¬ (0 < -step ∧ -start < -stop) := by omega
    simp only [length, turned, upwards, downwards, if_false, Int.neg_neg]
    congr 3
    omega

/-- Counting up to a stop above passes the start, and one more for each step that the rest of the
way has room for. -/
theorem length_up (up : 0 < step) (below : start < stop) :
    length start stop step = ((stop - start - 1) / step).toNat + 1 := by
  have raised : stop - start + step - 1 = stop - start - 1 + step := by omega
  have room : 0 ≤ (stop - start - 1) / step := Int.ediv_nonneg (by omega) (Int.le_of_lt up)
  rw [length, if_pos ⟨up, below⟩, raised, Int.add_ediv_of_dvd_right (Int.dvd_refl step),
    Int.ediv_self (Int.ne_of_gt up)]
  omega

/-- Where counting ends the length is zero. -/
theorem length_of_ended (ended : ¬ GoesOn stop step start) : length start stop step = 0 := by
  unfold GoesOn at ended
  split at ended
  · rw [length, if_neg (by omega), if_neg (by omega)]
  · rw [length, if_neg (by omega), if_neg (by omega)]

/-- Where counting goes on the length is one more than from the next number. -/
theorem length_of_goesOn (nonzero : step ≠ 0) (goesOn : GoesOn stop step start) :
    length start stop step = length (start + step) stop step + 1 := by
  have upwards : ∀ {start stop step : Int}, 0 < step → start < stop →
      length start stop step = length (start + step) stop step + 1 := by
    intro start stop step up below
    rw [length_up up below]
    by_cases further : start + step < stop
    · have whole : stop - start - 1 = stop - (start + step) - 1 + step := by omega
      have room : 0 ≤ (stop - (start + step) - 1) / step :=
        Int.ediv_nonneg (by omega) (Int.le_of_lt up)
      rw [length_up up further, whole, Int.add_ediv_of_dvd_right (Int.dvd_refl step),
        Int.ediv_self (Int.ne_of_gt up)]
      omega
    · have quotientZero : (stop - start - 1) / step = 0 :=
        Int.ediv_eq_zero_of_lt (by omega) (by omega)
      rw [quotientZero, length, if_neg (by omega), if_neg (by omega)]
      rfl
  unfold GoesOn at goesOn
  split at goesOn
  · next up => exact upwards up goesOn
  · next notUp =>
      rw [← length_neg, ← length_neg (start + step), Int.neg_add]
      exact upwards (by omega) (by omega)

/-- As many numbers as the length says are passed, one step apart. -/
theorem counts_length (nonzero : step ≠ 0) (start : Int) :
    Counts stop step start
      ((List.range (length start stop step)).map fun (index : Nat) => start + index * step) := by
  induction count : length start stop step generalizing start with
  | zero =>
      refine .ended fun goesOn => ?_
      rw [length_of_goesOn nonzero goesOn] at count
      exact Nat.succ_ne_zero _ count
  | succ count inductionHypothesis =>
      have goesOn : GoesOn stop step start := by
        by_contra ended
        rw [length_of_ended ended] at count
        exact Nat.succ_ne_zero _ count.symm
      rw [length_of_goesOn nonzero goesOn, Nat.succ.injEq] at count
      have later := inductionHypothesis (start + step) count
      rw [List.range_succ_eq_map, List.map_cons, List.map_map]
      have first : start + ((0 : Nat) : Int) * step = start := by simp
      have shifted : (fun (index : Nat) => start + step + index * step) =
          (fun (index : Nat) => start + index * step) ∘ Nat.succ := by
        funext index
        simp only [Function.comp, Nat.succ_eq_add_one, Int.natCast_add, Int.natCast_one]
        ring
      rw [first, ← shifted]
      exact .next goesOn later

/-- Each number that is passed between two integers of 64 bits is one itself. -/
theorem holds_term {start stop step : Int64} (nonzero : step ≠ 0) {index : Nat}
    (among : index ∈ List.range (length start.toInt stop.toInt step.toInt)) :
    int64.Holds (start.toInt + index * step.toInt) :=
  (counts_length (toInt_ne_zero nonzero) start.toInt).forall_holds (holds_int64_toInt start)
    (holds_int64_toInt stop) _ (List.mem_map_of_mem among)

/-! ### Words of 128 bits -/

namespace Wide

/-- The length, found in words of 128 bits. -/
def length (start stop step : Int) : Option Int :=
  if 0 < step ∧ start < stop then do
    let distance ← int128.exactly (stop - start)
    let raised ← int128.exactly (distance + step)
    let most ← int128.exactly (raised - 1)
    int128.divide most step
  else if step < 0 ∧ stop < start then do
    let distance ← int128.exactly (start - stop)
    let raised ← int128.exactly (distance - step)
    let most ← int128.exactly (raised - 1)
    let size ← int128.exactly (-step)
    int128.divide most size
  else some 0

/-- A term, found in words of 128 bits. Cutting it back to 64 must leave its value. -/
def term (start step : Int) (index : Nat) : Option Int64 := do
  let index ← int128.exactly index
  let way ← int128.exactly (index * step)
  let number ← int128.exactly (start + way)
  (int64.exactly number).map Int64.ofInt

/-- The progression between two bounds, as far as memory can be reserved for its terms. A count of
terms that does not fit into a word of 64 bits counts as one that cannot be allocated. -/
def between (memory : Memory) (start stop step : Int64) (limit? : Option Nat) :
    Option (Except ProgressionFault (List Int64)) :=
  if step = 0 then some (if stop < start then .error (.zeroStep start stop) else .ok [])
  else do
    let length ← length start.toInt stop.toInt step.toInt
    let count := length.natAbs
    match limit?.filter (· < count) with
    | some limit => some (.error (.tooLong count limit))
    | none =>
        if nat64.Holds count ∧ memory.reserves .term count then
          let terms ← (List.range count).mapM (term start.toInt step.toInt)
          some (.ok terms)
        else some (.error (.unallocatable count))

/-- The progression of a stop, of a start and a stop, or of a start, a stop and a step. -/
def ofBounds (memory : Memory) (bounds : List Int64) (limit? : Option Nat) :
    Option (Except ProgressionFault (List Int64)) :=
  match bounds with
  | [stop] => between memory 0 stop 1 limit?
  | [start, stop] => between memory start stop 1 limit?
  | [start, stop, step] => between memory start stop step limit?
  | _ => some (.error (.argumentCount bounds.length))

/-- A distance over a step, rounded up, fits into words of 128 bits at each stage. -/
theorem roundedUp (distance step : Int) (far : 0 < distance ∧ distance < 2 ^ 64)
    (up : 0 < step ∧ step ≤ 2 ^ 63) :
    (int128.Holds distance ∧ int128.Holds (distance + step) ∧
      int128.Holds (distance + step - 1) ∧ int128.Holds step) ∧
      int128.divide (distance + step - 1) step = some ((distance + step - 1) / step) ∧
      0 ≤ (distance + step - 1) / step ∧ (distance + step - 1) / step ≤ distance := by
  have least : 0 ≤ (distance + step - 1) / step := Int.ediv_nonneg (by omega) (by omega)
  have most : (distance + step - 1) / step ≤ distance := by
    refine Int.le_of_lt_add_one (Int.ediv_lt_of_lt_mul up.1 ?_)
    have whole : (distance + 1) * step = distance * (step - 1) + distance + step := by ring
    have rest : 0 ≤ distance * (step - 1) := Int.mul_nonneg (by omega) (by omega)
    omega
  have truncated : (distance + step - 1).tdiv step = (distance + step - 1) / step :=
    Int.tdiv_eq_ediv_of_nonneg (by omega)
  have holds : int128.Holds ((distance + step - 1) / step) := by
    simp only [Holds, int128]
    omega
  refine ⟨?_, ?_, least, most⟩
  · simp only [Holds, int128]
    omega
  · rw [divide_of_holds (by omega) (truncated ▸ holds), truncated]

variable {start stop step : Int64}

/-- Words of 128 bits are wide enough for the length, and a word of 64 bits holds it. -/
theorem length_eq (start stop step : Int64) :
    length start.toInt stop.toInt step.toInt =
        some (Progression.length start.toInt stop.toInt step.toInt : Int) ∧
      nat64.Holds (Progression.length start.toInt stop.toInt step.toInt) := by
  have bounds : ∀ value : Int64, -2 ^ 63 ≤ value.toInt ∧ value.toInt < 2 ^ 63 :=
    fun value => ⟨value.le_toInt, value.toInt_lt⟩
  have startBounds := bounds start
  have stopBounds := bounds stop
  have stepBounds := bounds step
  unfold length Progression.length
  by_cases up : 0 < step.toInt ∧ start.toInt < stop.toInt
  · obtain ⟨⟨distance, raised, most, -⟩, divided, least, greatest⟩ :=
      roundedUp (stop.toInt - start.toInt) step.toInt (by omega) (by omega)
    simp only [if_pos up, exactly_of_holds distance, exactly_of_holds raised,
      exactly_of_holds most, divided, Option.bind_eq_bind, Option.bind_some,
      Int.toNat_of_nonneg least, true_and]
    simp only [Holds, nat64]
    omega
  · by_cases down : step.toInt < 0 ∧ stop.toInt < start.toInt
    · obtain ⟨⟨distance, raised, most, size⟩, divided, least, greatest⟩ :=
        roundedUp (start.toInt - stop.toInt) (-step.toInt) (by omega) (by omega)
      rw [← Int.sub_eq_add_neg] at raised most divided least greatest
      simp only [if_neg up, if_pos down, exactly_of_holds distance, exactly_of_holds raised,
        exactly_of_holds most, exactly_of_holds size, divided, Option.bind_eq_bind,
        Option.bind_some, Int.toNat_of_nonneg least, true_and]
      simp only [Holds, nat64]
      omega
    · simp only [if_neg up, if_neg down]
      exact ⟨rfl, by decide⟩

/-- Words of 128 bits are wide enough for a number that 64 bits hold, and for the way to it. -/
theorem term_eq {index : Nat} (short : index < 2 ^ 64)
    (holds : int64.Holds (start.toInt + index * step.toInt)) :
    term start.toInt step.toInt index = some (Int64.ofInt (start.toInt + index * step.toInt)) := by
  have least := start.le_toInt
  have greatest := start.toInt_lt
  have reached := holds
  simp only [Holds, int64] at reached
  have indexHolds : int128.Holds index := by
    simp only [Holds, int128]
    omega
  have wayHolds : int128.Holds (index * step.toInt) := by
    simp only [Holds, int128]
    omega
  have numberHolds : int128.Holds (start.toInt + index * step.toInt) := by
    simp only [Holds, int128]
    omega
  simp only [term, exactly_of_holds indexHolds, exactly_of_holds wayHolds,
    exactly_of_holds numberHolds, exactly_of_holds holds, Option.bind_eq_bind, Option.bind_some,
    Option.map_some]

/-- Where each of some computations gives its exact result, so do all of them in a row. -/
theorem mapM_of_forall {α β : Type} {compute : α → Option β} {exact : α → β} {inputs : List α}
    (agree : ∀ input ∈ inputs, compute input = some (exact input)) :
    inputs.mapM compute = some (inputs.map exact) := by
  induction inputs with
  | nil => rfl
  | cons input later inductionHypothesis =>
      obtain ⟨first, others⟩ := List.forall_mem_cons.mp agree
      rw [List.mapM_cons, first, inductionHypothesis others]
      rfl

/-- Words of 128 bits are wide enough for every term of a progression. -/
theorem mapM_term (nonzero : step ≠ 0) :
    (List.range (Progression.length start.toInt stop.toInt step.toInt)).mapM
        (term start.toInt step.toInt) =
      some (terms start.toInt step.toInt
        (Progression.length start.toInt stop.toInt step.toInt)) := by
  have short := (length_eq start stop step).2.2
  refine mapM_of_forall fun index among => term_eq ?_ (holds_term nonzero among)
  have below := List.mem_range.mp among
  simp only [nat64] at short
  omega

/-- A word that memory is asked for in is wide enough for the length. -/
theorem grants_length (memory : Memory) (start stop step : Int64) :
    memory.grants .term (Progression.length start.toInt stop.toInt step.toInt) =
      memory.reserves .term (Progression.length start.toInt stop.toInt step.toInt) :=
  memory.grants_of_lt (holds_nat64_iff.mp (length_eq start stop step).2) .term

/-- Words of 128 bits give the progression between two bounds that integers without bounds give. -/
theorem between_eq (memory : Memory) (start stop step : Int64) (limit? : Option Nat) :
    between memory start stop step limit? =
      some (Progression.between start stop step limit? memory) := by
  by_cases zero : step = 0
  · rw [between, Progression.between, if_pos zero, if_pos zero]
  · obtain ⟨exact, short⟩ := length_eq start stop step
    simp only [between, Progression.between, if_neg zero, exact, Option.bind_eq_bind,
      Option.bind_some, Int.natAbs_natCast, short, true_and, mapM_term zero, grants_length]
    cases limit?.filter (· < Progression.length start.toInt stop.toInt step.toInt) with
    | some limit => rfl
    | none => exact (apply_ite some _ _ _).symm

/-- Words of 128 bits give what integers without bounds give for any bounds. -/
theorem ofBounds_eq (memory : Memory) (bounds : List Int64) (limit? : Option Nat) :
    ofBounds memory bounds limit? = some (Progression.ofBounds bounds limit? memory) := by
  match bounds with
  | [stop] => exact between_eq memory 0 stop 1 limit?
  | [start, stop] => exact between_eq memory start stop 1 limit?
  | [start, stop, step] => exact between_eq memory start stop step limit?
  | [] | _ :: _ :: _ :: _ :: _ => rfl

end Wide

/-! ### What bounds come to -/

/-- The errors that refuse a progression for its length. -/
def refusals : Refusals ProgressionFault where
  tooLong := .tooLong
  unallocatable := .unallocatable
  tooLong_inj := ProgressionFault.tooLong.inj
  unallocatable_inj := ProgressionFault.unallocatable.inj
  distinct := ProgressionFault.noConfusion

/-- The start, the stop and the step that bounds stand for. -/
inductive Denote : List Int64 → (start stop step : Int64) → Prop where
  | stop (stop : Int64) : Denote [stop] 0 stop 1
  | startStop (start stop : Int64) : Denote [start, stop] start stop 1
  | startStopStep (start stop step : Int64) : Denote [start, stop, step] start stop step

/-- Whether `result` is the progression of some bounds, as counting has it. -/
structure IsCounted (memory : Memory) (bounds : List Int64) (limit? : Option Nat)
    (result : Except ProgressionFault (List Int64)) : Prop where
  /-- Any other number of bounds than one, two or three is refused. -/
  argumentCount : bounds.length ∉ [1, 2, 3] → result = .error (.argumentCount bounds.length)
  /-- A step of zero leads nowhere: that is no number up to a stop, and no end down to one. -/
  zeroStep : ∀ {start stop}, Denote bounds start stop 0 →
    (start ≤ stop → result = .ok []) ∧ (stop < start → result = .error (.zeroStep start stop))
  /-- A step other than zero passes some numbers, which are all that is made under the limit. -/
  counted : ∀ {start stop step}, Denote bounds start stop step → step ≠ 0 →
    ∃ numbers, Counts stop.toInt step.toInt start.toInt numbers ∧
      Limited refusals limit? numbers.length (memory.reserves .term numbers.length)
        (fun terms => terms.map Int64.toInt = numbers) result

/-- The terms of a progression have the values that are passed. -/
theorem map_toInt_terms {start stop step : Int64} (nonzero : step ≠ 0) :
    Counts stop.toInt step.toInt start.toInt
      ((terms start.toInt step.toInt (length start.toInt stop.toInt step.toInt)).map
        Int64.toInt) := by
  have same : (terms start.toInt step.toInt (length start.toInt stop.toInt step.toInt)).map
      Int64.toInt = (List.range (length start.toInt stop.toInt step.toInt)).map
        fun (index : Nat) => start.toInt + index * step.toInt := by
    rw [terms, List.map_map]
    refine List.map_congr_left fun index among => ?_
    exact toInt_ofInt (holds_term nonzero among)
  rw [same]
  exact counts_length (toInt_ne_zero nonzero) start.toInt

/-- A step other than zero passes some numbers, which are all that is made under the limit. -/
theorem limited_between (memory : Memory) {start stop step : Int64} (nonzero : step ≠ 0)
    (limit? : Option Nat) :
    ∃ numbers, Counts stop.toInt step.toInt start.toInt numbers ∧
      Limited refusals limit? numbers.length (memory.reserves .term numbers.length)
        (fun terms => terms.map Int64.toInt = numbers)
        (between start stop step limit? memory) := by
  refine ⟨_, map_toInt_terms nonzero, ?_⟩
  rw [List.length_map, length_terms, ← Wide.grants_length]
  simp only [between, if_neg nonzero]
  by_cases allows : Allows limit? (length start.toInt stop.toInt step.toInt)
  · simp only [allows.filter_eq]
    split
    · next reserved =>
        refine .of_made allows reserved fun other => ?_
        rw [List.map_inj_right fun _ _ => Int64.toInt_inj.mp, eq_comm]
    · next unreserved => exact .of_not_reserved allows unreserved
  · obtain ⟨limit, present, exceeds⟩ := Limited.exceeds_of_not_allows allows
    subst present
    simp only [Option.filter_some, decide_eq_true exceeds]
    exact .of_exceeds rfl exceeds

/-- One, two or three bounds stand for a start, a stop and a step. -/
theorem exists_denote {bounds : List Int64} (few : bounds.length ∈ [1, 2, 3]) :
    ∃ start stop step, Denote bounds start stop step := by
  match bounds with
  | [stop] => exact ⟨_, _, _, .stop stop⟩
  | [start, stop] => exact ⟨_, _, _, .startStop start stop⟩
  | [start, stop, step] => exact ⟨_, _, _, .startStopStep start stop step⟩

/-- Bounds come to the progression between the start and the stop that they stand for. -/
theorem Denote.ofBounds_eq {bounds : List Int64} {start stop step : Int64}
    (denotes : Denote bounds start stop step) (limit? : Option Nat) (memory : Memory) :
    ofBounds bounds limit? memory = between start stop step limit? memory := by
  cases denotes <;> rfl

/-- The progression of some bounds is the one that counting has, or fails as counting says. -/
theorem isCounted_ofBounds (bounds : List Int64) (limit? : Option Nat) (memory : Memory) :
    IsCounted memory bounds limit? (ofBounds bounds limit? memory) := by
  refine ⟨fun other => ?_, fun {start stop} denotes => ?_, fun denotes nonzero => ?_⟩
  · match bounds with
    | [] | _ :: _ :: _ :: _ :: _ => rfl
    | [_] | [_, _] | [_, _, _] => simp at other
  · rw [denotes.ofBounds_eq, between, if_pos rfl]
    exact ⟨fun reached => if_neg (Int64.not_lt.mpr reached), fun ahead => if_pos ahead⟩
  · rw [denotes.ofBounds_eq]
    exact limited_between memory nonzero limit?

/-- Counting leaves no more than one result for some bounds, a limit and a memory. -/
theorem IsCounted.unique {memory : Memory} {bounds : List Int64} {limit? : Option Nat}
    {result other : Except ProgressionFault (List Int64)}
    (counted : IsCounted memory bounds limit? result)
    (countedToo : IsCounted memory bounds limit? other) : result = other := by
  by_cases few : bounds.length ∈ [1, 2, 3]
  · obtain ⟨start, stop, step, denotes⟩ := exists_denote few
    by_cases zero : step = 0
    · subst zero
      obtain ⟨reached, ahead⟩ := counted.zeroStep denotes
      obtain ⟨reachedToo, aheadToo⟩ := countedToo.zeroStep denotes
      by_cases down : stop < start
      · rw [ahead down, aheadToo down]
      · rw [reached (Int64.not_lt.mp down), reachedToo (Int64.not_lt.mp down)]
    · obtain ⟨numbers, counts, limited⟩ := counted.counted denotes zero
      obtain ⟨_, countsToo, limitedToo⟩ := countedToo.counted denotes zero
      obtain rfl := counts.eq countsToo
      exact limited.eq limitedToo
  · rw [counted.argumentCount few, countedToo.argumentCount few]

/-- `range` counts: for any bounds, any limit and any memory its result is the one that counting
leaves, the numbers that are passed or the error that belongs to how many they are. It is found in
words of 128 bits: none of them is too narrow, and 64 bits hold every term. -/
theorem ofBounds_eq_iff_isCounted (bounds : List Int64) (limit? : Option Nat) (memory : Memory) :
    (∀ result, ofBounds bounds limit? memory = result ↔
      IsCounted memory bounds limit? result) ∧
      Wide.ofBounds memory bounds limit? = some (ofBounds bounds limit? memory) := by
  refine ⟨fun result => ⟨?_, ?_⟩, Wide.ofBounds_eq memory bounds limit?⟩
  · rintro rfl
    exact isCounted_ofBounds bounds limit? memory
  · exact (isCounted_ofBounds bounds limit? memory).unique

-- The longest step there is leads over the whole way, and the next number would not fit.
example : ofBounds [Int64.maxValue, Int64.minValue, Int64.minValue] none (.upTo 2) =
    .ok [Int64.maxValue, -1] := by decide

end Progression

end Offside
