import Offside.Proofs.Run.Wider
import Offside.Proofs.Sketch.Sound

/-!
# What sketches print

`Run.Prints` says of a part of a run what value it gives and which lines it prints, whatever
state it begins in, as long as no variable hides a function. It holds of two parts one after
the other, so it is carried from integers over calls and loops to whole sketches. With
what is known of the source text, the text prints what its sketches say
(`Sketch.execute_renderAll`).
-/

namespace Offside

/-- Whether no variable has the name of a function. -/
def State.HidesNothing (state : State) : Prop :=
  ∀ function : Builtin, state.scope.get? function.name = none

namespace Run

variable {α β : Type}

/-- Whether a part of a run gives a value and prints some lines, and no variable hides a function
then, if none does before. -/
def Prints (part : Run α) (value : α) (lines : List String) : Prop :=
  ∀ state : State, state.HidesNothing → ∃ after : State, part state = .ok value after ∧
    after.printed = lines.reverse ++ state.printed ∧ after.HidesNothing

namespace Prints

variable {part : Run α} {value : α} {lines : List String}

/-- A value by itself prints nothing. -/
theorem pure (value : α) : Prints (Pure.pure value) value [] :=
  fun state visible => ⟨state, rfl, rfl, visible⟩

/-- Two parts one after the other print the lines of the first and then those of the second. -/
theorem bind {next : α → Run β} {result : β} {more : List String} (first : Prints part value lines)
    (second : Prints (next value) result more) : Prints (part >>= next) result (lines ++ more) := by
  intro state visible
  obtain ⟨middle, gives, printed, visibleThen⟩ := first state visible
  obtain ⟨after, givesThen, printedThen, visibleAfter⟩ := second middle visibleThen
  refine ⟨after, ?_, ?_, visibleAfter⟩
  · rw [bind_eq_of_ok gives, givesThen]
  · rw [printedThen, printed, List.reverse_append, List.append_assoc]

/-- A part that prints nothing only gives the next one its value. -/
theorem bind_silent {next : α → Run β} {result : β} {more : List String}
    (first : Prints part value []) (second : Prints (next value) result more) :
    Prints (part >>= next) result more :=
  first.bind second

/-- Without a limit a step is counted and no more. -/
theorem tick (memory : Memory) : Prints (Run.tick { memory }) () [] := by
  intro state visible
  exact ⟨_, tick_of_lt (fun limit limited => nomatch limited), rfl, visible⟩

/-- Printing prints the line. -/
theorem print (line : String) : Prints (Run.print line) () [line] :=
  fun _ visible => ⟨_, rfl, rfl, visible⟩

/-- A variable that has not the name of a function hides none. -/
theorem assign {name : String} (other : ∀ function : Builtin, function.name ≠ name)
    (value : Value) : Prints (Run.assign name value) () [] := by
  intro state visible
  refine ⟨_, rfl, rfl, fun function => ?_⟩
  change (state.scope.set name value).get? function.name = none
  rw [Scope.get?_set, if_neg (other function), visible function]

/-- The name of a function means the function. -/
theorem lookup (function : Builtin) : Prints (Run.lookup function.name) (.builtin function) [] := by
  intro state visible
  have found : Builtin.ofName? function.name = some function := by cases function <;> rfl
  exact ⟨state, lookup_of_builtin (visible function) found, rfl, visible⟩

/-- The rounds of a loop print what its body does, once for each item. -/
theorem forEach (memory : Memory) {target : String} {body : Run Signal}
    (other : ∀ function : Builtin, function.name ≠ target) (inside : Prints body .done lines)
    (items : List Value) :
    Prints (Run.forEach { memory } target body items) ()
      (List.replicate items.length lines).flatten := by
  induction items with
  | nil => exact pure ()
  | cons item later inductionHypothesis =>
      refine (tick memory).bind_silent ((assign other item).bind_silent ?_)
      exact inside.bind inductionHypothesis

end Prints

end Run

namespace Sketch

open Run (Prints)

/-! ### Expressions -/

/-- The literal of an integer has it as its value. -/
theorem eval_literal {value : Int64} (opposite : value ≠ Int64.minValue) (limits : Resources) :
    (literal value).eval limits = pure (.integer value) := by
  have small := natAbs_le_mostInteger opposite
  rw [Token.mostInteger] at small
  have size : (magnitude value).toInt = value.toInt.natAbs :=
    Int64.toInt_ofNat_of_lt (Nat.lt_succ_of_le small)
  rw [literal]
  split
  · next negative =>
      have fits : Number.fit? (-(magnitude value).toInt) = some value :=
        Number.fit?_eq_some_iff.mpr (by omega)
      have negated : Value.applyUnary .negate (.integer (magnitude value)) =
          .ok (.integer value) := by
        simp only [Value.applyUnary, Value.number?, fits]
      rw [Expression.eval, Expression.eval, pure_bind, negated]
      rfl
  · next positive =>
      have same : magnitude value = value := Int64.toInt_inj.mp (by omega)
      rw [same, Expression.eval]

/-- Evaluating the literal of an integer prints nothing. -/
theorem prints_literal (memory : Memory) {value : Int64} (opposite : value ≠ Int64.minValue) :
    Prints ((literal value).eval { memory }) (.integer value) [] := by
  rw [eval_literal opposite]
  exact .pure _

/-- A call gives and prints what the function does with the integer. -/
theorem prints_callOf (memory : Memory) {function : Builtin} {value : Int64} {result : Value}
    {lines : List String}
    (opposite : value ≠ Int64.minValue)
    (invoked : Prints ((Value.builtin function).invoke { memory } [.integer value]) result lines) :
    Prints ((callOf function value).eval { memory }) result lines := by
  have given : Prints (Expression.evalAll { memory } [literal value]) [.integer value] [] :=
    (prints_literal memory opposite).bind_silent (.pure _)
  exact (Prints.lookup function).bind_silent (given.bind_silent invoked)

/-- The call of `print` prints the integer. -/
theorem prints_print (memory : Memory) {value : Int64} (opposite : value ≠ Int64.minValue) :
    Prints ((callOf .print value).eval { memory }) .none [toString value.toInt] :=
  prints_callOf memory opposite ((Prints.print _).bind (.pure _))

/-- A progression from zero by steps of one has as many terms as its stop says. -/
theorem length_progression (stop : Int) : Progression.length 0 stop 1 = stop.toNat := by
  have noDescent : ¬ ((1 : Int) < 0 ∧ stop < 0) := by omega
  rw [Progression.length, if_neg noDescent]
  split <;> omega

/-- The call of `range` gives as many items as its count says. -/
theorem prints_range {memory : Memory} {count : Int64} (opposite : count ≠ Int64.minValue)
    (few : memory.reserves .term count.toInt.toNat) :
    ∃ items : List Value, items.length = count.toInt.toNat ∧
      Prints ((callOf .range count).eval { memory }) (.list items) [] := by
  have length : Progression.length (0 : Int64).toInt count.toInt (1 : Int64).toInt =
      count.toInt.toNat := length_progression count.toInt
  have short : count.toInt.toNat < UInt64.size := by
    have bound := count.toInt_lt
    rw [UInt64.size]
    omega
  have terms : Progression.ofBounds [count] none memory =
      .ok (Progression.terms 0 1 count.toInt.toNat) := by
    rw [Progression.ofBounds, Progression.between, if_neg (by decide), length]
    exact if_pos ((memory.grants_of_lt short .term).trans few)
  refine ⟨(Progression.terms 0 1 count.toInt.toNat).map .integer, ?_,
    prints_callOf memory opposite ?_⟩
  · rw [List.length_map, Progression.length_terms]
  · refine (Prints.pure [count]).bind_silent ?_
    simp only [terms]
    exact .pure _

/-! ### Statements -/

/-- The variable of a loop has not the name of a function. -/
theorem name_ne_variableName (depth : Nat) (function : Builtin) :
    function.name ≠ variableName depth := by
  intro same
  have first := congrArg (fun name => name.toList.head?) same
  rw [toList_variableName, List.head?_cons] at first
  cases function <;> exact absurd first (by decide)

section

variable {memory : Memory}

mutual

/-- The statement of a sketch prints the lines of the sketch. -/
theorem prints_statement (rounds : Nat) : (sketch : Sketch) → ∀ depth : Nat,
    sketch.IsWritable memory →
    Prints ((sketch.statement depth).exec { memory } rounds) .done sketch.output
  | print value, depth, opposite => by
      have printed := prints_print memory opposite
      exact (Prints.tick memory).bind_silent (printed.bind (.pure _))
  | loop count body, depth, writable => by
      obtain ⟨opposite, few, inside⟩ := writable
      obtain ⟨items, length, ranged⟩ := prints_range opposite few
      have iterated : Prints (Run.ofExcept (Value.list items).iterate) items [] := .pure items
      -- the body prints the same in every round, as sketches never read a variable
      have once := prints_statements rounds body (depth + 1) inside
      have repeatedly := once.forEach memory (name_ne_variableName depth) items
      rw [length] at repeatedly
      rw [output, ← List.append_nil (List.flatten _)]
      refine (Prints.tick memory).bind_silent (ranged.bind_silent (iterated.bind_silent ?_))
      exact repeatedly.bind (.pure _)
  | choice condition body otherwise?, depth, writable => by
      obtain ⟨inside, behind⟩ := writable
      have held : Prints ((Expression.boolean condition).holds { memory }) condition [] :=
        (Prints.pure _).bind (.pure _)
      refine (Prints.tick memory).bind_silent (held.bind_silent ?_)
      cases condition with
      | true => exact prints_statements rounds body (depth + 1) inside
      | false => exact prints_otherwiseChain rounds otherwise? depth behind

/-- The rest of the chain of a choice prints the lines of its second branch. -/
theorem prints_otherwiseChain (rounds : Nat) : (otherwise? : Option (List Sketch)) →
    ∀ depth : Nat, IsWritableOtherwise memory otherwise? →
      Prints ((otherwiseChain depth otherwise?).exec { memory } rounds) .done
        (outputOtherwise otherwise?)
  | none, _, _ => .pure _
  | some body, depth, writable => prints_statements rounds body (depth + 1) writable

/-- The statements of sketches print the lines of the sketches. -/
theorem prints_statements (rounds : Nat) : (sketches : List Sketch) → ∀ depth : Nat,
    AreWritable memory sketches →
      Prints (execBody { memory } rounds (statements depth sketches)) .done (outputAll sketches)
  | [], _, _ => .pure _
  | sketch :: later, depth, writable => by
      obtain ⟨here, rest⟩ := writable
      have first := prints_statement rounds sketch depth here
      exact first.bind (prints_statements rounds later depth rest)

end

end

/-! ### Source text -/

variable {memory : Memory} {sketches : List Sketch}

/-- The program that sketches mean prints the lines of the sketches. -/
theorem run_statements (writable : AreWritable memory sketches) :
    Program.run { memory } (statements 0 sketches) = some (.ok (outputAll sketches)) := by
  have visible : State.HidesNothing {} := fun _ => rfl
  have printed := prints_statements Program.endless sketches 0 writable
  have whole : Prints (Program.exec { memory } Program.endless (statements 0 sketches)) ()
      (outputAll sketches ++ []) := printed.bind (.pure ())
  obtain ⟨after, gives, lines, -⟩ := whole {} visible
  calc Program.run { memory } (statements 0 sketches)
      = (Program.ending (.ok () after)).map Prod.fst := by
        rw [← gives]
        exact Program.runWithin_eq_map_ending
    _ = some (.ok after.printed.reverse) := rfl
    _ = some (.ok (outputAll sketches)) := by rw [lines]; simp

/-- Indentation alone decides which block a line belongs to: the text that sketches are written as
has no defect, makes up the program with their blocks, and prints what they say, if their integers
can be written as literals, there is memory to count out their loops, and their blocks are not
nested too deeply. -/
theorem execute_renderAll (writable : AreWritable memory sketches)
    (low : heightAll sketches ≤ Outline.mostBlocks) :
    Defect.first? (renderAll 0 sketches) = none ∧
      (∃ tree, BlockTree.ofSource (renderAll 0 sketches) = .ok tree ∧
        tree.program = statements 0 sketches) ∧
      execute (renderAll 0 sketches) { memory } = some (.ok (outputAll sketches)) := by
  have sound := first?_renderAll writable
  obtain ⟨tree, accepted, program⟩ := ofSource_renderAll writable low
  refine ⟨sound, ⟨tree, accepted, program⟩, ?_⟩
  unfold execute Program.ofSource
  simp only [sound, accepted, program, run_statements writable]
  rfl

/-- An empty branch, a negative number and a line behind a loop are where they seem to be. -/
theorem execute_renderAll_branches :
    execute "for i0 in range(2):\n    if False:\n    else:\n        print(-7)\nprint(1)\n"
        { memory := .upTo 2 } =
      some (.ok ["-7", "-7", "1"]) := by
  let sketches := [loop 2 [choice false [] (some [print (-7)])], print 1]
  have writable : AreWritable (.upTo 2) sketches := by
    refine ⟨⟨by decide, by decide, ⟨trivial, ?_, trivial⟩, trivial⟩, ?_, trivial⟩
    · exact (by decide : (-7 : Int64) ≠ Int64.minValue)
    · exact (by decide : (1 : Int64) ≠ Int64.minValue)
  have low : heightAll sketches ≤ Outline.mostBlocks := by decide
  have text : renderAll 0 sketches =
      "for i0 in range(2):\n    if False:\n    else:\n        print(-7)\nprint(1)\n" := by cbv
  have lines : outputAll sketches = ["-7", "-7", "1"] := by cbv
  obtain ⟨-, -, prints⟩ := execute_renderAll writable low
  rwa [text, lines] at prints

end Sketch

end Offside
