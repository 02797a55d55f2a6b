import Offside.Proofs.Defects
import Offside.Proofs.Writing

/-!
# Sketches of programs

A `Sketch` says what a program does without saying how that is written: it prints an
integer, repeats other sketches some times, or chooses between them. `Sketch.render` writes
sketches down with four blanks for each block around them, and `Sketch.output` says
what they print. Line by line, what is written is sound: it can be read, says what the
sketch means and has no defect.
-/

namespace Offside

/-- What a program does: it prints, repeats or chooses. -/
inductive Sketch where
  | print (value : Int64)
  | loop (count : Int64) (body : List Sketch)
  | choice (condition : Bool) (body : List Sketch) (otherwise? : Option (List Sketch))

namespace Sketch

/-! ### What is written -/

/-- The blanks in front of a line inside some blocks. -/
def margin (depth : Nat) : String :=
  String.ofList (List.replicate (4 * depth) ' ')

/-- The text that prints an integer. -/
def printText (value : Int64) : String :=
  "print(" ++ toString value.toInt ++ ")"

/-- The variable of a loop inside some blocks. -/
def variableName (depth : Nat) : String :=
  "i" ++ toString depth

/-- The header of a loop. -/
def loopText (depth : Nat) (count : Int64) : String :=
  "for " ++ variableName depth ++ " in range(" ++ toString count.toInt ++ "):"

/-- The header of the first branch of a choice. -/
def choiceText (condition : Bool) : String :=
  if condition then "if True:" else "if False:"

mutual

/-- The source text of a sketch inside some blocks. -/
def render (depth : Nat) : Sketch → String
  | print value => margin depth ++ printText value ++ "\n"
  | loop count body => margin depth ++ loopText depth count ++ "\n" ++ renderAll (depth + 1) body
  | choice condition body otherwise? =>
      margin depth ++ choiceText condition ++ "\n" ++ renderAll (depth + 1) body ++
        renderOtherwise depth otherwise?

/-- The source text of the second branch of a choice, if it has one. -/
def renderOtherwise (depth : Nat) : Option (List Sketch) → String
  | none => ""
  | some body => margin depth ++ "else:" ++ "\n" ++ renderAll (depth + 1) body

/-- The source text of sketches one after the other. -/
def renderAll (depth : Nat) : List Sketch → String
  | [] => ""
  | sketch :: later => sketch.render depth ++ renderAll depth later

end

/-! ### What is printed -/

mutual

/-- The lines that a sketch prints. -/
def output : Sketch → List String
  | print value => [toString value.toInt]
  | loop count body => (List.replicate count.toInt.toNat (outputAll body)).flatten
  | choice condition body otherwise? =>
      if condition then outputAll body else outputOtherwise otherwise?

/-- The lines that the second branch of a choice prints, if it has one. -/
def outputOtherwise : Option (List Sketch) → List String
  | none => []
  | some body => outputAll body

/-- The lines that sketches print one after the other. -/
def outputAll : List Sketch → List String
  | [] => []
  | sketch :: later => sketch.output ++ outputAll later

end

/-! ### What can be written -/

mutual

/-- The number of blocks that a sketch nests. -/
def height : Sketch → Nat
  | print _ => 0
  | loop _ body => heightAll body + 1
  | choice _ body otherwise? => max (heightAll body + 1) (heightOtherwise otherwise?)

/-- The number of blocks that the second branch of a choice nests, its own among them. -/
def heightOtherwise : Option (List Sketch) → Nat
  | none => 0
  | some body => heightAll body + 1

/-- The number of blocks that sketches nest. -/
def heightAll : List Sketch → Nat
  | [] => 0
  | sketch :: later => max sketch.height (heightAll later)

end

mutual

/-- Whether the integers of a sketch can be written as literals, and its loops be counted out in
some memory. -/
def IsWritable (memory : Memory) : Sketch → Prop
  | print value => value ≠ Int64.minValue
  | loop count body =>
      count ≠ Int64.minValue ∧ memory.reserves .term count.toInt.toNat ∧ AreWritable memory body
  | choice _ body otherwise? => AreWritable memory body ∧ IsWritableOtherwise memory otherwise?

/-- Whether the integers of the second branch of a choice can be written as literals and its loops
be counted out in some memory, if there is one. -/
def IsWritableOtherwise (memory : Memory) : Option (List Sketch) → Prop
  | none => True
  | some body => AreWritable memory body

/-- Whether the integers of sketches one after the other can be written as literals and their loops
be counted out in some memory. -/
def AreWritable (memory : Memory) : List Sketch → Prop
  | [] => True
  | sketch :: later => sketch.IsWritable memory ∧ AreWritable memory later

end

/-! ### What is meant -/

/-- The size of an integer without its sign. -/
def magnitude (value : Int64) : Int64 :=
  Int64.ofNat value.toInt.natAbs

/-- The expression of a decimal literal. -/
def literal (value : Int64) : Expression :=
  if value.toInt < 0 then .unary .negate (.integer (magnitude value))
  else .integer (magnitude value)

/-- The call of a function with an integer. -/
def callOf (function : Builtin) (value : Int64) : Expression :=
  .call (.name function.name) [literal value]

mutual

/-- The statement that a sketch means inside some blocks. -/
def statement (depth : Nat) : Sketch → Statement
  | print value => .expression (callOf .print value)
  | loop count body =>
      .forEach (variableName depth) (callOf .range count) (statements (depth + 1) body)
  | choice condition body otherwise? =>
      .conditional (.branch (.boolean condition) (statements (depth + 1) body)
        (otherwiseChain depth otherwise?))

/-- The rest of the chain of a choice behind its first branch. -/
def otherwiseChain (depth : Nat) : Option (List Sketch) → Chain
  | none => .done
  | some body => .otherwise (statements (depth + 1) body)

/-- The statements that sketches mean. -/
def statements (depth : Nat) : List Sketch → List Statement
  | [] => []
  | sketch :: later => sketch.statement depth :: statements depth later

end

mutual

/-- The rows that a sketch is written in. -/
def rows (depth : Nat) : Sketch → List Row
  | print value =>
      [⟨(printText value).toList, .simple (.expression (callOf .print value)), depth⟩]
  | loop count body =>
      ⟨(loopText depth count).toList,
        .header (.forEach (variableName depth) (callOf .range count)), depth⟩ ::
        rowsAll (depth + 1) body
  | choice condition body otherwise? =>
      ⟨(choiceText condition).toList, .header (.branch (.boolean condition)), depth⟩ ::
        (rowsAll (depth + 1) body ++ rowsOtherwise depth otherwise?)

/-- The rows that the second branch of a choice is written in. -/
def rowsOtherwise (depth : Nat) : Option (List Sketch) → List Row
  | none => []
  | some body => ⟨"else:".toList, .header .otherwise, depth⟩ :: rowsAll (depth + 1) body

/-- The rows that sketches are written in. -/
def rowsAll (depth : Nat) : List Sketch → List Row
  | [] => []
  | sketch :: later => sketch.rows depth ++ rowsAll depth later

end

mutual

/-- The rows of a sketch are its source text. -/
theorem toList_render : (sketch : Sketch) → ∀ depth : Nat, (sketch.render depth).toList =
    (sketch.rows depth).flatMap fun row => row.characters 4 ++ ['\n']
  | print value, depth => by simp [render, rows, margin, Row.characters]
  | loop count body, depth => by
      simp [render, rows, margin, Row.characters, toList_renderAll body (depth + 1)]
  | choice condition body otherwise?, depth => by
      simp [render, rows, margin, Row.characters, toList_renderAll body (depth + 1),
        toList_renderOtherwise otherwise? depth]

/-- The rows of a second branch are its source text. -/
theorem toList_renderOtherwise : (otherwise? : Option (List Sketch)) → ∀ depth : Nat,
    (renderOtherwise depth otherwise?).toList =
      (rowsOtherwise depth otherwise?).flatMap fun row => row.characters 4 ++ ['\n']
  | none, depth => by simp [renderOtherwise, rowsOtherwise]
  | some body, depth => by
      simp [renderOtherwise, rowsOtherwise, margin, Row.characters,
        toList_renderAll body (depth + 1)]

/-- The rows of sketches are their source text. -/
theorem toList_renderAll : (sketches : List Sketch) → ∀ depth : Nat,
    (renderAll depth sketches).toList =
      (rowsAll depth sketches).flatMap fun row => row.characters 4 ++ ['\n']
  | [], depth => by simp [renderAll, rowsAll]
  | sketch :: later, depth => by
      simp [renderAll, rowsAll, toList_render sketch depth, toList_renderAll later depth]

end

mutual

/-- The rows of a sketch say what is read of its statement. -/
theorem reading_statement : (sketch : Sketch) → ∀ depth : Nat,
    (sketch.rows depth).map (fun row => (row.said, row.depth)) =
      (sketch.statement depth).reading depth
  | print value, depth => rfl
  | loop count body, depth => by
      simp [rows, statement, Statement.reading, reading_statements body (depth + 1)]
  | choice condition body otherwise?, depth => by
      simp [rows, statement, Statement.reading, Chain.reading, reading_statements body (depth + 1),
        reading_otherwiseChain otherwise? depth]

/-- The rows of a second branch say what is read of its chain. -/
theorem reading_otherwiseChain : (otherwise? : Option (List Sketch)) → ∀ depth : Nat,
    (rowsOtherwise depth otherwise?).map (fun row => (row.said, row.depth)) =
      (otherwiseChain depth otherwise?).reading depth Header.elseBranch
  | none, depth => rfl
  | some body, depth => by
      simp [rowsOtherwise, otherwiseChain, Chain.reading, reading_statements body (depth + 1)]

/-- The rows of sketches say what is read of their statements. -/
theorem reading_statements : (sketches : List Sketch) → ∀ depth : Nat,
    (rowsAll depth sketches).map (fun row => (row.said, row.depth)) =
      readingOf depth (statements depth sketches)
  | [], depth => rfl
  | sketch :: later, depth => by
      simp [rowsAll, statements, readingOf, reading_statement sketch depth,
        reading_statements later depth]

end

mutual

/-- A sketch can be placed where there is room for the blocks that it nests. -/
theorem isPlaceable_statement : (sketch : Sketch) → ∀ {depth room : Nat} {inLoop : Bool},
    sketch.height ≤ room → (sketch.statement depth).IsPlaceable room inLoop
  | print value, _, _, _, _ => trivial
  | loop count body, depth, room, inLoop, low => by
      rw [height] at low
      exact ⟨by omega, arePlaceable_statements body (by omega)⟩
  | choice condition body otherwise?, depth, room, inLoop, low => by
      rw [height] at low
      exact ⟨rfl, ⟨by omega, arePlaceable_statements body (by omega)⟩,
        isPlaceable_otherwiseChain otherwise? (by omega)⟩

/-- A second branch can be placed where there is room for it. -/
theorem isPlaceable_otherwiseChain : (otherwise? : Option (List Sketch)) →
    ∀ {depth room : Nat} {inLoop : Bool}, heightOtherwise otherwise? ≤ room →
      (otherwiseChain depth otherwise?).IsPlaceable room inLoop
  | none, _, _, _, _ => trivial
  | some body, depth, room, inLoop, low => by
      rw [heightOtherwise] at low
      exact ⟨by omega, arePlaceable_statements body (by omega)⟩

/-- Sketches can be placed where there is room for the blocks that they nest. -/
theorem arePlaceable_statements : (sketches : List Sketch) → ∀ {depth room : Nat} {inLoop : Bool},
    heightAll sketches ≤ room → ArePlaceable room inLoop (statements depth sketches)
  | [], _, _, _, _ => trivial
  | sketch :: later, depth, room, inLoop, low => by
      rw [heightAll] at low
      exact ⟨isPlaceable_statement sketch (by omega), arePlaceable_statements later (by omega)⟩

end

end Sketch

end Offside
