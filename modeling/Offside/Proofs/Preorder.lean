import Offside.Outline
import Offside.Proofs.Outcome

/-!
# Reading a program back as lines

A program read in preorder is a list of lines: the header of a block comes before
its body, and the branches of a conditional statement come in their order. Every
line is read with the number of blocks around it. `Outline.reading` reads an
outline whose last blocks are still open in the same way, and closing a block,
which makes it part of the body around it, leaves that reading as it is.
-/

namespace Offside

mutual

/-- The lines of a statement that `depth` blocks enclose. -/
def Statement.reading (depth : Nat) : Statement → List (Line × Nat)
  | .forEach target iterable body =>
      (.header (.forEach target iterable), depth) :: readingOf (depth + 1) body
  | .whileLoop condition body =>
      (.header (.whileLoop condition), depth) :: readingOf (depth + 1) body
  | .conditional chain => chain.reading depth Header.branch
  | statement => [(.simple statement, depth)]

/-- The lines of a chain whose first branch begins with `header`. -/
def Chain.reading (depth : Nat) (header : Expression → Header) : Chain → List (Line × Nat)
  | .done => []
  | .otherwise body => (.header .otherwise, depth) :: readingOf (depth + 1) body
  | .branch condition body rest =>
      (.header (header condition), depth) :: readingOf (depth + 1) body
        ++ rest.reading depth Header.elseBranch

/-- The lines of statements one after the other. -/
def readingOf (depth : Nat) : List Statement → List (Line × Nat)
  | [] => []
  | statement :: later => statement.reading depth ++ readingOf depth later

end

/-- The lines of a program, each with the number of blocks around it. -/
def Program.reading (program : Program) : List (Line × Nat) :=
  readingOf 0 program

/-- Statements are read one after the other. -/
theorem readingOf_append (depth : Nat) (first second : List Statement) :
    readingOf depth (first ++ second) = readingOf depth first ++ readingOf depth second := by
  induction first with
  | nil => rfl
  | cons statement later inductionHypothesis =>
      simp only [List.cons_append, readingOf, inductionHypothesis, List.append_assoc]

/-- A statement that is added at the end is read at the end. -/
theorem readingOf_reverse_cons (depth : Nat) (statement : Statement) (earlier : List Statement) :
    readingOf depth (statement :: earlier).reverse =
      readingOf depth earlier.reverse ++ statement.reading depth := by
  rw [List.reverse_cons, readingOf_append]
  simp only [readingOf, List.append_nil]

/-- Whether a statement is a line by itself. -/
def Statement.isSimple : Statement → Bool
  | .forEach .. | .whileLoop .. | .conditional _ => false
  | .assign .. | .update .. | .stop | .next | .pass | .expression _ => true

/-- A statement that is a line by itself is read as that line. -/
theorem Statement.reading_of_isSimple {statement : Statement} (simple : statement.isSimple)
    (depth : Nat) : statement.reading depth = [(.simple statement, depth)] := by
  cases statement <;> simp_all [isSimple, reading]

/-- Whether a chain has a first branch. -/
def Chain.hasBranch : Chain → Bool
  | .branch .. => true
  | .done | .otherwise _ => false

/-- A later piece of a chain is read behind the branches it follows. -/
theorem Chain.reading_of_extend?_later (depth : Nat) (rest : Chain) :
    ∀ {chain longer : Chain}, chain.extend? rest = some longer →
      longer.reading depth Header.elseBranch =
        chain.reading depth Header.elseBranch ++ rest.reading depth Header.elseBranch
  | .done, longer, extended => by
      obtain rfl : rest = longer := by simpa [extend?] using extended
      simp [reading]
  | .otherwise _, _, extended => by simp [extend?] at extended
  | .branch condition body later, longer, extended => by
      obtain ⟨further, extension, rfl⟩ := Option.map_eq_some_iff.mp extended
      have tail := reading_of_extend?_later depth rest extension
      simp [reading, tail]

/-- Extending a chain that has a branch adds the lines of the new piece at its end. -/
theorem Chain.reading_extend? (depth : Nat) {chain rest longer : Chain}
    (extended : chain.extend? rest = some longer) (branched : chain.hasBranch) :
    longer.reading depth Header.branch =
      chain.reading depth Header.branch ++ rest.reading depth Header.elseBranch := by
  cases chain with
  | done => simp [hasBranch] at branched
  | otherwise body => simp [hasBranch] at branched
  | branch condition body later =>
      obtain ⟨further, extension, rfl⟩ := Option.map_eq_some_iff.mp extended
      have tail := reading_of_extend?_later depth rest extension
      simp [reading, tail]

/-- A chain that has a branch keeps it when it is extended. -/
theorem Chain.hasBranch_extend? {chain rest longer : Chain}
    (extended : chain.extend? rest = some longer) (branched : chain.hasBranch) :
    longer.hasBranch := by
  cases chain with
  | done => simp [hasBranch] at branched
  | otherwise body => simp [hasBranch] at branched
  | branch condition body later =>
      obtain ⟨further, _, rfl⟩ := Option.map_eq_some_iff.mp extended
      rfl

/-- Whether a line is the header of a block. -/
def Line.isHeader : Line → Bool
  | .header _ => true
  | .simple _ => false

namespace Line

/-- An expression that stands as a statement is a line by itself. -/
theorem isSimple_of_parseBare {cursor rest : Cursor} {statement : Statement}
    (parsed : parseBare cursor = .ok (statement, rest)) : statement.isSimple := by
  obtain ⟨⟨value, after⟩, _, checked⟩ := bind_eq_ok_iff.mp parsed
  dsimp only at checked
  split at checked
  · cases checked
  · cases checked
    rfl

/-- A statement that needs no block is a line by itself. -/
theorem isSimple_of_parseSimple {cursor rest : Cursor} {statement : Statement}
    (parsed : parseSimple cursor = .ok (statement, rest)) : statement.isSimple := by
  unfold parseSimple at parsed
  split at parsed
  · cases parsed
    rfl
  · cases parsed
    rfl
  · cases parsed
    rfl
  · split at parsed
    · obtain ⟨⟨value, after⟩, _, result⟩ := bind_eq_ok_iff.mp parsed
      cases result
      rfl
    · split at parsed
      · obtain ⟨⟨value, after⟩, _, result⟩ := bind_eq_ok_iff.mp parsed
        cases result
        rfl
      · exact isSimple_of_parseBare parsed
  · exact isSimple_of_parseBare parsed

/-- The statement that a text makes up is a line by itself. -/
theorem isSimple_of_ofText {text : String} {number : Nat} {statement : Statement}
    (parsed : ofText text number = .ok (.simple statement)) : statement.isSimple := by
  unfold ofText at parsed
  split at parsed
  · unfold ofTokens at parsed
    dsimp only at parsed
    split at parsed
    · obtain ⟨⟨found, after⟩, _, closing⟩ := bind_eq_ok_iff.mp parsed
      obtain ⟨behind, _, ending⟩ := bind_eq_ok_iff.mp closing
      obtain ⟨_, _, result⟩ := bind_eq_ok_iff.mp ending
      cases result
    · obtain ⟨⟨found, after⟩, simple, ending⟩ := bind_eq_ok_iff.mp parsed
      obtain ⟨_, _, result⟩ := bind_eq_ok_iff.mp ending
      cases result
      exact isSimple_of_parseSimple simple
  · cases parsed

end Line

end Offside
