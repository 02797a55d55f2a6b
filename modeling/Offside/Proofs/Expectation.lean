import Offside.CommandLine.Call
import Offside.Proofs.Comment

/-!
# What a program prints as its expectation

Lines are written with a newline behind each of them, and a text is read back as lines
at its newlines, without the carriage returns before them. So the lines that a program
prints are read back as they are exactly when each of them is one line: it has no newline
in it and no carriage return at its end (`CommandLine.fileLines_unlines_iff`). Only then
does the program match the file that its own output was written to.
-/

namespace Offside

namespace CommandLine

/-! ### Lines that are written and read back -/

/-- Whether a text that is written as a line is read back as that line. -/
def IsOneLine (line : String) : Prop :=
  '\n' ∉ line.toList ∧ line.toList.getLast? ≠ some '\r'

instance (line : String) : Decidable (IsOneLine line) :=
  inferInstanceAs (Decidable (_ ∧ _))

/-- What is read of a piece before a newline: a carriage return at its end is left out. -/
def withoutReturn (piece : List Char) : List Char :=
  if piece.getLast? = some '\r' then piece.dropLast else piece

/-- Only without a carriage return at its end is a piece read as it is. -/
theorem withoutReturn_eq_self_iff {piece : List Char} :
    withoutReturn piece = piece ↔ piece.getLast? ≠ some '\r' := by
  unfold withoutReturn
  constructor
  · rintro same returned
    rw [if_pos returned] at same
    have shorter := congrArg List.length same
    rw [List.length_dropLast] at shorter
    cases piece with
    | nil => cases returned
    | cons first rest =>
        rw [List.length_cons] at shorter
        omega
  · intro other
    exact if_neg other

/-- Nothing is read that is not in the piece. -/
theorem mem_of_mem_withoutReturn {piece : List Char} {character : Char}
    (member : character ∈ withoutReturn piece) : character ∈ piece := by
  unfold withoutReturn at member
  split at member
  · exact List.mem_of_mem_dropLast member
  · exact member

/-- The pieces of written lines are those of each of them, and an empty one at the end. -/
theorem pieces_unlines (lines : List String) :
    Source.pieces (unlines lines).toList =
      lines.flatMap (Source.pieces ·.toList) ++ [[]] := by
  induction lines with
  | nil => rfl
  | cons line later inductionHypothesis =>
      have written : (unlines (line :: later)).toList =
          line.toList ++ '\n' :: (unlines later).toList := by
        simp [unlines, String.toList_append]
      rw [written, Source.pieces_append_newline, inductionHypothesis, List.flatMap_cons,
        List.append_assoc]

/-- What is read of one written line. -/
def readBack (line : String) : List String :=
  (Source.pieces line.toList).map fun piece => String.ofList (withoutReturn piece)

/-- Written lines are read back one after the other. -/
theorem fileLines_unlines (lines : List String) :
    fileLines (unlines lines) = lines.flatMap readBack := by
  unfold fileLines readBack
  dsimp only
  rw [pieces_unlines, List.dropLast_concat, List.getLast?_concat]
  simp [withoutReturn, List.map_flatMap, Function.comp_def]

/-- One line is read back as it is. -/
theorem IsOneLine.readBack_eq {line : String} (oneLine : IsOneLine line) :
    readBack line = [line] := by
  unfold readBack
  rw [Source.pieces_of_no_newline oneLine.1, List.map_singleton,
    withoutReturn_eq_self_iff.mpr oneLine.2, String.ofList_toList]

/-- A line that is read from one of its pieces is one line. -/
theorem isOneLine_of_mem_readBack {line : String} (member : line ∈ readBack line) :
    IsOneLine line := by
  obtain ⟨piece, among, reads⟩ := List.mem_map.mp member
  have same : withoutReturn piece = line.toList := by rw [← reads, String.toList_ofList]
  have oneLine : '\n' ∉ line.toList := fun newline =>
    Source.not_mem_of_mem_pieces among (mem_of_mem_withoutReturn (same ▸ newline))
  rw [Source.pieces_of_no_newline oneLine, List.mem_singleton] at among
  subst among
  exact ⟨oneLine, withoutReturn_eq_self_iff.mp same⟩

/-- Written lines are read back as they are exactly when each of them is one line. -/
theorem fileLines_unlines_iff {lines : List String} :
    fileLines (unlines lines) = lines ↔ ∀ line ∈ lines, IsOneLine line := by
  rw [fileLines_unlines]
  induction lines with
  | nil => simp
  | cons line later inductionHypothesis =>
      rw [List.flatMap_cons, List.forall_mem_cons, ← inductionHypothesis]
      constructor
      · intro same
        have first : line ∈ readBack line := by
          obtain ⟨piece, pieces, shape⟩ :=
            List.exists_cons_of_ne_nil (Source.pieces_ne_nil line.toList)
          rw [readBack, shape, List.map_cons, List.cons_append] at same
          rw [readBack, shape, List.map_cons, (List.cons.inj same).1]
          exact List.mem_cons_self
        have oneLine := isOneLine_of_mem_readBack first
        rw [oneLine.readBack_eq] at same
        exact ⟨oneLine, (List.cons.inj same).2⟩
      · rintro ⟨oneLine, rest⟩
        rw [oneLine.readBack_eq, rest]
        rfl

end CommandLine

/-! ### Calls with and without expected lines -/

/-- Whether a call runs the program and writes the lines that it prints. -/
structure Options.IsPlain (options : Options) : Prop where
  check : options.check = false
  tree : options.tree = false
  json : options.json = false

namespace CommandLine

/-- What is written about lines that are not the expected ones. -/
def mismatch (path : String) (output expected : List String) : String :=
  let counts := s!"(expected {expected.length} lines, got {output.length})"
  unlines (s!"Output does not match {path} {counts}" :: differences output expected)

section

variable {surroundings : Surroundings} {options : Options} {source path text : String}
  {output : List String}

/-- A plain call runs the program. -/
theorem call_of_isPlain (plain : options.IsPlain)
    (read : surroundings.source options.path? = .ok source) :
    call options surroundings = execute options surroundings source := by
  unfold call
  rw [read]
  dsimp only
  rw [plain.check, plain.tree]
  rfl

/-- A program that runs to its end without expected lines prints its lines. -/
theorem execute_of_ok (plain : options.IsPlain) (absent : options.expected? = none)
    (ran : Offside.execute source { options.limits with memory := surroundings.memory } =
      some (.ok output)) :
    execute options surroundings source = { code := 0, output := unlines output } := by
  unfold execute
  rw [ran]
  dsimp only
  rw [absent, plain.json]
  rfl

/-- A program that runs to its end with expected lines is compared with them, too. -/
theorem execute_of_expected (plain : options.IsPlain) (asked : options.expected? = some path)
    (ran : Offside.execute source { options.limits with memory := surroundings.memory } =
      some (.ok output))
    (held : surroundings.file path = .ok text) :
    execute options surroundings source = {
      code := (compared (.success output) path (fileLines text)).1
      output := unlines output
      errors := (compared (.success output) path (fileLines text)).2 } := by
  unfold execute
  rw [ran]
  dsimp only
  rw [asked, plain.json]
  dsimp only
  rw [held]
  rfl

/-- What is printed matches the text that it is written as exactly when each line is one line. -/
theorem compared_unlines :
    compared (.success output) path (fileLines (unlines output)) =
      if ∀ line ∈ output, IsOneLine line then (0, s!"Output matches {path}\n")
      else (1, mismatch path output (fileLines (unlines output))) := by
  have matching : (Report.success output).matchesLines (fileLines (unlines output)) ↔
      ∀ line ∈ output, IsOneLine line := by
    rw [Report.matchesLines_iff, ← fileLines_unlines_iff]
    simp [Report.success, eq_comm]
  unfold compared
  simp only [matching]
  rfl

/-- The output of a program that runs to its end is accepted as its expectation exactly when each
line is one line: a file that holds what a plain call writes is matched by the call that asks for
it and is otherwise the same. -/
theorem run_expect_output (plain : options.IsPlain) (absent : options.expected? = none)
    (read : surroundings.source options.path? = .ok source)
    (ran : Offside.execute source { options.limits with memory := surroundings.memory } =
      some (.ok output))
    (held : surroundings.file path = .ok (call options surroundings).output) :
    call options surroundings = { code := 0, output := unlines output } ∧
      call { options with expected? := some path } surroundings =
        if ∀ line ∈ output, IsOneLine line then
          { code := 0, output := unlines output, errors := s!"Output matches {path}\n" }
        else
          { code := 1
            output := unlines output
            errors := mismatch path output (fileLines (unlines output)) } := by
  have prints : call options surroundings = { code := 0, output := unlines output } :=
    (call_of_isPlain plain read).trans (execute_of_ok plain absent ran)
  rw [prints] at held
  have plainToo : Options.IsPlain { options with expected? := some path } :=
    ⟨plain.check, plain.tree, plain.json⟩
  refine ⟨prints, ?_⟩
  rw [call_of_isPlain plainToo read, execute_of_expected plainToo rfl ran held, compared_unlines]
  split
  · rfl
  · rfl

end

/-- Surroundings with a text on the standard input and another one in a file. -/
def surroundingsOf (input path text : String) : Surroundings where
  input
  file other := if other = path then .ok text else .error "missing"

/-- Two printed lines, one of them empty, are matched by the file that they were written to. -/
theorem run_expect_output_lines :
    call { expected? := some "out.txt", limits := { steps? := some 5 } }
        (surroundingsOf "print('a')\nprint()" "out.txt" "a\n\n") =
      { code := 0, output := "a\n\n", errors := "Output matches out.txt\n" } := by
  let surroundings := surroundingsOf "print('a')\nprint()" "out.txt" "a\n\n"
  let options : Options := { limits := { steps? := some 5 } }
  have plain : options.IsPlain := ⟨rfl, rfl, rfl⟩
  have ran : Offside.execute surroundings.input { steps? := some 5 } =
      some (.ok ["a", ""]) := by cbv
  have held : surroundings.file "out.txt" = .ok (call options surroundings).output := by
    rw [call_of_isPlain plain rfl, execute_of_ok plain rfl ran]
    cbv
  exact (run_expect_output plain rfl rfl ran held).2

/-- A printed line with a newline in it is not matched by the file that it was written to. -/
theorem run_expect_broken :
    call {} (surroundingsOf "print('a\\nb')" "out.txt" "a\nb\n") =
      { code := 0, output := "a\nb\n" } ∧
    call { expected? := some "out.txt" }
        (surroundingsOf "print('a\\nb')" "out.txt" "a\nb\n") = {
      code := 1
      output := "a\nb\n"
      errors := "Output does not match out.txt (expected 2 lines, got 1)\n" ++
        "  line 1: expected \"a\", got \"a\\nb\"\n" } := by
  let surroundings := surroundingsOf "print('a\\nb')" "out.txt" "a\nb\n"
  have ran : Offside.execute surroundings.input {} = some (.ok ["a\nb"]) := by cbv
  constructor
  · rw [call_of_isPlain ⟨rfl, rfl, rfl⟩ rfl, execute_of_ok ⟨rfl, rfl, rfl⟩ rfl ran]
    cbv
  · rw [call_of_isPlain ⟨rfl, rfl, rfl⟩ rfl, execute_of_expected ⟨rfl, rfl, rfl⟩ rfl ran rfl]
    cbv

end CommandLine

end Offside
