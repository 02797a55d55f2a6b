import Offside.Proofs.Comment
import Offside.Proofs.Placeable

/-!
# Writing a program down

A row is a line that is written down: its text, what the text says, and the number
of blocks around it. `Row.source` writes rows one below the other, each with blanks in
front for the blocks around it. If the rows say what is read of a program, their
source makes up that program (`BlockTree.ofSource_source`).
-/

namespace Offside

/-- The first character of a trimmed text is no blank. -/
theorem Text.takeWhile_of_trim_eq {characters : List Char}
    (trimmed : trim characters = characters) : characters.takeWhile isBlank = [] := by
  obtain ⟨blanks, whole, -⟩ := exists_trimEnd_append (trimStart characters)
  have length := congrArg List.length
    (List.takeWhile_append_dropWhile (p := isBlank) (l := characters))
  have shorter := congrArg List.length whole
  rw [show trimEnd (trimStart characters) = characters from trimmed] at shorter
  rw [List.length_append] at length shorter
  unfold trimStart at shorter
  exact List.eq_nil_of_length_eq_zero (by omega)

/-- A line to be written down: its text, what that says, and the number of blocks around it. -/
structure Row where
  text : List Char
  said : Line
  depth : Nat

namespace Row

/-- The characters of a row: for every block around it `width` blanks, and then its text. -/
def characters (width : Nat) (row : Row) : List Char :=
  List.replicate (width * row.depth) ' ' ++ row.text

/-- Whether the text of a row can stand on a line and says what it should. -/
structure IsSound (row : Row) : Prop where
  trimmed : Text.trim row.text = row.text
  visible : row.text ≠ []
  code : row.text.head? ≠ some '#'
  oneLine : '\n' ∉ row.text
  parsed : ∀ number, Line.ofText (String.ofList row.text) number = .ok row.said

/-- The source text of some rows, each of them ended by a newline. -/
def source (width : Nat) (rows : List Row) : String :=
  String.ofList (rows.flatMap fun row => row.characters width ++ ['\n'])

/-- The line that a row is written to. -/
def line (width : Nat) (row : Row) (before : Nat) : SourceLine :=
  ⟨before + 1, row.characters width⟩

/-- There are only blanks in front of a row. -/
theorem isBlank_of_mem_margin {count : Nat} :
    ∀ character ∈ List.replicate count ' ', Text.isBlank character := by
  intro character member
  rw [List.eq_of_mem_replicate member]
  rfl

section

variable {row : Row} (sound : row.IsSound) (width before : Nat)

include sound

/-- Without its blanks the line of a row is the text of the row. -/
theorem IsSound.trimmed_line : (row.line width before).trimmed = row.text := by
  rw [SourceLine.trimmed, line, characters, Text.trim,
    Text.trimStart_append_of_blank isBlank_of_mem_margin]
  exact sound.trimmed

/-- The line of a row stands as far right as there are blocks around it. -/
theorem IsSound.indent_line : (row.line width before).indent = width * row.depth := by
  rw [SourceLine.indent, line, characters, List.takeWhile_append_of_pos isBlank_of_mem_margin,
    Text.takeWhile_of_trim_eq sound.trimmed, List.append_nil, List.length_replicate]

/-- The line of a row says what the row says. -/
theorem IsSound.parsed_line : (row.line width before).parsed = .ok row.said := by
  rw [SourceLine.parsed, sound.trimmed_line]
  exact sound.parsed _

/-- The line of a row is not skipped. -/
theorem IsSound.isSkipped_line : (row.line width before).isSkipped = false := by
  rw [SourceLine.isSkipped, sound.trimmed_line]
  simp [sound.visible, sound.code]

end

section

variable {rows : List Row} {width : Nat}

/-- Every row is a piece of the source, and behind the last newline there is an empty one. -/
theorem pieces_source (sound : ∀ row ∈ rows, row.IsSound) :
    Source.pieces (source width rows).toList = rows.map (characters width) ++ [[]] := by
  rw [source, String.toList_ofList]
  induction rows with
  | nil => rfl
  | cons row later inductionHypothesis =>
      have rest := inductionHypothesis fun other member => sound other (by simp [member])
      have oneLine : '\n' ∉ row.characters width := by
        simp [characters, (sound row (by simp)).oneLine]
      rw [List.flatMap_cons, List.append_assoc, List.singleton_append, Source.pieces_append_newline,
        Source.pieces_of_no_newline oneLine, rest]
      rfl

/-- The lines of the source that say something are those of the rows. -/
theorem codeLines_source (sound : ∀ row ∈ rows, row.IsSound) :
    Source.codeLines (source width rows) =
      rows.zipIdx.map fun (row, before) => row.line width before := by
  have lines : Source.lines (source width rows) =
      (rows.zipIdx.map fun (row, before) => row.line width before) ++ [⟨rows.length + 1, []⟩] := by
    rw [Source.lines, pieces_source sound, List.zipIdx_append, List.map_append]
    congr 1
    · rw [List.zipIdx_map, List.map_map]
      rfl
    · simp
  have last : SourceLine.isSkipped ⟨rows.length + 1, []⟩ = true := rfl
  rw [Source.codeLines, lines, List.filter_append, List.filter_eq_self.mpr, List.filter_cons, last]
  · simp
  · intro line member
    obtain ⟨⟨row, before⟩, inside, rfl⟩ := List.mem_map.mp member
    have rowSound := sound row (List.fst_mem_of_mem_zipIdx inside)
    simp [rowSound.isSkipped_line]

/-- The lines of the source say what the rows say. -/
theorem writes_source (width : Nat) (sound : ∀ row ∈ rows, row.IsSound) :
    Writes width (Source.codeLines (source width rows))
      (rows.map fun row => (row.said, row.depth)) := by
  have same : ∀ written ∈ rows.zipIdx,
      ((written.1.line width written.2).parsed, (written.1.line width written.2).indent) =
        (.ok written.1.said, width * written.1.depth) := by
    intro written inside
    have rowSound := sound written.1 (List.fst_mem_of_mem_zipIdx inside)
    rw [rowSound.parsed_line, rowSound.indent_line]
  rw [Writes, codeLines_source sound, List.map_map, List.map_map]
  calc _ = rows.zipIdx.map
          ((fun row => (Except.ok row.said, width * row.depth)) ∘ Prod.fst) :=
        List.map_congr_left same
    _ = _ := by rw [← List.map_map, List.zipIdx_map_fst]; rfl

end

end Row

/-- Rows that say what is read of a program make it up, if every conditional statement in it has a
branch, what only a loop may hold is in one, and blocks are not nested too deeply. -/
theorem BlockTree.ofSource_source {width : Nat} {rows : List Row} {program : Program}
    (positive : 0 < width) (sound : ∀ row ∈ rows, row.IsSound)
    (reads : rows.map (fun row => (row.said, row.depth)) = program.reading)
    (placeable : ArePlaceable Outline.mostBlocks false program) :
    ∃ tree, ofSource (Row.source width rows) = .ok tree ∧ tree.program = program := by
  have writes := Row.writes_source width sound
  rw [reads] at writes
  obtain ⟨after, placed, opened, closed, closes⟩ :=
    Outline.adds_body positive program 0 [] Outline.mostBlocks Outline.empty Outline.empty _
      placeable (Nat.le_refl _) nofun ⟨0, 0, rfl⟩ writes
  refine ⟨⟨program, opened, closed⟩, ?_, rfl⟩
  have root : ((Outline.empty.withBody (program.reverse ++ [])).recount opened closed).root =
      program.reverse := List.append_nil _
  unfold ofSource Outline.ofLines
  rw [placed]
  change (after.closeFrom (width * 0) >>= fun outline => _) = _
  rw [closes]
  change Except.ok (BlockTree.mk _ _ _) = _
  rw [root, List.reverse_reverse]
  rfl

/-! ### A text for every line of a program -/

/-- Whether a text can stand on a line by itself and there says what it should. -/
structure Line.IsTextOf (text : List Char) (said : Line) : Prop where
  trimmed : Text.trim text = text
  visible : text ≠ []
  code : text.head? ≠ some '#'
  oneLine : '\n' ∉ text
  parsed : ∃ number, ofText (String.ofList text) number = .ok said

/-- The rows of a program, when its lines have some texts. -/
def Program.rows (program : Program) (texts : List (List Char)) : List Row :=
  texts.zipWith (fun text placed => ⟨text, placed.1, placed.2⟩) program.reading

/-- A program written down with some texts for its lines: a line for each, with `width` blanks in
front for every block around it. -/
def Program.written (width : Nat) (program : Program) (texts : List (List Char)) : String :=
  Row.source width (program.rows texts)

/-- What a text says does not depend on the number of its line. -/
theorem Row.isSound_of_isTextOf {text : List Char} {said : Line} (spells : said.IsTextOf text)
    (depth : Nat) : IsSound ⟨text, said, depth⟩ where
  trimmed := spells.trimmed
  visible := spells.visible
  code := spells.code
  oneLine := spells.oneLine
  parsed number := by
    obtain ⟨other, parsed⟩ := spells.parsed
    exact Line.ofText_eq_ok_iff.mpr (Line.ofText_eq_ok_iff.mp parsed)

section

variable {program : Program} {texts : List (List Char)}

/-- Texts that say the lines of a program make sound rows, and these say what is read of it. -/
theorem Program.rows_spec
    (spells : List.Forall₂ Line.IsTextOf texts (program.reading.map Prod.fst)) :
    (∀ row ∈ program.rows texts, row.IsSound) ∧
      (program.rows texts).map (fun row => (row.said, row.depth)) = program.reading := by
  rw [List.forall₂_map_right_iff] at spells
  unfold rows
  generalize program.reading = reading at spells ⊢
  induction spells with
  | nil => exact ⟨by simp, rfl⟩
  | @cons text placed later lines here _ inductionHypothesis =>
      obtain ⟨sound, reads⟩ := inductionHypothesis
      refine ⟨?_, by rw [List.zipWith_cons_cons, List.map_cons, reads]⟩
      rw [List.zipWith_cons_cons, List.forall_mem_cons]
      exact ⟨Row.isSound_of_isTextOf here placed.2, sound⟩

/-- A program that is written down line by line, every block further right than its header, is made
up again by the source, exactly when every conditional statement in it has a branch, what only a
loop may hold is in one, and no more than a hundred blocks are nested. -/
theorem BlockTree.ofSource_written_iff {width : Nat} (positive : 0 < width)
    (spells : List.Forall₂ Line.IsTextOf texts (program.reading.map Prod.fst)) :
    (∃ tree, ofSource (program.written width texts) = .ok tree ∧ tree.program = program) ↔
      ArePlaceable Outline.mostBlocks false program := by
  constructor
  · rintro ⟨tree, accepted, rfl⟩
    exact arePlaceable accepted
  · intro placeable
    obtain ⟨sound, reads⟩ := Program.rows_spec spells
    exact ofSource_source positive sound reads placeable

end

/-- A program whose bodies are partly empty and whose conditional statement is inside of a loop. -/
def sparseProgram : Program :=
  [.whileLoop (.name "a") [.conditional (.branch (.name "b") []
    (.branch (.name "c") [.stop] (.otherwise [])))], .pass]

/-- The sparse program is made up again by the lines that it is written down with. -/
theorem BlockTree.ofSource_written_sparse :
    ∃ tree, ofSource "while a:\n  if b :\n  elif c:\n    break # out\n  else:\npass\n" = .ok tree ∧
      tree.program = sparseProgram := by
  let texts := ["while a:", "if b :", "elif c:", "break # out", "else:", "pass"].map String.toList
  have spells : List.Forall₂ Line.IsTextOf texts (sparseProgram.reading.map Prod.fst) := by
    refine .cons ?_ (.cons ?_ (.cons ?_ (.cons ?_ (.cons ?_ (.cons ?_ .nil)))))
    all_goals exact ⟨by cbv, by decide, by decide, by decide, 1, by cbv⟩
  have placeable : ArePlaceable Outline.mostBlocks false sparseProgram := by
    simp [sparseProgram, ArePlaceable, Statement.IsPlaceable, Chain.IsPlaceable, Chain.hasBranch,
      Outline.mostBlocks]
  have source : sparseProgram.written 2 texts =
      "while a:\n  if b :\n  elif c:\n    break # out\n  else:\npass\n" := by cbv
  rw [← source]
  exact (ofSource_written_iff (by decide) spells).mpr placeable

end Offside
