import Offside.Proofs.Matching

/-!
# Only the order of indents matters

The lines of a source can be indented otherwise, with other kinds of blanks and as far
as one likes, if of any two lines the same one still stands further left
(`Source.IsReindented`). Neither the search for defects nor the program nor its run
can tell the two sources apart (`execute_eq_of_isReindented`).
-/

namespace Offside

namespace Source

/-- Whether the lines of two sources say the same, and of any two lines that are not skipped the
same one is indented less in both. -/
structure IsReindented (first second : String) : Prop where
  trimmed : (lines first).map (·.trimmed) = (lines second).map (·.trimmed)
  order : ∀ here ∈ (lines first).zip (lines second), ∀ there ∈ (lines first).zip (lines second),
    here.1.isSkipped = false → there.1.isSkipped = false →
      (here.1.indent < there.1.indent ↔ here.2.indent < there.2.indent)

variable {first second : String}

/-- The lines of a source and those of the reindented one match where they have the same number. -/
def IsReindented.matching (same : IsReindented first second) : Matching where
  renumber := id
  indents width otherWidth := ∃ pair ∈ (lines first).zip (lines second),
    pair.1.isSkipped = false ∧ pair.1.indent = width ∧ pair.2.indent = otherWidth
  prior := ⟨[], 0, 0⟩
  ordered := by
    rintro _ _ _ _ ⟨low, lowInside, lowCode, rfl, rfl⟩ ⟨high, highInside, highCode, rfl, rfl⟩
    have order := same.order high highInside low lowInside highCode lowCode
    omega

/-- In sources whose lines say the same, lines with the same number do. -/
theorem IsReindented.of_mem_zip (same : IsReindented first second) {line other : SourceLine}
    (pair : (line, other) ∈ (lines first).zip (lines second)) :
    other.number = line.number ∧ other.trimmed = line.trimmed := by
  obtain ⟨index, here⟩ := List.mem_iff_getElem?.mp pair
  obtain ⟨found, otherFound⟩ := List.getElem?_zip_eq_some.mp here
  have trimmed := congrArg (fun texts => texts[index]?) same.trimmed
  simp only [List.getElem?_map, found, otherFound, Option.map_some, Option.some.injEq] at trimmed
  exact ⟨by rw [number_of_getElem? found, number_of_getElem? otherFound], trimmed.symm⟩

/-- The lines of a source and of the reindented one that say something match in their order. -/
theorem IsReindented.matched (same : IsReindented first second) :
    List.Forall₂ same.matching.Lines (codeLines first) (codeLines second) := by
  have length : (lines first).length = (lines second).length := by
    simpa only [List.length_map] using congrArg List.length same.trimmed
  have pairs : List.Forall₂ (fun line other => (line, other) ∈ (lines first).zip (lines second))
      (lines first) (lines second) := List.forall₂_iff_zip.mpr ⟨length, id⟩
  have code : List.Forall₂ (fun line other => (line, other) ∈ (lines first).zip (lines second))
      (codeLines first) (codeLines second) := by
    refine List.rel_filter (fun line other pair => ?_) pairs
    have text := (same.of_mem_zip pair).2
    simp only [SourceLine.isSkipped, text]
  have shown : ∀ line ∈ codeLines first, line.isSkipped = false := fun line inside => by
    simpa using (List.mem_filter.mp inside).2
  refine ((List.forall₂_and_left _ _).mpr ⟨shown, code⟩).imp fun line other pair => ?_
  obtain ⟨number, trimmed⟩ := same.of_mem_zip pair.2
  exact ⟨number, trimmed, (line, other), pair.2, pair.1, rfl, rfl⟩

end Source

/-- Sources whose lines say the same and are indented in the same order have the same first defect,
are the same program or fail alike, and run alike under all limits. -/
theorem execute_eq_of_isReindented {first second : String}
    (same : Source.IsReindented first second) :
    Defect.first? second = Defect.first? first ∧
      BlockTree.ofSource second = BlockTree.ofSource first ∧
      ∀ limits, execute second limits = execute first limits := by
  have matched := same.matched
  have sameDefect : Defect.first? second = Defect.first? first := by
    rw [Matching.first?_eq matched]
    cases Defect.first? first <;> rfl
  have sameTree : BlockTree.ofSource second = BlockTree.ofSource first := by
    rw [Matching.ofSource_eq matched rfl]
    cases BlockTree.ofSource first <;> rfl
  refine ⟨sameDefect, sameTree, fun limits => ?_⟩
  unfold execute Program.ofSource
  rw [sameDefect, sameTree]

/-- With tabs in the place of blanks, blanks at the end of a line and a comment further right, a
loop prints the same. -/
theorem execute_eq_of_isReindented_tabs :
    Source.IsReindented "for i in range(2):
  if i:
      # last
      print(i)
  else:
   pass"
        "for i in range(2): 
	if i:
# last
			print(i)
	else:	
		pass" ∧
      execute "for i in range(2): 
	if i:
# last
			print(i)
	else:	
		pass" {} =
        some (.ok ["1"]) := by
  have same : Source.IsReindented
      "for i in range(2):
  if i:
      # last
      print(i)
  else:
   pass"
      "for i in range(2): 
	if i:
# last
			print(i)
	else:	
		pass" :=
    ⟨by decide +kernel, by decide +kernel⟩
  exact ⟨same, ((execute_eq_of_isReindented same).2.2 {}).trans (by cbv)⟩

end Offside
