import Offside.Proofs.Numbering

/-!
# One source behind another

What a source leaves open does not matter to the lines behind it, if the first of them
is not indented and does not go on with a chain: it closes all blocks. So the program of
two sources in a row is that of the first and then that of the second, and what is wrong
with the second is wrong behind the first (`BlockTree.ofSource_append`).
-/

namespace Offside

namespace Outline

/-- Lines of which the first is not indented are placed as if all blocks had been closed before. -/
theorem foldlM_place_of_closeFrom {outline base : Outline}
    (closes : outline.closeFrom 0 = .ok base) {lines : List SourceLine}
    (left : ∀ line ∈ lines.head?, line.indent = 0) :
    (lines.foldlM place outline >>= closeFrom 0) = (lines.foldlM place base >>= closeFrom 0) := by
  have same : outline.closeFrom 0 = base.closeFrom 0 :=
    closeFrom_of_closeFrom (Nat.le_refl 0) closes
  cases lines with
  | nil => exact same
  | cons line later =>
      have placed : outline.place line = base.place line := by
        unfold place
        rw [left line rfl, same]
      rw [List.foldlM_cons, List.foldlM_cons, placed]

/-- No block stands to the left of the first column. -/
theorem blocks_of_closeFrom_zero {outline base : Outline}
    (closes : outline.closeFrom 0 = .ok base) : base.blocks = [] := by
  have left := (closeFrom_induction (motive := fun _ => True) trivial closes
    fun _ _ _ _ _ _ _ _ _ => trivial).2
  cases shape : base.blocks with
  | nil => rfl
  | cons block outer => exact absurd (left block (by rw [shape]; rfl)) (Nat.not_lt_zero _)

end Outline

/-- A source behind another one, whose first line is not indented and goes on with no chain, adds
its statements and its blocks to those of the other, or fails as it does alone, further down by the
lines of the other. -/
theorem BlockTree.ofSource_append {first second : String} {tree : BlockTree}
    (accepted : ofSource first = .ok tree)
    (begins : ∀ line ∈ (Source.codeLines second).head?,
      line.indent = 0 ∧ line.isContinuation = false) :
    ofSource (first ++ "\n" ++ second) =
      match ofSource second with
      | .ok later => .ok ⟨tree.program ++ later.program, tree.opened + later.opened,
          tree.closed + later.closed⟩
      | .error error => .error (error.renumber (· + (Source.lines first).length)) := by
  obtain ⟨base, made, result⟩ := bind_eq_ok_iff.mp accepted
  obtain ⟨placed, places, closes⟩ := bind_eq_ok_iff.mp made
  cases result
  have matched := Matching.matched_map (· + (Source.lines first).length)
    ⟨base.root.reverse, base.opened, base.closed⟩ (Source.codeLines second)
  have start : (Matching.renumbering (· + (Source.lines first).length)
      ⟨base.root.reverse, base.opened, base.closed⟩).Outlines .empty base :=
    { joinable := Outline.joinable_of_nil rfl
      root := (List.reverse_reverse _).symm
      blocks := by
        rw [Outline.blocks_of_closeFrom_zero closes]
        exact .nil
      opened := rfl
      closed := rfl }
  have agree := Matching.agree_ofSource _ start matched fun line isFirst goesOn => by
    rw [(begins line isFirst).2] at goesOn
    cases goesOn
  have behind : Outline.ofLines (Source.codeLines (first ++ "\n" ++ second)) =
      (((Source.codeLines second).map (·.renumber (· + (Source.lines first).length))).foldlM
        Outline.place base >>= Outline.closeFrom 0) := by
    rw [Outline.ofLines, Source.codeLines_append, List.foldlM_append, places]
    refine Outline.foldlM_place_of_closeFrom closes fun moved isFirst => ?_
    rw [List.head?_map] at isFirst
    obtain ⟨line, atHead, rfl⟩ := Option.map_eq_some_iff.mp isFirst
    exact (begins line atHead).1
  rw [← behind] at agree
  refine Eq.trans agree.eq_map ?_
  cases ofSource second <;> rfl

/-- The loop that the first source leaves open is no loop for the second, whose error is found
behind the three lines of the first. -/
theorem BlockTree.ofSource_append_loop :
    ∃ tree, ofSource "for x in []:\n  if x:\n    pass" = .ok tree ∧
      ofSource "# then\nif x:\n  pass\nelse:\n  break" = .error ⟨5, .outsideLoop "break"⟩ ∧
      ofSource ("for x in []:\n  if x:\n    pass" ++ "\n" ++
        "# then\nif x:\n  pass\nelse:\n  break") = .error ⟨8, .outsideLoop "break"⟩ := by
  have accepted : ofSource "for x in []:\n  if x:\n    pass" = .ok
      ⟨[.forEach "x" (.list []) [.conditional (.branch (.name "x") [.pass] .done)]], 2, 2⟩ := by cbv
  have fails : ofSource "# then\nif x:\n  pass\nelse:\n  break" =
      .error ⟨5, .outsideLoop "break"⟩ := by cbv
  have atHead : (Source.codeLines "# then\nif x:\n  pass\nelse:\n  break").head? =
      some ⟨2, "if x:".toList⟩ := by cbv
  refine ⟨_, accepted, fails, ?_⟩
  rw [ofSource_append accepted, fails]
  · rfl
  · rw [atHead]
    rintro _ ⟨⟩
    exact ⟨by cbv, by cbv⟩

end Offside
