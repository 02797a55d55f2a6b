import Offside.Proofs.Matching

/-!
# Lines with other numbers

A line says the same wherever it stands, so lines that have moved match those they were
before (`Matching.matched_map`). Behind other lines, each number is larger by how many
those are (`Source.lines_append`).
-/

namespace Offside

/-- A line with another number. -/
def SourceLine.renumber (number : Nat → Nat) (line : SourceLine) : SourceLine :=
  { line with number := number line.number }

/-- How lines match that only have other numbers and come behind the lines of another source. -/
def Matching.renumbering (number : Nat → Nat) (prior : BlockTree) : Matching where
  renumber := number
  indents := Eq
  prior := prior
  ordered := by
    rintro low high _ _ rfl rfl
    rfl

/-- Lines match those with other numbers. -/
theorem Matching.matched_map (number : Nat → Nat) (prior : BlockTree) (lines : List SourceLine) :
    List.Forall₂ (renumbering number prior).Lines lines (lines.map (·.renumber number)) :=
  List.forall₂_map_right_iff.mpr (List.forall₂_same.mpr fun _ _ => ⟨rfl, rfl, rfl⟩)

namespace Source

/-- Texts as lines behind `before` others. -/
def numbered (before : Nat) (texts : List (List Char)) : List SourceLine :=
  (texts.zipIdx before).map fun (text, before) => ⟨before + 1, text⟩

/-- The first of some lines behind others has the next number. -/
theorem numbered_cons (before : Nat) (text : List Char) (texts : List (List Char)) :
    numbered before (text :: texts) = ⟨before + 1, text⟩ :: numbered (before + 1) texts := rfl

/-- Behind more lines, all numbers are larger. -/
theorem numbered_add (before more : Nat) (texts : List (List Char)) :
    numbered (before + more) texts = (numbered before texts).map (·.renumber (· + more)) := by
  induction texts generalizing before with
  | nil => rfl
  | cons text later inductionHypothesis =>
      have next : before + more + 1 = before + 1 + more := Nat.add_right_comm before more 1
      rw [numbered_cons, numbered_cons, next, inductionHypothesis]
      rfl

/-- Behind texts, others are numbered from where those end. -/
theorem numbered_append (before : Nat) (first second : List (List Char)) :
    numbered before (first ++ second) =
      numbered before first ++ numbered (before + first.length) second := by
  rw [numbered, List.zipIdx_append, List.map_append]
  rfl

/-- Lines have the numbers behind where they begin, as many as there are lines. -/
theorem number_of_mem_numbered {before : Nat} {texts : List (List Char)} {line : SourceLine}
    (member : line ∈ numbered before texts) :
    before < line.number ∧ line.number ≤ before + texts.length := by
  obtain ⟨⟨text, index⟩, inside, rfl⟩ := List.mem_map.mp member
  exact ⟨Nat.lt_succ_of_le (List.le_snd_of_mem_zipIdx inside),
    List.snd_lt_add_of_mem_zipIdx inside⟩

/-- The lines of two sources with a newline between them are those of the first, and then those of
the second with larger numbers. -/
theorem lines_append (first second : String) :
    lines (first ++ "\n" ++ second) =
      lines first ++ (lines second).map (·.renumber (· + (lines first).length)) := by
  have whole : pieces (first ++ "\n" ++ second).toList =
      pieces first.toList ++ pieces second.toList := by
    rw [← pieces_append_newline]
    simp
  have count : (lines first).length = (pieces first.toList).length := by simp [lines]
  calc lines (first ++ "\n" ++ second)
      = numbered 0 (pieces first.toList ++ pieces second.toList) := congrArg (numbered 0) whole
    _ = lines first ++ numbered (0 + (lines first).length) (pieces second.toList) := by
        rw [numbered_append, count]
        rfl
    _ = lines first ++ (lines second).map (·.renumber (· + (lines first).length)) := by
        rw [numbered_add]
        rfl

/-- The lines of two sources that say something are those of the first, and then those of the second
with larger numbers. -/
theorem codeLines_append (first second : String) :
    codeLines (first ++ "\n" ++ second) =
      codeLines first ++ (codeLines second).map (·.renumber (· + (lines first).length)) := by
  rw [codeLines, lines_append, List.filter_append, List.filter_map]
  rfl

end Source

end Offside
