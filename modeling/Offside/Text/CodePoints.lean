/-!
# Sets of code points

A character class of the Unicode standard is a set of code points, written down
as ascending closed ranges. `CodePoints.contains` is membership in such a set;
`contains_iff` says so for every ascending list of ranges.
-/

namespace Offside.Text

/-- A set of code points as closed ranges `(first, last)` in ascending order. -/
abbrev CodePoints := List (Nat × Nat)

namespace CodePoints

/-- Whether `point` lies in one of the ranges. The ranges ascend, so the search
ends at the first range that begins beyond `point`. -/
def contains : CodePoints → Nat → Bool
  | [], _ => false
  | (first, last) :: later, point => first ≤ point && (point ≤ last || contains later point)

/-- Every range begins at or after the end of the range before it. -/
def Ascending (ranges : CodePoints) : Prop :=
  ranges.Pairwise fun earlier later => earlier.1 ≤ later.1

/-- In an ascending list `contains` finds exactly the points of its ranges. -/
theorem contains_iff {ranges : CodePoints} (ascending : ranges.Ascending) (point : Nat) :
    ranges.contains point ↔ ∃ range ∈ ranges, range.1 ≤ point ∧ point ≤ range.2 := by
  induction ranges with
  | nil => simp [contains]
  | cons range later inductionHypothesis =>
      obtain ⟨before, ascendingLater⟩ := List.pairwise_cons.mp ascending
      have step := inductionHypothesis ascendingLater
      constructor
      · intro found
        simp only [contains, Bool.and_eq_true, Bool.or_eq_true, decide_eq_true_eq] at found
        rcases found with ⟨begun, inside | elsewhere⟩
        · exact ⟨range, by simp, begun, inside⟩
        · obtain ⟨other, member, bounds⟩ := step.mp elsewhere
          exact ⟨other, by simp [member], bounds⟩
      · rintro ⟨other, member, begun, inside⟩
        simp only [contains, Bool.and_eq_true, Bool.or_eq_true, decide_eq_true_eq]
        rcases List.mem_cons.mp member with rfl | member
        · exact ⟨begun, Or.inl inside⟩
        · exact ⟨Nat.le_trans (before other member) begun,
            Or.inr (step.mpr ⟨other, member, begun, inside⟩)⟩

end CodePoints

end Offside.Text
