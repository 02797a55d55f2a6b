/-!
# Sequences under a limit

A sequence whose length is known is made in three steps: the length is compared with a limit,
memory is reserved for it, and it is filled. `Limited` says how that ends, for any errors of the
first two steps.
-/

namespace Offside

/-- The two errors that refuse a sequence for its length. -/
structure Refusals (ε : Type) where
  /-- The sequence is longer than a limit. -/
  tooLong : (length limit : Nat) → ε
  /-- No memory can be reserved for the sequence. -/
  unallocatable : (length : Nat) → ε
  tooLong_inj : ∀ {length limit other otherLimit},
    tooLong length limit = tooLong other otherLimit → length = other ∧ limit = otherLimit
  unallocatable_inj : ∀ {length other}, unallocatable length = unallocatable other → length = other
  distinct : ∀ {length limit other}, tooLong length limit ≠ unallocatable other

/-- Whether a limit allows a length; without one every length is allowed. -/
def Allows (limit? : Option Nat) (length : Nat) : Prop :=
  ∀ limit ∈ limit?, length ≤ limit

/-- Whether `result` is what comes of making a sequence of some length: an error where the limit
does not allow the length, else another where the memory for it is not reserved, and else a value
with a property. -/
structure Limited {ε α : Type} (refusals : Refusals ε) (limit? : Option Nat) (length : Nat)
    (Reserved : Prop) (Made : α → Prop) (result : Except ε α) : Prop where
  /-- The result is that the sequence is too long exactly if the limit is smaller than the length,
  and both are reported. -/
  tooLong : ∀ reported limit, result = .error (refusals.tooLong reported limit) ↔
    (limit? = some limit ∧ limit < length) ∧ reported = length
  /-- The result is that the sequence cannot be allocated exactly if its length is allowed and no
  memory is reserved, and the length is reported. -/
  unallocatable : ∀ reported, result = .error (refusals.unallocatable reported) ↔
    (Allows limit? length ∧ ¬ Reserved) ∧ reported = length
  /-- The result is a value exactly if the length is allowed, memory is reserved and the value has
  the property. -/
  made : ∀ value, result = .ok value ↔ (Allows limit? length ∧ Reserved) ∧ Made value
  /-- There is a value as the result if the length is allowed and memory is reserved. -/
  ends : Allows limit? length → Reserved → ∃ value, result = .ok value

/-- A length that is allowed exceeds no limit. -/
theorem Allows.filter_eq {limit? : Option Nat} {length : Nat} (allows : Allows limit? length) :
    limit?.filter (· < length) = none := by
  refine Option.filter_eq_none_iff.mpr fun limit present => ?_
  rw [decide_eq_true_iff]
  exact Nat.not_lt.mpr (allows limit present)

namespace Limited

variable {ε α : Type} {refusals : Refusals ε} {limit? : Option Nat} {length limit : Nat}
  {Reserved : Prop} {Made : α → Prop}

/-- A limit that a length exceeds does not allow it. -/
theorem not_allows (present : limit? = some limit) (exceeds : limit < length) :
    ¬ Allows limit? length :=
  fun allows => Nat.not_le_of_lt exceeds (allows limit present)

/-- A length that is not allowed exceeds the limit. -/
theorem exceeds_of_not_allows (refused : ¬ Allows limit? length) :
    ∃ limit, limit? = some limit ∧ limit < length := by
  cases limit? with
  | none => exact absurd (fun _ present => nomatch present) refused
  | some limit =>
      refine ⟨limit, rfl, Nat.lt_of_not_le fun within => refused ?_⟩
      rintro _ ⟨⟩
      exact within

/-- The error of a sequence that is too long. -/
theorem of_exceeds (present : limit? = some limit) (exceeds : limit < length) :
    Limited refusals limit? length Reserved Made
      (.error (refusals.tooLong length limit)) where
  tooLong reported other := by
    constructor
    · intro same
      obtain ⟨rfl, rfl⟩ := refusals.tooLong_inj (Except.error.inj same)
      exact ⟨⟨present, exceeds⟩, rfl⟩
    · rintro ⟨⟨presentToo, -⟩, rfl⟩
      rw [Option.some.inj (present.symm.trans presentToo)]
  unallocatable reported :=
    ⟨fun same => absurd (Except.error.inj same) refusals.distinct,
      fun refused => absurd refused.1.1 (not_allows present exceeds)⟩
  made value := ⟨nofun, fun is => absurd is.1.1 (not_allows present exceeds)⟩
  ends allowed := absurd allowed (not_allows present exceeds)

/-- The error of a sequence that is allowed but not reserved. -/
theorem of_not_reserved (allows : Allows limit? length) (unreserved : ¬ Reserved) :
    Limited refusals limit? length Reserved Made
      (.error (refusals.unallocatable length)) where
  tooLong reported limit :=
    ⟨fun same => absurd (Except.error.inj same).symm refusals.distinct,
      fun refused => absurd allows (not_allows refused.1.1 refused.1.2)⟩
  unallocatable reported := by
    constructor
    · intro same
      exact ⟨⟨allows, unreserved⟩, (refusals.unallocatable_inj (Except.error.inj same)).symm⟩
    · rintro ⟨-, rfl⟩
      rfl
  made value := ⟨nofun, fun is => absurd is.1.2 unreserved⟩
  ends _ reserved := absurd reserved unreserved

/-- The only value with the property, if it is allowed and reserved. -/
theorem of_made (allows : Allows limit? length) (reserved : Reserved) {value : α}
    (exact : ∀ other, Made other ↔ value = other) :
    Limited refusals limit? length Reserved Made (.ok value) where
  tooLong reported limit :=
    ⟨nofun, fun refused => absurd allows (not_allows refused.1.1 refused.1.2)⟩
  unallocatable reported := ⟨nofun, fun refused => absurd reserved refused.1.2⟩
  made other := by
    rw [exact, Except.ok.injEq]
    exact ⟨fun same => ⟨⟨allows, reserved⟩, same⟩, And.right⟩
  ends _ _ := ⟨value, rfl⟩

/-- What a sequence comes to is settled by limit, memory and property. -/
theorem eq {result other : Except ε α}
    (limited : Limited refusals limit? length Reserved Made result)
    (limitedToo : Limited refusals limit? length Reserved Made other) : result = other := by
  by_cases allows : Allows limit? length
  · by_cases reserved : Reserved
    · obtain ⟨value, gives⟩ := limited.ends allows reserved
      rw [gives, (limitedToo.made value).mpr ((limited.made value).mp gives)]
    · rw [(limited.unallocatable length).mpr ⟨⟨allows, reserved⟩, rfl⟩,
        (limitedToo.unallocatable length).mpr ⟨⟨allows, reserved⟩, rfl⟩]
  · obtain ⟨limit, present, exceeds⟩ := exceeds_of_not_allows allows
    rw [(limited.tooLong length limit).mpr ⟨⟨present, exceeds⟩, rfl⟩,
      (limitedToo.tooLong length limit).mpr ⟨⟨present, exceeds⟩, rfl⟩]

/-- The property of the value may be said in another way. -/
theorem congr {Other : α → Prop} {result : Except ε α}
    (limited : Limited refusals limit? length Reserved Made result)
    (same : ∀ value, Other value ↔ Made value) :
    Limited refusals limit? length Reserved Other result where
  tooLong := limited.tooLong
  unallocatable := limited.unallocatable
  made value := by rw [same, limited.made]
  ends := limited.ends

/-- What is made of the value of a limited sequence is limited in the same way. -/
theorem map {β : Type} {Further : β → Prop} {result : Except ε α} {make : α → β}
    (limited : Limited refusals limit? length Reserved Made result)
    (exact : ∀ value, Further value ↔ ∃ inner, Made inner ∧ make inner = value) :
    Limited refusals limit? length Reserved Further (result.map make) := by
  have failure : ∀ error, result.map make = .error error ↔ result = .error error := by
    intro error
    cases result with
    | error _ => rw [Except.map, Except.error.injEq, Except.error.injEq]
    | ok _ => exact iff_of_false nofun nofun
  have success : ∀ value, result.map make = .ok value ↔
      ∃ inner, result = .ok inner ∧ make inner = value := by
    intro value
    cases result with
    | error _ => exact iff_of_false nofun nofun
    | ok inner => simp [Except.map]
  refine ⟨fun reported limit => ?_, fun reported => ?_, fun value => ?_, fun allows reserved => ?_⟩
  · rw [failure, limited.tooLong]
  · rw [failure, limited.unallocatable]
  · simp only [success, limited.made, exact, and_assoc, exists_and_left]
  · obtain ⟨value, gives⟩ := limited.ends allows reserved
    exact ⟨make value, (success _).mpr ⟨value, gives, rfl⟩⟩

end Limited

end Offside
