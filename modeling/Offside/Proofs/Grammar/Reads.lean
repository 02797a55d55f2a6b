import Offside.Proofs.Outcome
import Offside.Proofs.Grammar.Words

/-!
# Words at a cursor

`Cursor.Reads` says which words stand between two cursors of one list of tokens.
With the words known, the second cursor follows from the first, and with both
cursors known, so do the words. The second part says what the parser's looks at
a single word find, in terms of the grammar.
-/

namespace Offside

open Expression (Level)

/-- The tokens between two cursors are spelled as `words`. -/
structure Cursor.Reads (cursor : Cursor) (words : List Token.Kind) (rest : Cursor) : Prop where
  ahead : ∃ read, cursor.ahead = read ++ rest.ahead ∧ read.map (·.kind) = words
  last : rest.last = cursor.last

namespace Cursor

/-- The word that a cursor shows next. -/
def word (cursor : Cursor) : Token.Kind :=
  cursor.current.kind

/-- Whether a cursor shows the end of the line past its tokens. -/
def IsClosed (cursor : Cursor) : Prop :=
  cursor.last.kind = .lineEnd

/-- Reading a token leaves those behind it. -/
theorem ahead_advance (cursor : Cursor) : cursor.advance.ahead = cursor.ahead.tail :=
  rfl

namespace Reads

/-- No words stand between a cursor and itself. -/
theorem refl (cursor : Cursor) : cursor.Reads [] cursor :=
  ⟨⟨[], rfl, rfl⟩, rfl⟩

/-- Words follow each other. -/
theorem trans {cursor middle rest : Cursor} {first second : List Token.Kind}
    (reads : cursor.Reads first middle) (further : middle.Reads second rest) :
    cursor.Reads (first ++ second) rest := by
  obtain ⟨before, ahead, rfl⟩ := reads.ahead
  obtain ⟨after, further_ahead, rfl⟩ := further.ahead
  refine ⟨⟨before ++ after, ?_, List.map_append⟩, further.last.trans reads.last⟩
  rw [ahead, further_ahead, List.append_assoc]

/-- The second cursor is closed when the first one is. -/
theorem isClosed {cursor rest : Cursor} {words : List Token.Kind} (reads : cursor.Reads words rest)
    (closed : cursor.IsClosed) : rest.IsClosed := by
  rw [IsClosed, reads.last]
  exact closed

/-- Every word between two cursors has been read. -/
theorem remaining {cursor rest : Cursor} {words : List Token.Kind}
    (reads : cursor.Reads words rest) : cursor.remaining = words.length + rest.remaining := by
  obtain ⟨read, ahead, rfl⟩ := reads.ahead
  rw [cursor.remaining_eq, rest.remaining_eq, ahead, List.length_append, List.length_map]

/-- Where no words stand, the cursors are the same. -/
theorem eq_of_nil {cursor rest : Cursor} (reads : cursor.Reads [] rest) : rest = cursor := by
  obtain ⟨read, ahead, empty⟩ := reads.ahead
  obtain rfl := List.map_eq_nil_iff.mp empty
  exact ext_shown ahead.symm reads.last

/-- The first of some words is shown next, and the others stand behind it. -/
theorem of_cons {cursor rest : Cursor} {first : Token.Kind} {later : List Token.Kind}
    (reads : cursor.Reads (first :: later) rest) :
    cursor.word = first ∧ cursor.advance.Reads later rest := by
  obtain ⟨read, ahead, words⟩ := reads.ahead
  obtain ⟨token, further, rfl, kind, rfl⟩ := List.map_eq_cons_iff.mp words
  refine ⟨?_, ⟨further, ?_, rfl⟩, reads.last⟩
  · rw [word, current, ahead]
    exact kind
  · rw [ahead_advance, ahead]
    rfl

/-- Between some words and further ones there is a cursor. -/
theorem of_append {cursor rest : Cursor} {first second : List Token.Kind}
    (reads : cursor.Reads (first ++ second) rest) :
    ∃ middle, cursor.Reads first middle ∧ middle.Reads second rest := by
  induction first generalizing cursor with
  | nil => exact ⟨cursor, refl cursor, reads⟩
  | cons word later inductionHypothesis =>
      obtain ⟨read, ahead, words⟩ := reads.ahead
      obtain ⟨_, behind⟩ := reads.of_cons
      obtain ⟨middle, before, after⟩ := inductionHypothesis behind
      refine ⟨middle, ⟨?_, ?_⟩, after⟩
      · obtain ⟨token, further, rfl, kind, _⟩ := List.map_eq_cons_iff.mp words
        obtain ⟨between, shown, rfl⟩ := before.ahead
        refine ⟨token :: between, ?_, by rw [List.map_cons, kind]⟩
        rw [List.cons_append, ← shown, ahead_advance, ahead]
        rfl
      · exact before.last

end Reads

/-- A closed cursor that shows another word than the end of the line has a token to read. -/
theorem reads_advance {cursor : Cursor} (closed : cursor.IsClosed)
    (inside : cursor.word ≠ .lineEnd) : cursor.Reads [cursor.word] cursor.advance := by
  obtain ⟨ahead, last, remaining, counted⟩ := cursor
  cases ahead with
  | nil => exact absurd closed inside
  | cons token further => exact ⟨⟨[token], rfl, rfl⟩, rfl⟩

/-- A closed cursor reads past a word that it shows. -/
theorem reads_of_word {cursor : Cursor} {word : Token.Kind} (closed : cursor.IsClosed)
    (shown : cursor.word = word) (inside : word ≠ .lineEnd) :
    cursor.Reads [word] cursor.advance := by
  subst shown
  exact reads_advance closed inside

/-- A cursor is at a symbol exactly when it shows that symbol. -/
theorem isAt_iff {cursor : Cursor} {symbol : Symbol} :
    cursor.isAt symbol ↔ cursor.word = .symbol symbol := by
  unfold isAt word
  split
  · next found shown => simp [shown]
  · next other =>
      simp only [Bool.false_eq_true, false_iff]
      exact other symbol

/-- A cursor is at a keyword exactly when it shows that keyword. -/
theorem isAtKeyword_iff {cursor : Cursor} {keyword : Keyword} :
    cursor.isAtKeyword keyword ↔ cursor.word = .keyword keyword := by
  unfold isAtKeyword word
  split
  · next found shown => simp [shown]
  · next other =>
      simp only [Bool.false_eq_true, false_iff]
      exact other keyword

/-- An expected symbol is read where it is shown, and nowhere else. -/
theorem expect_eq_ok_iff {cursor rest : Cursor} {symbol : Symbol} :
    cursor.expect symbol = .ok rest ↔ cursor.word = .symbol symbol ∧ rest = cursor.advance := by
  unfold expect
  split
  · next shown => simp [isAt_iff.mp shown, eq_comm]
  · next absent => simp [mt isAt_iff.mpr absent]

/-- An expected keyword is read where it is shown, and nowhere else. -/
theorem expectKeyword_eq_ok_iff {cursor rest : Cursor} {keyword : Keyword} :
    cursor.expectKeyword keyword = .ok rest ↔
      cursor.word = .keyword keyword ∧ rest = cursor.advance := by
  unfold expectKeyword
  split
  · next shown => simp [isAtKeyword_iff.mp shown, eq_comm]
  · next absent => simp [mt isAtKeyword_iff.mpr absent]

/-- An expected name is read where one is shown, and nowhere else. -/
theorem expectName_eq_ok_iff {cursor rest : Cursor} {name : String} :
    cursor.expectName = .ok (name, rest) ↔ cursor.word = .name name ∧ rest = cursor.advance := by
  unfold expectName word
  split
  · next found shown => simp [shown, eq_comm]
  · next other =>
      constructor
      · intro failed
        cases failed
      · rintro ⟨shown, _⟩
        exact (other name shown).elim

end Cursor

/-! ### What a look at the next word finds -/

namespace Expression

/-- The operators of a level are those of the grammar. -/
theorem join?_eq_some_iff {level : Level} {word : Token.Kind}
    {join : Expression → Expression → Expression} :
    level.join? word = some join ↔ Joins level word join := by
  constructor
  · intro found
    unfold Level.join? at found
    split at found <;> cases found
    · exact .or
    · exact .and
    · exact .plus
    · exact .minus
    · exact .star
    · exact .slash
    · exact .doubleSlash
    · exact .percent
  · intro joins
    cases joins <;> rfl

/-- The operators of a level continue what stands before them on that level. -/
theorem continuationRank_of_joins {level : Level} {word : Token.Kind}
    {join : Expression → Expression → Expression} (joins : Joins level word join) :
    word.continuationRank = level.rank := by
  cases joins <;> rfl

/-- A word that continues only looser phrases is no operator of a level. -/
theorem join?_eq_none {level : Level} {word : Token.Kind}
    (looser : level.rank < word.continuationRank) : level.join? word = Option.none := by
  cases found : level.join? word with
  | none => rfl
  | some join =>
      have same := continuationRank_of_joins (join?_eq_some_iff.mp found)
      omega

/-- The signs are those of the grammar. -/
theorem signOp?_eq_some_iff {word : Token.Kind} {op : UnaryOp} :
    signOp? word = some op ↔ IsSign word op := by
  constructor
  · intro found
    unfold signOp? at found
    split at found <;> cases found
    · exact .minus
    · exact .plus
  · intro isSign
    cases isSign <;> rfl

/-- A word that opens an operand is no sign. -/
theorem signOp?_eq_none {word : Token.Kind} (opens : word.openingRank ≤ 1) :
    signOp? word = Option.none := by
  cases found : signOp? word with
  | none => rfl
  | some op => cases signOp?_eq_some_iff.mp found <;> exact absurd opens (by decide)

/-- The literals and names are those of the grammar. -/
theorem ofToken?_eq_some_iff {word : Token.Kind} {value : Expression} :
    ofToken? word = some value ↔ IsAtom word value := by
  constructor
  · intro found
    unfold ofToken? at found
    split at found <;> cases found
    · exact .integer _
    · exact .float _
    · exact .text _
    · exact .true
    · exact .false
    · exact .none
    · exact .name _
  · intro isAtom
    cases isAtom <;> rfl

/-- The symbol that a suffix begins with. -/
def Suffix.opening : Suffix → Symbol
  | .call => .leftParen
  | .subscript => .leftBracket
  | .attributeName => .dot

/-- A suffix is found where its symbol is shown. -/
theorem suffix?_eq_some_iff {word : Token.Kind} {suffix : Suffix} :
    suffix? word = some suffix ↔ word = .symbol suffix.opening := by
  constructor
  · intro found
    unfold suffix? at found
    split at found <;> cases found <;> rfl
  · rintro rfl
    cases suffix <;> rfl

/-- A word that continues only looser phrases begins no suffix. -/
theorem suffix?_eq_none {word : Token.Kind} (looser : 1 < word.continuationRank) :
    suffix? word = Option.none := by
  unfold suffix?
  split
  · exact absurd looser (by decide)
  · exact absurd looser (by decide)
  · exact absurd looser (by decide)
  · rfl

/-- A comparison that a closed cursor finds is spelled as in the grammar. -/
theorem reads_of_compareOp? {cursor operand : Cursor} {op : CompareOp} (closed : cursor.IsClosed)
    (found : compareOp? cursor = some (op, operand)) : cursor.Reads op.words operand := by
  unfold compareOp? at found
  split at found
  case h_8 shown =>
    split at found
    · next behind =>
        cases found
        have first := Cursor.reads_of_word closed shown (by decide)
        have second : cursor.advance.Reads [.keyword .kwIn] cursor.advance.advance := by
          refine Cursor.reads_of_word (first.isClosed closed) ?_ (by decide)
          exact behind
        exact first.trans second
    · cases found
  case h_9 => cases found
  all_goals
    cases found
    exact Cursor.reads_of_word closed ‹_› (by decide)

/-- The comparison whose words a cursor shows is found. -/
theorem compareOp?_of_reads {cursor operand : Cursor} {op : CompareOp}
    (reads : cursor.Reads op.words operand) : compareOp? cursor = some (op, operand) := by
  cases op with
  | notIn =>
      obtain ⟨first, behind⟩ := reads.of_cons
      obtain ⟨second, further⟩ := behind.of_cons
      have shown : cursor.current.kind = .keyword .kwNot := first
      have next : cursor.second.kind = .keyword .kwIn := second
      simp [compareOp?, shown, next, further.eq_of_nil]
  | _ =>
      obtain ⟨first, behind⟩ := reads.of_cons
      rw [Cursor.word] at first
      simp [compareOp?, first, behind.eq_of_nil]

/-- A word that continues only looser phrases begins no comparison. -/
theorem compareOp?_eq_none {cursor : Cursor} (looser : 4 < cursor.word.continuationRank) :
    compareOp? cursor = Option.none := by
  unfold Cursor.word at looser
  unfold compareOp?
  split
  case h_9 => rfl
  all_goals
    next shown => rw [shown] at looser; exact absurd looser (by decide)

end Expression

end Offside
