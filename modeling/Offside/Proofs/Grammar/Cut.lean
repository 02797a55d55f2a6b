import Offside.Proofs.Grammar.Ending

/-!
# Lines up to their first end

The lexer puts the end of a line behind its tokens and nowhere else. The parser takes any list of
tokens: without an end it refuses the list, and behind the first end it looks at nothing. In either
case it comes to an end (`Line.ofTokens_terminates_at_lineEnd`).
-/

namespace Offside

/-! ### Lists without an end -/

namespace Cursor

/-- Whether a cursor never shows the end of the line. -/
structure IsUnended (cursor : Cursor) : Prop where
  ahead : ∀ token ∈ cursor.ahead, token.kind ≠ .lineEnd
  last : cursor.last.kind ≠ .lineEnd

namespace IsUnended

variable {cursor : Cursor} (unended : cursor.IsUnended)

include unended

/-- The next word is not the end of the line. -/
theorem word_ne : cursor.word ≠ .lineEnd := by
  unfold word current
  cases tokens : cursor.ahead with
  | nil => exact unended.last
  | cons token further => exact unended.ahead token (by rw [tokens]; exact List.mem_cons_self)

/-- A cursor that never shows the end of the line does not show it behind the next token either. -/
theorem advance : cursor.advance.IsUnended where
  ahead := fun token member => unended.ahead token (List.mem_of_mem_tail member)
  last := unended.last

end IsUnended

/-- Tokens without an end are shown without one, unless there are none. -/
theorem isUnended_ofTokens {tokens : List Token} (nonempty : tokens ≠ [])
    (unended : ∀ token ∈ tokens, token.kind ≠ .lineEnd) : (ofTokens tokens).IsUnended where
  ahead := unended
  last := by
    rw [ofTokens, List.getLast?_eq_some_getLast nonempty]
    exact unended _ (List.getLast_mem nonempty)

end Cursor

namespace Line

/-- Where there are no tokens, an expression is missed. -/
theorem ofTokens_nil : ofTokens [] = .error (.unexpected "expression" .lineEnd 0) := by
  cbv

/-- Tokens without an end of the line are refused. -/
theorem exists_error_of_unended {tokens : List Token}
    (unended : ∀ token ∈ tokens, token.kind ≠ .lineEnd) :
    ∃ error, ofTokens tokens = .error error := by
  by_cases nonempty : tokens = []
  · subst nonempty
    exact ⟨_, ofTokens_nil⟩
  · have start := Cursor.isUnended_ofTokens nonempty unended
    have agree := agree_of_walks (Cursor.walks_self fun unended _ => unended.advance)
      ⟨rfl, start⟩
    cases found : ofTokens tokens with
    | error error => exact ⟨error, rfl⟩
    | ok line =>
        -- A line ends where the end is shown, and no place in these tokens shows one.
        rw [found] at agree
        obtain ⟨_, -, -, cursor, _, ⟨-, stillUnended⟩, ended⟩ := agree.of_ok
        exact absurd ended stillUnended.word_ne

end Line

/-! ### Tokens behind an end -/

/-- Whether two cursors show the same tokens up to an end of the line, behind which further tokens
may stand for the first of them. -/
def Cursor.SameUpTo (last : Token) (after : List Token) (cursor other : Cursor) : Prop :=
  ∃ shown, cursor.ahead = shown ++ last :: after ∧ other.ahead = shown ++ [last]

/-- Cursors that show the same tokens up to an end of the line are gone over alike. -/
theorem Cursor.walks_sameUpTo {last : Token} (ended : last.kind = .lineEnd) (after : List Token) :
    Walks Eq (SameUpTo last after) where
  sameKind := by
    rintro token _ rfl
    rfl
  current := by
    rintro cursor other ⟨shown, ahead, otherAhead⟩
    rw [current, current, ahead, otherAhead]
    cases shown <;> rfl
  advance := by
    rintro cursor other ⟨shown, ahead, otherAhead⟩ inside
    cases shown with
    | nil =>
        rw [word, current, ahead] at inside
        exact absurd ended inside
    | cons token further =>
        refine ⟨further, ?_, ?_⟩
        · rw [ahead_advance, ahead, List.cons_append, List.tail_cons]
        · rw [ahead_advance, otherAhead, List.cons_append, List.tail_cons]
  remaining := by
    rintro cursor other rest otherRest ⟨_, ahead, otherAhead⟩ ⟨_, restAhead, otherRestAhead⟩
    simp only [remaining_eq, ahead, otherAhead, restAhead, otherRestAhead, List.length_append,
      List.length_cons, List.length_nil]
    omega

/-- Errors at the same tokens are the same. -/
theorem ParseError.Answers.eq {error other : ParseError} (answers : Answers Eq error other) :
    error = other := by
  cases answers with
  | unexpected expected shown => rw [shown]
  | invalidTarget target => rfl
  | tooDeeplyNested limit => rfl

/-- Tokens behind an end of the line change nothing. -/
theorem Line.ofTokens_append {last : Token} (ended : last.kind = .lineEnd)
    (before after : List Token) :
    ofTokens (before ++ last :: after) = ofTokens (before ++ [last]) := by
  have agree := agree_of_walks (Cursor.walks_sameUpTo ended after) ⟨before, rfl, rfl⟩
  exact (agree.mono (fun _ _ => ParseError.Answers.eq) fun _ _ => And.left).eq

/-! ### Every list of tokens -/

/-- Past its end, a list of tokens shows the last of them again and again. -/
theorem Cursor.current_of_remaining {tokens : List Token} {cursor : Cursor}
    (behind : cursor.IsBehind (ofTokens tokens)) (exhausted : cursor.remaining = 0) {last : Token}
    (shown : tokens.getLast? = some last) : cursor.current = last := by
  have empty := cursor.remaining_eq.symm.trans exhausted
  rw [current, List.length_eq_zero_iff.mp empty, List.headD_nil, behind.last, ofTokens, shown]
  rfl

namespace Line

/-- Whatever tokens it is given, the parser of lines comes to an end, although it is shown the last
of them again and again past their end: it refuses tokens without an end of the line, and what it
makes of the others is what it makes of those up to the first end. -/
theorem ofTokens_terminates_at_lineEnd (tokens : List Token) :
    (∃ result, (∀ other, (Descent.line ⟨Cursor.ofTokens tokens, 0⟩).Ends other ↔ other = result) ∧
        result.map Prod.fst = ofTokens tokens) ∧
      (∀ cursor : Cursor, cursor.IsBehind (Cursor.ofTokens tokens) → cursor.remaining = 0 →
        cursor.advance = cursor ∧ ∀ last, tokens.getLast? = some last → cursor.current = last) ∧
      ((∀ token ∈ tokens, token.kind ≠ .lineEnd) → ∃ error, ofTokens tokens = .error error) ∧
      ∀ before last after, tokens = before ++ last :: after → last.kind = .lineEnd →
        ofTokens tokens = ofTokens (before ++ [last]) := by
  refine ⟨?_, ?_, exists_error_of_unended, ?_⟩
  · obtain ⟨result, ends, same⟩ := Descent.ends_line tokens
    refine ⟨result, fun other => ⟨fun otherEnds => ends.unique otherEnds, ?_⟩, same⟩
    rintro rfl
    exact ends
  · intro cursor behind exhausted
    exact ⟨Cursor.advance_of_remaining exhausted, fun last shown =>
      Cursor.current_of_remaining behind exhausted shown⟩
  · rintro before last after rfl ended
    exact ofTokens_append ended before after

/-- The tokens of a sum are refused without an end of the line, past which their last bracket would
be shown, and what stands behind an end is not looked at. -/
theorem ofTokens_terminates_at_lineEnd_sumTokens :
    (⟨[], ⟨.symbol .rightBracket, ⟨24, 25, 1, 24⟩⟩, 0, rfl⟩ : Cursor).current =
        ⟨.symbol .rightBracket, ⟨24, 25, 1, 24⟩⟩ ∧
      (∃ error, ofTokens sumTokens = .error error) ∧
      ofTokens (sumTokens ++ ⟨.lineEnd, ⟨25, 25, 1, 25⟩⟩ :: sumTokens) =
        ofTokens (sumTokens ++ [⟨.lineEnd, ⟨25, 25, 1, 25⟩⟩]) := by
  obtain ⟨-, past, unended, -⟩ := ofTokens_terminates_at_lineEnd sumTokens
  obtain ⟨-, -, -, cut⟩ :=
    ofTokens_terminates_at_lineEnd (sumTokens ++ ⟨.lineEnd, ⟨25, 25, 1, 25⟩⟩ :: sumTokens)
  obtain ⟨-, shown⟩ := past ⟨[], ⟨.symbol .rightBracket, ⟨24, 25, 1, 24⟩⟩, 0, rfl⟩
    ⟨Nat.zero_le _, rfl⟩ rfl
  exact ⟨shown _ rfl, unended (by decide), cut sumTokens _ sumTokens rfl rfl⟩

end Line

end Offside
