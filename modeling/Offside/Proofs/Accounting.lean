import Offside.Proofs.Boundaries

/-!
# Every character of a text

The lexer goes over a text in steps, each of which gives a token or an error. Between the
lexemes of two steps there are only blanks, and behind the last one there may be a comment; a
token spans its lexeme, and an error consumes what it is about (`Token.Accounts`). So the steps
leave no character out, and their tokens stand one behind the other (`Token.accounts_lex`).
-/

namespace Offside

namespace Token

/-- The span of what stands behind the characters of `before`. -/
def spanBehind (line : Nat) (before taken : List Char) : Span :=
  ⟨(String.ofList before).utf8ByteSize, (String.ofList (before ++ taken)).utf8ByteSize, line,
    before.length⟩

/-- Whether a step is for what it takes from a text, between `before` and `rest`. -/
inductive Takes (line : Nat) (before taken rest : List Char) : Except LexError Token → Prop where
  | token {kind : Kind} (noEnd : kind ≠ .lineEnd) :
      Takes line before taken rest (.ok ⟨kind, spanBehind line before taken⟩)
  | error {error : LexError} (column : error.column = before.length)
      (consumes : error.Consumes taken rest) : Takes line before taken rest (.error error)

/-- Whether steps account for all of a text that stands behind `before`: lexemes with blanks before
them, and the end of the line behind blanks and a comment. -/
inductive Accounts (line : Nat) :
    (before text : List Char) → (steps : List (Except LexError Token)) → Prop where
  | lineEnd {before text blanks comment : List Char} (shape : text = blanks ++ comment)
      (blank : ∀ character ∈ blanks, Text.isBlank character)
      (hidden : ∀ first ∈ comment.head?, first = '#') :
      Accounts line before text [.ok ⟨.lineEnd, spanBehind line (before ++ text) []⟩]
  | lexeme {before text blanks taken rest : List Char} {step : Except LexError Token}
      {steps : List (Except LexError Token)} (shape : text = blanks ++ (taken ++ rest))
      (blank : ∀ character ∈ blanks, Text.isBlank character)
      (visible : ∃ first ∈ taken.head?, ¬ Text.isBlank first ∧ first ≠ '#')
      (takes : Takes line (before ++ blanks) taken rest step)
      (later : Accounts line (before ++ blanks ++ taken) rest steps) :
      Accounts line before text (step :: steps)

/-! ### The steps of the lexer -/

/-- The bytes of more characters are added. -/
theorem Place.bytes_after (place : Place) (characters : List Char) :
    (place.after characters).bytes = place.bytes + (String.ofList characters).utf8ByteSize := by
  induction characters generalizing place with
  | nil => rfl
  | cons character rest inductionHypothesis =>
      have step := inductionHypothesis (place.next character)
      simp only [Place.next] at step
      simp only [Place.after, List.foldl_cons] at step ⊢
      rw [Place.next, step, String.ofList_cons, String.utf8ByteSize_append,
        String.utf8ByteSize_singleton]
      omega

/-- The place behind the characters of `before`. -/
def placeBehind (before : List Char) : Place :=
  Place.after ⟨0, 0⟩ before

/-- The place behind more characters is that behind all of them. -/
theorem after_placeBehind (before more : List Char) :
    (placeBehind before).after more = placeBehind (before ++ more) :=
  (Place.after_append ⟨0, 0⟩ before more).symm

/-- Between two places of a text there is the span of what stands there. -/
theorem spanTo_placeBehind (line : Nat) (before taken : List Char) :
    (placeBehind before).spanTo (placeBehind (before ++ taken)) line =
      spanBehind line before taken := by
  simp [placeBehind, Place.spanTo, spanBehind, Place.bytes_after, Place.column_after]

/-- The column behind some characters is their number. -/
theorem column_placeBehind (before : List Char) : (placeBehind before).column = before.length :=
  (Place.column_after ⟨0, 0⟩ before).trans (Nat.zero_add _)

/-- What the lexer reads where a lexeme begins is a step for that lexeme. -/
theorem takes_readLexeme (line : Nat) (before : List Char) (first : Char) (following : List Char) :
    let lexeme := readLexeme (placeBehind before).column first following
    Takes line before lexeme.spelling lexeme.rest
      (lexeme.outcome.map (⟨·, spanBehind line before lexeme.spelling⟩)) := by
  intro lexeme
  cases outcome : lexeme.outcome with
  | ok kind => exact .token (readLexeme_ne_lineEnd outcome)
  | error error =>
      obtain ⟨column, consumes⟩ := readLexeme_error outcome
      exact .error (column.trans (column_placeBehind before)) consumes

/-- The end of the line is given at the place where the text ends. -/
theorem accounts_lineEnd (line : Nat) {place : Place} {before text blanks comment : List Char}
    (ends : place = placeBehind (before ++ text)) (shape : blanks ++ comment = text)
    (blank : ∀ character ∈ blanks, Text.isBlank character)
    (hidden : ∀ first ∈ comment.head?, first = '#') :
    Accounts line before text [.ok ⟨.lineEnd, place.spanTo place line⟩] := by
  have empty : place.spanTo place line = spanBehind line (before ++ text) [] := by
    rw [ends, ← spanTo_placeBehind, List.append_nil]
  rw [empty]
  exact .lineEnd shape.symm blank hidden

/-- The steps of the lexer account for the text that it reads. -/
theorem accounts_lexFrom (line : Nat) {place : Place} {before text : List Char}
    (counted : place = placeBehind before) :
    Accounts line before text (lexFrom line place text) := by
  have blank : ∀ text : List Char, ∀ character ∈ text.takeWhile Text.isBlank,
      Text.isBlank character := fun text => List.all_eq_true.mp List.all_takeWhile
  -- step by step: each starts at the place that counts the bytes and characters before it
  fun_induction lexFrom line place text generalizing before with
  | case1 place text start =>
      rename_i shape
      have whole := List.takeWhile_append_dropWhile (p := Text.isBlank) (l := text)
      rw [shape] at whole
      have ends : start = placeBehind (before ++ text) := by
        rw [← whole, List.append_nil, ← after_placeBehind, ← counted]
      refine accounts_lineEnd line ends whole (blank text) ?_
      rintro _ ⟨⟩
  | case2 place text start following shape =>
      rename_i stop
      have whole := List.takeWhile_append_dropWhile (p := Text.isBlank) (l := text)
      rw [shape] at whole
      have ends : stop = placeBehind (before ++ text) := by
        rw [← whole, ← List.append_assoc, ← after_placeBehind, ← after_placeBehind, ← counted]
      refine accounts_lineEnd line ends whole (blank text) ?_
      rintro _ ⟨⟩
      rfl
  | case3 place text start first following shape noComment lexeme stop =>
      rename_i inductionHypothesis
      have whole := List.takeWhile_append_dropWhile (p := Text.isBlank) (l := text)
      rw [shape, ← spelling_append_rest start.column] at whole
      have begins : start = placeBehind (before ++ text.takeWhile Text.isBlank) := by
        rw [← after_placeBehind, ← counted]
      have ends :
          stop = placeBehind (before ++ text.takeWhile Text.isBlank ++ lexeme.spelling) := by
        rw [← after_placeBehind, ← begins]
      have takes := takes_readLexeme line (before ++ text.takeWhile Text.isBlank) first following
      rw [← begins] at takes
      have span : start.spanTo stop line =
          spanBehind line (before ++ text.takeWhile Text.isBlank) lexeme.spelling := by
        rw [ends, begins, spanTo_placeBehind]
      rw [span]
      refine .lexeme whole.symm (blank text) ?_ takes (inductionHypothesis ends)
      obtain ⟨further, spelled, -⟩ := readLexeme_append start.column first following
      have visible := List.head?_dropWhile_not Text.isBlank text
      rw [shape] at visible
      exact ⟨first, by rw [spelled]; rfl, by simpa using visible, noComment⟩

/-! ### Steps that account for a text -/

/-- Behind more characters there are no fewer bytes. -/
theorem utf8ByteSize_le_append (before more : List Char) :
    (String.ofList before).utf8ByteSize ≤ (String.ofList (before ++ more)).utf8ByteSize := by
  rw [String.ofList_append, String.utf8ByteSize_append]
  exact Nat.le_add_right _ _

/-- The span of something ends behind its start. -/
theorem start_lt_stop_spanBehind (line : Nat) (before : List Char) {taken : List Char}
    (nonempty : taken ≠ []) :
    (spanBehind line before taken).start < (spanBehind line before taken).stop := by
  have positive : (String.ofList taken).utf8ByteSize ≠ 0 := by simpa using nonempty
  rw [spanBehind, String.ofList_append, String.utf8ByteSize_append]
  exact Nat.lt_add_of_pos_right (Nat.pos_of_ne_zero positive)

section

variable {line : Nat} {before text : List Char} {steps : List (Except LexError Token)}

/-- There is at most one step more than there are characters. -/
theorem Accounts.length_le (accounts : Accounts line before text steps) :
    steps.length ≤ text.length + 1 := by
  induction accounts with
  | lineEnd shape blank hidden => simp
  | @lexeme before text blanks taken rest step steps shape blank visible takes later
      inductionHypothesis =>
      obtain ⟨first, atHead, -⟩ := visible
      have positive : 0 < taken.length := List.length_pos_of_mem (List.mem_of_mem_head? atHead)
      rw [shape, List.length_append, List.length_append, List.length_cons]
      omega

/-- The last step gives the end of the line, and no other step does. -/
theorem Accounts.exists_lineEnd (accounts : Accounts line before text steps) :
    ∃ earlier last, steps = earlier ++ [.ok last] ∧ last.kind = .lineEnd ∧
      ∀ token, .ok token ∈ earlier → token.kind ≠ .lineEnd := by
  induction accounts with
  | lineEnd shape blank hidden => exact ⟨[], _, rfl, rfl, nofun⟩
  | @lexeme before text blanks taken rest step steps shape blank visible takes later
      inductionHypothesis =>
      obtain ⟨earlier, last, rfl, ended, noEnd⟩ := inductionHypothesis
      refine ⟨step :: earlier, last, rfl, ended, fun token member => ?_⟩
      rcases List.mem_cons.mp member with rfl | member
      · cases takes with
        | token noEnd => exact noEnd
      · exact noEnd token member

/-- A step gives the end of the line where the text ends, or it is for something in the text. -/
theorem Accounts.takes_of_mem (accounts : Accounts line before text steps)
    {step : Except LexError Token} (member : step ∈ steps) :
    step = .ok ⟨.lineEnd, spanBehind line (before ++ text) []⟩ ∨
      ∃ between taken rest, text = between ++ (taken ++ rest) ∧ taken ≠ [] ∧
        Takes line (before ++ between) taken rest step := by
  induction accounts with
  | lineEnd shape blank hidden => exact .inl (List.mem_singleton.mp member)
  | @lexeme before text blanks taken rest here steps shape blank visible takes later
      inductionHypothesis =>
      rcases List.mem_cons.mp member with rfl | member
      · obtain ⟨first, atHead, -⟩ := visible
        exact .inr ⟨blanks, taken, rest, shape, List.ne_nil_of_mem (List.mem_of_mem_head? atHead),
          takes⟩
      · rcases inductionHypothesis member with same | ⟨between, further, behind, rfl, some, takes⟩
        · exact .inl (by rw [same, shape]; simp only [List.append_assoc])
        · refine .inr ⟨blanks ++ taken ++ between, further, behind, ?_, some, ?_⟩
          · rw [shape]
            simp only [List.append_assoc]
          · simpa only [List.append_assoc] using takes

/-- No token begins before the text. -/
theorem Accounts.le_start (accounts : Accounts line before text steps) {token : Token}
    (member : .ok token ∈ steps) :
    (String.ofList before).utf8ByteSize ≤ token.span.start := by
  rcases accounts.takes_of_mem member with same | ⟨between, taken, rest, -, -, takes⟩
  · cases same
    exact utf8ByteSize_le_append before text
  · cases takes with
    | token noEnd => exact utf8ByteSize_le_append before between

/-- The tokens stand one behind the other. -/
theorem Accounts.ordered (accounts : Accounts line before text steps) :
    (steps.filterMap Except.toOption).Pairwise fun earlier later =>
      earlier.span.stop ≤ later.span.start := by
  induction accounts with
  | lineEnd shape blank hidden => exact List.pairwise_singleton _ _
  | lexeme shape blank visible takes later inductionHypothesis =>
      cases takes with
      | token noEnd =>
          refine List.pairwise_cons.mpr ⟨fun token member => ?_, inductionHypothesis⟩
          obtain ⟨step, inside, gives⟩ := List.mem_filterMap.mp member
          cases step with
          | ok other =>
              cases gives
              exact later.le_start inside
          | error error => cases gives
      | error column consumes => exact inductionHypothesis

end

/-- The steps of the lexer account for every character of a text. So there is at most one step more
than there are characters, the last step and no other gives the end of the line, and the spans of
the tokens follow each other. A span lies between two characters of the text, its column is
the number of characters before it, and only at the end of the line is it empty. The column of an
error is the number of characters before what it consumes. -/
theorem accounts_lex (text : String) (line : Nat) :
    Accounts line [] text.toList (lex text line) ∧
      (lex text line).length ≤ text.length + 1 ∧
      (∃ earlier last, lex text line = earlier ++ [.ok last] ∧ last.kind = .lineEnd ∧
        ∀ token, .ok token ∈ earlier → token.kind ≠ .lineEnd) ∧
      ((lex text line).filterMap Except.toOption).Pairwise
        (fun earlier later => earlier.span.stop ≤ later.span.start) ∧
      (∀ token, .ok token ∈ lex text line →
        ∃ before taken rest, text.toList = before ++ (taken ++ rest) ∧
          token.span = spanBehind line before taken ∧
          (token.kind ≠ .lineEnd → token.span.start < token.span.stop)) ∧
      ∀ error, .error error ∈ lex text line →
        ∃ before taken rest, text.toList = before ++ (taken ++ rest) ∧
          error.column = before.length ∧ error.Consumes taken rest := by
  have accounts : Accounts line [] text.toList (lex text line) := accounts_lexFrom line rfl
  refine ⟨accounts, accounts.length_le, accounts.exists_lineEnd, accounts.ordered, ?_, ?_⟩
  · intro token member
    rcases accounts.takes_of_mem member with same | ⟨before, taken, rest, shape, some, takes⟩
    · cases same
      exact ⟨text.toList, [], [], by simp, rfl, fun other => absurd rfl other⟩
    · cases takes with
      | token noEnd =>
          have longer := start_lt_stop_spanBehind line before some
          exact ⟨before, taken, rest, shape, rfl, fun _ => longer⟩
  · intro error member
    rcases accounts.takes_of_mem member with same | ⟨before, taken, rest, shape, -, takes⟩
    · cases same
    · cases takes with
      | error column consumes => exact ⟨before, taken, rest, shape, column, consumes⟩

/-- Bytes and characters are counted apart, a character that is no token is left behind, and a quote
that is not closed takes the rest. -/
example : lex "'é'? =\"x # y" 1 =
    [.ok ⟨.text "é", ⟨0, 4, 1, 0⟩⟩, .error (.unexpectedCharacter '?' 3),
      .ok ⟨.symbol .equal, ⟨6, 7, 1, 5⟩⟩, .error (.unterminatedString 6),
      .ok ⟨.lineEnd, ⟨13, 13, 1, 12⟩⟩] := by
  cbv

end Token

end Offside
