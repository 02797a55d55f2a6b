import Offside.Execution
import Offside.Proofs.Boundaries
import Offside.Proofs.Closing
import Offside.Proofs.Comment
import Offside.Proofs.Grammar.Agreement
import Offside.Proofs.Joining

/-!
# Where errors point

A failure before the run names a line of the source that says something. If it has
a column as well, a lexeme of the line begins there, or the line ends there though
it should go on (`execute_error_position`).
-/

namespace Offside

/-- Only the end of the line is described as `end of line`. -/
theorem Token.Kind.description_eq_iff {kind : Token.Kind} :
    kind.description = "end of line" ↔ kind = .lineEnd := by
  constructor
  · intro same
    have first := congrArg (fun text : String => text.toList.head?) same
    have plain : ∀ text : String, toString text = text := fun _ => rfl
    cases kind with
    | lineEnd => rfl
    | _ => simp [description, plain] at first
  · rintro rfl
    rfl

/-- Where a text says nothing and the error has a column, something else than a lexeme that begins
there was expected, or the text ends there though it should go on, or a lexeme that begins there is
no token. -/
theorem Line.ofText_error {text : String} {number : Nat} {error : ParseError} {column : Nat}
    (failed : ofText text number = .error error) (located : error.column? = some column) :
    (∃ expected found, error = .unexpected expected found column ∧
      ((found = .lineEnd ∧ column = text.toList.length) ∨
        (found ≠ .lineEnd ∧ Token.BeginsAt text.toList column (.ok found)))) ∨
    ∃ rejected, error = .lexical rejected ∧
      Token.BeginsAt text.toList column (.error rejected) := by
  have places := Token.places_tokenize text number
  unfold ofText at failed
  split at failed
  · next tokens found =>
      obtain ⟨kinds, -, before, last, rfl, -, -⟩ := Token.tokenize_eq_ok found
      rw [found] at places
      rcases ofTokens_error (by simp) failed with ⟨expected, token, member, rfl⟩ | nowhere
      · cases located
        exact .inl ⟨expected, token.kind, rfl, places token member⟩
      · rw [nowhere] at located
        cases located
  · next rejected found =>
      cases failed
      cases located
      rw [found] at places
      exact .inr ⟨rejected, rfl, places⟩

namespace Outline

/-- A line that cannot be placed is named by the error, and if the error is one of parsing, then the
line cannot be parsed. -/
theorem place_error {outline : Outline} (joinable : outline.Joinable) {line : SourceLine}
    {error : OutlineError} (failed : outline.place line = .error error) :
    error.line = line.number ∧
      ∀ reason, error.fault = .parse reason → line.parsed = .error reason := by
  constructor
  · rcases place_cases joinable line with ⟨after, placed, -⟩ | ⟨other, wrong, number⟩
    · rw [placed] at failed
      cases failed
    · rw [wrong] at failed
      cases failed
      exact number
  · intro reason isParse
    obtain ⟨closed, closes, -⟩ := exists_closeFrom joinable line.indent
    unfold place at failed
    rw [closes] at failed
    dsimp only [bind, Except.bind] at failed
    split at failed
    · unfold openBlock at failed
      split at failed
      · cases failed
        cases isParse
      · split at failed <;> cases failed
        cases isParse
    · unfold addStatement at failed
      split at failed
      · split at failed <;> cases failed
        cases isParse
      · cases failed
    · next wrong =>
        cases failed
        cases isParse
        exact wrong

end Outline

/-- Where a source is no program, one of its lines cannot be placed behind those before it. -/
theorem BlockTree.exists_place_error {source : String} {error : OutlineError}
    (failed : ofSource source = .error error) :
    ∃ line ∈ Source.codeLines source, ∃ reached : Outline,
      reached.Joinable ∧ reached.place line = .error error := by
  have joinable : Outline.empty.Joinable := Outline.joinable_of_nil rfl
  obtain ⟨line, member, -, culprit⟩ :=
    joinable.of_foldlM_place_error (ofSource_eq_error_iff.mp failed)
  exact ⟨line, member, culprit⟩

/-- What a source text fails with before it runs comes from a line that says something: the search
finds a defect there, or the line cannot be placed. -/
theorem Program.ofSource_error {source : String} {failure : Failure}
    (failed : ofSource source = .error failure) :
    ∃ line ∈ Source.codeLines source, failure.line? = some line.number ∧
      ∀ number reason, failure = .outline ⟨number, .parse reason⟩ →
        line.parsed = .error reason := by
  unfold ofSource at failed
  split at failed
  · next defect found =>
      cases failed
      obtain ⟨line, member, gives⟩ := List.exists_of_findSome?_eq_some found
      obtain ⟨kind, -, rfl⟩ := Option.map_eq_some_iff.mp gives
      exact ⟨line, member, rfl, nofun⟩
  · split at failed
    · cases failed
    · next error refused =>
        cases failed
        obtain ⟨line, member, reached, joinable, wrong⟩ := BlockTree.exists_place_error refused
        obtain ⟨number, parsed⟩ := Outline.place_error joinable wrong
        refine ⟨line, member, congrArg some number, ?_⟩
        rintro _ reason ⟨⟩
        exact parsed reason rfl

/-- Whether a failure says that a line ends where it should go on. -/
def Failure.MissesMore (failure : Failure) : Prop :=
  ∃ number expected found column,
    failure = .outline ⟨number, .parse (.unexpected expected found column)⟩ ∧
      found.description = "end of line"

/-- Whether a failure is about the lexeme that `column` characters of a text lie before:
something else than that token was expected, or the lexeme is no token. -/
def Failure.BlamesLexeme (text : List Char) (column : Nat) (failure : Failure) : Prop :=
  (∃ number expected found,
    failure = .outline ⟨number, .parse (.unexpected expected found column)⟩ ∧
      Token.BeginsAt text column (.ok found)) ∨
  ∃ number rejected, failure = .outline ⟨number, .parse (.lexical rejected)⟩ ∧
    Token.BeginsAt text column (.error rejected) ∧ rejected.Rejects (text.drop column)

/-- A place in a line that a failure names is in the line or at its end: it is the end exactly when
the line ends where it should go on, and otherwise the lexeme begins there that the failure is
about. -/
theorem Failure.column_spec {failure : Failure} {line : SourceLine} {column : Nat}
    (parsed : ∀ number reason, failure = .outline ⟨number, .parse reason⟩ →
      line.parsed = .error reason)
    (located : failure.column? = some column) :
    column ≤ line.trimmed.length ∧ (column = line.trimmed.length ↔ failure.MissesMore) ∧
      (column ≠ line.trimmed.length → failure.BlamesLexeme line.trimmed column) := by
  obtain ⟨number, reason, rfl, located⟩ : ∃ number reason,
      failure = .outline ⟨number, .parse reason⟩ ∧ reason.column? = some column := by
    cases failure with
    | defect | runtime => cases located
    | outline error =>
        obtain ⟨number, fault⟩ := error
        cases fault with
        | parse reason => exact ⟨number, reason, rfl, located⟩
        | danglingBranch | outsideLoop | tooDeeplyNested => cases located
  have text := parsed number reason rfl
  rcases Line.ofText_error text located with
    ⟨expected, found, rfl, ⟨rfl, ended⟩ | ⟨inside, begins⟩⟩ | ⟨rejected, rfl, begins⟩
  · rw [String.toList_ofList] at ended
    refine ⟨Nat.le_of_eq ended, ?_, fun before => absurd ended before⟩
    exact ⟨fun _ => ⟨number, expected, .lineEnd, column, rfl, rfl⟩, fun _ => ended⟩
  · rw [String.toList_ofList] at begins
    have before := begins.lt_length
    refine ⟨Nat.le_of_lt before, ⟨fun ended => absurd ended (Nat.ne_of_lt before), ?_⟩,
      fun _ => .inl ⟨number, expected, found, rfl, begins⟩⟩
    rintro ⟨_, _, _, _, ⟨⟩, same⟩
    exact absurd (Token.Kind.description_eq_iff.mp same) inside
  · rw [String.toList_ofList] at begins
    have before := begins.lt_length
    refine ⟨Nat.le_of_lt before, ⟨fun ended => absurd ended (Nat.ne_of_lt before), ?_⟩,
      fun _ => .inr ⟨number, rejected, rfl, begins, begins.rejects⟩⟩
    rintro ⟨_, _, _, _, ⟨⟩, _⟩

section

variable {source : String} {limits : Resources} {failure : Failure} {number : Nat}

/-- Every place that a failure names exists and is that of what is wrong: the line is one of the
source and says something, and the column is where the lexeme begins that the failure is about, or
where the line ends if it should go on there. -/
theorem execute_error_position (fails : execute source limits = some (.error failure))
    (located : failure.line? = some number) :
    1 ≤ number ∧ number ≤ (Source.lines source).length ∧
      ∃ line, (Source.lines source)[number - 1]? = some line ∧ line.isSkipped = false ∧
        ∀ column, failure.column? = some column →
          column ≤ line.trimmed.length ∧ (column = line.trimmed.length ↔ failure.MissesMore) ∧
            (column ≠ line.trimmed.length → failure.BlamesLexeme line.trimmed column) := by
  have failed : Program.ofSource source = .error failure := by
    unfold execute at fails
    split at fails
    · obtain ⟨result, -, same⟩ := Option.map_eq_some_iff.mp fails
      cases result with
      | ok output => cases same
      | error error =>
          cases same
          cases located
    · next failed =>
        cases fails
        exact failed
  obtain ⟨line, member, named, parsed⟩ := Program.ofSource_error failed
  obtain ⟨inside, code⟩ := List.mem_filter.mp member
  obtain ⟨index, found⟩ := List.mem_iff_getElem?.mp inside
  have counted := Source.number_of_getElem? found
  obtain rfl : number = index + 1 := by
    rw [located, counted] at named
    exact Option.some.inj named
  have bound : index < (Source.lines source).length := (List.getElem?_eq_some_iff.mp found).1
  exact ⟨Nat.succ_pos index, bound, line, found, by simpa using code,
    fun column located => Failure.column_spec parsed located⟩

end

/-- In a line with a letter of two bytes and a comment, the place of the parenthesis is found where
an operand was expected. -/
theorem execute_error_position_operand :
    execute "# ü\nif a:\n\ta = ('ß' +) # eins\n" {} =
        some (.error (.outline ⟨3, .parse (.unexpected "expression" (.symbol .rightParen) 10)⟩)) ∧
      ∃ line, (Source.lines "# ü\nif a:\n\ta = ('ß' +) # eins\n")[2]? = some line ∧
        Failure.BlamesLexeme line.trimmed 10
          (.outline ⟨3, .parse (.unexpected "expression" (.symbol .rightParen) 10)⟩) := by
  have fails : execute "# ü\nif a:\n\ta = ('ß' +) # eins\n" {} =
      some (.error (.outline ⟨3, .parse (.unexpected "expression" (.symbol .rightParen) 10)⟩)) := by
    cbv
  obtain ⟨-, -, line, found, -, points⟩ := execute_error_position fails rfl
  have text : line.trimmed = "a = ('ß' +) # eins".toList := by
    have third : (Source.lines "# ü\nif a:\n\ta = ('ß' +) # eins\n")[2]? =
        some ⟨3, "\ta = ('ß' +) # eins".toList⟩ := by cbv
    cases third.symm.trans found
    decide +kernel
  refine ⟨fails, line, found, (points 10 rfl).2.2 ?_⟩
  rw [text]
  decide

end Offside
