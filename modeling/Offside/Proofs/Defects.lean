import Offside.Proofs.Comment
import Offside.Proofs.Grammar.Balance
import Offside.Proofs.Joining
import Offside.Proofs.Spelling

/-!
# Lines that can be read have no defect

The search for defects looks at characters and the parser at words. Without quotes
and comments the words show each bracket and each colon of a line, and on a line that can
be parsed they pair up and end it. So whatever the search refuses cannot be parsed
either, and the source is no program: the first line at fault stands no later.
-/

namespace Offside

namespace Text

/-- Trimming the end of a text a second time changes nothing. -/
theorem trimEnd_trimEnd (characters : List Char) :
    trimEnd (trimEnd characters) = trimEnd characters := by
  rw [trimEnd, trimEnd, List.reverse_reverse, List.dropWhile_idempotent]

/-- What is trimmed at the end of a blank text is all of it. -/
theorem trimEnd_of_blank {blanks : List Char} (blank : ∀ character ∈ blanks, isBlank character) :
    trimEnd blanks = [] :=
  trimEnd_append_of_blank blank []

end Text

/-- The words of a line without the blanks at its ends are those of the line. -/
theorem SourceLine.lexes_characters {line : SourceLine} {kinds : List Token.Kind}
    (lexes : Token.Lexes line.trimmed kinds) : Token.Lexes line.characters kinds := by
  obtain ⟨blanks, whole, blank⟩ := Text.exists_trimEnd_append (Text.trimStart line.characters)
  have parted : Token.IsParted blanks := by
    intro first shown
    exact blank first (List.mem_of_mem_head? shown)
  have behind : Token.Lexes (Text.trimStart line.characters) kinds := by
    rw [whole]
    exact lexes.append_of_parted parted (.done (List.dropWhile_eq_nil_iff.mpr blank))
  exact (Token.lexes_congr (List.dropWhile_idempotent _ _)).mp behind

/-- Where a plain text has no words, it is blank. -/
theorem Token.Lexes.blank_of_nil {text : List Char} (lexes : Lexes text []) (plain : IsPlain text) :
    ∀ character ∈ text, Text.isBlank character := by
  cases lexes with
  | done blank => exact List.dropWhile_eq_nil_iff.mp blank
  | comment shape =>
      have member : '#' ∈ text := (List.dropWhile_suffix Text.isBlank).subset (by simp [shape])
      exact absurd rfl (plain '#' member).2.2

namespace LinePhrase

variable {phrase : LinePhrase} {text : List Char}

/-- A text that is read as a line has as many opening characters of a pair as closing ones. -/
theorem count_eq {opening closing : Char} {left right : Symbol} (pair : IsPair left right)
    (opens : Token.IsMark opening left) (closes : Token.IsMark closing right)
    (lexes : Token.Lexes text phrase.words) (plain : Token.IsPlain text) :
    text.count opening = text.count closing :=
  calc text.count opening
      = phrase.words.count (.symbol left) := lexes.count_mark opens plain
    _ = phrase.words.count (.symbol right) := (phrase.isBalanced pair).whole
    _ = text.count closing := (lexes.count_mark closes plain).symm

/-- Behind the colon of a text that is read as a line there are only blanks. -/
theorem blank_of_colon (lexes : Token.Lexes text phrase.words) (plain : Token.IsPlain text)
    {after : List Char} (isSuffix : ':' :: after <:+ text) :
    ∀ character ∈ after, Text.isBlank character := by
  obtain ⟨before, later, shape, behind⟩ := lexes.of_mark .colon plain isSuffix
  rw [phrase.eq_nil_of_colon shape] at behind
  exact behind.blank_of_nil (plain.of_subset fun _ member =>
    isSuffix.subset (List.mem_cons_of_mem _ member))

/-- Behind an opening parenthesis of a text that is read as a line there is a closing one. -/
theorem rightParen_mem (lexes : Token.Lexes text phrase.words) (plain : Token.IsPlain text)
    {after : List Char} (isSuffix : '(' :: after <:+ text) : ')' ∈ after := by
  obtain ⟨before, later, shape, behind⟩ := lexes.of_mark .leftParen plain isSuffix
  have closed := (phrase.isBalanced .parens).count_lt (by decide)
    (shape ▸ List.suffix_append before (.symbol .leftParen :: later))
  have plainAfter : Token.IsPlain after := plain.of_subset fun _ member =>
    isSuffix.subset (List.mem_cons_of_mem _ member)
  have count := behind.count_mark .rightParen plainAfter
  exact List.count_pos_iff.mp (by omega)

end LinePhrase

namespace Defect

/-- A loose colon stands before every closing parenthesis, and none comes next behind it. -/
theorem hasLooseColon_iff {text : List Char} :
    hasLooseColon text ↔ ∃ before after, text = before ++ ':' :: after ∧ ')' ∉ before ∧
      (Text.trimStart after).head? ≠ some ')' := by
  fun_induction hasLooseColon text with
  | case1 => simp
  | case2 rest =>
      refine ⟨nofun, ?_⟩
      rintro ⟨before, after, shape, absent, -⟩
      cases before with
      | nil => cases shape
      | cons first before =>
          cases shape
          exact absurd List.mem_cons_self absent
  | case3 rest inductionHypothesis =>
      rw [Bool.or_eq_true, bne_iff_ne, inductionHypothesis]
      constructor
      · rintro (here | ⟨before, after, rfl, absent, loose⟩)
        · exact ⟨[], rest, rfl, by simp, here⟩
        · exact ⟨':' :: before, after, rfl, by simp [absent], loose⟩
      · rintro ⟨before, after, shape, absent, loose⟩
        cases before with
        | nil =>
            cases shape
            exact .inl loose
        | cons first before =>
            cases shape
            exact .inr ⟨before, after, rfl, fun member => absent (.tail _ member), loose⟩
  | case4 first rest noParen noColon inductionHypothesis =>
      rw [inductionHypothesis]
      constructor
      · rintro ⟨before, after, rfl, absent, loose⟩
        have other : ')' ≠ first := fun same => noParen same.symm
        exact ⟨first :: before, after, rfl, by simp [absent, other], loose⟩
      · rintro ⟨before, after, shape, absent, loose⟩
        cases before with
        | nil =>
            cases shape
            exact absurd rfl noColon
        | cons first before =>
            cases shape
            exact ⟨before, after, rfl, fun member => absent (.tail _ member), loose⟩

/-- In an invalid `range`, a loose colon stands behind its opening parenthesis. -/
theorem hasInvalidRange_iff {text : List Char} :
    hasInvalidRange text ↔ ∃ before rest, text = before ++ "range(".toList ++ rest ∧
      hasLooseColon rest := by
  induction text with
  | nil => simp [hasInvalidRange]
  | cons first rest inductionHypothesis =>
      rw [hasInvalidRange, Bool.or_eq_true, Bool.and_eq_true, List.isPrefixOf_iff_prefix,
        inductionHypothesis]
      constructor
      · rintro (⟨⟨behind, whole⟩, loose⟩ | ⟨before, behind, rfl, loose⟩)
        · rw [← whole, List.drop_left] at loose
          exact ⟨[], behind, whole.symm, loose⟩
        · exact ⟨first :: before, behind, rfl, loose⟩
      · rintro ⟨before, behind, shape, loose⟩
        cases before with
        | nil =>
            rw [List.nil_append] at shape
            rw [shape, List.drop_left]
            exact .inl ⟨List.prefix_append _ behind, loose⟩
        | cons other before =>
            cases shape
            exact .inr ⟨before, behind, rfl, loose⟩

/-- The words that are looked for at the front of a block are the keywords of headers. -/
theorem exists_of_mem_blockWords {word : String} (member : word ∈ blockWords) :
    ∃ keyword : Keyword, word = keyword.spelling ∧ Line.beginsHeader (.keyword keyword) := by
  simp only [blockWords, List.mem_cons, List.not_mem_nil, or_false] at member
  rcases member with rfl | rfl | rfl | rfl | rfl
  · exact ⟨.kwFor, rfl, rfl⟩
  · exact ⟨.kwWhile, rfl, rfl⟩
  · exact ⟨.kwIf, rfl, rfl⟩
  · exact ⟨.kwElif, rfl, rfl⟩
  · exact ⟨.kwElse, rfl, rfl⟩

/-- The first word of a text that begins like a block begins a header. -/
theorem exists_of_opensBlock {text : List Char} {kinds : List Token.Kind} (opens : opensBlock text)
    (lexes : Token.Lexes text kinds) :
    ∃ first later, kinds = first :: later ∧ Line.beginsHeader first := by
  obtain ⟨word, member, found⟩ := List.any_eq_true.mp opens
  rw [Bool.and_eq_true] at found
  obtain ⟨isPrefix, next⟩ := found
  obtain ⟨keyword, rfl, begins⟩ := exists_of_mem_blockWords member
  obtain ⟨rest, rfl⟩ := List.isPrefixOf_iff_prefix.mp isPrefix
  rw [List.drop_left] at next
  have ends : ∀ character ∈ rest.head?, Token.continuesName character = false := by
    intro character shown
    rw [show rest.head? = some character from shown] at next
    exact Token.continuesName_of_blank next
  obtain ⟨later, rfl, -⟩ := (Token.lexes_keyword_iff ends).mp lexes
  exact ⟨_, later, rfl, begins⟩

variable {line : SourceLine} {phrase : LinePhrase}

/-- A line that begins like a block and is read as a line ends with its colon. -/
theorem getLast?_of_opensBlock (opens : opensBlock line.trimmed)
    (lexes : Token.Lexes line.trimmed phrase.words) (plain : Token.IsPlain line.trimmed) :
    line.trimmed.getLast? = some ':' := by
  obtain ⟨first, later, shape, begins⟩ := exists_of_opensBlock opens lexes
  have count := lexes.count_mark .colon plain
  have occurs : 0 < phrase.words.count (.symbol .colon) :=
    List.count_pos_iff.mpr (phrase.colon_mem shape begins)
  have member : ':' ∈ line.trimmed := List.count_pos_iff.mp (by omega)
  obtain ⟨before, after, whole⟩ := List.append_of_mem member
  have blank := phrase.blank_of_colon lexes plain ⟨before, whole.symm⟩
  have ended : line.trimmed = before ++ [':'] :=
    calc line.trimmed = Text.trimEnd line.trimmed := (Text.trimEnd_trimEnd _).symm
      _ = before ++ ':' :: Text.trimEnd after := by
          rw [whole, Text.trimEnd_append_cons before rfl]
      _ = before ++ [':'] := by rw [Text.trimEnd_of_blank blank]
  rw [ended, List.getLast?_concat]

/-- There is no invalid `range` in a text that is read as a line. -/
theorem hasInvalidRange_eq_false {text : List Char} (lexes : Token.Lexes text phrase.words)
    (plain : Token.IsPlain text) : hasInvalidRange text = false := by
  by_contra invalid
  obtain ⟨earlier, rest, shape, loose⟩ := hasInvalidRange_iff.mp (by simpa using invalid)
  have isSuffix : '(' :: rest <:+ text := ⟨earlier ++ "range".toList, by simp [shape]⟩
  obtain ⟨before, after, rfl, absent, -⟩ := hasLooseColon_iff.mp loose
  have colon : ':' :: after <:+ text :=
    (List.suffix_append ('(' :: before) (':' :: after)).trans isSuffix
  have blank := phrase.blank_of_colon lexes plain colon
  have closed := phrase.rightParen_mem lexes plain isSuffix
  rcases List.mem_append.mp closed with inside | behind
  · exact absent inside
  · rcases List.mem_cons.mp behind with same | behind
    · cases same
    · exact absurd (blank ')' behind) (by decide)

/-- A plain text has no unmatched quote. -/
theorem isUnmatched_eq_false {text : List Char} {quote : Char} (absent : quote ∉ text) :
    isUnmatched text quote = false := by
  rw [isUnmatched, List.count_eq_zero.mpr absent]
  rfl

/-- A plain line that can be parsed has no defect. -/
theorem ofLine?_eq_none {number : Nat} {said : Line} (plain : Token.IsPlain line.characters)
    (parsed : Line.ofText (String.ofList line.trimmed) number = .ok said) :
    ofLine? line = none := by
  obtain ⟨phrase, trimmedLexes, -, -⟩ := Line.ofText_eq_ok_iff.mp parsed
  rw [String.toList_ofList] at trimmedLexes
  have lexes := SourceLine.lexes_characters trimmedLexes
  have subset : line.trimmed ⊆ line.characters := by
    obtain ⟨blanks, whole, -⟩ := Text.exists_trimEnd_append (Text.trimStart line.characters)
    intro character member
    refine (List.dropWhile_suffix Text.isBlank).subset ?_
    rw [show line.characters.dropWhile Text.isBlank = _ from whole]
    exact List.mem_append_left blanks member
  have parens := phrase.count_eq .parens .leftParen .rightParen lexes plain
  have brackets := phrase.count_eq .brackets .leftBracket .rightBracket lexes plain
  refine ofLine?_eq_none_iff.mpr fun kind => ?_
  cases kind with
  | missingColon =>
      cases opens : opensBlock line.trimmed with
      | false => simp [isOn, opens]
      | true =>
          have last := getLast?_of_opensBlock opens trimmedLexes (plain.of_subset subset)
          simp [isOn, last]
  | missingClosingParen => exact decide_eq_false (by omega)
  | missingOpeningParen => exact decide_eq_false (by omega)
  | missingClosingBracket => exact decide_eq_false (by omega)
  | missingOpeningBracket => exact decide_eq_false (by omega)
  | unmatchedSingleQuote => exact isUnmatched_eq_false fun member => (plain _ member).1 rfl
  | unmatchedDoubleQuote => exact isUnmatched_eq_false fun member => (plain _ member).2.1 rfl
  | invalidRange => exact hasInvalidRange_eq_false lexes plain

end Defect

namespace Source

/-- The lines that say something stand in the order of their numbers. -/
theorem codeLines_pairwise (source : String) :
    (codeLines source).Pairwise (·.number < ·.number) := by
  refine List.Pairwise.filter _ (List.pairwise_iff_getElem.mpr ?_)
  intro first second firstInside secondInside before
  rw [number_of_getElem? (List.getElem?_eq_getElem firstInside),
    number_of_getElem? (List.getElem?_eq_getElem secondInside)]
  omega

end Source

/-- Where a line cannot be parsed, the source is no program, and the line at fault stands no
later. -/
theorem BlockTree.exists_error_le {source : String} {line : SourceLine}
    (member : line ∈ Source.codeLines source)
    (fails : ∀ said, Line.ofText (String.ofList line.trimmed) line.number ≠ .ok said) :
    ∃ error, ofSource source = .error error ∧ error.line ≤ line.number := by
  obtain ⟨before, after, shape⟩ := List.append_of_mem member
  have ordered := Source.codeLines_pairwise source
  rw [shape, List.pairwise_append] at ordered
  have joinable : Outline.empty.Joinable := Outline.joinable_of_nil rfl
  rcases Outline.foldlM_place_cases joinable (before ++ [line]) with
    ⟨outline, placed, -⟩ | ⟨error, failed, other, inside, same, -⟩
  · obtain ⟨said, parsed⟩ := Outline.parsed_of_foldlM_place placed line (by simp)
    exact absurd parsed (fails said)
  · refine ⟨error, ?_, ?_⟩
    · have split : Source.codeLines source = (before ++ [line]) ++ after := by simp [shape]
      rw [ofSource_eq_error_iff, split, List.foldlM_append, failed]
      rfl
    · rcases List.mem_append.mp inside with earlier | here
      · have less := ordered.2.2 other earlier line (by simp)
        omega
      · rw [List.mem_singleton.mp here] at same
        omega

/-- What the search for defects refuses cannot be read: away from quotes and comments, a line with
a defect cannot be parsed, and the source is no program because of that line or an earlier one. -/
theorem Defect.not_parsed_of_found {source : String} {defect : Defect}
    (plain : ∀ line ∈ Source.codeLines source, Token.IsPlain line.characters)
    (found : first? source = some defect) :
    ∃ line ∈ Source.codeLines source, line.number = defect.line ∧
      (∀ number, ∃ error, Line.ofText (String.ofList line.trimmed) number = .error error) ∧
      ∃ error, BlockTree.ofSource source = .error error ∧ error.line ≤ defect.line := by
  obtain ⟨line, member, gives⟩ := List.exists_of_findSome?_eq_some found
  obtain ⟨kind, isOn, rfl⟩ := Option.map_eq_some_iff.mp gives
  have fails : ∀ number said, Line.ofText (String.ofList line.trimmed) number ≠ .ok said := by
    intro number said parsed
    rw [ofLine?_eq_none (plain line member) parsed] at isOn
    cases isOn
  refine ⟨line, member, rfl, fun number => ?_, BlockTree.exists_error_le member (fails line.number)⟩
  cases parsed : Line.ofText (String.ofList line.trimmed) number with
  | error error => exact ⟨error, rfl⟩
  | ok said => exact absurd parsed (fails number said)

/-- An unclosed parenthesis is no false alarm. -/
theorem Defect.not_parsed_unclosed :
    first? "total = 1\nprint((total)" = some ⟨2, .missingClosingParen⟩ ∧
      ∃ error, BlockTree.ofSource "total = 1\nprint((total)" = .error error ∧ error.line ≤ 2 := by
  have plain : ∀ line ∈ Source.codeLines "total = 1\nprint((total)",
      Token.IsPlain line.characters := by
    have lines : Source.codeLines "total = 1\nprint((total)" =
        [⟨1, "total = 1".toList⟩, ⟨2, "print((total)".toList⟩] := by cbv
    rw [lines]
    unfold Token.IsPlain
    simp
  have found : first? "total = 1\nprint((total)" = some ⟨2, .missingClosingParen⟩ := by cbv
  obtain ⟨line, -, -, -, error, failed, earlier⟩ := not_parsed_of_found plain found
  exact ⟨found, error, failed, earlier⟩

end Offside
