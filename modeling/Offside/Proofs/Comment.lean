import Offside.Execution
import Offside.Proofs.Grammar.Line

/-!
# Comments behind code

A comment behind the code of a line adds no word to the line and leaves its
place alone, so the program of a source text stays the same. But the search for
defects looks at characters, and those of the comment are among them:
`execute_withComment_iff` says for which comments a source text still runs as
before.
-/

namespace Offside

namespace Text

/-- Blanks at the end are what `trimEnd` takes off. -/
theorem exists_trimEnd_append (characters : List Char) :
    ∃ blanks, characters = trimEnd characters ++ blanks ∧ ∀ blank ∈ blanks, isBlank blank := by
  refine ⟨(characters.reverse.takeWhile isBlank).reverse, ?_, ?_⟩
  · rw [trimEnd, ← List.reverse_append, List.takeWhile_append_dropWhile, List.reverse_reverse]
  · intro blank member
    exact List.all_eq_true.mp List.all_takeWhile blank (List.mem_reverse.mp member)

/-- What stands before a character that is no blank stays when the end is trimmed. -/
theorem trimEnd_append_cons (before : List Char) {character : Char}
    (visible : isBlank character = false) (after : List Char) :
    trimEnd (before ++ character :: after) = before ++ character :: trimEnd after := by
  have shape : (before ++ character :: after).reverse =
      after.reverse ++ character :: before.reverse := by simp
  rw [trimEnd, shape, List.dropWhile_append]
  split
  · next empty =>
      have nothing : trimEnd after = [] := by
        rw [trimEnd, List.isEmpty_iff.mp empty, List.reverse_nil]
      rw [List.dropWhile_cons_of_neg (by simp [visible]), nothing]
      simp
  · simp [trimEnd]

/-- A text that is not all blank begins alike with more text behind it. -/
theorem trimStart_append {characters : List Char} (visible : trimStart characters ≠ [])
    (suffix : List Char) : trimStart (characters ++ suffix) = trimStart characters ++ suffix := by
  unfold trimStart at visible ⊢
  rw [List.dropWhile_append, if_neg (by simpa using visible)]

end Text

/-- What a comment adds to a line: a blank, its sign and its content. -/
def commentOf (content : List Char) : List Char :=
  ' ' :: '#' :: content

namespace SourceLine

/-- The line with a comment behind it. -/
def withComment (line : SourceLine) (content : List Char) : SourceLine :=
  { line with characters := line.characters ++ commentOf content }

variable {line : SourceLine}

/-- A line that is not skipped has something on it. -/
theorem trimStart_ne_nil (code : line.isSkipped = false) :
    Text.trimStart line.characters ≠ [] := by
  intro blank
  simp [isSkipped, trimmed, Text.trim, blank, Text.trimEnd] at code

/-- Without the blanks at its ends, a line with a comment is the line without them, and then the
comment behind at least one blank. -/
theorem trimmed_withComment (code : line.isSkipped = false) (content : List Char) :
    ∃ blanks, (line.withComment content).trimmed =
        line.trimmed ++ (blanks ++ '#' :: Text.trimEnd content) ∧
      blanks ≠ [] ∧ ∀ blank ∈ blanks, Text.isBlank blank := by
  obtain ⟨blanks, whole, blank⟩ := Text.exists_trimEnd_append (Text.trimStart line.characters)
  refine ⟨blanks ++ [' '], ?_, by simp, ?_⟩
  · have shape : Text.trimStart (line.characters ++ commentOf content) =
        line.trimmed ++ (blanks ++ [' ']) ++ '#' :: content := by
      rw [Text.trimStart_append (trimStart_ne_nil code), whole]
      simp [trimmed, Text.trim, commentOf]
    rw [trimmed, withComment, Text.trim, shape, Text.trimEnd_append_cons _ rfl]
    simp
  · intro character member
    rcases List.mem_append.mp member with member | member
    · exact blank character member
    · rw [List.mem_singleton.mp member]
      rfl

/-- A comment leaves the number of blanks in front of a line alone. -/
theorem indent_withComment (code : line.isSkipped = false) (content : List Char) :
    (line.withComment content).indent = line.indent := by
  have nonempty : line.characters.dropWhile Text.isBlank ≠ [] := trimStart_ne_nil code
  have shorter : (line.characters.takeWhile Text.isBlank).length ≠ line.characters.length := by
    intro same
    have whole := congrArg List.length
      (List.takeWhile_append_dropWhile (p := Text.isBlank) (l := line.characters))
    rw [List.length_append, same] at whole
    exact nonempty (List.eq_nil_of_length_eq_zero (by omega))
  rw [indent, withComment, List.takeWhile_append, if_neg shorter]
  rfl

/-- A line with a comment behind it is not skipped. -/
theorem isSkipped_withComment (code : line.isSkipped = false) (content : List Char) :
    (line.withComment content).isSkipped = false := by
  obtain ⟨blanks, shape, -, -⟩ := trimmed_withComment code content
  rw [isSkipped, shape]
  rw [isSkipped] at code
  cases trimmed : line.trimmed with
  | nil => simp [trimmed] at code
  | cons first later => simpa [trimmed] using code

/-- A line that can be parsed is parsed alike with a comment behind it. -/
theorem ofText_withComment (code : line.isSkipped = false) (content : List Char) {said : Line}
    (parsed : Line.ofText (String.ofList line.trimmed) line.number = .ok said) :
    Line.ofText (String.ofList (line.withComment content).trimmed) line.number = .ok said := by
  obtain ⟨blanks, shape, nonempty, blank⟩ := trimmed_withComment code content
  obtain ⟨phrase, lexes, meaning, shallow⟩ := Line.ofText_eq_ok_iff.mp parsed
  refine Line.ofText_eq_ok_iff.mpr ⟨phrase, ?_, meaning, shallow⟩
  rw [String.toList_ofList] at lexes ⊢
  rw [shape]
  exact lexes.append_comment ⟨blanks, _, rfl, nonempty, blank⟩

end SourceLine

namespace Source

/-! ### Sources with a comment -/

/-- The text that some lines make up. -/
def ofPieces : List (List Char) → List Char
  | [] => []
  | [piece] => piece
  | piece :: next :: later => piece ++ '\n' :: ofPieces (next :: later)

/-- Texts without newlines are the pieces of the text that they make up. -/
theorem pieces_ofPieces {texts : List (List Char)} (nonempty : texts ≠ [])
    (oneLine : ∀ text ∈ texts, '\n' ∉ text) : pieces (ofPieces texts) = texts := by
  induction texts with
  | nil => exact absurd rfl nonempty
  | cons first later inductionHypothesis =>
      have whole := pieces_of_no_newline (oneLine first (by simp))
      cases later with
      | nil => exact whole
      | cons next later =>
          rw [ofPieces, pieces_append_newline, whole,
            inductionHypothesis (by simp) fun text member => oneLine text (by simp [member])]
          rfl

/-- There is no newline in a piece. -/
theorem not_mem_of_mem_pieces {text piece : List Char} (member : piece ∈ pieces text) :
    '\n' ∉ piece := by
  induction text generalizing piece with
  | nil =>
      rw [List.mem_singleton.mp (member : piece ∈ [[]])]
      simp
  | cons character rest inductionHypothesis =>
      obtain ⟨first, later, shape⟩ := List.exists_cons_of_ne_nil (pieces_ne_nil rest)
      by_cases newline : character = '\n'
      · rw [newline, pieces_newline_cons] at member
        rcases List.mem_cons.mp member with rfl | member
        · simp
        · exact inductionHypothesis member
      · rw [pieces_cons newline shape] at member
        rcases List.mem_cons.mp member with rfl | member
        · have before : '\n' ∉ first := inductionHypothesis (by simp [shape])
          simp [before, Ne.symm newline]
        · exact inductionHypothesis (by simp [shape, member])

/-- The source with a comment behind the line that `before` lines precede. -/
def withComment (source : String) (before : Nat) (content : List Char) : String :=
  String.ofList (ofPieces ((pieces source.toList).modify before (· ++ commentOf content)))

/-- The line with the comment behind it, if it is the one with the given number. -/
def commentAt (number : Nat) (content : List Char) (line : SourceLine) : SourceLine :=
  if line.number = number then line.withComment content else line

/-- The lines of a source with a comment are those of the source, the comment behind one of
them. -/
theorem lines_withComment (source : String) (before : Nat) {content : List Char}
    (oneLine : '\n' ∉ content) : lines (withComment source before content) =
      (lines source).map (commentAt (before + 1) content) := by
  have samePieces : pieces (withComment source before content).toList =
      (pieces source.toList).modify before (· ++ commentOf content) := by
    rw [withComment, String.toList_ofList, pieces_ofPieces]
    · simpa using pieces_ne_nil source.toList
    · intro text member
      obtain ⟨index, inside, rfl⟩ := List.mem_iff_getElem.mp member
      have bound : index < (pieces source.toList).length := by simpa using inside
      have piece := not_mem_of_mem_pieces (List.getElem_mem bound)
      rw [List.getElem_modify]
      split
      · simp [piece, commentOf, oneLine]
      · exact piece
  apply List.ext_getElem?
  intro index
  simp only [lines, samePieces, List.getElem?_map, List.getElem?_zipIdx, List.getElem?_modify]
  cases (pieces source.toList)[index]? with
  | none => simp
  | some piece =>
      by_cases here : before = index
      · simp [commentAt, SourceLine.withComment, here]
      · have other : index ≠ before := Ne.symm here
        simp [commentAt, here, other]

/-- The lines of a source are numbered in their order. -/
theorem number_of_getElem? {source : String} {index : Nat} {line : SourceLine}
    (found : (lines source)[index]? = some line) : line.number = index + 1 := by
  simp only [lines, List.getElem?_map, List.getElem?_zipIdx, Nat.zero_add, Option.map_map,
    Option.map_eq_some_iff] at found
  obtain ⟨piece, -, rfl⟩ := found
  rfl

/-- A number belongs to one line only. -/
theorem eq_of_number {source : String} {before : Nat} {line other : SourceLine}
    (found : (lines source)[before]? = some line) (member : other ∈ lines source)
    (same : other.number = before + 1) : other = line := by
  obtain ⟨index, shown⟩ := List.mem_iff_getElem?.mp member
  have number := number_of_getElem? shown
  have equal : index = before := by omega
  rw [equal, found] at shown
  exact (Option.some.inj shown).symm

section

variable {source : String} {before : Nat} {line : SourceLine} {content : List Char}

/-- The lines that say something are the same, the comment behind one of them. -/
theorem codeLines_withComment (found : (lines source)[before]? = some line)
    (code : line.isSkipped = false) (oneLine : '\n' ∉ content) :
    codeLines (withComment source before content) =
      (codeLines source).map (commentAt (before + 1) content) := by
  rw [codeLines, lines_withComment source before oneLine, List.filter_map, codeLines]
  congr 1
  apply List.filter_congr
  intro other member
  unfold commentAt
  dsimp only [Function.comp]
  split
  · next same =>
      rw [eq_of_number found member same, code, SourceLine.isSkipped_withComment code]
  · rfl

/-- The commented line says something. -/
theorem mem_codeLines (found : (lines source)[before]? = some line)
    (code : line.isSkipped = false) : line ∈ codeLines source :=
  List.mem_filter.mpr ⟨List.mem_of_getElem? found, by simp [code]⟩

/-- A search finds what one element gives, when the others give the same or nothing. -/
theorem findSome?_eq_of_mem {α β : Type} {search : α → Option β} {elements : List α} {chosen : α}
    (member : chosen ∈ elements)
    (others : ∀ other ∈ elements, search other = search chosen ∨ search other = none) :
    elements.findSome? search = search chosen := by
  cases result : search chosen with
  | none =>
      refine List.findSome?_eq_none_iff.mpr fun other inside => ?_
      rcases others other inside with same | nothing
      · rw [same, result]
      · exact nothing
  | some value =>
      cases found : elements.findSome? search with
      | none =>
          have nothing := List.findSome?_eq_none_iff.mp found chosen member
          rw [result] at nothing
          cases nothing
      | some other =>
          obtain ⟨element, inside, gives⟩ := List.exists_of_findSome?_eq_some found
          rcases others element inside with same | nothing
          · rw [← gives, same, result]
          · rw [nothing] at gives
            cases gives

/-- Only the commented line can have a defect that the source has not. -/
theorem first?_withComment (sound : Defect.first? source = none)
    (found : (lines source)[before]? = some line) (code : line.isSkipped = false)
    (oneLine : '\n' ∉ content) :
    Defect.first? (withComment source before content) =
      (Defect.ofLine? (line.withComment content)).map (⟨before + 1, ·⟩) := by
  have number := number_of_getElem? found
  have commented : commentAt (before + 1) content line = line.withComment content := if_pos number
  have sameNumber : (line.withComment content).number = before + 1 := number
  rw [Defect.first?, codeLines_withComment found code oneLine, List.findSome?_map,
    findSome?_eq_of_mem (mem_codeLines found code)]
  · simp only [Function.comp, commented, sameNumber]
  · intro other member
    by_cases same : other.number = before + 1
    · left
      rw [eq_of_number found (List.mem_filter.mp member).1 same]
    · right
      have nothing := List.findSome?_eq_none_iff.mp sound other member
      have untouched : commentAt (before + 1) content other = other := if_neg same
      simpa only [Function.comp, untouched] using nothing

end

end Source

namespace Outline

/-- A line that is placed is placed alike with a comment behind it. -/
theorem place_withComment {outline after : Outline} {line : SourceLine}
    (code : line.isSkipped = false) (content : List Char)
    (placed : outline.place line = .ok after) :
    outline.place (line.withComment content) = .ok after := by
  obtain ⟨closed, closes, later⟩ := bind_eq_ok_iff.mp placed
  rw [← SourceLine.indent_withComment code content] at closes
  refine bind_eq_ok_iff.mpr ⟨closed, closes, ?_⟩
  cases parsed : Line.ofText (String.ofList line.trimmed) line.number with
  | error error =>
      rw [parsed] at later
      cases later
  | ok said =>
      have same : (line.withComment content).number = line.number := rfl
      rw [same, SourceLine.ofText_withComment code content parsed]
      rw [parsed] at later
      cases said with
      | simple statement => exact later
      | header header =>
          simp only [openBlock, SourceLine.indent_withComment code, same] at later ⊢
          exact later

/-- Lines that are placed are placed alike when some of them get comments. -/
theorem foldlM_place_map {outline after : Outline} {lines : List SourceLine}
    {comment : SourceLine → SourceLine}
    (alike : ∀ line ∈ lines, ∀ outline after : Outline, outline.place line = .ok after →
      outline.place (comment line) = .ok after)
    (placed : lines.foldlM place outline = .ok after) :
    (lines.map comment).foldlM place outline = .ok after := by
  induction lines generalizing outline with
  | nil => exact placed
  | cons line later inductionHypothesis =>
      rw [List.foldlM_cons] at placed
      obtain ⟨next, first, rest⟩ := bind_eq_ok_iff.mp placed
      rw [List.map_cons, List.foldlM_cons]
      refine bind_eq_ok_iff.mpr ⟨next, alike line (by simp) outline next first, ?_⟩
      exact inductionHypothesis (fun other member => alike other (by simp [member])) rest

end Outline

section

variable {source : String} {before : Nat} {line : SourceLine} {content : List Char}

/-- A program with a comment is the same program. -/
theorem BlockTree.ofSource_withComment {tree : BlockTree} (accepted : ofSource source = .ok tree)
    (found : (Source.lines source)[before]? = some line) (code : line.isSkipped = false)
    (oneLine : '\n' ∉ content) :
    ofSource (Source.withComment source before content) = .ok tree := by
  obtain ⟨outline, placed, same⟩ := bind_eq_ok_iff.mp accepted
  obtain ⟨last, lines, closed⟩ := bind_eq_ok_iff.mp placed
  refine bind_eq_ok_iff.mpr ⟨outline, bind_eq_ok_iff.mpr ⟨last, ?_, closed⟩, same⟩
  rw [Source.codeLines_withComment found code oneLine]
  refine Outline.foldlM_place_map ?_ lines
  intro other member outline after placed
  unfold Source.commentAt
  split
  · have shown : other.isSkipped = false := by simpa using (List.mem_filter.mp member).2
    exact Outline.place_withComment shown content placed
  · exact placed

/-- A source that runs has no defect, makes up a program, and the program runs. -/
theorem execute_eq_ok {limits : Resources} {output : List String}
    (succeeds : execute source limits = some (.ok output)) :
    Defect.first? source = none ∧ ∃ tree, BlockTree.ofSource source = .ok tree := by
  unfold execute Program.ofSource at succeeds
  cases defect : Defect.first? source with
  | some defect' => simp [defect] at succeeds
  | none =>
      cases accepted : BlockTree.ofSource source with
      | error error => simp [defect, accepted] at succeeds
      | ok tree => exact ⟨rfl, tree, rfl⟩

/-- A source with a comment runs as before or stops at a defect of the commented line. -/
theorem execute_withComment {limits : Resources} {output : List String}
    (succeeds : execute source limits = some (.ok output))
    (found : (Source.lines source)[before]? = some line) (code : line.isSkipped = false)
    (oneLine : '\n' ∉ content) :
    execute (Source.withComment source before content) limits =
      match Defect.ofLine? (line.withComment content) with
      | none => execute source limits
      | some kind => some (.error (.defect ⟨before + 1, kind⟩)) := by
  obtain ⟨sound, tree, accepted⟩ := execute_eq_ok succeeds
  have commented := BlockTree.ofSource_withComment accepted found code oneLine
  unfold execute Program.ofSource
  rw [Source.first?_withComment sound found code oneLine, sound, accepted, commented]
  cases Defect.ofLine? (line.withComment content) with
  | none => rfl
  | some kind => rfl

end

/-! ### Comments that are no defect -/

/-- A comment is harmless behind a line when the line has no defect with the comment's characters
counted among its own. -/
structure IsHarmless (line : SourceLine) (content : List Char) : Prop where
  /-- A header with a blank after its first word must end in a colon. -/
  colon : Defect.opensBlock line.trimmed → (Text.trimEnd content).getLast? = some ':'
  parens : content.count '(' = content.count ')'
  brackets : content.count '[' = content.count ']'
  singleQuotes : content.count '\'' % 2 = 0
  doubleQuotes : content.count '"' % 2 = 0
  /-- No colon stands where the parentheses of some `range` are still open. -/
  range : Defect.hasInvalidRange (line.characters ++ commentOf content) = false

/-- A line has no defect when it has none of any kind. -/
theorem Defect.ofLine?_eq_none_iff {line : SourceLine} :
    ofLine? line = none ↔ ∀ kind, isOn line kind = false := by
  simp [ofLine?, List.find?_eq_none, DefectKind.mem_all]

section

variable {line : SourceLine} {content : List Char}

/-- Only the sign and the blank of a comment are not of its content. -/
theorem count_commentOf {character : Char} (noBlank : character ≠ ' ') (noSign : character ≠ '#') :
    (commentOf content).count character = content.count character := by
  rw [commentOf, List.count_cons_of_ne noBlank.symm, List.count_cons_of_ne noSign.symm]

/-- The first word of a header is no line. -/
theorem ofText_blockWord {word : String} (member : word ∈ Defect.blockWords) (number : Nat)
    (said : Line) : Line.ofText word number ≠ .ok said := by
  have fails : (Line.ofText word number).toBool = false := by
    simp only [Defect.blockWords, List.mem_cons, List.not_mem_nil, or_false] at member
    rcases member with rfl | rfl | rfl | rfl | rfl <;> cbv
  intro parsed
  rw [parsed] at fails
  cases fails

/-- There are no blanks in the first word of a header. -/
theorem not_isBlank_of_blockWord {word : String} (member : word ∈ Defect.blockWords) :
    ∀ character ∈ word.toList, ¬ Text.isBlank character := by
  have noBlank : Defect.blockWords.all (·.toList.all (!Text.isBlank ·)) = true := by decide +kernel
  intro character inside
  have here := List.all_eq_true.mp (List.all_eq_true.mp noBlank word member) character inside
  simpa using here

/-- A comment makes no line begin like a header: the first word of a header is no line by itself,
so behind it the line goes on before the comment. -/
theorem opensBlock_withComment (code : line.isSkipped = false) {said : Line}
    (parsed : Line.ofText (String.ofList line.trimmed) line.number = .ok said) :
    Defect.opensBlock (line.withComment content).trimmed = Defect.opensBlock line.trimmed := by
  obtain ⟨blanks, shape, nonempty, blank⟩ := SourceLine.trimmed_withComment code content
  have parted : Token.IsParted (blanks ++ '#' :: Text.trimEnd content) :=
    Token.IsComment.isParted ⟨blanks, _, rfl, nonempty, blank⟩
  rw [Defect.opensBlock, shape, Defect.opensBlock]
  rw [Bool.eq_iff_iff, List.any_eq_true, List.any_eq_true]
  refine exists_congr fun word => and_congr_right fun member => ?_
  rw [Token.isPrefixOf_append_parted parted (not_isBlank_of_blockWord member)]
  cases isPrefix : word.toList.isPrefixOf line.trimmed with
  | false => rfl
  | true =>
      obtain ⟨rest, whole⟩ := List.isPrefixOf_iff_prefix.mp isPrefix
      have more : rest ≠ [] := by
        rintro rfl
        rw [← whole, List.append_nil, String.ofList_toList] at parsed
        exact ofText_blockWord member line.number said parsed
      obtain ⟨first, later, rfl⟩ := List.exists_cons_of_ne_nil more
      simp [← whole]

/-- The characters of a comment are counted with those of its line. -/
theorem count_withComment {character : Char} (noBlank : character ≠ ' ')
    (noSign : character ≠ '#') :
    (line.withComment content).characters.count character =
      line.characters.count character + content.count character := by
  rw [SourceLine.withComment, List.count_append, count_commentOf noBlank noSign]

/-- A line with a comment ends in a colon when the content of the comment does. -/
theorem getLast?_withComment (code : line.isSkipped = false) :
    (line.withComment content).trimmed.getLast? = some ':' ↔
      (Text.trimEnd content).getLast? = some ':' := by
  obtain ⟨blanks, shape, -, -⟩ := SourceLine.trimmed_withComment code content
  rw [shape, List.getLast?_append, List.getLast?_append, List.getLast?_cons]
  cases (Text.trimEnd content).getLast? with
  | none => simp
  | some last => simp

/-- Where a pair of symbols is balanced on a line, it is balanced with a comment exactly when it is
balanced in the comment. -/
theorem balanced_withComment (content : List Char) {opening closing : Char}
    (noBlank : opening ≠ ' ' ∧ closing ≠ ' ')
    (noSign : opening ≠ '#' ∧ closing ≠ '#')
    (before : ¬ line.characters.count closing < line.characters.count opening ∧
      ¬ line.characters.count opening < line.characters.count closing) :
    ¬ (line.withComment content).characters.count closing <
        (line.withComment content).characters.count opening ∧
      ¬ (line.withComment content).characters.count opening <
        (line.withComment content).characters.count closing ↔
      content.count opening = content.count closing := by
  rw [count_withComment noBlank.1 noSign.1, count_withComment noBlank.2 noSign.2]
  omega

/-- Where the quotes on a line pair up, they do so with a comment exactly when those in the comment
do. -/
theorem isUnmatched_withComment (content : List Char) {quote : Char}
    (noBlank : quote ≠ ' ') (noSign : quote ≠ '#')
    (before : Defect.isUnmatched line.characters quote = false) :
    Defect.isUnmatched (line.withComment content).characters quote = false ↔
      content.count quote % 2 = 0 := by
  simp only [Defect.isUnmatched, beq_eq_false_iff_ne] at before ⊢
  rw [count_withComment noBlank noSign]
  omega

/-- Behind a line without a defect, a comment is harmless exactly when it makes no defect. -/
theorem isHarmless_iff (sound : Defect.ofLine? line = none) (code : line.isSkipped = false)
    {said : Line} (parsed : Line.ofText (String.ofList line.trimmed) line.number = .ok said) :
    IsHarmless line content ↔ Defect.ofLine? (line.withComment content) = none := by
  have before := Defect.ofLine?_eq_none_iff.mp sound
  have colon : Defect.isOn (line.withComment content) .missingColon = false ↔
      (Defect.opensBlock line.trimmed → (Text.trimEnd content).getLast? = some ':') := by
    simp only [Defect.isOn, opensBlock_withComment code parsed, Bool.and_eq_false_iff,
      bne_eq_false_iff_eq, getLast?_withComment code]
    cases Defect.opensBlock line.trimmed <;> simp
  have parens := balanced_withComment content (by decide) (by decide)
    ⟨of_decide_eq_false (before .missingClosingParen),
      of_decide_eq_false (before .missingOpeningParen)⟩
  have brackets := balanced_withComment content (by decide) (by decide)
    ⟨of_decide_eq_false (before .missingClosingBracket),
      of_decide_eq_false (before .missingOpeningBracket)⟩
  have single := isUnmatched_withComment content (by decide) (by decide)
    (before .unmatchedSingleQuote)
  have double := isUnmatched_withComment content (by decide) (by decide)
    (before .unmatchedDoubleQuote)
  rw [Defect.ofLine?_eq_none_iff]
  constructor
  · intro harmless kind
    cases kind with
    | missingColon => exact colon.mpr harmless.colon
    | missingClosingParen => exact decide_eq_false (parens.mpr harmless.parens).1
    | missingOpeningParen => exact decide_eq_false (parens.mpr harmless.parens).2
    | missingClosingBracket => exact decide_eq_false (brackets.mpr harmless.brackets).1
    | missingOpeningBracket => exact decide_eq_false (brackets.mpr harmless.brackets).2
    | unmatchedSingleQuote => exact single.mpr harmless.singleQuotes
    | unmatchedDoubleQuote => exact double.mpr harmless.doubleQuotes
    | invalidRange => exact harmless.range
  · intro notOn
    exact {
      colon := colon.mp (notOn .missingColon)
      parens := parens.mp ⟨of_decide_eq_false (notOn .missingClosingParen),
        of_decide_eq_false (notOn .missingOpeningParen)⟩
      brackets := brackets.mp ⟨of_decide_eq_false (notOn .missingClosingBracket),
        of_decide_eq_false (notOn .missingOpeningBracket)⟩
      singleQuotes := single.mp (notOn .unmatchedSingleQuote)
      doubleQuotes := double.mp (notOn .unmatchedDoubleQuote)
      range := notOn .invalidRange }

end

/-- Every line that is placed can be parsed. -/
theorem Outline.parsed_of_foldlM_place {outline after : Outline} {lines : List SourceLine}
    (placed : lines.foldlM place outline = .ok after) : ∀ line ∈ lines, ∃ said,
      Line.ofText (String.ofList line.trimmed) line.number = .ok said := by
  induction lines generalizing outline with
  | nil => simp
  | cons first later inductionHypothesis =>
      rw [List.foldlM_cons] at placed
      obtain ⟨next, here, rest⟩ := bind_eq_ok_iff.mp placed
      intro line member
      rcases List.mem_cons.mp member with rfl | member
      · obtain ⟨closed, -, said⟩ := bind_eq_ok_iff.mp here
        cases parsed : Line.ofText (String.ofList line.trimmed) line.number with
        | error error =>
            rw [parsed] at said
            cases said
        | ok found => exact ⟨found, rfl⟩
      · exact inductionHypothesis rest line member

section

variable {source : String} {limits : Resources} {output : List String} {before : Nat}
  {line : SourceLine} {content : List Char}

/-- A source that runs gives the same result with a comment behind the code of a line, exactly
when the comment is harmless there. -/
theorem execute_withComment_iff (succeeds : execute source limits = some (.ok output))
    (found : (Source.lines source)[before]? = some line) (code : line.isSkipped = false)
    (oneLine : '\n' ∉ content) :
    execute (Source.withComment source before content) limits = execute source limits ↔
      IsHarmless line content := by
  obtain ⟨sound, tree, accepted⟩ := execute_eq_ok succeeds
  have member := Source.mem_codeLines found code
  have soundLine : Defect.ofLine? line = none := by
    simpa using List.findSome?_eq_none_iff.mp sound line member
  obtain ⟨outline, placed, -⟩ := bind_eq_ok_iff.mp accepted
  obtain ⟨last, lines, -⟩ := bind_eq_ok_iff.mp placed
  obtain ⟨said, parsed⟩ := Outline.parsed_of_foldlM_place lines line member
  rw [isHarmless_iff soundLine code parsed, execute_withComment succeeds found code oneLine]
  cases Defect.ofLine? (line.withComment content) with
  | none => simp
  | some kind => simp [succeeds]

end

/-- Behind an assignment, a comment with brackets that pair up is harmless. -/
theorem execute_withComment_assignment :
    execute "total = 1" {} = some (.ok []) ∧
      execute (Source.withComment "total = 1" 0 "(at first)".toList) {} = some (.ok []) := by
  have succeeds : execute "total = 1" {} = some (.ok []) := by cbv
  have found : (Source.lines "total = 1")[0]? = some ⟨1, "total = 1".toList⟩ := by cbv
  have harmless : IsHarmless ⟨1, "total = 1".toList⟩ "(at first)".toList :=
    { colon := by decide
      parens := by decide
      brackets := by decide
      singleQuotes := by decide
      doubleQuotes := by decide
      range := by decide }
  refine ⟨succeeds, ?_⟩
  rw [← succeeds]
  exact (execute_withComment_iff succeeds found (by decide) (by decide)).mpr harmless

/-- A comment behind the header of a loop is not harmless: the header is looked for a colon at the
end of its line, and the comment's end is found there. -/
theorem execute_withComment_header :
    execute "for i in range(3):\n    print(i)" {} = some (.ok ["0", "1", "2"]) ∧
      ((Source.lines "for i in range(3):\n    print(i)")[0]?.map (·.isSkipped) = some false) ∧
      execute (Source.withComment "for i in range(3):\n    print(i)" 0 " count".toList) {} =
        some (.error (.defect ⟨1, .missingColon⟩)) := by
  refine ⟨?_, ?_, ?_⟩ <;> cbv

end Offside
