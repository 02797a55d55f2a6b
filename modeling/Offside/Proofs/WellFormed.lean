import Offside.Proofs.Grammar.Line
import Offside.Proofs.Nesting
import Offside.Proofs.Run.Inside
import Offside.Proofs.Run.LoopControl
import Offside.Proofs.Spaced

/-!
# Every program is well formed

The types of statements and expressions allow for trees that no source makes up: a conditional
statement without a branch, a comparison of nothing, a name with a blank in it. What excludes
them is known at different places. The lexer reads names as names and integers without a sign
(`Token.Lexes.isRead`); a phrase hands that on to what it stands for, and compares only where
there is something to compare (`Phrase.isProper`); every line of the program is one of the source,
and what may be nested was checked where the lines were placed.
-/

namespace Offside

namespace Token

/-- Whether a word, alone on a line, is read as one name that is no keyword. -/
def IsReadAsName (word : String) : Prop :=
  ∀ line, (tokenize word line).map (·.map (·.kind)) = .ok [.name word, .lineEnd]

/-- What is known of a word that was read: names are read as names, and integers are not
negative. -/
def Kind.IsRead : Kind → Prop
  | .name word => IsReadAsName word
  | .integer value => 0 ≤ value.toInt
  | .float _ | .text _ | .keyword _ | .symbol _ | .lineEnd => True

/-- A name is read as one. -/
theorem IsName.isReadAsName {word : String} (isName : IsName word) : IsReadAsName word := by
  intro line
  have lexes := lexes_intercalate (.cons (.name isName) .nil)
  rw [String.intercalate_singleton] at lexes
  obtain ⟨tokens, found, before, last, rfl, named, ended⟩ := lexes.tokenize line
  rw [found]
  simp [Except.map, named, ended]

/-- What goes on like a name as long as it can is one, unless it is a keyword. -/
theorem isName_of_takeWhile {first : Char} {following : List Char} (starts : startsName first)
    (noKeyword :
      Keyword.ofSpelling? (String.ofList (first :: following.takeWhile continuesName)) = none) :
    IsName (String.ofList (first :: following.takeWhile continuesName)) where
  shape := ⟨first, following.takeWhile continuesName, String.toList_ofList, starts,
    fun _ member => List.mem_takeWhile_imp member⟩
  noKeyword := by
    intro keyword same
    rw [← same, keyword.ofSpelling?_spelling] at noKeyword
    cases noKeyword

section

variable {kind : Kind} {column : Nat}

/-- Digits stand for an integer that is not negative. -/
theorem isRead_of_integerOf {digits : List Char} (found : integerOf column digits = .ok kind) :
    kind.IsRead := by
  unfold integerOf at found
  dsimp only at found
  split at found
  · next small =>
      cases found
      change 0 ≤ (Int64.ofNat (digitsValue digits)).toInt
      rw [Int64.toInt_ofNat_of_lt (Nat.lt_succ_of_le small)]
      exact Int.natCast_nonneg _
  · cases found

/-- A lexeme is read as what it is. -/
theorem isRead_of_readLexeme {first : Char} {following : List Char}
    (found : (readLexeme column first following).outcome = .ok kind) : kind.IsRead := by
  unfold readLexeme at found
  split at found
  · unfold readQuoted at found
    split at found
    · cases found
      trivial
    · cases found
  · split at found
    · next starts =>
        unfold readName at found
        dsimp only at found
        split at found
        · cases found
          trivial
        · next noKeyword =>
            cases found
            exact (isName_of_takeWhile starts noKeyword).isReadAsName
    · split at found
      · unfold readNumber at found
        dsimp only at found
        split at found
        · split at found
          · cases found
            trivial
          · exact isRead_of_integerOf found
        · exact isRead_of_integerOf found
      · unfold readSymbol at found
        split at found
        · cases found
          trivial
        · cases found

end

/-- The words of a text are read as what they are. -/
theorem Lexes.isRead {text : List Char} {kinds : List Kind} (lexes : Lexes text kinds) :
    ∀ kind ∈ kinds, kind.IsRead := by
  induction lexes with
  | done | comment => nofun
  | lexeme _ _ found _ inductionHypothesis =>
      exact List.forall_mem_cons.mpr ⟨isRead_of_readLexeme found, inductionHypothesis⟩

end Token

/-! ### Expressions -/

/-- What is known of an expression apart from its operands: an integer is not negative, the names of
variables and attributes are read as names, and a comparison compares its first operand to
something. -/
def Expression.IsProper : Expression → Prop
  | integer value => 0 ≤ value.toInt
  | name word | member _ word => Token.IsReadAsName word
  | compare _ links => links ≠ []
  | float _ | text _ | boolean _ | none | list _ | index .. | call .. | unary .. | binary ..
  | logical .. => True

namespace Phrase

open Expression (IsProper)

/-- Whether all of the expression that a phrase stands for is proper. Operators and suffixes keep it
that way. -/
def MeansProper : {category : Category} → Phrase category → Prop
  | .operators _, phrase | .suffixes, phrase => ∀ before : Expression,
      before.Meets IsProper → (phrase.meaning before).Meets IsProper
  | .comparisons, phrase => ∀ link ∈ phrase.meaning, link.2.Meets IsProper
  | .arguments, phrase => ∀ value ∈ phrase.meaning, value.Meets IsProper
  | .expression, phrase | .chain _, phrase | .operand _, phrase | .negation, phrase
  | .signed, phrase | .primary, phrase => phrase.meaning.Meets IsProper

/-- Proper operands are joined to a proper expression. -/
theorem meets_of_joins {level : Expression.Level} {word : Token.Kind}
    {join : Expression → Expression → Expression} (joins : Joins level word join)
    {left right : Expression} (leftMeets : left.Meets IsProper)
    (rightMeets : right.Meets IsProper) : (join left right).Meets IsProper := by
  have both : ∀ operand ∈ [left, right], operand.Meets IsProper := by
    simp [leftMeets, rightMeets]
  cases joins <;> exact Expression.meets_iff.mpr ⟨trivial, both⟩

/-- Without a comparison the first operand stands alone. -/
theorem meets_compared {left : Expression} {links : List (CompareOp × Expression)}
    (leftMeets : left.Meets IsProper) (linksMeet : ∀ link ∈ links, link.2.Meets IsProper) :
    (Expression.compared left links).Meets IsProper := by
  cases links with
  | nil => exact leftMeets
  | cons link later =>
      refine Expression.meets_iff.mpr ⟨List.cons_ne_nil _ _, ?_⟩
      refine List.forall_mem_cons.mpr ⟨leftMeets, ?_⟩
      exact List.forall_mem_map.mpr linksMeet

/-- A literal or a name that was read is proper. -/
theorem meets_of_isAtom {word : Token.Kind} {value : Expression} (isAtom : IsAtom word value)
    (read : word.IsRead) : value.Meets IsProper := by
  cases isAtom with
  | integer | name => exact Expression.meets_iff.mpr ⟨read, List.forall_mem_nil _⟩
  | float | text | true | false | none =>
      exact Expression.meets_iff.mpr ⟨trivial, List.forall_mem_nil _⟩

/-- What a phrase of words that were read stands for is proper. -/
theorem meansProper {category : Category} (phrase : Phrase category)
    (read : ∀ word ∈ phrase.words, word.IsRead) : phrase.MeansProper := by
  induction phrase with
  | expression value proper | conjunction value proper | negation value proper | term value proper
  | signed value proper => exact proper read
  | bracketed inner proper =>
      rw [words, List.forall_mem_cons, List.forall_mem_append] at read
      exact proper read.2.1
  | chain first more firstProper moreProper | suffixed first more firstProper moreProper =>
      rw [words, List.forall_mem_append] at read
      exact moreProper read.2 _ (firstProper read.1)
  | noOperator | noSuffix => exact fun before proper => proper
  | operator word join joins right later rightProper laterProper =>
      rw [words, List.forall_mem_cons, List.forall_mem_append] at read
      intro before proper
      exact laterProper read.2.2 _ (meets_of_joins joins proper (rightProper read.2.1))
  | not operand proper | sign word op isSign operand proper =>
      rw [words, List.forall_mem_cons] at read
      refine Expression.meets_iff.mpr ⟨trivial, ?_⟩
      exact List.forall_mem_singleton.mpr (proper read.2)
  | comparison left links leftProper linksProper =>
      rw [words, List.forall_mem_append] at read
      exact meets_compared (leftProper read.1) (linksProper read.2)
  | noLink | noArgument => exact List.forall_mem_nil _
  | link op right later rightProper laterProper =>
      rw [words, List.forall_mem_append, List.forall_mem_append] at read
      exact List.forall_mem_cons.mpr ⟨rightProper read.2.1, laterProper read.2.2⟩
  | call given later givenProper laterProper =>
      rw [words, List.forall_mem_cons, List.forall_mem_append, List.forall_mem_cons] at read
      intro before proper
      refine laterProper read.2.2.2 _ (Expression.meets_iff.mpr ⟨trivial, ?_⟩)
      exact List.forall_mem_cons.mpr ⟨proper, givenProper read.2.1⟩
  | subscript position later positionProper laterProper =>
      rw [words, List.forall_mem_cons, List.forall_mem_append, List.forall_mem_cons] at read
      intro before proper
      refine laterProper read.2.2.2 _ (Expression.meets_iff.mpr ⟨trivial, ?_⟩)
      exact List.forall_mem_cons.mpr
        ⟨proper, List.forall_mem_singleton.mpr (positionProper read.2.1)⟩
  | member word later laterProper =>
      rw [words, List.forall_mem_cons, List.forall_mem_cons] at read
      intro before proper
      refine laterProper read.2.2 _ (Expression.meets_iff.mpr ⟨read.2.1, ?_⟩)
      exact List.forall_mem_singleton.mpr proper
  | atom word value isAtom => exact meets_of_isAtom isAtom (read word (.head _))
  | list elements proper =>
      rw [words, List.forall_mem_cons, List.forall_mem_append] at read
      exact Expression.meets_iff.mpr ⟨trivial, proper read.2.1⟩
  | lastArgument value proper => exact List.forall_mem_singleton.mpr (proper read)
  | argument value later valueProper laterProper =>
      rw [words, List.forall_mem_append, List.forall_mem_cons] at read
      exact List.forall_mem_cons.mpr ⟨valueProper read.1, laterProper read.2.2⟩

end Phrase

/-! ### Lines and programs -/

section

variable {admitted : Expression → Prop} {settable : String → Prop}

/-- Whether a property holds of all expressions in a line and another one of the variable that it
gives values, if it does. -/
def Line.Meets (admitted : Expression → Prop) (settable : String → Prop) : Line → Prop
  | .simple statement => statement.Meets admitted settable
  | .header (.forEach target iterable) => settable target ∧ iterable.Meets admitted
  | .header (.whileLoop condition) | .header (.branch condition)
  | .header (.elseBranch condition) => condition.Meets admitted
  | .header .otherwise => True

mutual

/-- What holds in the lines of a statement holds in it. -/
theorem Statement.meets_of_reading (depth : Nat) : (statement : Statement) →
    (∀ placed ∈ statement.reading depth, placed.1.Meets admitted settable) →
      statement.Meets admitted settable
  | .forEach target iterable body, lines => by
      rw [Statement.reading, List.forall_mem_cons] at lines
      exact ⟨lines.1.1, lines.1.2, Program.meets_of_reading (depth + 1) body lines.2⟩
  | .whileLoop condition body, lines => by
      rw [Statement.reading, List.forall_mem_cons] at lines
      exact ⟨lines.1, Program.meets_of_reading (depth + 1) body lines.2⟩
  | .conditional chain, lines =>
      chain.meets_of_reading depth .branch (fun _ holds => holds) lines
  | .assign .., lines | .update .., lines | .stop, lines | .next, lines | .pass, lines
  | .expression _, lines => lines _ (.head _)

/-- What holds in the lines of a chain holds in it. -/
theorem Chain.meets_of_reading (depth : Nat) (header : Expression → Header)
    (conditional : ∀ condition, (Line.header (header condition)).Meets admitted settable →
      condition.Meets admitted) : (chain : Chain) →
    (∀ placed ∈ chain.reading depth header, placed.1.Meets admitted settable) →
      chain.Meets admitted settable
  | .done, _ => trivial
  | .otherwise body, lines => by
      rw [Chain.reading, List.forall_mem_cons] at lines
      exact Program.meets_of_reading (depth + 1) body lines.2
  | .branch condition body rest, lines => by
      rw [Chain.reading, List.forall_mem_append, List.forall_mem_cons] at lines
      exact ⟨conditional condition lines.1.1, Program.meets_of_reading (depth + 1) body lines.1.2,
        rest.meets_of_reading depth .elseBranch (fun _ holds => holds) lines.2⟩

/-- What holds in the lines of a program holds in it. -/
theorem Program.meets_of_reading (depth : Nat) : (program : List Statement) →
    (∀ placed ∈ readingOf depth program, placed.1.Meets admitted settable) →
      Program.Meets admitted settable program
  | [], _ => trivial
  | statement :: later, lines => by
      rw [readingOf, List.forall_mem_append] at lines
      exact ⟨statement.meets_of_reading depth lines.1, Program.meets_of_reading depth later lines.2⟩

end

end

/-- What is in a line phrase of words that were read is proper. -/
theorem LinePhrase.meets_line (phrase : LinePhrase) (read : ∀ word ∈ phrase.words, word.IsRead) :
    phrase.line.Meets Expression.IsProper Token.IsReadAsName := by
  cases phrase with
  | forEach target iterable =>
      simp only [words, List.forall_mem_cons, List.forall_mem_append] at read
      exact ⟨read.2.1, iterable.meansProper read.2.2.2.1⟩
  | conditional word header begins condition =>
      rw [words, List.forall_mem_cons, List.forall_mem_append] at read
      have proper := condition.meansProper read.2.1
      cases begins <;> exact proper
  | otherwise => trivial
  | plain word statement isWord => cases isWord <;> trivial
  | assignment target sign statement assigns value =>
      rw [words, List.forall_mem_cons, List.forall_mem_cons] at read
      have proper := value.meansProper read.2.2
      cases assigns with
      | set => exact ⟨read.1, proper⟩
      | add | sub | mul | div | floorDiv | mod => exact ⟨read.1, read.1, proper⟩
  | bare value => exact value.meansProper read

/-- What is in a line that was read is proper. -/
theorem Line.meets_of_ofText {text : String} {number : Nat} {line : Line}
    (accepted : ofText text number = .ok line) :
    line.Meets Expression.IsProper Token.IsReadAsName := by
  obtain ⟨phrase, lexes, rfl, -⟩ := ofText_eq_ok_iff.mp accepted
  exact phrase.meets_line lexes.isRead

/-- Every line of the program that a source makes up is one of the source. -/
theorem BlockTree.exists_parsed {source : String} {tree : BlockTree}
    (accepted : ofSource source = .ok tree) {placed : Line × Nat}
    (member : placed ∈ tree.program.reading) :
    ∃ line ∈ Source.codeLines source, line.parsed = .ok placed.1 := by
  obtain ⟨outline, made, result⟩ := bind_eq_ok_iff.mp accepted
  cases result
  have placement : (.ok placed.1, placed.2) ∈ SourceLine.placements (Source.codeLines source) := by
    rw [← (Outline.ofLines_spec made).1]
    exact List.mem_map_of_mem member
  obtain ⟨⟨line, before⟩, among, same⟩ := List.mem_map.mp placement
  exact ⟨line, List.fst_mem_of_mem_zipIdx among, congrArg Prod.fst same⟩

/-! ### Blocks -/

/-- Where something is in the blocks of a chain that can be placed, there is room for a block. -/
theorem Chain.room_pos_of_mem_inner {room : Nat} {inLoop : Bool} {child : Statement} :
    ∀ {chain : Chain}, chain.IsPlaceable room inLoop → child ∈ chain.inner → 0 < room
  | .done, _, member => nomatch member
  | .otherwise _, placeable, _ => placeable.1
  | .branch _ _ _, placeable, _ => placeable.1.1

/-- Where something is in the blocks of a statement that can be placed, there is room for a
block. -/
theorem Statement.room_pos_of_mem_inner {room : Nat} {inLoop : Bool} {statement child : Statement}
    (placeable : statement.IsPlaceable room inLoop) (member : child ∈ statement.inner) :
    0 < room := by
  cases statement with
  | forEach | whileLoop => exact placeable.1
  | conditional chain => exact chain.room_pos_of_mem_inner placeable.2 member
  | assign | update | stop | next | pass | expression => cases member

/-- What a statement that can be placed holds can be placed where it is, and lies in no more blocks
than there was room for. -/
theorem Statement.Holds.placeable {statement nested : Statement} {around : List Statement}
    (holds : statement.Holds around nested) {room : Nat} {inLoop : Bool}
    (placeable : statement.IsPlaceable room inLoop) :
    around.length ≤ room ∧ ∃ inside, nested.IsPlaceable (room - around.length) inside := by
  induction holds generalizing room inLoop with
  | itself statement => exact ⟨Nat.zero_le _, inLoop, placeable⟩
  | @within statement child nested around member _ inductionHypothesis =>
      have positive := room_pos_of_mem_inner placeable member
      obtain ⟨few, inside, nestedPlaceable⟩ :=
        inductionHypothesis (isPlaceable_of_mem_inner placeable member)
      have same : room - (statement :: around).length = room - 1 - around.length := by
        rw [List.length_cons]
        omega
      rw [same, List.length_cons]
      exact ⟨by omega, inside, nestedPlaceable⟩

/-- Whether a program is one that a source can make up, at every depth. -/
structure Program.IsWellFormed (program : Program) : Prop where
  /-- Integers are not negative, comparisons compare something, and the names of variables and
  attributes and the targets of assignments and loops are read as names. -/
  proper : Program.Meets Expression.IsProper Token.IsReadAsName program
  /-- Every conditional statement has a branch. -/
  branches : ∀ statement ∈ program, ∀ around chain,
    statement.Holds around (.conditional chain) → chain.hasBranch
  /-- No statement lies inside more than a hundred blocks. -/
  depth : ∀ statement ∈ program, ∀ around nested,
    statement.Holds around nested → around.length ≤ 100

/-- The program that a source makes up is well formed. -/
theorem BlockTree.isWellFormed_ofSource {source : String} {tree : BlockTree}
    (accepted : ofSource source = .ok tree) : tree.program.IsWellFormed where
  proper := by
    refine Program.meets_of_reading 0 _ fun placed member => ?_
    obtain ⟨line, -, parsed⟩ := exists_parsed accepted member
    exact Line.meets_of_ofText parsed
  branches := by
    intro statement member around chain holds
    have placeable := arePlaceable_iff.mp (arePlaceable accepted) statement member
    obtain ⟨-, inside, nestedPlaceable⟩ := holds.placeable placeable
    exact nestedPlaceable.1
  depth := by
    intro statement member around nested holds
    have placeable := arePlaceable_iff.mp (arePlaceable accepted) statement member
    exact (holds.placeable placeable).1

/-- A negative number, a comparison of three, an attribute and an `else` two blocks deep. -/
theorem BlockTree.isWellFormed_ofSource_nested :
    ∃ tree, ofSource "for n in [-1]:\n  if 0 < n <= 1:\n    n.x\n  else:\n    sum -= 4" = .ok tree ∧
      tree.program = [.forEach "n" (.list [.unary .negate (.integer 1)]) [.conditional
        (.branch (.compare (.integer 0) [(.less, .name "n"), (.lessEqual, .integer 1)])
          [.expression (.member (.name "n") "x")]
          (.otherwise [.update "sum" .sub (.integer 4)]))]] ∧
      tree.program.IsWellFormed := by
  have accepted :
      ofSource "for n in [-1]:\n  if 0 < n <= 1:\n    n.x\n  else:\n    sum -= 4" = .ok {
        program := [.forEach "n" (.list [.unary .negate (.integer 1)]) [.conditional
          (.branch (.compare (.integer 0) [(.less, .name "n"), (.lessEqual, .integer 1)])
            [.expression (.member (.name "n") "x")]
            (.otherwise [.update "sum" .sub (.integer 4)]))]]
        opened := 3
        closed := 3 } := by cbv
  exact ⟨_, accepted, rfl, isWellFormed_ofSource accepted⟩

end Offside
