import Offside.Proofs.Grammar.Line
import Offside.Proofs.Marks

/-!
# Brackets pair up on a line

Brackets enclose whole phrases, so the words of a phrase are balanced: behind every
place there are at least as many closing symbols of a sort as opening ones, and in
the whole phrase just as many. On a line the same holds, and a colon stands at
its end or nowhere.
-/

namespace Offside

/-- The pairs of symbols that enclose other words. -/
inductive IsPair : Symbol → Symbol → Prop where
  | parens : IsPair .leftParen .rightParen
  | brackets : IsPair .leftBracket .rightBracket

/-- The opening and closing symbols of a sort are balanced among some words. -/
structure IsBalanced (opening closing : Symbol) (words : List Token.Kind) : Prop where
  /-- What is opened behind a place is closed there, too. -/
  behind : ∀ later, later <:+ words →
    later.count (.symbol opening) ≤ later.count (.symbol closing)
  whole : words.count (.symbol opening) = words.count (.symbol closing)

namespace IsBalanced

variable {opening closing : Symbol} {first second words : List Token.Kind} {word : Token.Kind}

/-- No words are balanced. -/
theorem nil : IsBalanced opening closing [] where
  behind later isSuffix := by
    rw [List.suffix_nil.mp isSuffix]
    exact Nat.le_refl _
  whole := rfl

/-- Balanced words behind balanced words are balanced. -/
theorem append (before : IsBalanced opening closing first)
    (after : IsBalanced opening closing second) :
    IsBalanced opening closing (first ++ second) where
  behind later isSuffix := by
    rcases suffix_append_cases isSuffix with inside | ⟨item, more, isPart, rfl⟩
    · exact after.behind later inside
    · rw [List.count_append, List.count_append]
      exact Nat.add_le_add (before.behind _ isPart) (Nat.le_of_eq after.whole)
  whole := by rw [List.count_append, List.count_append, before.whole, after.whole]

/-- A single word that is neither symbol of a pair is balanced. -/
theorem single (notOpening : word ≠ .symbol opening) (notClosing : word ≠ .symbol closing) :
    IsBalanced opening closing [word] where
  behind later isSuffix := by
    rcases List.suffix_cons_iff.mp isSuffix with rfl | inside
    · simp [notOpening]
    · rw [List.suffix_nil.mp inside]
      exact Nat.le_refl _
  whole := by simp [notOpening, notClosing]

/-- Balanced words stay balanced with a word in front that is neither symbol of the pair. -/
theorem cons (notOpening : word ≠ .symbol opening) (notClosing : word ≠ .symbol closing)
    (balanced : IsBalanced opening closing words) : IsBalanced opening closing (word :: words) :=
  (single notOpening notClosing).append balanced

/-- The two symbols of a pair enclose balanced words. -/
theorem enclose (pair : IsPair opening closing) (balanced : IsBalanced opening closing words) :
    IsBalanced opening closing (.symbol opening :: (words ++ [.symbol closing])) := by
  have other : opening ≠ closing := by cases pair <;> decide
  have ended : ∀ later, later <:+ words ++ [.symbol closing] →
      later.count (.symbol opening) ≤ later.count (.symbol closing) := by
    intro later isSuffix
    rcases suffix_append_cases isSuffix with inside | ⟨item, more, isPart, rfl⟩
    · rcases List.suffix_cons_iff.mp inside with rfl | inside
      · simp [other.symm]
      · rw [List.suffix_nil.mp inside]
        exact Nat.le_refl _
    · have before := balanced.behind _ isPart
      have noOpening : [Token.Kind.symbol closing].count (.symbol opening) = 0 := by
        simp [other.symm]
      rw [List.count_append, List.count_append, noOpening]
      omega
  have whole : (Token.Kind.symbol opening :: (words ++ [.symbol closing])).count
        (.symbol opening) =
      (Token.Kind.symbol opening :: (words ++ [.symbol closing])).count (.symbol closing) := by
    simp [List.count_append, balanced.whole, other, other.symm]
  refine ⟨fun later isSuffix => ?_, whole⟩
  rcases List.suffix_cons_iff.mp isSuffix with rfl | inside
  · exact Nat.le_of_eq whole
  · exact ended later inside

/-- The two symbols of any pair enclose balanced words. -/
theorem enclose_any {left right : Symbol} (pair : IsPair opening closing)
    (around : IsPair left right) (balanced : IsBalanced opening closing words) :
    IsBalanced opening closing (.symbol left :: (words ++ [.symbol right])) := by
  cases pair <;> cases around
  · exact balanced.enclose .parens
  · exact cons (by decide) (by decide) (balanced.append (single (by decide) (by decide)))
  · exact cons (by decide) (by decide) (balanced.append (single (by decide) (by decide)))
  · exact balanced.enclose .brackets

/-- What an opening symbol opens is closed behind it. -/
theorem count_lt (balanced : IsBalanced opening closing words) (other : opening ≠ closing)
    {later : List Token.Kind} (isSuffix : .symbol opening :: later <:+ words) :
    later.count (.symbol opening) < later.count (.symbol closing) := by
  have closed := balanced.behind _ isSuffix
  rw [List.count_cons_self, List.count_cons_of_ne (by simpa using other)] at closed
  exact closed

end IsBalanced

/-- A word that is no bracket of any sort. -/
def Token.Kind.isNeutral : Token.Kind → Bool
  | .symbol .leftParen | .symbol .rightParen | .symbol .leftBracket | .symbol .rightBracket => false
  | _ => true

section

variable {opening closing : Symbol} {words : List Token.Kind}

/-- Words that are no brackets are balanced. -/
theorem IsBalanced.of_isNeutral (pair : IsPair opening closing)
    (neutral : ∀ word ∈ words, word.isNeutral) : IsBalanced opening closing words := by
  induction words with
  | nil => exact .nil
  | cons word later inductionHypothesis =>
      have here : word.isNeutral := neutral word (by simp)
      have rest := inductionHypothesis fun other member => neutral other (by simp [member])
      refine .cons ?_ ?_ rest
      · rintro rfl
        cases pair <;> cases here
      · rintro rfl
        cases pair <;> cases here

/-- The words of a phrase are balanced. -/
theorem Phrase.isBalanced (pair : IsPair opening closing) {category : Category}
    (phrase : Phrase category) : IsBalanced opening closing phrase.words := by
  -- words that are no brackets in front of a phrase, and brackets around one
  have neutral := fun {word words} (isNeutral : Token.Kind.isNeutral word)
      (balanced : IsBalanced opening closing words) =>
    have single : IsBalanced opening closing [word] := .of_isNeutral pair (by simpa using isNeutral)
    single.append balanced
  have enclosed := fun {left right inner later} (around : IsPair left right)
      (innerBalanced : IsBalanced opening closing inner)
      (laterBalanced : IsBalanced opening closing later) =>
    (IsBalanced.enclose_any pair around innerBalanced).append laterBalanced
  induction phrase with
  | expression value balanced | conjunction value balanced | negation value balanced
  | term value balanced | signed value balanced | lastArgument value balanced => exact balanced
  | chain first more firstBalanced moreBalanced => exact firstBalanced.append moreBalanced
  | comparison left links leftBalanced linksBalanced => exact leftBalanced.append linksBalanced
  | suffixed object more objectBalanced moreBalanced => exact objectBalanced.append moreBalanced
  | noOperator | noLink | noSuffix | noArgument => exact .nil
  | operator word join joins right later rightBalanced laterBalanced =>
      exact neutral (by cases joins <;> rfl) (rightBalanced.append laterBalanced)
  | not operand balanced => exact neutral rfl balanced
  | link op right later rightBalanced laterBalanced =>
      have words : IsBalanced opening closing op.words :=
        .of_isNeutral pair (by cases op <;> decide)
      exact words.append (rightBalanced.append laterBalanced)
  | sign word op isSign operand balanced => exact neutral (by cases isSign <;> rfl) balanced
  | call given later givenBalanced laterBalanced =>
      simpa [Phrase.words] using enclosed .parens givenBalanced laterBalanced
  | subscript position later positionBalanced laterBalanced =>
      simpa [Phrase.words] using enclosed .brackets positionBalanced laterBalanced
  | member word later balanced => exact neutral rfl (neutral rfl balanced)
  | atom word value isAtom => exact neutral (by cases isAtom <;> rfl) .nil
  | bracketed inner balanced => exact IsBalanced.enclose_any pair .parens balanced
  | list elements balanced => exact IsBalanced.enclose_any pair .brackets balanced
  | argument value later valueBalanced laterBalanced =>
      exact valueBalanced.append (neutral rfl laterBalanced)

namespace LinePhrase

/-- The words of a line are balanced. -/
theorem isBalanced (pair : IsPair opening closing) (phrase : LinePhrase) :
    IsBalanced opening closing phrase.words := by
  have neutral := fun words (isNeutral : ∀ word ∈ words, Token.Kind.isNeutral word) =>
    IsBalanced.of_isNeutral pair isNeutral
  cases phrase with
  | forEach target iterable =>
      have front := neutral [.keyword .kwFor, .name target, .keyword .kwIn]
        (by simp [Token.Kind.isNeutral])
      exact front.append ((iterable.isBalanced pair).append (neutral _ (by decide)))
  | conditional word header begins condition =>
      have front := neutral [.keyword word] (by simp [Token.Kind.isNeutral])
      exact front.append ((condition.isBalanced pair).append (neutral _ (by decide)))
  | otherwise => exact neutral _ (by decide)
  | plain word statement isWord => exact neutral _ (by simp [words, Token.Kind.isNeutral])
  | assignment target sign statement assigns value =>
      have front := neutral [.name target, .symbol sign]
        (by cases assigns <;> simp [Token.Kind.isNeutral])
      exact front.append (value.isBalanced pair)
  | bare value => exact value.isBalanced pair

end LinePhrase

end

namespace LinePhrase

/-- There is no colon in an expression. -/
theorem colon_notMem (value : Phrase .expression) : .symbol .colon ∉ value.words := by
  intro member
  exact absurd (value.isOfExpression_of_mem_words _ member) (by decide)

/-- A line with a colon ends with it and has no other. -/
theorem exists_words_eq_append_colon (phrase : LinePhrase)
    (member : .symbol .colon ∈ phrase.words) :
    ∃ front, phrase.words = front ++ [.symbol .colon] ∧ .symbol .colon ∉ front := by
  cases phrase with
  | forEach target iterable =>
      exact ⟨.keyword .kwFor :: .name target :: .keyword .kwIn :: iterable.words, rfl,
        by simp [colon_notMem]⟩
  | conditional word header begins condition =>
      exact ⟨.keyword word :: condition.words, rfl, by simp [colon_notMem]⟩
  | otherwise => exact ⟨[.keyword .kwElse], rfl, by decide⟩
  | plain word statement isWord => simp [words] at member
  | assignment target sign statement assigns value =>
      cases assigns <;> simp [words, colon_notMem] at member
  | bare value => exact absurd member (colon_notMem value)

/-- Nothing follows a colon on a line. -/
theorem eq_nil_of_colon (phrase : LinePhrase) {before after : List Token.Kind}
    (shape : phrase.words = before ++ .symbol .colon :: after) : after = [] := by
  obtain ⟨front, whole, absent⟩ := phrase.exists_words_eq_append_colon (by simp [shape])
  rcases List.append_eq_append_iff.mp (shape.symm.trans whole) with
    ⟨part, frontEq, rest⟩ | ⟨part, -, rest⟩
  · cases part with
    | nil => exact (List.cons_eq_cons.mp rest).2
    | cons word more =>
        obtain ⟨rfl, -⟩ := List.cons_eq_cons.mp rest
        exact absurd (by simp [frontEq]) absent
  · cases part with
    | nil => exact (List.cons_eq_cons.mp rest).2.symm
    | cons word more => simp at rest

/-- A line that begins like a header has a colon. -/
theorem colon_mem (phrase : LinePhrase) {first : Token.Kind} {later : List Token.Kind}
    (shape : phrase.words = first :: later) (begins : Line.beginsHeader first) :
    .symbol .colon ∈ phrase.words := by
  cases phrase with
  | forEach | conditional | otherwise => simp [words]
  | plain word statement isWord =>
      obtain ⟨rfl, -⟩ := List.cons_eq_cons.mp shape
      cases isWord <;> cases begins
  | assignment target sign statement assigns value =>
      obtain ⟨rfl, -⟩ := List.cons_eq_cons.mp shape
      cases begins
  | bare value =>
      obtain ⟨word, more, words, opens⟩ := value.exists_words_eq_cons (by decide)
      obtain ⟨rfl, -⟩ := List.cons_eq_cons.mp (words.symm.trans shape)
      unfold Line.beginsHeader at begins
      split at begins
      case h_6 => cases begins
      all_goals exact absurd opens (by decide)

end LinePhrase

end Offside
