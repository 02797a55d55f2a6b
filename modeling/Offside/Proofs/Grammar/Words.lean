import Offside.Proofs.Grammar.Phrase
import Offside.Syntax.Line

/-!
# The words of a phrase

A parser that looks one word ahead must know from it whether a phrase begins
there, and whether the phrase before it goes on. Both are a matter of rank: the
tighter a category binds, the fewer words open a phrase of it, and the fewer
words continue one.
-/

namespace Offside

open Expression (Level)

namespace Token.Kind

/-- The rank of the tightest phrases that can begin with a word: operands, signed operands, and
expressions after `not`. -/
def openingRank : Token.Kind → Nat
  | .integer _ | .float _ | .text _ | .name _ => 1
  | .keyword .kwTrue | .keyword .kwFalse | .keyword .kwNone => 1
  | .symbol .leftParen | .symbol .leftBracket => 1
  | .symbol .minus | .symbol .plus => 2
  | .keyword .kwNot => 3
  | .keyword _ | .symbol _ | .lineEnd => 4

/-- The rank of the tightest phrases that go on with a word; no phrase goes on with a word of
the last rank. -/
def continuationRank : Token.Kind → Nat
  | .symbol .leftParen | .symbol .leftBracket | .symbol .dot => 1
  | .symbol .star | .symbol .slash | .symbol .doubleSlash | .symbol .percent => 2
  | .symbol .plus | .symbol .minus => 3
  | .symbol .equalEqual | .symbol .notEqual | .symbol .less | .symbol .lessEqual
  | .symbol .greater | .symbol .greaterEqual | .keyword .kwIn | .keyword .kwNot => 4
  | .keyword .kwAnd => 5
  | .keyword .kwOr => 6
  | _ => 7

/-- Whether a word can be part of an expression. -/
def isOfExpression : Token.Kind → Bool
  | .lineEnd => false
  | .keyword .kwFor | .keyword .kwWhile | .keyword .kwIf | .keyword .kwElif | .keyword .kwElse
  | .keyword .kwPass | .keyword .kwBreak | .keyword .kwContinue => false
  | .symbol .colon => false
  | kind => !kind.assigns

end Token.Kind

/-- The rank of the phrases of a level. -/
def Expression.Level.rank : Level → Nat
  | .term => 2
  | .sum => 3
  | .conjunction => 5
  | .disjunction => 6

/-- The words of a comparison can be part of an expression. -/
theorem CompareOp.isOfExpression_of_mem_words (op : CompareOp) :
    ∀ word ∈ op.words, word.isOfExpression := by
  cases op <;> decide

namespace Phrase

namespace Category

/-- The highest rank of a word that opens a phrase of a category; nothing is known about the
first word where phrases may be empty. -/
def openingRank : Category → Nat
  | .primary => 1
  | .signed | .operand .term | .chain .term | .operand .sum | .chain .sum => 2
  | .negation | .operand .conjunction | .chain .conjunction
  | .operand .disjunction | .chain .disjunction | .expression => 3
  | .operators _ | .comparisons | .suffixes | .arguments => 0

/-- The highest rank of a word that continues a phrase of a category. -/
def continuationRank : Category → Nat
  | .primary | .arguments => 0
  | .signed | .suffixes => 1
  | .operand level => level.rank - 1
  | .chain level | .operators level => level.rank
  | .negation | .comparisons => 4
  | .expression => 6

/-- Whether the phrases of a category stand behind an operand and may be empty. -/
def IsBehind : Category → Prop
  | .operators _ | .comparisons | .suffixes => True
  | .expression | .chain _ | .operand _ | .negation | .signed | .primary | .arguments => False

/-- The least number of words that a phrase has beyond its levels. -/
def spare : Category → Nat
  | .expression | .operators _ | .comparisons | .suffixes | .arguments => 0
  | .chain _ | .operand _ | .negation | .signed | .primary => 1

end Category

/-- A phrase has at least as many words as levels. -/
theorem levels_add_spare_le {category : Category} (phrase : Phrase category) :
    phrase.levels + category.spare ≤ phrase.words.length := by
  induction phrase <;> simp only [levels, words, Category.spare, List.length_append,
    List.length_cons, List.length_nil] at * <;> omega

/-- The first word of a phrase that is not empty is one of those that open its category. -/
theorem exists_words_eq_cons {category : Category} (phrase : Phrase category)
    (nonempty : 0 < category.openingRank) :
    ∃ first later, phrase.words = first :: later ∧ first.openingRank ≤ category.openingRank := by
  induction phrase with
  | expression value inductionHypothesis => exact inductionHypothesis (by decide)
  | @chain level first more inductionHypothesis =>
      have same : (Category.operand level).openingRank = (Category.chain level).openingRank := by
        cases level <;> rfl
      obtain ⟨word, later, words, rank⟩ := inductionHypothesis (by rw [same]; exact nonempty)
      exact ⟨word, later ++ more.words, by simp [Phrase.words, words], by rw [← same]; exact rank⟩
  | conjunction value inductionHypothesis => exact inductionHypothesis (by decide)
  | negation value inductionHypothesis => exact inductionHypothesis (by decide)
  | term value inductionHypothesis => exact inductionHypothesis (by decide)
  | signed value inductionHypothesis => exact inductionHypothesis (by decide)
  | not operand => exact ⟨_, _, rfl, by decide⟩
  | comparison left links inductionHypothesis =>
      obtain ⟨word, later, words, rank⟩ := inductionHypothesis (by decide)
      exact ⟨word, later ++ links.words, by simp [Phrase.words, words], Nat.le_succ_of_le rank⟩
  | sign word op isSign operand =>
      refine ⟨_, _, rfl, ?_⟩
      cases isSign <;> decide
  | suffixed object more inductionHypothesis =>
      obtain ⟨word, later, words, rank⟩ := inductionHypothesis (by decide)
      exact ⟨word, later ++ more.words, by simp [Phrase.words, words], Nat.le_succ_of_le rank⟩
  | atom word value isAtom =>
      refine ⟨_, _, rfl, ?_⟩
      cases isAtom <;> simp [Token.Kind.openingRank, Category.openingRank]
  | bracketed inner => exact ⟨_, _, rfl, by decide⟩
  | list elements => exact ⟨_, _, rfl, by decide⟩
  | noOperator | operator | noLink | link | noSuffix | call | subscript | member
  | noArgument | lastArgument | argument => exact absurd nonempty (Nat.lt_irrefl 0)

/-- A phrase has only words that can be part of an expression. -/
theorem isOfExpression_of_mem_words {category : Category} (phrase : Phrase category) :
    ∀ word ∈ phrase.words, word.isOfExpression := by
  induction phrase with
  | operator word join joins right later rightWords laterWords =>
      intro word member
      rcases List.mem_cons.mp member with rfl | member
      · cases joins <;> rfl
      · rcases List.mem_append.mp member with member | member
        · exact rightWords word member
        · exact laterWords word member
  | link op right later rightWords laterWords =>
      intro word member
      rcases List.mem_append.mp member with member | member
      · exact op.isOfExpression_of_mem_words word member
      · rcases List.mem_append.mp member with member | member
        · exact rightWords word member
        · exact laterWords word member
  | sign word op isSign operand operandWords =>
      intro word member
      rcases List.mem_cons.mp member with rfl | member
      · cases isSign <;> rfl
      · exact operandWords word member
  | atom word value isAtom =>
      intro word member
      obtain rfl := List.mem_singleton.mp member
      cases isAtom <;> rfl
  | _ => simp_all [words, Token.Kind.isOfExpression, Token.Kind.assigns, BinaryOp.ofUpdate?, or_imp]

end Phrase

end Offside
