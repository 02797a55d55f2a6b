import Mathlib.Data.List.Forall2
import Offside.Proofs.Spelling

/-!
# Words with blanks between them

Every word but a float has spellings of its own: names, keywords and symbols stand for
themselves, integers are written in decimals, and texts between quotes. `IsSpelled` says
which these are. A blank ends each of them, so words that are spelled one after the other
with blanks between them are read again as these words (`tokenize_intercalate`).
-/

namespace Offside.Token

/-- Whether a word is a name: it begins and goes on like one, and it is no keyword. -/
structure IsName (word : String) : Prop where
  shape : ∃ first more, word.toList = first :: more ∧ startsName first ∧
    ∀ character ∈ more, continuesName character
  noKeyword : ∀ keyword : Keyword, keyword.spelling ≠ word

/-- The spellings of words. A text has two, one for each kind of quotes. -/
inductive IsSpelled : Kind → String → Prop where
  | name {word : String} (isName : IsName word) : IsSpelled (.name word) word
  | integer {number : Nat} (small : number ≤ mostInteger) :
      IsSpelled (.integer (Int64.ofNat number)) (toString number)
  | text {quote : Char} (isQuote : quote = '\'' ∨ quote = '"') (content : String) :
      IsSpelled (.text content) (String.ofList (quote :: (escaped quote content.toList ++ [quote])))
  | keyword (keyword : Keyword) : IsSpelled (.keyword keyword) keyword.spelling
  | symbol (symbol : Symbol) : IsSpelled (.symbol symbol) symbol.spelling

/-- A name is not found among the keywords. -/
theorem IsName.ofSpelling?_eq_none {word : String} (isName : IsName word) :
    Keyword.ofSpelling? word = none := by
  refine List.find?_eq_none.mpr fun keyword _ same => ?_
  exact isName.noKeyword keyword (eq_of_beq same)

/-- A symbol is the longest one that its spelling begins with. -/
theorem atStart?_spelling (symbol : Symbol) :
    Symbol.atStart? symbol.spelling.toList = some symbol := by
  cases symbol <;> decide

section

variable {kind : Kind} {spelling : String} {rest : List Char} {later : List Kind}

/-- A word that is spelled at the front of a text is the first word of the text, if the text ends
behind it or goes on with a blank. -/
theorem IsSpelled.lexes (spelled : IsSpelled kind spelling) (parted : IsParted rest)
    (lexes : Lexes rest later) : Lexes (spelling.toList ++ rest) (kind :: later) := by
  cases spelled with
  | name isName =>
      obtain ⟨first, more, shape, starts, goes⟩ := isName.shape
      have ends : ∀ character ∈ rest.head?, continuesName character = false :=
        fun character isNext => continuesName_of_blank (parted character isNext)
      have noKeyword := isName.ofSpelling?_eq_none
      exact (lexes_name_iff shape noKeyword starts goes ends).mpr ⟨later, rfl, lexes⟩
  | @integer number small =>
      have ends : ∀ character ∈ rest.head?, character.isDigit = false ∧ character ≠ '.' := by
        intro character isNext
        have blank := parted character isNext
        refine ⟨isDigit_of_blank blank, ?_⟩
        rintro rfl
        exact absurd blank (by decide)
      have decimals : (toString number).toList = Nat.toDigits 10 number := Nat.toList_repr
      rw [decimals]
      exact (lexes_decimals_iff small ends).mpr ⟨later, rfl, lexes⟩
  | text isQuote content =>
      rw [String.toList_ofList, List.cons_append, List.append_assoc, List.singleton_append]
      refine (lexes_quoted_iff isQuote content.toList).mpr ⟨later, ?_, lexes⟩
      rw [String.ofList_toList]
  | keyword keyword =>
      have ends : ∀ character ∈ rest.head?, continuesName character = false :=
        fun character isNext => continuesName_of_blank (parted character isNext)
      exact (lexes_keyword_iff ends).mpr ⟨later, rfl, lexes⟩
  | symbol symbol =>
      have shown : Symbol.atStart? (symbol.spelling.toList ++ rest) = some symbol := by
        rw [atStart?_append_parted parted, atStart?_spelling]
      refine (lexes_symbol_iff shown).mpr ⟨later, rfl, ?_⟩
      rwa [List.drop_left]

end

/-- The words of a text of spellings with blanks between them are those that are spelled. -/
theorem lexes_intercalate {kinds : List Kind} {spellings : List String}
    (spelled : List.Forall₂ IsSpelled kinds spellings) :
    Lexes (" ".intercalate spellings).toList kinds := by
  rw [String.toList_intercalate]
  induction spelled with
  | nil => exact lexes_nil_iff.mpr rfl
  | @cons kind spelling kinds spellings first others inductionHypothesis =>
      cases others with
      | nil =>
          have parted : IsParted [] := by
            rintro _ ⟨⟩
          have alone := first.lexes parted (lexes_nil_iff.mpr rfl)
          simpa using alone
      | cons second more =>
          have space : Text.isBlank ' ' := rfl
          have behind := (lexes_blank_iff space).mpr inductionHypothesis
          have whole := first.lexes (isParted_cons space _) behind
          simpa using whole

/-- Cutting a text into words undoes spelling them with blanks between: it gives exactly these words
and then the end of the line. -/
theorem tokenize_intercalate {kinds : List Kind} {spellings : List String}
    (spelled : List.Forall₂ IsSpelled kinds spellings) (line : Nat) :
    (tokenize (" ".intercalate spellings) line).map (·.map (·.kind)) =
      .ok (kinds ++ [.lineEnd]) := by
  obtain ⟨tokens, found, spells⟩ := (lexes_intercalate spelled).tokenize line
  rw [found, ← spells.map_kind]
  rfl

/-- Words that would run into each other, a name that begins with a keyword, the largest integer and
a text with both kinds of quotes, which is spelled in each of them. -/
theorem tokenize_intercalate_neighbours :
    (tokenize (" ".intercalate ["/", "/", "=", "//=", "notable", "not", "9223372036854775807", ".",
      "'\\\\n\\'\"'", "\"\\\\n'\\\"\"", "ß2"]) 1).map (·.map (·.kind)) =
    .ok [.symbol .slash, .symbol .slash, .symbol .equal, .symbol .doubleSlashEqual, .name "notable",
      .keyword .kwNot, .integer 9223372036854775807, .symbol .dot, .text "\\n'\"", .text "\\n'\"",
      .name "ß2", .lineEnd] := by
  have notable : IsName "notable" :=
    ⟨⟨'n', ['o', 't', 'a', 'b', 'l', 'e'], rfl, by decide +kernel,
      List.all_eq_true.mp (by decide +kernel)⟩, by rintro ⟨⟩ <;> decide⟩
  have letter : IsName "ß2" :=
    ⟨⟨'ß', ['2'], rfl, by decide +kernel, List.all_eq_true.mp (by decide +kernel)⟩,
      by rintro ⟨⟩ <;> decide⟩
  have largest : IsSpelled (.integer 9223372036854775807) "9223372036854775807" :=
    .integer (Nat.le_refl mostInteger)
  have single : IsSpelled (.text "\\n'\"") "'\\\\n\\'\"'" := .text (.inl rfl) "\\n'\""
  have double : IsSpelled (.text "\\n'\"") "\"\\\\n'\\\"\"" := .text (.inr rfl) "\\n'\""
  exact tokenize_intercalate (.cons (.symbol .slash) <| .cons (.symbol .slash) <|
    .cons (.symbol .equal) <| .cons (.symbol .doubleSlashEqual) <| .cons (.name notable) <|
    .cons (.keyword .kwNot) <| .cons largest <| .cons (.symbol .dot) <| .cons single <|
    .cons double <| .cons (.name letter) .nil) 1

end Offside.Token
