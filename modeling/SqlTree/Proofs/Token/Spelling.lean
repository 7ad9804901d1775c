import SqlTree.Proofs.Token.Numerals
import SqlTree.Proofs.Token.Words

/-!
# Texts written from tokens

A text that is put together from words, numerals, delimiters and blanks has the tokens that it was
put together from, as long as no word or numeral goes on with what stands behind it.
-/

namespace SqlTree

open Decimal Text

/-- The symbols that are one character and start no longer one. -/
def delimiters : List (Char × Symbol) := [
  ('(', .leftParen), (')', .rightParen), ('[', .leftBracket), (']', .rightBracket), (',', .comma)]

/-- A delimiter is one token before any text, and no gap stands before it. -/
theorem scanLexeme_of_delimiter {first : Char} {mark : Symbol}
    (listed : (first, mark) ∈ delimiters) (rest : List Char) :
    splitGap .between (first :: rest) = ([], first :: rest) ∧
      scanLexeme first rest = ⟨.symbol mark, [first], rest⟩ := by
  have plain : ∀ entry ∈ delimiters, isBlank entry.1 = false ∧ isWordStart entry.1 = false ∧
      entry.1.isDigit = false ∧ entry.1 ∉ ['-', '/', '\x27', '\x22', '$', '.'] := by
    decide
  obtain ⟨black, noWord, noDigit, others⟩ := plain _ listed
  simp only [List.mem_cons, List.not_mem_nil, or_false, not_or] at others
  obtain ⟨noDash, noSlash, noQuote, noQuotes, noDollar, noDot⟩ := others
  constructor
  · apply splitGap_token (by rw [black]; exact Bool.false_ne_true)
    · exact fun dash => absurd dash noDash
    · exact fun slash => absurd slash noSlash
  · have noNumber : ¬ startsNumber (first :: rest) = true := by
      cases rest <;> simp [startsNumber, noDigit, noDot]
    rw [scanLexeme, if_neg noQuote, if_neg noQuotes, if_neg noDollar, if_neg noNumber,
      if_neg (by rw [noWord]; exact Bool.false_ne_true)]
    simp only [delimiters, List.mem_cons, List.not_mem_nil, or_false, Prod.mk.injEq] at listed
    rcases listed with ⟨rfl, rfl⟩ | ⟨rfl, rfl⟩ | ⟨rfl, rfl⟩ | ⟨rfl, rfl⟩ | ⟨rfl, rfl⟩ <;>
      simp [scanSymbol, symbolSpellings]

/-- Digits are one number where no more of it follows. -/
theorem scanLexeme_of_numeral {first : Char} {more behind : List Char}
    (numeral : isNumeral (first :: more) = true)
    (ends : ∀ next ∈ behind.head?, isWordPart next = false ∧ next ≠ '.') :
    scanLexeme first (more ++ behind)
      = ⟨numberKind (first :: more) none none, first :: more, behind⟩ := by
  obtain ⟨_, digits⟩ := isNumeral_iff.mp numeral
  have split : splitDigits (first :: more ++ behind) = (first :: more, behind) := by
    unfold splitDigits
    rw [List.takeWhile_append_of_pos digits, List.dropWhile_append_of_pos digits]
    cases behind with
    | nil => simp
    | cons next behind =>
        have noDigit : next.isDigit = false := by
          apply Bool.eq_false_iff.mpr
          intro digit
          have part := (ends next rfl).1
          rw [isWordPart_of_isDigit digit] at part
          cases part
        simp [noDigit]
  have fraction : splitFraction behind = (none, behind) := by
    unfold splitFraction
    split
    · exact absurd rfl (ends '.' rfl).2
    · rfl
  have exponent : splitExponentMark behind = ([], behind) := by
    have noMark {mark : Char} (found : behind.head? = some mark) : ¬ (mark = 'e' ∨ mark = 'E') := by
      have part := (ends mark found).1
      rintro (rfl | rfl) <;> exact absurd part (by decide)
    unfold splitExponentMark
    split
    · rw [if_neg (noMark rfl)]
    · rw [if_neg (noMark rfl)]
    · rfl
  rw [List.cons_append] at split
  rw [scanLexeme_of_isDigit (digits first List.mem_cons_self), scanNumber]
  simp only [split, fraction, exponent]
  simp

/-- A text is read as tokens of some kinds. -/
def IsReadAs (source : List Char) (kinds : List TokenKind) : Prop :=
  ∃ lexemes, Lexes source lexemes ∧ lexemes.map Prod.fst = kinds

namespace IsReadAs

variable {source behind : List Char} {kinds : List TokenKind}

/-- A lexeme behind a gap is a token of its kind. -/
theorem lexeme {gap rest text left : List Char} {first : Char} {kind : TokenKind}
    (split : splitGap .between source = (gap, first :: rest))
    (scan : scanLexeme first rest = ⟨kind, text, left⟩) (others : IsReadAs left kinds) :
    IsReadAs source (kind :: kinds) := by
  obtain ⟨lexemes, lexes, rfl⟩ := others
  refine ⟨_, .lexeme split (by rw [scan]; exact lexes), ?_⟩
  rw [scan, List.map_cons]

/-- White space at the start of a text is read as nothing. -/
theorem blank {blank : Char} (white : isBlank blank = true) (read : IsReadAs source kinds) :
    IsReadAs (blank :: source) kinds := by
  obtain ⟨lexemes, lexes, rfl⟩ := read
  refine ⟨lexemes, ?_, rfl⟩
  cases lexes with
  | finish split => exact .finish (by rw [splitGap_blank white, split])
  | lexeme split others => exact .lexeme (by rw [splitGap_blank white, split]) others

theorem delimiter {first : Char} {mark : Symbol} (listed : (first, mark) ∈ delimiters)
    (others : IsReadAs source kinds) : IsReadAs (first :: source) (.symbol mark :: kinds) := by
  obtain ⟨split, scan⟩ := scanLexeme_of_delimiter listed source
  exact .lexeme split scan others

theorem word {word : List Char} (isWord : IsWord word)
    (ends : ∀ next ∈ behind.head?, isWordPart next = false) (others : IsReadAs behind kinds) :
    IsReadAs (word ++ behind) (wordKind word :: kinds) := by
  obtain ⟨first, rest, rfl, starts⟩ := isWord.exists_cons
  exact .lexeme (IsWord.splitGap (rest ++ behind) starts) (isWord.scanLexeme ends) others

theorem numeral {digits : List Char} (numeral : isNumeral digits = true)
    (ends : ∀ next ∈ behind.head?, isWordPart next = false ∧ next ≠ '.')
    (others : IsReadAs behind kinds) :
    IsReadAs (digits ++ behind) (numberKind digits none none :: kinds) := by
  obtain ⟨nonempty, all⟩ := isNumeral_iff.mp numeral
  obtain ⟨first, rest, rfl⟩ := List.exists_cons_of_ne_nil nonempty
  have digit := all first List.mem_cons_self
  have split : splitGap .between (first :: (rest ++ behind)) = ([], first :: (rest ++ behind)) := by
    apply splitGap_token
    · intro white
      have part := isWordPart_of_isBlank white
      rw [isWordPart_of_isDigit digit] at part
      cases part
    · rintro rfl
      exact absurd digit (by decide)
    · rintro rfl
      exact absurd digit (by decide)
  exact .lexeme split (scanLexeme_of_numeral numeral ends) others

/-- The tokens of a text are of the kinds that it is read as. -/
theorem tokenize {text : String} (read : IsReadAs text.toList kinds) :
    (tokenize text).map Token.kind = kinds := by
  obtain ⟨lexemes, lexes, rfl⟩ := read
  obtain ⟨lexemesToo, lexesToo, shown⟩ :=
    Lexer.exists_lexes [] (Nat.lt_succ_self text.toList.length)
  rw [lexesToo.unique lexes] at shown
  have same := congrArg (List.map Prod.fst) shown
  rwa [List.map_map, List.map_map] at same

end IsReadAs

/-- Every text is read as tokens of some kinds. -/
theorem exists_isReadAs (source : List Char) : ∃ kinds, IsReadAs source kinds := by
  obtain ⟨lexemes, lexes, _⟩ := Lexer.exists_lexes [] (Nat.lt_succ_self source.length)
  exact ⟨_, lexemes, lexes, rfl⟩

/-- A dot that stands above nothing is no token. -/
theorem IsReadAs.dot {source : List Char} {kinds : List TokenKind} (others : IsReadAs source kinds) :
    ∃ message, IsReadAs ('\u0307' :: source) (.invalid message :: kinds) := by
  have split : splitGap .between ('\u0307' :: source) = ([], '\u0307' :: source) :=
    splitGap_token (by decide) nofun nofun
  have noNumber : ¬ startsNumber ('\u0307' :: source) = true := by
    cases source <;> simp [startsNumber]
  have scan : ∃ message, scanLexeme '\u0307' source = ⟨.invalid message, ['\u0307'], source⟩ := by
    rw [scanLexeme, if_neg (by decide), if_neg (by decide), if_neg (by decide), if_neg noNumber,
      if_neg (by decide)]
    exact ⟨"Unexpected character: \u0307", by simp [scanSymbol, symbolSpellings]⟩
  obtain ⟨message, scanned⟩ := scan
  exact ⟨message, .lexeme split scanned others⟩

/-- The name of a word with a capital I with a dot is no token as a whole, whatever stands behind
it. -/
theorem exists_invalid_of_dotted {word : List Char} (isWord : IsWord word) (dotted : 'İ' ∈ word)
    (behind : List Char) :
    ∃ kinds message, IsReadAs (lower word ++ behind) kinds ∧ .invalid message ∈ kinds := by
  have noPart : isWordPart '\u0307' = false := by decide
  have dot := dot_mem_lower dotted
  obtain ⟨image, more, shown, starts⟩ := isWord.exists_lower_cons
  have parts : (lower word).takeWhile isWordPart = image :: more.takeWhile isWordPart := by
    rw [shown, List.takeWhile_cons_of_pos (isWordPart_of_isWordStart starts)]
  have isWordToo : IsWord ((lower word).takeWhile isWordPart) :=
    ⟨⟨image, by rw [parts]; rfl, starts⟩, fun _ => List.mem_takeWhile_imp⟩
  have joined : (lower word).takeWhile isWordPart ++ (lower word).dropWhile isWordPart = lower word :=
    List.takeWhile_append_dropWhile
  have stops := List.head?_dropWhile_not isWordPart (lower word)
  cases left : (lower word).dropWhile isWordPart with
  | nil =>
      have part := List.dropWhile_eq_nil_iff.mp left _ dot
      rw [noPart] at part
      cases part
  | cons other back =>
      rw [left] at stops joined
      have stop : isWordPart other = false := stops
      have among : other ∈ lower word := by
        rw [← joined]
        exact List.mem_append_right _ List.mem_cons_self
      obtain rfl : other = '\u0307' := by
        by_contra noDot
        have noLetter : isAlphabetic other = false := by
          apply Bool.eq_false_iff.mpr
          intro letter
          simp [isWordPart, isAlphanumeric, letter] at stop
        have kept := isWord.parts other (mem_of_mem_lowerFrom [] noLetter noDot among)
        rw [stop] at kept
        cases kept
      obtain ⟨kinds, read⟩ := exists_isReadAs (back ++ behind)
      obtain ⟨message, invalid⟩ := read.dot
      have whole := IsReadAs.word isWordToo (by rintro next ⟨⟩; exact noPart) invalid
      rw [← List.cons_append, ← List.append_assoc, joined] at whole
      exact ⟨_, message, whole, List.mem_cons_of_mem _ List.mem_cons_self⟩

end SqlTree
