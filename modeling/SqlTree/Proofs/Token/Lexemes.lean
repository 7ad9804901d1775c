import SqlTree.Token.Lexer

/-!
# Lexemes

Every scanner takes a piece off the start of a text and loses nothing: what it took and what it left
make the text again, and it took a character at least.
-/

namespace SqlTree

open Decimal Text

/-- A lexeme at the start of a text is a piece of it, and no end of the input. -/
structure Lexeme.Covers (lexeme : Lexeme) (source : List Char) : Prop where
  source : source = lexeme.text ++ lexeme.rest
  nonempty : lexeme.text ≠ []
  going : lexeme.kind ≠ .finish

section Scanners

variable {source rest : List Char}

/-- Text in quotes is split without a loss. -/
theorem eq_append_of_splitQuoted {quote : Char} {value text : List Char}
    (split : splitQuoted quote source = some (value, text, rest)) : source = text ++ rest := by
  fun_induction splitQuoted quote source generalizing value text rest with
  | case1 => cases split
  | case2 source inductionHypothesis =>
      obtain ⟨⟨_, _, _⟩, inner, same⟩ := Option.map_eq_some_iff.mp split
      cases same
      rw [inductionHypothesis inner, List.cons_append, List.cons_append]
  | case3 =>
      cases split
      rfl
  | case4 first second source _ inductionHypothesis =>
      obtain ⟨⟨_, _, _⟩, inner, same⟩ := Option.map_eq_some_iff.mp split
      cases same
      rw [inductionHypothesis inner, List.cons_append]
  | case5 =>
      cases split
      rfl
  | case6 => cases split

theorem eq_append_of_splitDigits {digits : List Char}
    (split : splitDigits source = (digits, rest)) : source = digits ++ rest := by
  cases split
  exact List.takeWhile_append_dropWhile.symm

/-- The characters of a fraction with its point, if there is one. -/
def fractionText (fraction : Option (List Char)) : List Char :=
  (fraction.map ('.' :: ·)).getD []

theorem eq_append_of_splitFraction {fraction : Option (List Char)}
    (split : splitFraction source = (fraction, rest)) : source = fractionText fraction ++ rest := by
  revert split
  fun_cases splitFraction source with
  | case1 digit source _ digits rest digitsSplit =>
      rintro ⟨⟩
      exact congrArg ('.' :: ·) (eq_append_of_splitDigits digitsSplit)
  | case2 =>
      rintro ⟨⟩
      rfl
  | case3 =>
      rintro ⟨⟩
      rfl

theorem eq_append_of_splitExponentMark {mark : List Char}
    (split : splitExponentMark source = (mark, rest)) : source = mark ++ rest := by
  revert split
  fun_cases splitExponentMark source <;>
    · rintro ⟨⟩
      rfl

/-- What starts a number has digits before a point or behind it. -/
theorem numberText_ne_nil (starts : startsNumber source = true)
    {whole behindWhole behind : List Char} {fraction : Option (List Char)}
    (wholeSplit : splitDigits source = (whole, behindWhole))
    (fractionSplit : splitFraction behindWhole = (fraction, behind)) :
    whole ++ fractionText fraction ≠ [] := by
  intro empty
  obtain ⟨rfl, noFraction⟩ := List.append_eq_nil_iff.mp empty
  obtain rfl : source = behindWhole := eq_append_of_splitDigits wholeSplit
  have noDigits : source.takeWhile Char.isDigit = [] := congrArg Prod.fst wholeSplit
  fun_cases startsNumber source with
  | case1 first second source =>
      have other : ¬ first.isDigit = true := by
        intro digit
        rw [List.takeWhile_cons_of_pos digit] at noDigits
        cases noDigits
      obtain ⟨rfl, digit⟩ : first = '.' ∧ second.isDigit = true := by
        simpa [startsNumber, other] using starts
      rw [splitFraction, if_pos digit] at fractionSplit
      cases fractionSplit
      cases noFraction
  | case2 first =>
      have digit : first.isDigit = true := starts
      rw [List.takeWhile_cons_of_pos digit] at noDigits
      cases noDigits
  | case3 => cases starts

theorem numberKind_ne_finish (whole : List Char) (fraction : Option (List Char))
    (exponent : Option Int) : numberKind whole fraction exponent ≠ .finish := by
  fun_cases numberKind whole fraction exponent <;> exact nofun

theorem scanNumber_covers (starts : startsNumber source = true) :
    (scanNumber source).Covers source := by
  fun_cases scanNumber source with
  | case1 whole behindWhole wholeSplit fraction behind fractionSplit text rest markSplit =>
      refine ⟨?_, numberText_ne_nil starts wholeSplit fractionSplit, numberKind_ne_finish _ _ _⟩
      rw [eq_append_of_splitDigits wholeSplit, eq_append_of_splitFraction fractionSplit,
        eq_append_of_splitExponentMark markSplit, List.nil_append, ← List.append_assoc]
      rfl
  | case2 whole behindWhole wholeSplit fraction behind fractionSplit text mark behindMark _
      markSplit rest digitsSplit =>
      have nonempty : text ≠ [] := numberText_ne_nil starts wholeSplit fractionSplit
      refine ⟨?_, List.append_ne_nil_of_left_ne_nil nonempty _, nofun⟩
      rw [eq_append_of_splitDigits wholeSplit, eq_append_of_splitFraction fractionSplit,
        eq_append_of_splitExponentMark markSplit, eq_append_of_splitDigits digitsSplit,
        List.nil_append, ← List.append_assoc, ← List.append_assoc]
      rfl
  | case3 whole behindWhole wholeSplit fraction behind fractionSplit text mark behindMark _
      markSplit digits rest _ digitsSplit =>
      have nonempty : text ≠ [] := numberText_ne_nil starts wholeSplit fractionSplit
      refine ⟨?_, ?_, numberKind_ne_finish _ _ _⟩
      · rw [eq_append_of_splitDigits wholeSplit, eq_append_of_splitFraction fractionSplit,
          eq_append_of_splitExponentMark markSplit, eq_append_of_splitDigits digitsSplit]
        simp only [text, fractionText, List.append_assoc]
      · exact List.append_ne_nil_of_left_ne_nil (List.append_ne_nil_of_left_ne_nil nonempty _) _

theorem scanString_covers (source : List Char) :
    (scanString source).Covers ('\x27' :: source) := by
  fun_cases scanString source with
  | case1 value text rest split =>
      refine ⟨?_, List.cons_ne_nil _ _, nofun⟩
      rw [eq_append_of_splitQuoted split, List.cons_append]
  | case2 => exact ⟨(List.append_nil _).symm, List.cons_ne_nil _ _, nofun⟩

theorem scanQuotedName_covers (source : List Char) :
    (scanQuotedName source).Covers ('\x22' :: source) := by
  fun_cases scanQuotedName source with
  | case1 text rest split =>
      refine ⟨?_, List.cons_ne_nil _ _, nofun⟩
      rw [eq_append_of_splitQuoted split, List.cons_append]
  | case2 value text rest _ split =>
      refine ⟨?_, List.cons_ne_nil _ _, nofun⟩
      rw [eq_append_of_splitQuoted split, List.cons_append]
  | case3 => exact ⟨(List.append_nil _).symm, List.cons_ne_nil _ _, nofun⟩

theorem scanParameter_covers (source : List Char) :
    (scanParameter source).Covers ('$' :: source) := by
  fun_cases scanParameter source with
  | case1 digits rest split kind =>
      refine ⟨?_, List.cons_ne_nil _ _, ?_⟩
      · rw [eq_append_of_splitDigits split, List.cons_append]
      · simp only [kind]
        split <;> exact nofun

theorem scanSymbol_covers (first : Char) (rest : List Char) :
    (scanSymbol first rest).Covers (first :: rest) := by
  fun_cases scanSymbol first rest with
  | case1 text symbol found =>
      have listed : (text, symbol) ∈ symbolSpellings := List.mem_of_find?_eq_some found
      have isPrefix : text <+: first :: rest :=
        List.isPrefixOf_iff_prefix.mp (by simpa using List.find?_some found)
      refine ⟨(List.prefix_iff_eq_append.mp isPrefix).symm, ?_, nofun⟩
      have spelled : ∀ entry ∈ symbolSpellings, entry.1 ≠ [] := by decide
      exact spelled _ listed
  | case2 => exact ⟨rfl, List.cons_ne_nil _ _, nofun⟩

theorem wordKind_ne_finish (word : List Char) : wordKind word ≠ .finish := by
  fun_cases wordKind word <;> exact nofun

theorem isWordPart_of_isWordStart {character : Char} (starts : isWordStart character = true) :
    isWordPart character = true := by
  unfold isWordStart at starts
  unfold isWordPart isAlphanumeric
  revert starts
  cases isAlphabetic character <;> cases character == '_' <;> simp

/-- What stands behind a gap starts with a lexeme. -/
theorem scanLexeme_covers (first : Char) (rest : List Char) :
    (scanLexeme first rest).Covers (first :: rest) := by
  fun_cases scanLexeme first rest with
  | case1 quote =>
      rw [quote]
      exact scanString_covers rest
  | case2 _ quote =>
      rw [quote]
      exact scanQuotedName_covers rest
  | case3 _ _ dollar =>
      rw [dollar]
      exact scanParameter_covers rest
  | case4 _ _ _ starts => exact scanNumber_covers starts
  | case5 _ _ _ _ starts word =>
      refine ⟨List.takeWhile_append_dropWhile.symm, ?_, wordKind_ne_finish _⟩
      simp only [word, List.takeWhile_cons_of_pos (isWordPart_of_isWordStart starts)]
      exact List.cons_ne_nil _ _
  | case6 => exact scanSymbol_covers first rest

end Scanners

end SqlTree
