import SqlTree.Proofs.Token.Lexemes

/-!
# What tokens of a text hold

A token that is read from a text is narrower than its type: a name has a character at least, and an
integer has no sign.
-/

namespace SqlTree

open Decimal Text

/-- Whether a token is one that a text can be read as. -/
def TokenKind.IsLexical : TokenKind → Prop
  | .integer value => 0 ≤ value.toInt
  | .identifier name => name ≠ ""
  | _ => True

section Words

/-- The other case of a character has a character at least, if its own list has. -/
theorem Text.mapCase_ne_nil {runs : List CaseShift} {expansions : List (Nat × List Nat)}
    (expanded : ∀ entry ∈ expansions, entry.2 ≠ []) (character : Char) :
    mapCase runs expansions character ≠ [] := by
  fun_cases mapCase runs expansions character with
  | case1 code codes found =>
      intro empty
      exact expanded _ (List.mem_of_find?_eq_some found) (List.map_eq_nil_iff.mp empty)
  | case2 => exact List.cons_ne_nil _ _
  | case3 => exact List.cons_ne_nil _ _

theorem Text.lower_ne_nil {word : List Char} (nonempty : word ≠ []) : lower word ≠ [] := by
  cases word with
  | nil => exact absurd rfl nonempty
  | cons first rest =>
      have expanded : ∀ entry ∈ lowercaseExpansions, entry.2 ≠ [] := by decide
      unfold lower lowerFrom
      apply List.append_ne_nil_of_left_ne_nil
      split
      · split <;> exact List.cons_ne_nil _ _
      · exact mapCase_ne_nil expanded first

/-- The name that a keyword stands for is not empty. -/
theorem Keyword.name_ne_empty (word : Keyword) : word.name ≠ "" := by
  apply mt String.ofList_eq_empty_iff.mp
  cases word <;> decide

theorem wordKind_isLexical {word : List Char} (nonempty : word ≠ []) :
    (wordKind word).IsLexical := by
  unfold wordKind
  split
  · trivial
  · exact mt String.ofList_eq_empty_iff.mp (lower_ne_nil nonempty)

/-- What stands for a name in a text is not the empty name. -/
theorem TokenKind.IsLexical.name_ne_empty {kind : TokenKind} {name : String}
    (lexical : kind.IsLexical) (named : kind.name? = some name) : name ≠ "" := by
  cases kind with
  | identifier written =>
      cases named
      exact lexical
  | keyword word =>
      rw [TokenKind.name?] at named
      split at named
      · cases named
      · cases named
        exact word.name_ne_empty
  | _ => cases named

end Words

section Scanners

/-- A numeral that fits in a bigint has no sign. -/
theorem numberKind_isLexical (whole : List Char) (fraction : Option (List Char))
    (exponent : Option Int) : (numberKind whole fraction exponent).IsLexical := by
  fun_cases numberKind whole fraction exponent with
  | case1 fits =>
      have same : (Int64.ofNat (numeralValue whole)).toInt = numeralValue whole :=
        Int64.toInt_ofNat_of_lt fits
      change 0 ≤ (Int64.ofNat (numeralValue whole)).toInt
      rw [same]
      exact Int.natCast_nonneg _
  | case2 => trivial
  | case3 => trivial

theorem scanNumber_isLexical (source : List Char) : (scanNumber source).kind.IsLexical := by
  fun_cases scanNumber source with
  | case1 => exact numberKind_isLexical _ _ _
  | case2 => trivial
  | case3 => exact numberKind_isLexical _ _ _

theorem scanQuotedName_isLexical (source : List Char) : (scanQuotedName source).kind.IsLexical := by
  fun_cases scanQuotedName source with
  | case1 => trivial
  | case2 value text rest nonempty => exact mt String.ofList_eq_empty_iff.mp nonempty
  | case3 => trivial

theorem scanLexeme_isLexical (first : Char) (rest : List Char) :
    (scanLexeme first rest).kind.IsLexical := by
  fun_cases scanLexeme first rest with
  | case1 =>
      unfold scanString
      split <;> trivial
  | case2 => exact scanQuotedName_isLexical rest
  | case3 =>
      unfold scanParameter
      dsimp only
      split <;> trivial
  | case4 => exact scanNumber_isLexical _
  | case5 _ _ _ _ starts word =>
      apply wordKind_isLexical
      simp only [word, List.takeWhile_cons_of_pos (isWordPart_of_isWordStart starts)]
      exact List.cons_ne_nil _ _
  | case6 =>
      unfold scanSymbol
      split <;> trivial

end Scanners

theorem Lexer.next_isLexical (lexer : Lexer) : lexer.next.1.kind.IsLexical := by
  fun_cases Lexer.next lexer with
  | case1 => trivial
  | case2 => exact scanLexeme_isLexical _ _

theorem Lexer.tokensWithin_isLexical (fuel : Nat) (lexer : Lexer) :
    ∀ token ∈ lexer.tokensWithin fuel, token.kind.IsLexical := by
  induction fuel generalizing lexer with
  | zero => exact nofun
  | succ fuel inductionHypothesis =>
      intro token among
      rw [tokensWithin] at among
      dsimp only at among
      split at among
      · rw [List.mem_singleton.mp among]
        exact lexer.next_isLexical
      · rcases List.mem_cons.mp among with rfl | among
        · exact lexer.next_isLexical
        · exact inductionHypothesis _ token among

/-- Every token of a text is one that a text can be read as. -/
theorem tokenize_isLexical (text : String) : ∀ token ∈ tokenize text, token.kind.IsLexical :=
  Lexer.tokensWithin_isLexical _ _

end SqlTree
