import SqlTree.Proofs.Token.Slices

/-!
# Numerals in a text

A token that shows digits only is the number that they write: an integer, or the nearest floating
point number where the integer is no bigint.
-/

namespace SqlTree

open Decimal

section Scanners

variable {source : List Char}

theorem isNumeral_iff {text : List Char} :
    isNumeral text = true ↔ text ≠ [] ∧ ∀ character ∈ text, character.isDigit = true := by
  simp [isNumeral]

/-- An exponent mark starts with a letter. -/
theorem mem_splitExponentMark {mark rest : List Char} (nonempty : mark ≠ [])
    (split : splitExponentMark source = (mark, rest)) :
    ∃ letter ∈ mark, letter.isDigit = false := by
  have letters {letter : Char} (isMark : letter = 'e' ∨ letter = 'E') :
      letter.isDigit = false := by
    rcases isMark with rfl | rfl <;> rfl
  revert split nonempty
  fun_cases splitExponentMark source with
  | case1 letter sign _ isMark =>
      rintro nonempty ⟨⟩
      exact ⟨letter, List.mem_cons_self, letters isMark⟩
  | case2 letter _ _ isMark =>
      rintro nonempty ⟨⟩
      exact ⟨letter, List.mem_cons_self, letters isMark⟩
  | case3 =>
      rintro nonempty ⟨⟩
      exact absurd rfl nonempty
  | case4 letter isMark =>
      rintro nonempty ⟨⟩
      exact ⟨letter, List.mem_cons_self, letters isMark⟩
  | case5 =>
      rintro nonempty ⟨⟩
      exact absurd rfl nonempty
  | case6 =>
      rintro nonempty ⟨⟩
      exact absurd rfl nonempty

/-- A number of digits only has neither a fraction nor an exponent. -/
theorem scanNumber_kind_of_numeral (numeral : isNumeral (scanNumber source).text = true) :
    (scanNumber source).kind = numberKind (scanNumber source).text none none := by
  have digits := (isNumeral_iff.mp numeral).2
  revert digits
  fun_cases scanNumber source with
  | case1 whole _ _ fraction _ _ _ _ _ =>
      intro digits
      cases fraction with
      | none =>
          have same : whole = whole ++ (Option.map ('.' :: ·) none).getD [] :=
            (List.append_nil whole).symm
          exact congrArg (numberKind · none none) same
      | some decimals =>
          have point : '.' ∈ whole ++ (Option.map ('.' :: ·) (some decimals)).getD [] := by simp
          exact absurd (digits '.' point) (by decide)
  | case2 _ _ _ _ _ _ _ mark _ nonempty markSplit =>
      intro digits
      obtain ⟨letter, among, other⟩ := mem_splitExponentMark nonempty markSplit
      have digit := digits letter (List.mem_append_right _ among)
      rw [other] at digit
      cases digit
  | case3 _ _ _ _ _ _ _ mark _ nonempty markSplit =>
      intro digits
      obtain ⟨letter, among, other⟩ := mem_splitExponentMark nonempty markSplit
      have digit := digits letter (List.mem_append_left _ (List.mem_append_right _ among))
      rw [other] at digit
      cases digit

/-- A digit starts a number. -/
theorem scanLexeme_of_isDigit {first : Char} (digit : first.isDigit = true) (rest : List Char) :
    scanLexeme first rest = scanNumber (first :: rest) := by
  have other {mark : Char} (plain : mark.isDigit = false) : first ≠ mark := by
    rintro rfl
    rw [plain] at digit
    cases digit
  have starts : startsNumber (first :: rest) = true := by
    cases rest <;> simp [startsNumber, digit]
  rw [scanLexeme, if_neg (other rfl), if_neg (other rfl), if_neg (other rfl), if_pos starts]

end Scanners

/-- The numeral of a bigint without a sign is read as the bigint. -/
theorem isNumeral_repr {value : Int64} (unsigned : 0 ≤ value.toInt) :
    isNumeral (Int.repr value.toInt).toList = true ∧
      numberKind (Int.repr value.toInt).toList none none = .integer value := by
  obtain ⟨magnitude, same⟩ := Int.eq_ofNat_of_zero_le unsigned
  have digits : (Int.repr value.toInt).toList = Nat.toDigits 10 magnitude := by
    rw [same]
    exact Nat.toList_repr
  have valued : numeralValue (Nat.toDigits 10 magnitude) = magnitude :=
    Nat.ofDigitChars_toDigits (by decide) (by decide)
  have fits : magnitude < 0x8000000000000000 := by
    have bound := value.toInt_lt
    omega
  rw [digits]
  constructor
  · rw [isNumeral_iff]
    exact ⟨Nat.toDigits_ne_nil, fun _ => Nat.isDigit_of_mem_toDigits (by decide) (by decide)⟩
  · rw [numberKind, if_pos (by rwa [valued]), valued]
    apply congrArg TokenKind.integer
    apply Int64.toInt_inj.mp
    rw [same]
    exact Int64.toInt_ofNat_of_lt fits

/-- A token that shows a numeral is the number that it writes. -/
theorem kind_of_numeral {text : String} {token : Token} {digits : List Char}
    (found : token ∈ tokenize text) (under : textUnder? text.toList token.span = some digits)
    (numeral : isNumeral digits = true) : token.kind = numberKind digits none none := by
  obtain ⟨nonempty, all⟩ := isNumeral_iff.mp numeral
  obtain ⟨first, more, rfl⟩ := List.exists_cons_of_ne_nil nonempty
  obtain ⟨rest, kind, shown⟩ := exists_lexeme_of_under found under
  rw [scanLexeme_of_isDigit (all first List.mem_cons_self)] at kind shown
  rw [shown] at numeral
  rw [kind, shown]
  exact scanNumber_kind_of_numeral numeral

end SqlTree
