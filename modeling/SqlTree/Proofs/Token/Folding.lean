import Mathlib.Data.List.Find
import SqlTree.Proofs.Token.Separators

/-!
# Letters in either case

Outside of quotes the letters A to Z mean the same in either case. A text is folded by putting them
in lower case. Every scanner takes from the folded text what it takes from the text itself, folded;
and it makes the same token of it, unless the token is in quotes. Words may mix these letters with
any others: the lower case of a word, with its final sigmas, is that of the folded word.
-/

namespace SqlTree

open Decimal Text

namespace Text

/-- The letters A to Z. -/
def capitals : List Char := (List.range 26).map fun place => Char.ofNat (65 + place)

theorem mem_capitals {character : Char} (low : 65 ≤ character.toNat)
    (high : character.toNat ≤ 90) : character ∈ capitals := by
  refine List.mem_map.mpr ⟨character.toNat - 65, List.mem_range.mpr (by omega), ?_⟩
  rw [Nat.add_sub_cancel' low, Char.ofNat_toNat]

/-- Only capitals change in lower case. -/
theorem mem_capitals_of_toLower_ne {character : Char} (changes : character.toLower ≠ character) :
    character ∈ capitals := by
  unfold Char.toLower at changes
  split at changes
  · next bounds => exact mem_capitals bounds.1 bounds.2
  · exact absurd rfl changes

/-- Capitals are letters, and start words. -/
theorem capitals_letters (letter : Char) (capital : letter ∈ capitals) : letter.isDigit = false ∧
    letter.isAlpha = true ∧ letter.toLower.isAlpha = true ∧ isWordStart letter = true := by
  have all : capitals.all fun letter => !letter.isDigit && (letter.isAlpha &&
      (letter.toLower.isAlpha && isWordStart letter)) := by
    decide +kernel
  simpa only [Bool.and_eq_true, Bool.not_eq_true'] using List.all_eq_true.mp all letter capital

/-- What the reader of tokens asks of a character. -/
structure Traits where
  isBlank : Bool
  isDigit : Bool
  isWordStart : Bool
  isWordPart : Bool
  isExponentMark : Bool
  isCased : Bool
  isCaseIgnorable : Bool
  lower : List Char
  upper : Char
  size : Nat
deriving DecidableEq

/-- The traits of a character. -/
def traits (character : Char) : Traits where
  isBlank := isBlank character
  isDigit := character.isDigit
  isWordStart := isWordStart character
  isWordPart := isWordPart character
  isExponentMark := decide (character = 'e' ∨ character = 'E')
  isCased := isCased character
  isCaseIgnorable := isCaseIgnorable character
  lower := lowerCharacter character
  upper := character.toUpper
  size := character.utf8Size

theorem traits_toLower (character : Char) : traits character.toLower = traits character := by
  have all : capitals.all fun letter => traits letter.toLower = traits letter := by decide +kernel
  by_cases changes : character.toLower = character
  · rw [changes]
  · exact of_decide_eq_true (List.all_eq_true.mp all _ (mem_capitals_of_toLower_ne changes))

section Traits

variable (character : Char)

@[simp] theorem isBlank_toLower : isBlank character.toLower = isBlank character :=
  congrArg Traits.isBlank (traits_toLower character)

@[simp] theorem isDigit_toLower : character.toLower.isDigit = character.isDigit :=
  congrArg Traits.isDigit (traits_toLower character)

@[simp] theorem isWordStart_toLower : isWordStart character.toLower = isWordStart character :=
  congrArg Traits.isWordStart (traits_toLower character)

@[simp] theorem isWordPart_toLower : isWordPart character.toLower = isWordPart character :=
  congrArg Traits.isWordPart (traits_toLower character)

@[simp] theorem isCased_toLower : isCased character.toLower = isCased character :=
  congrArg Traits.isCased (traits_toLower character)

@[simp] theorem isCaseIgnorable_toLower :
    isCaseIgnorable character.toLower = isCaseIgnorable character :=
  congrArg Traits.isCaseIgnorable (traits_toLower character)

@[simp] theorem lowerCharacter_toLower :
    lowerCharacter character.toLower = lowerCharacter character :=
  congrArg Traits.lower (traits_toLower character)

@[simp] theorem toUpper_toLower : character.toLower.toUpper = character.toUpper :=
  congrArg Traits.upper (traits_toLower character)

@[simp] theorem utf8Size_toLower : character.toLower.utf8Size = character.utf8Size :=
  congrArg Traits.size (traits_toLower character)

theorem isExponentMark_toLower : (character.toLower = 'e' ∨ character.toLower = 'E') ↔
    (character = 'e' ∨ character = 'E') :=
  decide_eq_decide.mp (congrArg Traits.isExponentMark (traits_toLower character))

end Traits

theorem toLower_of_isDigit {character : Char} (isDigit : character.isDigit = true) :
    character.toLower = character := by
  refine Decidable.byContradiction fun changes => ?_
  rw [(capitals_letters character (mem_capitals_of_toLower_ne changes)).1] at isDigit
  cases isDigit

/-- A character that is no letter is the lower case of itself alone. -/
theorem toLower_eq_iff {character mark : Char} (plain : mark.isAlpha = false) :
    character.toLower = mark ↔ character = mark := by
  by_cases changes : character.toLower = character
  · rw [changes]
  · obtain ⟨_, letter, letterToo, _⟩ :=
      capitals_letters character (mem_capitals_of_toLower_ne changes)
    constructor <;>
    · rintro rfl
      simp_all

end Text

/-! ## Scanners -/

section Scanners

variable {source : List Char}

theorem utf8Length_map_toLower (text : List Char) :
    utf8Length (text.map Char.toLower) = utf8Length text := by
  induction text with
  | nil => rfl
  | cons character text inductionHypothesis =>
      rw [List.map_cons, utf8Length, utf8Length, utf8Size_toLower, inductionHypothesis]

/-- A scanner that takes characters as long as they pass a test takes the same of a folded text. -/
theorem takeWhile_map_toLower {test : Char → Bool}
    (same : ∀ character, test character.toLower = test character) (source : List Char) :
    (source.map Char.toLower).takeWhile test = (source.takeWhile test).map Char.toLower ∧
      (source.map Char.toLower).dropWhile test = (source.dropWhile test).map Char.toLower := by
  have folded : test ∘ Char.toLower = test := funext same
  rw [List.takeWhile_map, List.dropWhile_map, folded]
  exact ⟨rfl, rfl⟩

/-- A folded text starts with a mark only where the text does. -/
theorem exists_eq_cons_of_map_toLower {mark : Char} (plain : mark.isAlpha = false)
    {folded : List Char} (starts : source.map Char.toLower = mark :: folded) :
    ∃ rest, source = mark :: rest := by
  obtain ⟨first, rest, rfl, same, _⟩ := List.map_eq_cons_iff.mp starts
  exact ⟨rest, congrArg (· :: rest) ((toLower_eq_iff plain).mp same)⟩

theorem contains_map_toLower {mark : Char} (plain : mark.isAlpha = false) (text : List Char) :
    (text.map Char.toLower).contains mark = text.contains mark := by
  rw [Bool.eq_iff_iff]
  simp [toLower_eq_iff plain]

theorem splitGap_map_toLower (state : GapState) (source : List Char) :
    splitGap state (source.map Char.toLower) =
      ((splitGap state source).1.map Char.toLower, (splitGap state source).2.map Char.toLower) := by
  fun_induction splitGap state source with
  | case1 source gap rest split inductionHypothesis =>
      rw [split] at inductionHypothesis
      change splitGap .between ('-' :: '-' :: _) = _
      rw [splitGap, inductionHypothesis]
      rfl
  | case2 source gap rest split inductionHypothesis =>
      rw [split] at inductionHypothesis
      change splitGap .between ('/' :: '*' :: _) = _
      rw [splitGap, inductionHypothesis]
      rfl
  | case3 character source _ _ white gap rest split inductionHypothesis =>
      rw [split] at inductionHypothesis
      rw [List.map_cons, splitGap_blank (by rwa [isBlank_toLower]), inductionHypothesis]
      rfl
  | case4 character source noLine noBlock black =>
      rw [List.map_cons, splitGap]
      · rw [isBlank_toLower, if_neg black]
        rfl
      · intro folded first second
        obtain ⟨rest, rfl⟩ := exists_eq_cons_of_map_toLower rfl second
        exact noLine rest ((toLower_eq_iff rfl).mp first) rfl
      · intro folded first second
        obtain ⟨rest, rfl⟩ := exists_eq_cons_of_map_toLower rfl second
        exact noBlock rest ((toLower_eq_iff rfl).mp first) rfl
  | case5 character source gap rest split inductionHypothesis =>
      rw [split] at inductionHypothesis
      have newline : character.toLower = '\n' ↔ character = '\n' := toLower_eq_iff rfl
      simp only [List.map_cons, splitGap_inLine, newline]
      rw [inductionHypothesis]
  | case6 source gap rest split inductionHypothesis =>
      rw [split] at inductionHypothesis
      change splitGap .blockComment ('*' :: '/' :: _) = _
      rw [splitGap, inductionHypothesis]
      rfl
  | case7 character source other gap rest split inductionHypothesis =>
      rw [split] at inductionHypothesis
      rw [List.map_cons, splitGap_inBlock, inductionHypothesis]
      · rfl
      · intro first second
        obtain ⟨folded, second⟩ := List.head?_eq_some_iff.mp second
        obtain ⟨rest, rfl⟩ := exists_eq_cons_of_map_toLower rfl second
        exact other rest ((toLower_eq_iff rfl).mp first) rfl
  | case8 => simp [splitGap]

theorem splitQuoted_map_toLower {quote : Char} (plain : quote.isAlpha = false)
    (source : List Char) :
    splitQuoted quote (source.map Char.toLower) = (splitQuoted quote source).map fun parts =>
      (parts.1.map Char.toLower, parts.2.1.map Char.toLower, parts.2.2.map Char.toLower) := by
  have quoteToo : quote.toLower = quote := (toLower_eq_iff plain).mpr rfl
  fun_induction splitQuoted quote source with
  | case1 => rfl
  | case2 source inductionHypothesis =>
      rw [List.map_cons, List.map_cons, quoteToo, splitQuoted, if_pos rfl, if_pos rfl,
        inductionHypothesis, Option.map_map, Option.map_map]
      refine congrArg (Option.map · _) (funext fun parts => ?_)
      simp [quoteToo]
  | case3 second source other =>
      rw [List.map_cons, List.map_cons, quoteToo, splitQuoted, if_pos rfl,
        if_neg (by rwa [toLower_eq_iff plain])]
      simp [quoteToo]
  | case4 first second source other inductionHypothesis =>
      rw [List.map_cons, List.map_cons, splitQuoted, if_neg (by rwa [toLower_eq_iff plain]),
        ← List.map_cons, inductionHypothesis, Option.map_map, Option.map_map]
      rfl
  | case5 => simp [splitQuoted, quoteToo]
  | case6 last other =>
      rw [List.map_singleton, splitQuoted, if_neg (by rwa [toLower_eq_iff plain])]
      rfl

/-- Digits have one case. -/
theorem map_toLower_splitDigits (source : List Char) :
    (splitDigits source).1.map Char.toLower = (splitDigits source).1 := by
  refine (List.map_congr_left fun digit among => ?_).trans (List.map_id _)
  exact toLower_of_isDigit (List.all_eq_true.mp List.all_takeWhile _ among)

theorem splitDigits_map_toLower (source : List Char) :
    splitDigits (source.map Char.toLower) =
      ((splitDigits source).1, (splitDigits source).2.map Char.toLower) := by
  obtain ⟨taken, left⟩ := takeWhile_map_toLower isDigit_toLower source
  rw [splitDigits, taken, left]
  exact congrArg (·, _) (map_toLower_splitDigits source)

theorem splitFraction_map_toLower (source : List Char) :
    splitFraction (source.map Char.toLower) =
      ((splitFraction source).1, (splitFraction source).2.map Char.toLower) := by
  fun_cases splitFraction source with
  | case1 digit source isDigit digits rest split =>
      have folded := splitDigits_map_toLower (digit :: source)
      rw [split, List.map_cons, toLower_of_isDigit isDigit] at folded
      change splitFraction ('.' :: digit.toLower :: _) = _
      rw [splitFraction, toLower_of_isDigit isDigit, if_pos isDigit, folded]
  | case2 digit source other =>
      change splitFraction ('.' :: digit.toLower :: _) = _
      rw [splitFraction, if_neg (by rwa [isDigit_toLower])]
      rfl
  | case3 source other =>
      refine splitFraction_none fun digit more starts => ?_
      obtain ⟨rest, rfl⟩ := exists_eq_cons_of_map_toLower rfl starts
      obtain ⟨next, behind, rfl, _⟩ := List.map_eq_cons_iff.mp (List.cons.inj starts).2
      exact absurd rfl (other next behind)

/-- A fraction has digits only. -/
theorem map_toLower_splitFraction (source : List Char) :
    (fractionText (splitFraction source).1).map Char.toLower =
      fractionText (splitFraction source).1 := by
  fun_cases splitFraction source with
  | case1 digit source isDigit digits rest split =>
      have folded := map_toLower_splitDigits (digit :: source)
      rw [split] at folded
      exact congrArg ('.' :: ·) folded
  | case2 digit source other => rfl
  | case3 source other => rfl

theorem splitExponentMark_map_toLower (source : List Char) :
    splitExponentMark (source.map Char.toLower) =
      ((splitExponentMark source).1.map Char.toLower,
        (splitExponentMark source).2.map Char.toLower) := by
  have signs (sign : Char) :
      (sign.toLower = '+' ∨ sign.toLower = '-') ↔ (sign = '+' ∨ sign = '-') :=
    or_congr (toLower_eq_iff rfl) (toLower_eq_iff rfl)
  rcases source with _ | ⟨mark, _ | ⟨sign, rest⟩⟩
  · rfl
  · simp only [List.map_cons, List.map_nil, splitExponentMark, isExponentMark_toLower]
    split <;> rfl
  · simp only [List.map_cons, splitExponentMark, isExponentMark_toLower, signs]
    split
    · split <;> rfl
    · rfl

theorem startsNumber_map_toLower (source : List Char) :
    startsNumber (source.map Char.toLower) = startsNumber source := by
  have point (first : Char) : (first.toLower == '.') = (first == '.') := by
    rw [Bool.eq_iff_iff, beq_iff_eq, beq_iff_eq]
    exact toLower_eq_iff rfl
  rcases source with _ | ⟨first, _ | ⟨second, rest⟩⟩
  · rfl
  · exact isDigit_toLower first
  · simp [startsNumber, point]

theorem nextIsCased_map_toLower (text : List Char) :
    nextIsCased (text.map Char.toLower) = nextIsCased text := by
  rw [nextIsCased, nextIsCased, (takeWhile_map_toLower isCaseIgnorable_toLower text).2]
  cases text.dropWhile isCaseIgnorable with
  | nil => rfl
  | cons character behind => exact isCased_toLower character

/-- A word has the lower case of the folded word, final sigmas included. -/
theorem lowerFrom_map_toLower (before after : List Char) :
    lowerFrom (before.map Char.toLower) (after.map Char.toLower) = lowerFrom before after := by
  induction after generalizing before with
  | nil => rfl
  | cons character after inductionHypothesis =>
      have sigma : character.toLower = 'Σ' ↔ character = 'Σ' := toLower_eq_iff rfl
      have others := inductionHypothesis (character :: before)
      rw [List.map_cons] at others
      simp only [List.map_cons, lowerFrom, nextIsCased_map_toLower, lowerCharacter_toLower, sigma,
        others]

theorem wordKind_map_toLower (word : List Char) :
    wordKind (word.map Char.toLower) = wordKind word := by
  have lowered : lower (word.map Char.toLower) = lower word := lowerFrom_map_toLower [] word
  have keyword : Keyword.ofWord? (word.map Char.toLower) = Keyword.ofWord? word := by
    have raised : Char.toUpper ∘ Char.toLower = Char.toUpper := funext toUpper_toLower
    rw [Keyword.ofWord?, List.map_map, raised]
    rfl
  rw [wordKind, wordKind, lowered, keyword]

/-- A text starts with a text without letters just where the folded text does. -/
theorem isPrefixOf_map_toLower {entry : List Char}
    (plain : ∀ mark ∈ entry, mark.isAlpha = false) (source : List Char) :
    entry.isPrefixOf (source.map Char.toLower) = entry.isPrefixOf source := by
  induction entry generalizing source with
  | nil => rfl
  | cons mark entry inductionHypothesis =>
      obtain ⟨plainMark, plainEntry⟩ := List.forall_mem_cons.mp plain
      cases source with
      | nil => rfl
      | cons first source =>
          have same : (mark == first.toLower) = (mark == first) := by
            rw [Bool.eq_iff_iff, beq_iff_eq, beq_iff_eq, eq_comm, toLower_eq_iff plainMark, eq_comm]
          rw [List.map_cons, List.isPrefixOf, List.isPrefixOf, same,
            inductionHypothesis plainEntry source]

/-- A text without letters is the folded form of itself alone. -/
theorem map_toLower_eq_iff {marks : List Char} (plain : ∀ mark ∈ marks, mark.isAlpha = false) :
    source.map Char.toLower = marks ↔ source = marks := by
  induction marks generalizing source with
  | nil => exact List.map_eq_nil_iff
  | cons mark marks inductionHypothesis =>
      obtain ⟨plainMark, plainMarks⟩ := List.forall_mem_cons.mp plain
      cases source with
      | nil => simp
      | cons first source =>
          rw [List.map_cons, List.cons.injEq, List.cons.injEq, toLower_eq_iff plainMark,
            inductionHypothesis plainMarks]

theorem isNumeral_map_toLower (text : List Char) :
    isNumeral (text.map Char.toLower) = isNumeral text := by
  have digits : Char.isDigit ∘ Char.toLower = Char.isDigit := funext isDigit_toLower
  rw [isNumeral, isNumeral, List.isEmpty_map, List.all_map, digits]

/-! ### Spans -/

theorem dropBytes_map_toLower (count : Nat) (text : List Char) :
    dropBytes count (text.map Char.toLower) =
      (dropBytes count text).map (List.map Char.toLower) := by
  fun_induction dropBytes count text with
  | case1 text => rw [dropBytes.eq_1, Option.map_some]
  | case2 count => rw [List.map_nil, dropBytes, Option.map_none]
  | case3 count character text fits inductionHypothesis =>
      rw [List.map_cons, dropBytes, utf8Size_toLower, if_pos fits, inductionHypothesis]
  | case4 count character text wide =>
      rw [List.map_cons, dropBytes, utf8Size_toLower, if_neg wide, Option.map_none]

theorem takeBytes_map_toLower (count : Nat) (text : List Char) :
    takeBytes count (text.map Char.toLower) =
      (takeBytes count text).map (List.map Char.toLower) := by
  fun_induction takeBytes count text with
  | case1 text => rw [takeBytes.eq_1, Option.map_some, List.map_nil]
  | case2 count => rw [List.map_nil, takeBytes, Option.map_none]
  | case3 count character text fits inductionHypothesis =>
      rw [List.map_cons, takeBytes, utf8Size_toLower, if_pos fits, inductionHypothesis,
        Option.map_map, Option.map_map]
      rfl
  | case4 count character text wide =>
      rw [List.map_cons, takeBytes, utf8Size_toLower, if_neg wide, Option.map_none]

/-- Under a span of a folded text stands the folded text under the span. -/
theorem textUnder?_map_toLower (text : List Char) (span : Span) :
    textUnder? (text.map Char.toLower) span =
      (textUnder? text span).map (List.map Char.toLower) := by
  rw [textUnder?, textUnder?]
  split
  · rw [dropBytes_map_toLower]
    cases dropBytes span.start text with
    | none => rfl
    | some behind => exact takeBytes_map_toLower _ behind
  · rfl

end Scanners

/-! ## Lexemes -/

/-- Whether a token is in quotes: a string literal, or a name behind a quote. -/
def isQuoted (kind : TokenKind) (text : List Char) : Bool :=
  match kind with
  | .string _ => true
  | .identifier _ => text.head? == some '\x22'
  | _ => false

/-- A lexeme of a text and that of the folded text. -/
structure Lexeme.Folds (lexeme folded : Lexeme) : Prop where
  text : folded.text = lexeme.text.map Char.toLower
  rest : folded.rest = lexeme.rest.map Char.toLower
  quoted : isQuoted folded.kind folded.text = isQuoted lexeme.kind lexeme.text
  kind : isQuoted lexeme.kind lexeme.text = false → folded.kind = lexeme.kind

namespace Lexeme.Folds

/-- A quote is at the start of a folded text just where it is at the start of the text. -/
theorem isQuoted_map_toLower (kind : TokenKind) (text : List Char) :
    isQuoted kind (text.map Char.toLower) = isQuoted kind text := by
  cases kind with
  | identifier name =>
      rw [isQuoted, isQuoted, Bool.eq_iff_iff, beq_iff_eq, beq_iff_eq]
      cases text with
      | nil => rfl
      | cons first text => simp [toLower_eq_iff]
  | _ => rfl

/-- Where the same token is made of both, there is nothing to say about quotes. -/
theorem of_kind {lexeme folded : Lexeme} (kind : folded.kind = lexeme.kind)
    (text : folded.text = lexeme.text.map Char.toLower)
    (rest : folded.rest = lexeme.rest.map Char.toLower) : lexeme.Folds folded := by
  refine ⟨text, rest, ?_, fun _ => kind⟩
  rw [kind, text, isQuoted_map_toLower]

variable {source : List Char}

/-- The whole part and the fraction of a number have one case. -/
theorem map_toLower_parts {whole behindWhole behind : List Char} {fraction : Option (List Char)}
    (wholeSplit : splitDigits source = (whole, behindWhole))
    (fractionSplit : splitFraction behindWhole = (fraction, behind)) :
    (whole ++ fractionText fraction).map Char.toLower = whole ++ fractionText fraction := by
  have digits := map_toLower_splitDigits source
  have decimals := map_toLower_splitFraction behindWhole
  rw [wholeSplit] at digits
  rw [fractionSplit] at decimals
  rw [List.map_append, digits, decimals]

theorem scanNumber (source : List Char) :
    (scanNumber source).Folds (scanNumber (source.map Char.toLower)) := by
  have wholeToo := splitDigits_map_toLower source
  fun_cases SqlTree.scanNumber source with
  | case1 whole behindWhole wholeSplit fraction behind fractionSplit text rest markSplit =>
      have fractionToo := splitFraction_map_toLower behindWhole
      have markToo := splitExponentMark_map_toLower behind
      have same : text.map Char.toLower = text := map_toLower_parts wholeSplit fractionSplit
      rw [wholeSplit] at wholeToo
      rw [fractionSplit] at fractionToo
      rw [markSplit] at markToo
      rw [SqlTree.scanNumber]
      simp only [wholeToo, fractionToo, markToo]
      exact of_kind rfl same.symm rfl
  | case2 whole behindWhole wholeSplit fraction behind fractionSplit text mark behindMark marked
      markSplit rest digitsSplit =>
      obtain ⟨letter, marks, rfl⟩ := List.exists_cons_of_ne_nil marked
      have fractionToo := splitFraction_map_toLower behindWhole
      have markToo := splitExponentMark_map_toLower behind
      have digitsToo := splitDigits_map_toLower behindMark
      have same : text.map Char.toLower = text := map_toLower_parts wholeSplit fractionSplit
      rw [wholeSplit] at wholeToo
      rw [fractionSplit] at fractionToo
      rw [markSplit] at markToo
      rw [digitsSplit] at digitsToo
      rw [SqlTree.scanNumber]
      simp only [List.map_cons] at markToo
      simp only [wholeToo, fractionToo, markToo, digitsToo]
      refine of_kind rfl ?_ rfl
      rw [List.map_append, same]
      rfl
  | case3 whole behindWhole wholeSplit fraction behind fractionSplit text mark behindMark marked
      markSplit digits rest found digitsSplit =>
      obtain ⟨letter, marks, rfl⟩ := List.exists_cons_of_ne_nil marked
      obtain ⟨digit, more, rfl⟩ := List.exists_cons_of_ne_nil found
      have fractionToo := splitFraction_map_toLower behindWhole
      have markToo := splitExponentMark_map_toLower behind
      have digitsToo := splitDigits_map_toLower behindMark
      have same : text.map Char.toLower = text := map_toLower_parts wholeSplit fractionSplit
      have sameDigits := map_toLower_splitDigits behindMark
      have negative : ((letter :: marks).map Char.toLower).contains '-' =
          (letter :: marks).contains '-' := contains_map_toLower rfl _
      rw [wholeSplit] at wholeToo
      rw [fractionSplit] at fractionToo
      rw [markSplit] at markToo
      rw [digitsSplit] at digitsToo sameDigits
      rw [SqlTree.scanNumber]
      simp only [List.map_cons] at markToo negative
      simp only [wholeToo, fractionToo, markToo, digitsToo, negative]
      refine of_kind rfl ?_ rfl
      rw [List.map_append, List.map_append, same, sameDigits]
      rfl

theorem scanParameter (source : List Char) :
    (scanParameter source).Folds (scanParameter (source.map Char.toLower)) := by
  have same := map_toLower_splitDigits source
  rw [SqlTree.scanParameter, SqlTree.scanParameter, splitDigits_map_toLower]
  refine of_kind rfl ?_ rfl
  dsimp only
  rw [List.map_cons, same]
  rfl

theorem scanSymbol {first : Char} (plain : isWordStart first = false) (rest : List Char) :
    (scanSymbol first rest).Folds (scanSymbol first.toLower (rest.map Char.toLower)) := by
  have single : first.toLower = first := by
    refine Decidable.byContradiction fun changes => ?_
    rw [(capitals_letters first (mem_capitals_of_toLower_ne changes)).2.2.2] at plain
    cases plain
  have marks : symbolSpellings.all fun entry => entry.1.all fun mark => !mark.isAlpha := by decide
  have plainEntries : ∀ entry ∈ symbolSpellings, ∀ mark ∈ entry.1, mark.isAlpha = false := by
    simpa using marks
  have found : symbolSpellings.find? (fun entry =>
        entry.1.isPrefixOf (first.toLower :: rest.map Char.toLower)) =
      symbolSpellings.find? fun entry => entry.1.isPrefixOf (first :: rest) := by
    refine List.find?_congr fun entry among => ?_
    exact isPrefixOf_map_toLower (plainEntries entry among) (first :: rest)
  rw [SqlTree.scanSymbol, SqlTree.scanSymbol, found]
  cases taken : symbolSpellings.find? fun entry => entry.1.isPrefixOf (first :: rest) with
  | none =>
      refine of_kind ?_ ?_ rfl
      · rw [single]
      · rw [single, List.map_singleton, single]
  | some entry =>
      obtain ⟨text, symbol⟩ := entry
      have listed := List.mem_of_find?_eq_some taken
      have same : text.map Char.toLower = text := by
        refine (List.map_congr_left fun mark among => ?_).trans (List.map_id _)
        exact (toLower_eq_iff (plainEntries _ listed mark among)).mpr rfl
      refine of_kind rfl same.symm ?_
      rw [List.map_drop, List.map_cons]

theorem scanString (source : List Char) :
    (scanString source).Folds (scanString (source.map Char.toLower)) := by
  have split : splitQuoted '\x27' (source.map Char.toLower) = _ :=
    splitQuoted_map_toLower rfl source
  fun_cases SqlTree.scanString source with
  | case1 value text rest found =>
      rw [found] at split
      rw [SqlTree.scanString, split]
      exact ⟨rfl, rfl, rfl, fun plain => by cases plain⟩
  | case2 found =>
      rw [found] at split
      rw [SqlTree.scanString, split]
      exact of_kind rfl rfl rfl

theorem scanQuotedName (source : List Char) :
    (scanQuotedName source).Folds (scanQuotedName (source.map Char.toLower)) := by
  have split : splitQuoted '\x22' (source.map Char.toLower) = _ :=
    splitQuoted_map_toLower rfl source
  fun_cases SqlTree.scanQuotedName source with
  | case1 text rest found =>
      rw [found] at split
      rw [SqlTree.scanQuotedName, split]
      exact of_kind rfl rfl rfl
  | case2 value text rest nonempty found =>
      obtain ⟨first, value, rfl⟩ := List.exists_cons_of_ne_nil nonempty
      rw [found] at split
      rw [SqlTree.scanQuotedName, split]
      exact ⟨rfl, rfl, rfl, fun plain => by cases plain⟩
  | case3 found =>
      rw [found] at split
      rw [SqlTree.scanQuotedName, split]
      exact of_kind rfl rfl rfl

theorem scanLexeme (first : Char) (rest : List Char) :
    (scanLexeme first rest).Folds (scanLexeme first.toLower (rest.map Char.toLower)) := by
  have number := startsNumber_map_toLower (first :: rest)
  rw [List.map_cons] at number
  have single : first.toLower = '\x27' ↔ first = '\x27' := toLower_eq_iff rfl
  have double : first.toLower = '\x22' ↔ first = '\x22' := toLower_eq_iff rfl
  have dollar : first.toLower = '$' ↔ first = '$' := toLower_eq_iff rfl
  simp only [SqlTree.scanLexeme, single, double, dollar, number, isWordStart_toLower]
  split
  · exact scanString rest
  · split
    · exact scanQuotedName rest
    · split
      · exact scanParameter rest
      · split
        · exact scanNumber (first :: rest)
        · split
          · have word := takeWhile_map_toLower isWordPart_toLower (first :: rest)
            rw [List.map_cons] at word
            rw [word.1, word.2]
            exact of_kind (wordKind_map_toLower _) rfl rfl
          · next other => exact scanSymbol (Bool.eq_false_iff.mpr other) rest

end Lexeme.Folds

/-- What is in quotes is no error. -/
theorem ne_invalid_of_isQuoted {kind : TokenKind} {text : List Char}
    (quoted : isQuoted kind text = true) (message : String) : kind ≠ .invalid message := by
  rintro rfl
  cases quoted

section Recased

variable {first firstToo : Char} {rest restToo : List Char}

/-- Lexemes that are no errors are the same token, if they have the same text. -/
theorem scanLexeme_kind_of_text
    (valid : ∀ message, (scanLexeme first rest).kind ≠ .invalid message)
    (validToo : ∀ message, (scanLexeme firstToo restToo).kind ≠ .invalid message)
    (text : (scanLexeme firstToo restToo).text = (scanLexeme first rest).text) :
    (scanLexeme firstToo restToo).kind = (scanLexeme first rest).kind := by
  -- Both are read in the same way when a blank follows.
  have parted (source : List Char) : Parted source [' '] := .here (by decide)
  obtain ⟨more, taken, again⟩ := scanLexeme_cut valid (parted _)
  obtain ⟨moreToo, takenToo, againToo⟩ := scanLexeme_cut validToo (parted _)
  obtain ⟨rfl, rfl⟩ := List.cons.inj (takenToo.trans (text.trans taken.symm))
  have same : Lexeme.kind _ = Lexeme.kind _ := congrArg Lexeme.kind (againToo.symm.trans again)
  exact same

/-- Lexemes of texts that differ in the case of letters alone differ in nothing else. -/
theorem scanLexeme_of_folded
    (folded : (firstToo :: restToo).map Char.toLower = (first :: rest).map Char.toLower) :
    (scanLexeme firstToo restToo).text.map Char.toLower =
        (scanLexeme first rest).text.map Char.toLower ∧
      (scanLexeme firstToo restToo).rest.map Char.toLower =
        (scanLexeme first rest).rest.map Char.toLower ∧
      ((isQuoted (scanLexeme first rest).kind (scanLexeme first rest).text = true →
          (scanLexeme firstToo restToo).text = (scanLexeme first rest).text) →
        (scanLexeme firstToo restToo).kind = (scanLexeme first rest).kind) := by
  obtain ⟨firsts, rests⟩ := List.cons.inj folded
  have folds := Lexeme.Folds.scanLexeme first rest
  have foldsToo := Lexeme.Folds.scanLexeme firstToo restToo
  rw [firsts, rests] at foldsToo
  refine ⟨foldsToo.text.symm.trans folds.text, foldsToo.rest.symm.trans folds.rest,
    fun quoted => ?_⟩
  cases inQuotes : isQuoted (scanLexeme first rest).kind (scanLexeme first rest).text with
  | true =>
      have inQuotesToo := foldsToo.quoted.symm.trans (folds.quoted.trans inQuotes)
      exact scanLexeme_kind_of_text (ne_invalid_of_isQuoted inQuotes)
        (ne_invalid_of_isQuoted inQuotesToo) (quoted inQuotes)
  | false =>
      have otherwise := foldsToo.quoted.symm.trans (folds.quoted.trans inQuotes)
      rw [← folds.kind inQuotes, foldsToo.kind otherwise]

end Recased

/-- Whether a token of a text is in quotes. -/
def Token.isQuoted (source : List Char) (token : Token) : Bool :=
  (textUnder? source token.span).any (SqlTree.isQuoted token.kind)

/-- A text differs from another one in the case of the letters A to Z alone, and not in quotes. -/
structure Recased (text other : String) : Prop where
  folded : other.toList.map Char.toLower = text.toList.map Char.toLower
  quoted : ∀ token ∈ tokenize text, token.isQuoted text.toList = true →
    textUnder? other.toList token.span = textUnder? text.toList token.span

/-- Texts that differ in the case of letters alone are equally long. -/
theorem utf8Length_of_folded {text other : List Char}
    (folded : other.map Char.toLower = text.map Char.toLower) :
    utf8Length other = utf8Length text := by
  rw [← utf8Length_map_toLower, folded, utf8Length_map_toLower]

/-- The same tokens are read in texts that differ in the case of letters alone, if those in quotes
have the same text. -/
theorem Lexer.tokensWithin_of_folded {fuel : Nat} {before beforeToo source other : List Char}
    (befores : utf8Length beforeToo = utf8Length before)
    (sources : other.map Char.toLower = source.map Char.toLower)
    (quoted : ∀ token ∈ tokensWithin fuel ⟨source, utf8Length before⟩,
      token.isQuoted (before ++ source) = true →
        textUnder? (beforeToo ++ other) token.span = textUnder? (before ++ source) token.span) :
    tokensWithin fuel ⟨other, utf8Length beforeToo⟩ =
      tokensWithin fuel ⟨source, utf8Length before⟩ := by
  induction fuel generalizing before beforeToo source other with
  | zero => rfl
  | succ fuel inductionHypothesis =>
      have splits := (splitGap_map_toLower .between other).symm.trans
        ((congrArg _ sources).trans (splitGap_map_toLower .between source))
      obtain ⟨gaps, rests⟩ := Prod.mk.inj splits
      rcases split : splitGap .between source with ⟨gap, _ | ⟨first, rest⟩⟩ <;>
        rcases splitToo : splitGap .between other with ⟨gapToo, _ | ⟨firstToo, restToo⟩⟩ <;>
        rw [split, splitToo] at gaps rests
      · rw [tokensWithin_finish split, tokensWithin_finish splitToo, befores,
          utf8Length_of_folded gaps]
      · cases rests
      · cases rests
      · obtain ⟨texts, behinds, kinds⟩ := scanLexeme_of_folded rests
        have whole := source_eq_of_split split
        have wholeToo := source_eq_of_split splitToo
        have text := textUnder?_utf8Length (before ++ gap) (scanLexeme first rest).text
          (scanLexeme first rest).rest
        have textToo := textUnder?_utf8Length (beforeToo ++ gapToo)
          (scanLexeme firstToo restToo).text (scanLexeme firstToo restToo).rest
        simp only [List.append_assoc, ← whole, ← wholeToo, utf8Length_append, befores,
          utf8Length_of_folded gaps, utf8Length_of_folded texts] at text textToo
        rw [tokensWithin_lexeme split] at quoted
        obtain ⟨quotedHere, quotedBehind⟩ := List.forall_mem_cons.mp quoted
        rw [Token.isQuoted, text, textToo] at quotedHere
        have kind := kinds fun inQuotes => Option.some.inj (quotedHere inQuotes)
        have bytes : utf8Length (beforeToo ++ (gapToo ++ (scanLexeme firstToo restToo).text)) =
            utf8Length (before ++ (gap ++ (scanLexeme first rest).text)) := by
          simp only [utf8Length_append, befores, utf8Length_of_folded gaps,
            utf8Length_of_folded texts]
        have others := inductionHypothesis bytes behinds
        simp only [List.append_assoc, ← whole, ← wholeToo, bytes] at others
        simp only [utf8Length_append, ← Nat.add_assoc] at others
        rw [tokensWithin_lexeme split, tokensWithin_lexeme splitToo, befores,
          utf8Length_of_folded gaps, utf8Length_of_folded texts, kind, others quotedBehind]

/-- Texts that differ in the case of letters alone, and not in quotes, have the same tokens. -/
theorem tokenize_of_recased {text other : String} (recased : Recased text other) :
    tokenize other = tokenize text := by
  have lengths : other.toList.length = text.toList.length := by
    rw [← List.length_map Char.toLower, recased.folded, List.length_map]
  have start : utf8Length [] = utf8Length [] := rfl
  have read := Lexer.tokensWithin_of_folded start recased.folded recased.quoted
  rw [tokenize, Lexer.tokens, Lexer.ofText]
  dsimp only
  rw [lengths]
  exact read

end SqlTree
