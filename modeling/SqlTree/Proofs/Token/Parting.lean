import SqlTree.Proofs.Token.Lexemes

/-!
# Texts parted by white space

White space is no part of a token. A lexeme is read in the same way when the text behind it is cut
anywhere and goes on with white space, or ends there: no scanner that stops before a character looks
further for what white space or the end of the text could be.
-/

namespace SqlTree

open Decimal Text

namespace Text

/-- A character is covered by one of the ranges. -/
theorem exists_range_of_covers {ranges : List CodeRange} {code : Nat}
    (covered : covers ranges code = true) :
    ∃ range ∈ ranges, range.first ≤ code ∧ code ≤ range.last := by
  induction ranges with
  | nil => cases covered
  | cons range ranges inductionHypothesis =>
      rw [covers] at covered
      split at covered
      · cases covered
      · next late =>
          rcases Bool.or_eq_true_iff.mp covered with inside | others
          · exact ⟨range, List.mem_cons_self, Nat.le_of_not_lt late, of_decide_eq_true inside⟩
          · obtain ⟨found, among, bounds⟩ := inductionHypothesis others
            exact ⟨found, List.mem_cons_of_mem range among, bounds⟩

/-- What holds of every code point of white space holds of every blank character. -/
theorem of_isBlank (Holds : Nat → Prop)
    (holds : ∀ range ∈ blankRanges, ∀ more < range.last + 1 - range.first,
      Holds (range.first + more)) {character : Char} (white : isBlank character = true) :
    Holds character.toNat := by
  obtain ⟨range, among, low, high⟩ := exists_range_of_covers white
  have found := holds range among (character.toNat - range.first) (by omega)
  rwa [Nat.add_sub_cancel' low] at found

theorem isAlphanumeric_of_isBlank {character : Char} (white : isBlank character = true) :
    isAlphanumeric character = false := by
  have apart : ∀ range ∈ blankRanges, ∀ more < range.last + 1 - range.first,
      (covers alphabeticRanges (range.first + more) || covers numericRanges (range.first + more))
        = false := by
    decide +kernel
  exact of_isBlank (fun code => (covers alphabeticRanges code || covers numericRanges code) = false)
    apart white

/-- White space is none of the characters that are no white space. -/
theorem ne_of_isBlank {blank character : Char} (white : isBlank blank = true)
    (other : isBlank character = false) : blank ≠ character := by
  rintro rfl
  rw [white] at other
  cases other

theorem isDigit_of_isBlank {character : Char} (white : isBlank character = true) :
    character.isDigit = false := by
  have apart : ∀ range ∈ blankRanges, ∀ more < range.last + 1 - range.first,
      ¬ (48 ≤ range.first + more ∧ range.first + more ≤ 57) := by
    decide
  have outside := of_isBlank (fun code => ¬ (48 ≤ code ∧ code ≤ 57)) apart white
  rw [Char.isDigit, Bool.and_eq_false_iff, decide_eq_false_iff_not, decide_eq_false_iff_not,
    ← Decidable.not_and_iff_not_or_not]
  exact outside

theorem isWordPart_of_isBlank {character : Char} (white : isBlank character = true) :
    isWordPart character = false := by
  have plain := isAlphanumeric_of_isBlank white
  have noLine : character ≠ '_' := ne_of_isBlank white rfl
  have noDollar : character ≠ '$' := ne_of_isBlank white rfl
  simp [isWordPart, plain, noLine, noDollar]

end Text

/-- A text is another one up to some place, and goes on with white space or ends there. -/
inductive Parted : (source cut : List Char) → Prop
  | ends {source : List Char} : Parted source []
  | here {source tail : List Char} {blank : Char} (white : isBlank blank = true) :
      Parted source (blank :: tail)
  | cons {source cut : List Char} (character : Char) (others : Parted source cut) :
      Parted (character :: source) (character :: cut)

namespace Parted

variable {source cut : List Char} {test : Char → Bool}

theorem append (front : List Char) (parted : Parted source cut) :
    Parted (front ++ source) (front ++ cut) := by
  induction front with
  | nil => exact parted
  | cons character front inductionHypothesis => exact .cons character inductionHypothesis

/-- What fails at the start of a text fails at the start of the other one, if it fails for white
space. -/
theorem head (parted : Parted source cut) {Holds : Char → Prop}
    (blanks : ∀ blank, isBlank blank = true → Holds blank)
    (holds : ∀ character ∈ source.head?, Holds character) :
    ∀ character ∈ cut.head?, Holds character := by
  cases parted with
  | ends => exact fun _ none => by cases none
  | here white =>
      rintro _ ⟨⟩
      exact blanks _ white
  | cons character others => exact holds

/-- A scanner that takes characters as long as they pass a test stops at the same place. -/
theorem splitWhile (blanks : ∀ blank, isBlank blank = true → test blank = false)
    {word rest : List Char} (taken : source.takeWhile test = word)
    (left : source.dropWhile test = rest) (parted : Parted rest cut) :
    (word ++ cut).takeWhile test = word ∧ (word ++ cut).dropWhile test = cut := by
  subst taken left
  have passes : ∀ character ∈ source.takeWhile test, test character = true :=
    fun _ among => List.all_eq_true.mp List.all_takeWhile _ among
  have stops : ∀ character ∈ cut.head?, test character = false := by
    refine parted.head blanks fun character first => ?_
    have failed := List.head?_dropWhile_not test source
    rw [first] at failed
    exact failed
  rw [List.takeWhile_append_of_pos passes, List.dropWhile_append_of_pos passes]
  cases cut with
  | nil => simp
  | cons character cut =>
      have failed : ¬ test character = true := by simp [stops character rfl]
      rw [List.takeWhile_cons_of_neg failed, List.dropWhile_cons_of_neg failed, List.append_nil]
      exact ⟨rfl, rfl⟩

end Parted

section Scanners

variable {source rest cut : List Char}

theorem splitDigits_cut {digits : List Char} (split : splitDigits source = (digits, rest))
    (parted : Parted rest cut) : splitDigits (digits ++ cut) = (digits, cut) := by
  obtain ⟨taken, left⟩ := Prod.mk.inj split
  obtain ⟨takenToo, leftToo⟩ := parted.splitWhile (fun _ => isDigit_of_isBlank) taken left
  rw [splitDigits, takenToo, leftToo]

/-- Where no point with a digit behind it comes next, there is no fraction. -/
theorem splitFraction_none
    (none : ∀ digit more, source = '.' :: digit :: more → digit.isDigit = false) :
    splitFraction source = (.none, source) := by
  fun_cases splitFraction source with
  | case1 digit more isDigit => simp [none digit more rfl] at isDigit
  | case2 => rfl
  | case3 => rfl

theorem splitFraction_cut {fraction : Option (List Char)}
    (split : splitFraction source = (fraction, rest)) (parted : Parted rest cut) :
    splitFraction (fractionText fraction ++ cut) = (fraction, cut) := by
  have absent (none : ∀ digit more, rest = '.' :: digit :: more → digit.isDigit = false) :
      splitFraction cut = (.none, cut) := by
    refine splitFraction_none fun digit more same => ?_
    cases parted with
    | ends => cases same
    | here white =>
        cases same
        cases white
    | cons character others =>
        cases same
        cases others with
        | here white => exact isDigit_of_isBlank white
        | cons _ _ => exact none _ _ rfl
  revert split
  fun_cases splitFraction source with
  | case1 digit source isDigit digits behind digitsSplit =>
      rintro ⟨⟩
      have again := splitDigits_cut digitsSplit parted
      obtain ⟨more, rfl⟩ : ∃ more, digits = digit :: more := by
        obtain ⟨same, _⟩ := Prod.mk.inj digitsSplit
        rw [List.takeWhile_cons_of_pos isDigit] at same
        exact ⟨_, same.symm⟩
      change splitFraction ('.' :: digit :: (more ++ cut)) = _
      rw [splitFraction, if_pos isDigit]
      rw [List.cons_append] at again
      rw [again]
  | case2 digit source other =>
      rintro ⟨⟩
      exact absent fun _ _ same => by
        cases same
        simpa using other
  | case3 source other =>
      rintro ⟨⟩
      exact absent fun digit more same => (other digit more same).elim

/-- Where no exponent mark comes next, there is no exponent. -/
theorem splitExponentMark_none (none : ∀ mark ∈ source.head?, ¬ (mark = 'e' ∨ mark = 'E')) :
    splitExponentMark source = ([], source) := by
  fun_cases splitExponentMark source with
  | case1 mark sign _ isMark => exact absurd isMark (none mark rfl)
  | case2 mark sign _ isMark => exact absurd isMark (none mark rfl)
  | case3 => rfl
  | case4 mark isMark => exact absurd isMark (none mark rfl)
  | case5 => rfl
  | case6 => rfl

theorem splitExponentMark_cut_none (split : splitExponentMark source = ([], rest))
    (parted : Parted rest cut) : splitExponentMark cut = ([], cut) := by
  refine splitExponentMark_none (parted.head (fun blank white => ?_) ?_)
  · exact not_or.mpr ⟨ne_of_isBlank white rfl, ne_of_isBlank white rfl⟩
  · revert split
    fun_cases splitExponentMark source <;> rintro ⟨⟩ <;> simp_all

/-- An exponent mark ends before a digit, whatever comes behind the digit. -/
theorem splitExponentMark_digit {mark more : List Char} {digit : Char} (moreToo : List Char)
    (split : splitExponentMark source = (mark, digit :: more)) (isDigit : digit.isDigit = true)
    (nonempty : mark ≠ []) :
    splitExponentMark (mark ++ digit :: moreToo) = (mark, digit :: moreToo) := by
  have noSign : ¬ (digit = '+' ∨ digit = '-') := by
    rintro (rfl | rfl) <;> cases isDigit
  revert split
  fun_cases splitExponentMark source with
  | case1 letter sign _ isMark isSign =>
      rintro ⟨⟩
      change splitExponentMark (letter :: sign :: digit :: moreToo) = _
      rw [splitExponentMark, if_pos isMark, if_pos isSign]
  | case2 letter sign _ isMark =>
      rintro ⟨⟩
      change splitExponentMark (letter :: digit :: moreToo) = _
      rw [splitExponentMark, if_pos isMark, if_neg noSign]
  | case3 =>
      rintro ⟨⟩
      exact absurd rfl nonempty
  | case4 => exact nofun
  | case5 =>
      rintro ⟨⟩
      exact absurd rfl nonempty
  | case6 => exact nofun

/-- What starts a number starts one with more behind it. -/
theorem startsNumber_append {text : List Char} (starts : startsNumber text = true)
    (more : List Char) : startsNumber (text ++ more) = true := by
  rcases text with _ | ⟨first, _ | ⟨second, text⟩⟩
  · cases starts
  · have isDigit : first.isDigit = true := starts
    cases more <;> simp [startsNumber, isDigit]
  · exact starts

/-- The whole part and the fraction of a number start a number. -/
theorem startsNumber_parts (starts : startsNumber source = true) {whole behind : List Char}
    {fraction : Option (List Char)} (wholeSplit : splitDigits source = (whole, behind))
    (fractionSplit : splitFraction behind = (fraction, rest)) :
    startsNumber (whole ++ fractionText fraction) = true := by
  obtain ⟨wholeTaken, behindLeft⟩ := Prod.mk.inj wholeSplit
  cases whole with
  | nil =>
      have same : source = behind := eq_append_of_splitDigits wholeSplit
      subst same
      fun_cases startsNumber source with
      | case1 first second source =>
          have other : ¬ first.isDigit = true := by
            intro isDigit
            rw [List.takeWhile_cons_of_pos isDigit] at wholeTaken
            cases wholeTaken
          obtain ⟨rfl, isDigit⟩ : first = '.' ∧ second.isDigit = true := by
            simpa [startsNumber, other] using starts
          rw [splitFraction, if_pos isDigit, splitDigits, List.takeWhile_cons_of_pos isDigit]
            at fractionSplit
          cases fractionSplit
          simp [fractionText, startsNumber, isDigit]
      | case2 first =>
          have isDigit : first.isDigit = true := starts
          rw [List.takeWhile_cons_of_pos isDigit] at wholeTaken
          cases wholeTaken
      | case3 => cases starts
  | cons first more =>
      have among : first ∈ source.takeWhile Char.isDigit := by simp [wholeTaken]
      have isDigit : first.isDigit = true := List.all_eq_true.mp List.all_takeWhile _ among
      have one : startsNumber [first] = true := isDigit
      exact startsNumber_append one (more ++ fractionText fraction)

/-- The text of a number starts a number. -/
theorem startsNumber_scanNumber (starts : startsNumber source = true) :
    startsNumber (scanNumber source).text = true := by
  fun_cases scanNumber source with
  | case1 whole behindWhole wholeSplit fraction behind fractionSplit =>
      exact startsNumber_parts starts wholeSplit fractionSplit
  | case2 whole behindWhole wholeSplit fraction behind fractionSplit =>
      exact startsNumber_append (startsNumber_parts starts wholeSplit fractionSplit) _
  | case3 whole behindWhole wholeSplit fraction behind fractionSplit =>
      exact startsNumber_append
        (startsNumber_append (startsNumber_parts starts wholeSplit fractionSplit) _) _

/-- A number is read in the same way, if it is one. -/
theorem scanNumber_cut (valid : ∀ message, (scanNumber source).kind ≠ .invalid message)
    (parted : Parted (scanNumber source).rest cut) :
    scanNumber ((scanNumber source).text ++ cut) = { scanNumber source with rest := cut } := by
  revert valid parted
  fun_cases scanNumber source with
  | case1 whole behindWhole wholeSplit fraction behind fractionSplit text rest markSplit =>
      intro _ parted
      have behindSame : behind = rest := eq_append_of_splitExponentMark markSplit
      have markToo := splitExponentMark_cut_none markSplit parted
      rw [← behindSame] at parted
      have fractionToo := splitFraction_cut fractionSplit parted
      have wholeParted : Parted behindWhole (fractionText fraction ++ cut) := by
        rw [eq_append_of_splitFraction fractionSplit]
        exact parted.append _
      have wholeToo := splitDigits_cut wholeSplit wholeParted
      have split : text ++ cut = whole ++ (fractionText fraction ++ cut) := List.append_assoc _ _ _
      rw [split, scanNumber]
      simp only [wholeToo, fractionToo, markToo]
      rfl
  | case2 => exact fun valid => absurd rfl (valid _)
  | case3 whole behindWhole wholeSplit fraction behind fractionSplit text mark behindMark marked
      markSplit digits rest found digitsSplit =>
      intro _ parted
      obtain ⟨letter, marks, rfl⟩ := List.exists_cons_of_ne_nil marked
      obtain ⟨digit, more, rfl⟩ := List.exists_cons_of_ne_nil found
      have among : digit ∈ behindMark.takeWhile Char.isDigit := by
        rw [(Prod.mk.inj digitsSplit).1]
        exact List.mem_cons_self
      have isDigit : digit.isDigit = true := List.all_eq_true.mp List.all_takeWhile _ among
      have digitsToo := splitDigits_cut digitsSplit parted
      rw [eq_append_of_splitDigits digitsSplit] at markSplit
      have markToo := splitExponentMark_digit (more ++ cut) markSplit isDigit
        (List.cons_ne_nil _ _)
      have behindParted : Parted behind (letter :: marks ++ (digit :: more ++ cut)) := by
        rw [eq_append_of_splitExponentMark markSplit]
        exact (parted.append _).append _
      have fractionToo := splitFraction_cut fractionSplit behindParted
      have wholeParted : Parted behindWhole
          (fractionText fraction ++ (letter :: marks ++ (digit :: more ++ cut))) := by
        rw [eq_append_of_splitFraction fractionSplit]
        exact behindParted.append _
      have wholeToo := splitDigits_cut wholeSplit wholeParted
      have split : text ++ letter :: marks ++ digit :: more ++ cut
          = whole ++ (fractionText fraction ++ (letter :: marks ++ (digit :: more ++ cut))) := by
        simp only [text, fractionText, List.append_assoc]
      rw [split, scanNumber]
      simp only [wholeToo, fractionToo]
      simp only [List.cons_append] at markToo digitsToo ⊢
      simp only [markToo, digitsToo]
      rfl

/-- A quote that is not doubled closes what is in quotes. -/
theorem splitQuoted_close {quote : Char} (closes : ∀ next ∈ source.head?, next ≠ quote) :
    splitQuoted quote (quote :: source) = some ([], [quote], source) := by
  cases source with
  | nil => simp [splitQuoted]
  | cons next source => simp [splitQuoted, closes next rfl]

/-- Text in quotes is split in the same way, if the quote is no white space. -/
theorem splitQuoted_cut {quote : Char} (mark : isBlank quote = false) {value text : List Char}
    (split : splitQuoted quote source = some (value, text, rest)) (parted : Parted rest cut) :
    splitQuoted quote (text ++ cut) = some (value, text, cut) := by
  have closes {left : List Char} (partedLeft : Parted left cut)
      (stops : ∀ next ∈ left.head?, next ≠ quote) : ∀ next ∈ cut.head?, next ≠ quote :=
    partedLeft.head (fun _ white => ne_of_isBlank white mark) stops
  fun_induction splitQuoted quote source generalizing value text rest with
  | case1 => cases split
  | case2 source inductionHypothesis =>
      obtain ⟨⟨inner, taken, left⟩, found, same⟩ := Option.map_eq_some_iff.mp split
      cases same
      have again := inductionHypothesis found parted
      simp [splitQuoted, again]
  | case3 second source other =>
      cases split
      exact splitQuoted_close (closes parted (by simpa using other))
  | case4 first second source other inductionHypothesis =>
      obtain ⟨⟨inner, taken, left⟩, found, same⟩ := Option.map_eq_some_iff.mp split
      cases same
      have again := inductionHypothesis found parted
      have nonempty : taken ++ cut ≠ [] := by
        intro empty
        rw [empty, splitQuoted] at again
        cases again
      obtain ⟨next, more, follows⟩ := List.exists_cons_of_ne_nil nonempty
      rw [follows] at again
      rw [List.cons_append, follows, splitQuoted, if_neg other, again]
      rfl
  | case5 =>
      cases split
      exact splitQuoted_close (closes parted (by simp))
  | case6 => cases split

theorem scanString_cut (valid : ∀ message, (scanString source).kind ≠ .invalid message)
    (parted : Parted (scanString source).rest cut) {more : List Char}
    (text : (scanString source).text = '\x27' :: more) :
    scanString (more ++ cut) = { scanString source with rest := cut } := by
  revert valid parted text
  fun_cases scanString source with
  | case1 value taken rest split =>
      rintro _ parted ⟨⟩
      rw [scanString, splitQuoted_cut rfl split parted]
  | case2 => exact fun valid => absurd rfl (valid _)

theorem scanQuotedName_cut (valid : ∀ message, (scanQuotedName source).kind ≠ .invalid message)
    (parted : Parted (scanQuotedName source).rest cut) {more : List Char}
    (text : (scanQuotedName source).text = '\x22' :: more) :
    scanQuotedName (more ++ cut) = { scanQuotedName source with rest := cut } := by
  revert valid parted text
  fun_cases scanQuotedName source with
  | case1 => exact fun valid => absurd rfl (valid _)
  | case2 value taken rest nonempty split =>
      rintro _ parted ⟨⟩
      obtain ⟨first, others, rfl⟩ := List.exists_cons_of_ne_nil nonempty
      rw [scanQuotedName, splitQuoted_cut rfl split parted]
  | case3 => exact fun valid => absurd rfl (valid _)

theorem scanParameter_cut (parted : Parted (scanParameter source).rest cut) {more : List Char}
    (text : (scanParameter source).text = '$' :: more) :
    scanParameter (more ++ cut) = { scanParameter source with rest := cut } := by
  revert parted text
  fun_cases scanParameter source with
  | case1 digits rest split kind =>
      rintro parted ⟨⟩
      rw [scanParameter, splitDigits_cut split parted]

/-- A short text without white space at the start of a parted text is at the start of the text
itself, if what was read of it is not longer than one character. -/
theorem Parted.prefix_of_prefix {first : Char} {more entry : List Char}
    (parted : Parted rest cut) (same : first :: source = first :: more ++ rest)
    (short : entry.length ≤ 2) (plain : ∀ character ∈ entry, isBlank character = false)
    (starts : entry <+: first :: (more ++ cut)) : entry <+: first :: source := by
  rw [same]
  rcases entry with _ | ⟨one, _ | ⟨two, _ | ⟨three, others⟩⟩⟩
  · exact List.nil_prefix
  · simpa using starts
  · obtain ⟨rfl, behind⟩ := List.cons_prefix_cons.mp starts
    cases more with
    | cons next more => simpa using behind
    | nil =>
        cases parted with
        | ends => cases List.prefix_nil.mp behind
        | here white =>
            obtain ⟨rfl, _⟩ := List.cons_prefix_cons.mp behind
            simp [plain two (by simp)] at white
        | cons character others => simpa using behind
  · simp at short

/-- No symbol is spelled with white space. -/
theorem isBlank_of_symbolSpellings {entry : List Char × Symbol} (among : entry ∈ symbolSpellings)
    {character : Char} (inside : character ∈ entry.1) : isBlank character = false := by
  have all : symbolSpellings.all fun entry => entry.1.all fun character => !isBlank character := by
    decide
  simpa using List.all_eq_true.mp (List.all_eq_true.mp all entry among) character inside

/-- A symbol is read in the same way: a longer one that starts with it would go on with what is no
white space. -/
theorem scanSymbol_cut {first : Char}
    (valid : ∀ message, (scanSymbol first source).kind ≠ .invalid message)
    (parted : Parted (scanSymbol first source).rest cut) {more : List Char}
    (text : (scanSymbol first source).text = first :: more) :
    scanSymbol first (more ++ cut) = { scanSymbol first source with rest := cut } := by
  revert valid parted text
  fun_cases scanSymbol first source with
  | case1 spelled symbol found =>
      rintro _ parted rfl
      obtain ⟨isPrefix, early, late, listed, missed⟩ := List.find?_eq_some_iff_append.mp found
      have same : first :: source = first :: more ++ (first :: source).drop (more.length + 1) :=
        (List.prefix_iff_eq_append.mp (List.isPrefixOf_iff_prefix.mp isPrefix)).symm
      have short : ∀ entry ∈ symbolSpellings, entry.1.length ≤ 2 := by decide
      have plain : ∀ entry ∈ symbolSpellings, ∀ character ∈ entry.1, isBlank character = false :=
        fun entry among character inside => isBlank_of_symbolSpellings among inside
      have again : symbolSpellings.find? (fun entry => entry.1.isPrefixOf (first :: (more ++ cut)))
          = some (first :: more, symbol) := by
        refine List.find?_eq_some_iff_append.mpr ⟨?_, early, late, listed, fun entry among => ?_⟩
        · rw [List.isPrefixOf_iff_prefix, ← List.cons_append]
          exact List.prefix_append _ _
        · have inside : entry ∈ symbolSpellings := by simp [listed, among]
          have other := missed entry among
          rw [Bool.not_eq_true', ← Bool.not_eq_true, List.isPrefixOf_iff_prefix] at other ⊢
          exact fun starts => other
            (parted.prefix_of_prefix same (short entry inside) (plain entry inside) starts)
      rw [scanSymbol, again]
      simp
  | case2 => exact fun valid => absurd rfl (valid _)

/-- What starts no number starts none where the text is parted behind the first character. -/
theorem startsNumber_cut {first : Char} (other : startsNumber (first :: source) = false)
    (parted : Parted source cut) : startsNumber (first :: cut) = false := by
  have noDigit : first.isDigit = false := by
    cases source with
    | nil => exact other
    | cons second source => exact (Bool.or_eq_false_iff.mp other).1
  cases parted with
  | ends => exact noDigit
  | here white => simp [startsNumber, noDigit, isDigit_of_isBlank white]
  | cons character others => exact other

/-- A lexeme is read in the same way where the text behind it is parted, unless it is an error. -/
theorem scanLexeme_cut {first : Char}
    (valid : ∀ message, (scanLexeme first source).kind ≠ .invalid message)
    (parted : Parted (scanLexeme first source).rest cut) :
    ∃ more, first :: more = (scanLexeme first source).text ∧
      scanLexeme first (more ++ cut) = { scanLexeme first source with rest := cut } := by
  have covers := scanLexeme_covers first source
  obtain ⟨other, more, text⟩ := List.exists_cons_of_ne_nil covers.nonempty
  have whole : first :: source = other :: (more ++ (scanLexeme first source).rest) := by
    rw [← List.cons_append, ← text]
    exact covers.source
  obtain ⟨rfl, behind⟩ := List.cons.inj whole
  refine ⟨more, text.symm, ?_⟩
  have partedBehind : Parted source (more ++ cut) := by
    rw [behind]
    exact parted.append more
  clear covers whole behind
  unfold scanLexeme at valid parted text ⊢
  by_cases quote : first = '\x27'
  · subst quote
    exact scanString_cut valid parted text
  simp only [if_neg quote] at valid parted text ⊢
  by_cases doubled : first = '\x22'
  · subst doubled
    exact scanQuotedName_cut valid parted text
  simp only [if_neg doubled] at valid parted text ⊢
  by_cases dollar : first = '$'
  · subst dollar
    exact scanParameter_cut parted text
  simp only [if_neg dollar] at valid parted text ⊢
  by_cases number : startsNumber (first :: source) = true
  · simp only [if_pos number] at valid parted text ⊢
    have numberToo : startsNumber (first :: more ++ cut) = true := by
      rw [← text]
      exact startsNumber_append (startsNumber_scanNumber number) cut
    rw [← List.cons_append, if_pos numberToo, ← text]
    exact scanNumber_cut valid parted
  have otherNumber := startsNumber_cut (Bool.eq_false_iff.mpr number) partedBehind
  simp only [if_neg number, otherNumber] at valid parted text ⊢
  by_cases word : isWordStart first = true
  · simp only [if_pos word] at valid parted text ⊢
    obtain ⟨taken, left⟩ := parted.splitWhile (fun _ => isWordPart_of_isBlank) text rfl
    rw [List.cons_append] at taken left
    simp only [taken, left, text]
    rfl
  · simp only [if_neg word] at valid parted text ⊢
    exact scanSymbol_cut valid parted text

end Scanners

end SqlTree
