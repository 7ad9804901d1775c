import SqlTree.Proofs.Token.Spelling

/-!
# Tokens written out

Every token but a fractional number has texts of its own: a number is written in decimal, a string
or a name in quotes, a keyword in whatever case, and a symbol as it is spelled. Each of these texts
is one token as a whole, whatever stands in the quotes. A space parts it from what follows, so
tokens that are written out with a space between them are read back as they are.
-/

namespace SqlTree

open Decimal Text

/-- A text with each quote in it written twice. -/
def doubled (quote : Char) : List Char → List Char
  | [] => []
  | first :: rest =>
    if first = quote then quote :: quote :: doubled quote rest else first :: doubled quote rest

/-- A text in quotes. -/
def inQuotes (quote : Char) (value : List Char) : List Char :=
  quote :: (doubled quote value ++ [quote])

/-- The texts that a token is written as. -/
inductive TokenKind.WrittenAs : TokenKind → List Char → Prop
  | integer {value : Int64} (unsigned : 0 ≤ value.toInt) :
      WrittenAs (.integer value) (Int.repr value.toInt).toList
  | string (value : String) : WrittenAs (.string value) (inQuotes '\x27' value.toList)
  | parameter (number : UInt32) :
      WrittenAs (.parameter number) ('$' :: (Nat.repr number.toNat).toList)
  | identifier {name : String} (nonempty : name ≠ "") :
      WrittenAs (.identifier name) (inQuotes '\x22' name.toList)
  | keyword {word : Keyword} {text : List Char}
      (recased : text.map Char.toUpper = word.spelling.toList) : WrittenAs (.keyword word) text
  | symbol (mark : Symbol) : WrittenAs (.symbol mark) mark.spelling.toList

/-- What cannot be written is a negative integer, a number with a fraction or an exponent, a name of
no characters, the end of the input, and what is no token. -/
theorem TokenKind.exists_writtenAs_iff {kind : TokenKind} : (∃ text, kind.WrittenAs text) ↔
    match kind with
    | .integer value => 0 ≤ value.toInt
    | .identifier name => name ≠ ""
    | .numeric _ | .finish | .invalid _ => False
    | .string _ | .parameter _ | .keyword _ | .symbol _ => True := by
  constructor
  · rintro ⟨_, written⟩
    cases written with
    | integer unsigned => exact unsigned
    | identifier nonempty => exact nonempty
    | string | parameter | keyword | symbol => trivial
  · intro writable
    cases kind with
    | integer value => exact ⟨_, .integer writable⟩
    | string value => exact ⟨_, .string value⟩
    | parameter number => exact ⟨_, .parameter number⟩
    | identifier name => exact ⟨_, .identifier writable⟩
    | keyword word => exact ⟨_, .keyword word.map_toUpper_name⟩
    | symbol mark => exact ⟨_, .symbol mark⟩
    | numeric | finish | invalid => exact writable.elim

section Quotes

variable {quote : Char}

/-- Text in quotes is split off with its value, up to the quote that closes it. -/
theorem splitQuoted_doubled (value : List Char) :
    splitQuoted quote (doubled quote value ++ [quote])
      = some (value, doubled quote value ++ [quote], []) := by
  induction value with
  | nil => simp [doubled, splitQuoted]
  | cons first value inductionHypothesis =>
      by_cases same : first = quote
      · subst same
        simp [doubled, splitQuoted, inductionHypothesis]
      · -- The scanner looks at two characters at a time, and there is a second one in any case.
        obtain ⟨next, more, shown⟩ := List.exists_cons_of_ne_nil
          (List.append_ne_nil_of_right_ne_nil (doubled quote value) (List.cons_ne_nil quote []))
        rw [shown] at inductionHypothesis
        rw [doubled, if_neg same, List.cons_append, shown, splitQuoted, if_neg same,
          inductionHypothesis]
        rfl

end Quotes

section Recasing

/-- What is a letter in upper case starts a word in any case. -/
theorem isWordStart_toUpper (character : Char) :
    isWordStart character.toUpper = isWordStart character := by
  have letters : ∀ code ∈ List.range' 97 26,
      isWordStart (Char.ofNat code).toUpper = isWordStart (Char.ofNat code) := by
    decide
  by_cases small : 'a'.val ≤ character.val ∧ character.val ≤ 'z'.val
  · have low : 97 ≤ character.toNat := small.1
    have high : character.toNat ≤ 122 := small.2
    have listed := letters _ (List.mem_range'_1.mpr ⟨low, by omega⟩)
    rwa [Char.ofNat_toNat] at listed
  · unfold Char.toUpper
    rw [dif_neg small]

/-- A keyword is a word in whatever case. -/
theorem Keyword.isWord_of_recased {word : Keyword} {text : List Char}
    (recased : text.map Char.toUpper = word.spelling.toList) : IsWord text := by
  have starts : ∀ letter ∈ text, isWordStart letter = true := by
    intro letter found
    have capital : letter.toUpper ∈ word.spelling.toList := by
      rw [← recased]
      exact List.mem_map_of_mem found
    rw [← isWordStart_toUpper]
    exact (capitals_letters _ (mem_capitals_of_mem_spelling capital)).2.2.2
  constructor
  · cases text with
    | nil =>
        have empty : word.name.toList = [] := by rw [toList_name, ← recased]; rfl
        exact absurd (String.toList_eq_nil_iff.mp empty) word.name_ne_empty
    | cons first rest => exact ⟨first, rfl, starts first List.mem_cons_self⟩
  · exact fun letter found => isWordPart_of_isWordStart (starts letter found)

end Recasing

/-- A text that is one token as a whole: no gap stands before it, and the reader takes all of it. -/
structure IsTokenText (kind : TokenKind) (text : List Char) : Prop where
  taken : ∃ first more, text = first :: more ∧
    splitGap .between (first :: more) = ([], first :: more) ∧
      scanLexeme first more = ⟨kind, first :: more, []⟩
  valid : ∀ message, kind ≠ .invalid message

namespace IsTokenText

variable {kind : TokenKind} {text behind : List Char} {kinds : List TokenKind}

/-- Before the end of a text or white space, the token is read, and then what stands behind it. -/
theorem reads (whole : IsTokenText kind text) (parted : Parted [] behind)
    (others : IsReadAs behind kinds) : IsReadAs (text ++ behind) (kind :: kinds) := by
  obtain ⟨first, more, rfl, split, scan⟩ := whole.taken
  obtain ⟨lexemes, lexes, rfl⟩ := others
  have joined : Lexes ((scanLexeme first more).text ++ behind) _ :=
    .cons split (by rw [scan]; exact whole.valid) (by rw [scan]; exact parted) lexes
  rw [scan] at joined
  exact ⟨_, joined, rfl⟩

theorem integer {value : Int64} (unsigned : 0 ≤ value.toInt) :
    IsTokenText (.integer value) (Int.repr value.toInt).toList := by
  obtain ⟨numeral, kind⟩ := isNumeral_repr unsigned
  obtain ⟨nonempty, digits⟩ := isNumeral_iff.mp numeral
  obtain ⟨first, more, shown⟩ := List.exists_cons_of_ne_nil nonempty
  rw [shown] at numeral kind digits ⊢
  have digit := digits first List.mem_cons_self
  have scan : scanLexeme first (more ++ []) = _ := scanLexeme_of_numeral numeral (by simp)
  rw [List.append_nil, kind] at scan
  refine ⟨⟨first, more, rfl, ?_, scan⟩, by simp⟩
  apply splitGap_token
  · intro white
    rw [isDigit_of_isBlank white] at digit
    cases digit
  · rintro rfl
    exact absurd digit (by decide)
  · rintro rfl
    exact absurd digit (by decide)

theorem string (value : String) : IsTokenText (.string value) (inQuotes '\x27' value.toList) := by
  refine ⟨⟨_, _, rfl, splitGap_token (by decide) (by simp) (by simp), ?_⟩, by simp⟩
  simp [scanLexeme, scanString, splitQuoted_doubled]

theorem identifier {name : String} (nonempty : name ≠ "") :
    IsTokenText (.identifier name) (inQuotes '\x22' name.toList) := by
  refine ⟨⟨_, _, rfl, splitGap_token (by decide) (by simp) (by simp), ?_⟩, by simp⟩
  obtain ⟨first, more, shown⟩ :=
    List.exists_cons_of_ne_nil (mt String.toList_eq_nil_iff.mp nonempty)
  have same : String.ofList (first :: more) = name := by rw [← shown, String.ofList_toList]
  rw [scanLexeme, if_neg (by decide), if_pos rfl, scanQuotedName, splitQuoted_doubled, shown,
    ← same]

/-- The digits of a parameter are all that is behind its dollar sign, and are never too many. -/
theorem parameter (number : UInt32) :
    IsTokenText (.parameter number) ('$' :: (Nat.repr number.toNat).toList) := by
  have digits : (Nat.repr number.toNat).toList = Nat.toDigits 10 number.toNat := Nat.toList_repr
  have all : ∀ digit ∈ Nat.toDigits 10 number.toNat, digit.isDigit = true :=
    fun _ => Nat.isDigit_of_mem_toDigits (by decide) (by decide)
  have split : splitDigits (Nat.toDigits 10 number.toNat)
      = (Nat.toDigits 10 number.toNat, []) := by
    rw [splitDigits, List.takeWhile_eq_self_iff.mpr all, List.dropWhile_eq_nil_iff.mpr all]
  have valued : numeralValue (Nat.toDigits 10 number.toNat) = number.toNat :=
    Nat.ofDigitChars_toDigits (by decide) (by decide)
  have fits : ¬ ((Nat.toDigits 10 number.toNat).isEmpty = true ∨ 0x100000000 ≤ number.toNat) := by
    have bound := number.toNat_lt
    rintro (empty | large)
    · exact Nat.toDigits_ne_nil (List.isEmpty_iff.mp empty)
    · omega
  refine ⟨⟨_, _, rfl, splitGap_token (by decide) (by simp) (by simp), ?_⟩, by simp⟩
  rw [digits, scanLexeme, if_neg (by decide), if_neg (by decide), if_pos rfl, scanParameter]
  simp only [split, valued, if_neg fits, UInt32.ofNat_toNat]

theorem keyword {word : Keyword} {text : List Char}
    (recased : text.map Char.toUpper = word.spelling.toList) :
    IsTokenText (.keyword word) text := by
  have isWord := Keyword.isWord_of_recased recased
  have kind : wordKind text = .keyword word := by
    rw [wordKind, Keyword.ofWord?_eq_some_iff.mpr recased]
  obtain ⟨first, more, rfl, starts⟩ := isWord.exists_cons
  have scan : scanLexeme first (more ++ []) = _ := isWord.scanLexeme (by simp)
  rw [List.append_nil, kind] at scan
  exact ⟨⟨first, more, rfl, IsWord.splitGap more starts, scan⟩, by simp⟩

/-- A symbol alone is no longer one and opens no comment. -/
theorem symbol (mark : Symbol) : IsTokenText (.symbol mark) mark.spelling.toList := by
  refine ⟨?_, by simp⟩
  cases mark <;> exact ⟨_, _, rfl, by decide, by decide⟩

/-- Whatever a token is written as is that token. -/
theorem of_writtenAs (written : kind.WrittenAs text) : IsTokenText kind text := by
  cases written with
  | integer unsigned => exact integer unsigned
  | string value => exact string value
  | parameter number => exact parameter number
  | identifier nonempty => exact identifier nonempty
  | keyword recased => exact keyword recased
  | symbol mark => exact symbol mark

end IsTokenText

/-- By induction on the tokens: each is read up to the space behind it, or up to the end. -/
theorem IsReadAs.spaced {kinds : List TokenKind} {texts : List (List Char)}
    (whole : List.Forall₂ IsTokenText kinds texts) :
    IsReadAs ([' '].intercalate texts) (kinds ++ [.finish]) := by
  have finish : IsReadAs [] [.finish] := ⟨_, .finish rfl, rfl⟩
  induction whole with
  | nil => exact finish
  | @cons kind text kinds texts first others inductionHypothesis =>
      cases others with
      | nil =>
          have alone := first.reads .ends finish
          rw [List.append_nil] at alone
          rwa [List.intercalate_singleton]
      | cons second others =>
          have white : isBlank ' ' = true := rfl
          rw [List.intercalate_cons_cons, List.append_assoc, List.singleton_append]
          exact first.reads (.here white) (.blank white inductionHypothesis)

/-- Tokens that are written out with a space between them are read back as they are. -/
theorem tokenize_written {kinds : List TokenKind} {texts : List (List Char)}
    (written : List.Forall₂ TokenKind.WrittenAs kinds texts) :
    (tokenize (String.ofList ([' '].intercalate texts))).map Token.kind = kinds ++ [.finish] := by
  apply IsReadAs.tokenize
  rw [String.toList_ofList]
  exact .spaced (written.imp fun _ _ => .of_writtenAs)

/-- Quotes, marks of comments and line ends in quotes are what they are there, and marks of comments
with a space in them are none. -/
theorem tokenize_written_quotes :
    List.Forall₂ TokenKind.WrittenAs
      [.keyword .SELECT, .string "it's -- /*", .identifier "a\"*/\n", .parameter 4294967295,
        .integer 9223372036854775807, .symbol .minus, .symbol .minus, .symbol .slash, .symbol .star]
      ["sElEcT".toList, "'it''s -- /*'".toList, "\"a\"\"*/\n\"".toList, "$4294967295".toList,
        "9223372036854775807".toList, ['-'], ['-'], ['/'], ['*']] ∧
    (tokenize "sElEcT 'it''s -- /*' \"a\"\"*/\n\" $4294967295 9223372036854775807 - - / *").map
        Token.kind =
      [.keyword .SELECT, .string "it's -- /*", .identifier "a\"*/\n", .parameter 4294967295,
        .integer 9223372036854775807, .symbol .minus, .symbol .minus, .symbol .slash, .symbol .star,
        .finish] := by
  have text : "sElEcT 'it''s -- /*' \"a\"\"*/\n\" $4294967295 9223372036854775807 - - / *" =
      String.ofList ([' '].intercalate ["sElEcT".toList, "'it''s -- /*'".toList,
        "\"a\"\"*/\n\"".toList, "$4294967295".toList, "9223372036854775807".toList,
        ['-'], ['-'], ['/'], ['*']]) := by
    decide
  refine (and_iff_left_of_imp fun written => ?_).mpr ?_
  · rw [text]
    exact tokenize_written written
  · exact .cons (.keyword rfl) <| .cons (.string _) <| .cons (.identifier (by decide)) <|
      .cons (.parameter _) <| .cons (.integer (by decide)) <| .cons (.symbol .minus) <|
      .cons (.symbol .minus) <| .cons (.symbol .slash) <| .cons (.symbol .star) .nil

end SqlTree
