import Mathlib.Data.List.TakeWhile
import SqlTree.Proofs.Token.Content
import SqlTree.Proofs.Token.LowerCase
import SqlTree.Proofs.Token.Slices

/-!
# Unquoted words

An unquoted word is a keyword, in whatever case, or else the name that it is in lower case. The name
of a word is a word of its own, and makes the same name again, with two exceptions: a capital I with
a dot leaves a dot behind, which is part of no word; and the Kelvin sign has the lower case of a K,
but is none where keywords are looked up.
-/

namespace SqlTree

open Text

section Characters

variable {character : Char}

/-- The digits have the codes from 48 on. -/
theorem toNat_mem_of_isDigit (digit : character.isDigit = true) :
    character.toNat ∈ List.range' 48 10 := by
  have bounds : 48 ≤ character.toNat ∧ character.toNat ≤ 57 := by
    simpa [Char.isDigit, UInt32.le_iff_toNat_le] using digit
  exact List.mem_range'_1.mpr ⟨bounds.1, by omega⟩

theorem isWordStart_of_isDigit (digit : character.isDigit = true) :
    isWordStart character = false := by
  have digits : ∀ code ∈ List.range' 48 10, covers alphabeticRanges code = false := by decide
  have plain : isAlphabetic character = false := digits _ (toNat_mem_of_isDigit digit)
  have noLine : character ≠ '_' := by
    rintro rfl
    exact absurd digit (by decide)
  simp [isWordStart, plain, noLine]

theorem isWordPart_of_isDigit (digit : character.isDigit = true) :
    isWordPart character = true := by
  have digits : ∀ code ∈ List.range' 48 10, covers numericRanges code = true := by decide
  have number : isNumeric character = true := digits _ (toNat_mem_of_isDigit digit)
  simp [isWordPart, isAlphanumeric, number]

/-- A character that starts a word is none that starts no word. -/
theorem ne_of_isWordStart {mark : Char} (starts : isWordStart character = true)
    (other : isWordStart mark = false) : character ≠ mark := by
  rintro rfl
  rw [starts] at other
  cases other

theorem isWordStart_kelvin : isWordStart '\u212A' = true := by
  set_option maxRecDepth 2000 in
  decide

theorem isBlank_of_isWordStart (starts : isWordStart character = true) :
    ¬ isBlank character = true := by
  intro white
  have part := isWordPart_of_isWordStart starts
  rw [isWordPart_of_isBlank white] at part
  cases part

end Characters

/-- Where a word starts, the reader takes as much as can be part of it. -/
theorem scanLexeme_of_isWordStart {first : Char} (starts : isWordStart first = true)
    (rest : List Char) : scanLexeme first rest =
      ⟨wordKind ((first :: rest).takeWhile isWordPart), (first :: rest).takeWhile isWordPart,
        (first :: rest).dropWhile isWordPart⟩ := by
  have number : ¬ startsNumber (first :: rest) = true := by
    have noDigit : first.isDigit = false := by
      apply Bool.eq_false_iff.mpr
      intro digit
      rw [isWordStart_of_isDigit digit] at starts
      cases starts
    have noDot : first ≠ '.' := ne_of_isWordStart starts (by decide)
    cases rest <;> simp [startsNumber, noDigit, noDot]
  rw [scanLexeme, if_neg (ne_of_isWordStart starts (by decide)),
    if_neg (ne_of_isWordStart starts (by decide)),
    if_neg (ne_of_isWordStart starts (by decide)), if_neg number, if_pos starts]

/-- A text that is an unquoted word as a whole. -/
structure IsWord (word : List Char) : Prop where
  starts : ∃ first ∈ word.head?, isWordStart first = true
  parts : ∀ character ∈ word, isWordPart character = true

namespace IsWord

variable {word : List Char}

theorem of_all (starts : word.head?.any isWordStart = true) (parts : word.all isWordPart = true) :
    IsWord word := by
  constructor
  · exact Option.any_eq_true _ _ |>.mp starts
  · exact List.all_eq_true.mp parts

theorem exists_cons (isWord : IsWord word) :
    ∃ first rest, word = first :: rest ∧ isWordStart first = true := by
  obtain ⟨first, head, starts⟩ := isWord.starts
  obtain ⟨rest, rfl⟩ := List.head?_eq_some_iff.mp head
  exact ⟨first, rest, rfl, starts⟩

/-- The reader takes a word up to where no part of a word follows. -/
theorem scanLexeme {first : Char} {rest behind : List Char} (isWord : IsWord (first :: rest))
    (ends : ∀ next ∈ behind.head?, isWordPart next = false) :
    scanLexeme first (rest ++ behind) = ⟨wordKind (first :: rest), first :: rest, behind⟩ := by
  obtain ⟨_, head, starts⟩ := isWord.starts
  cases head
  have taken : (first :: rest ++ behind).takeWhile isWordPart = first :: rest ∧
      (first :: rest ++ behind).dropWhile isWordPart = behind := by
    rw [List.takeWhile_append_of_pos isWord.parts, List.dropWhile_append_of_pos isWord.parts]
    cases behind with
    | nil => simp
    | cons next behind => simp [ends next rfl]
  rw [List.cons_append] at taken
  rw [scanLexeme_of_isWordStart starts, taken.1, taken.2]

/-- No gap stands before a word. -/
theorem splitGap {first : Char} (rest : List Char) (starts : isWordStart first = true) :
    splitGap .between (first :: rest) = ([], first :: rest) := by
  apply splitGap_token (isBlank_of_isWordStart starts)
  · intro dash
    exact absurd dash (ne_of_isWordStart starts (by decide))
  · intro slash
    exact absurd slash (ne_of_isWordStart starts (by decide))

/-- A word on its own is one token. -/
theorem tokenize (isWord : IsWord word) : tokenize (String.ofList word) =
    [⟨wordKind word, ⟨0, utf8Length word⟩⟩, ⟨.finish, .point (utf8Length word)⟩] := by
  obtain ⟨first, rest, rfl, starts⟩ := isWord.exists_cons
  have lexeme : SqlTree.scanLexeme first (rest ++ []) =
      ⟨wordKind (first :: rest), first :: rest, []⟩ := isWord.scanLexeme nofun
  rw [List.append_nil] at lexeme
  have ends : SqlTree.splitGap .between [] = ([], []) := rfl
  rw [SqlTree.tokenize, Lexer.ofText, String.toList_ofList, Lexer.tokens,
    Lexer.tokensWithin_lexeme (splitGap rest starts), lexeme]
  dsimp only [List.length_cons]
  rw [Lexer.tokensWithin_finish ends]
  simp [utf8Length]

/-- The lower case of a word starts like a word. -/
theorem exists_lower_cons (isWord : IsWord word) :
    ∃ image more, lower word = image :: more ∧ isWordStart image = true := by
  obtain ⟨first, rest, rfl, starts⟩ := isWord.exists_cons
  obtain ⟨image, more, shown, same | letter⟩ := Text.exists_lower_cons first rest
  · exact ⟨image, more, shown, by rwa [same]⟩
  · exact ⟨image, more, shown, by rw [isWordStart, letter, Bool.true_or]⟩

/-- In lower case a word is a word. -/
theorem lower (isWord : IsWord word) (undotted : 'İ' ∉ word) : IsWord (lower word) := by
  constructor
  · obtain ⟨image, more, shown, starts⟩ := isWord.exists_lower_cons
    exact ⟨image, by rw [shown]; rfl, starts⟩
  · intro image found
    obtain ⟨character, among, lowersTo⟩ := exists_lowersTo_of_mem_lower undotted found
    rcases lowersTo.letter with rfl | letter
    · exact isWord.parts image among
    · rw [isWordPart, isAlphanumeric, letter, Bool.true_or, Bool.true_or, Bool.true_or]

end IsWord

/-- A lexeme that starts like a word is one. -/
theorem isWord_scanLexeme {first : Char} (starts : isWordStart first = true) (rest : List Char) :
    IsWord (scanLexeme first rest).text ∧
      (scanLexeme first rest).kind = wordKind (scanLexeme first rest).text := by
  rw [scanLexeme_of_isWordStart starts]
  refine ⟨⟨⟨first, ?_, starts⟩, fun _ => List.mem_takeWhile_imp⟩, rfl⟩
  rw [List.takeWhile_cons_of_pos (isWordPart_of_isWordStart starts)]
  rfl

/-- What stands for a name is a word, if it is not in quotes. -/
theorem isWordStart_of_name {first : Char} {rest : List Char} {name : String}
    (named : (scanLexeme first rest).kind.name? = some name)
    (unquoted : (scanLexeme first rest).text.head? ≠ some '\x22') : isWordStart first = true := by
  have noName (whole : List Char) (fraction : Option (List Char)) (exponent : Option Int) :
      (numberKind whole fraction exponent).name? = none := by
    unfold numberKind
    split
    · split <;> rfl
    · rfl
  revert named unquoted
  fun_cases scanLexeme first rest with
  | case1 =>
      unfold scanString
      intro named
      split at named <;> cases named
  | case2 =>
      unfold scanQuotedName
      split <;> exact fun _ unquoted => absurd rfl unquoted
  | case3 =>
      unfold scanParameter
      dsimp only
      intro named
      split at named <;> cases named
  | case4 =>
      fun_cases scanNumber (first :: rest) with
      | case1 | case3 =>
          rw [noName]
          intro named
          cases named
      | case2 =>
          intro named
          cases named
  | case5 _ _ _ _ starts => exact fun _ _ => starts
  | case6 =>
      unfold scanSymbol
      intro named
      split at named <;> cases named

namespace Keyword

variable {keyword : Keyword} {word : List Char}

theorem mem_all (keyword : Keyword) : keyword ∈ all := by
  cases keyword <;> decide

/-- Keywords are spelled with the letters A to Z. -/
theorem mem_capitals_of_mem_spelling {letter : Char} (found : letter ∈ keyword.spelling.toList) :
    letter ∈ capitals := by
  have every : all.all fun keyword => keyword.spelling.toList.all fun letter =>
      65 ≤ letter.toNat ∧ letter.toNat ≤ 90 := by
    decide
  have letters := List.all_eq_true.mp every keyword keyword.mem_all
  obtain ⟨low, high⟩ := of_decide_eq_true (List.all_eq_true.mp letters letter found)
  exact mem_capitals low high

theorem toList_name (keyword : Keyword) :
    keyword.name.toList = keyword.spelling.toList.map Char.toLower :=
  String.toList_ofList

theorem map_toUpper_name (keyword : Keyword) :
    keyword.name.toList.map Char.toUpper = keyword.spelling.toList := by
  have all : capitals.all fun letter => letter.toLower.toUpper = letter := by decide
  have stays : ∀ letter ∈ keyword.spelling.toList, letter.toLower.toUpper = letter :=
    fun letter found =>
      of_decide_eq_true (List.all_eq_true.mp all letter (mem_capitals_of_mem_spelling found))
  rw [toList_name, List.map_map]
  calc keyword.spelling.toList.map (Char.toUpper ∘ Char.toLower)
      = keyword.spelling.toList.map id := List.map_congr_left stays
    _ = keyword.spelling.toList := List.map_id _

/-- The names of keywords are in the letters a to z. -/
theorem plain_of_mem_name {letter : Char} (found : letter ∈ keyword.name.toList) :
    letter.toNat < 0x80 ∧ isWordStart letter = true := by
  have small : capitals.all fun letter => letter.toLower.toNat < 0x80 := by decide
  rw [toList_name] at found
  obtain ⟨capital, among, rfl⟩ := List.mem_map.mp found
  have listed := mem_capitals_of_mem_spelling among
  constructor
  · exact of_decide_eq_true (List.all_eq_true.mp small capital listed)
  · rw [isWordStart_toLower]
    exact (capitals_letters capital listed).2.2.2

/-- The keyword of a word has the letters of the word in upper case. -/
theorem ofWord?_eq_some_iff :
    ofWord? word = some keyword ↔ word.map Char.toUpper = keyword.spelling.toList := by
  have found : ∀ keyword ∈ all,
      all.find? (fun other => other.spelling.toList == keyword.spelling.toList) = some keyword := by
    decide
  constructor
  · intro spelled
    have same := List.find?_some spelled
    exact (beq_iff_eq.mp same).symm
  · intro spelled
    rw [ofWord?, spelled]
    exact found keyword keyword.mem_all

/-- A word with the name of a keyword in lower case is that keyword, unless there is a Kelvin sign in
it, which is no letter from A to Z. -/
theorem ofWord?_of_lower (lowered : lower word = keyword.name.toList) :
    ofWord? word = if '\u212A' ∈ word then none else some keyword := by
  have plain : ∀ image ∈ lower word, image.toNat < 0x80 := by
    rw [lowered]
    exact fun _ found => (plain_of_mem_name found).1
  split
  · next kelvin =>
      apply Option.eq_none_iff_forall_ne_some.mpr
      intro other spelled
      have capital : ('\u212A' : Char).toUpper ∈ other.spelling.toList := by
        rw [← ofWord?_eq_some_iff.mp spelled]
        exact List.mem_map_of_mem kelvin
      exact absurd (mem_capitals_of_mem_spelling capital) (by decide)
  · next noKelvin =>
      have undotted : 'İ' ∉ word := fun dotted =>
        absurd (plain _ (dot_mem_lower dotted)) (by decide)
      apply ofWord?_eq_some_iff.mpr
      rw [← map_toUpper_name, ← lowered, ← map_toLower_eq_lower undotted noKelvin plain,
        List.map_map]
      exact List.map_congr_left fun letter _ => (toUpper_toLower letter).symm

/-- A text in lower case is a keyword only if it is the name of it. -/
theorem eq_name_of_ofWord? (fixed : ∀ character ∈ word, lowerCharacter character = [character])
    (spelled : ofWord? word = some keyword) : word = keyword.name.toList := by
  rw [toList_name, ← ofWord?_eq_some_iff.mp spelled, List.map_map]
  calc word = word.map id := (List.map_id _).symm
    _ = word.map (Char.toLower ∘ Char.toUpper) :=
        List.map_congr_left fun character found =>
          (toLower_toUpper_of_fixed (fixed character found)).symm

end Keyword

section Names

variable {word : List Char}

/-- There are two keywords with a letter K. -/
theorem Keyword.name_of_mem_k {keyword : Keyword} (found : 'k' ∈ keyword.name.toList) :
    keyword.name = "like" ∨ keyword.name = "ilike" := by
  have every : Keyword.all.all fun keyword => 'K' ∈ keyword.spelling.toList →
      keyword = .LIKE ∨ keyword = .ILIKE := by
    decide
  have letter : capitals.all fun letter => letter.toLower = 'k' → letter = 'K' := by decide
  rw [toList_name] at found
  obtain ⟨capital, among, small⟩ := List.mem_map.mp found
  have listed := mem_capitals_of_mem_spelling among
  rw [of_decide_eq_true (List.all_eq_true.mp letter capital listed) small] at among
  rcases of_decide_eq_true (List.all_eq_true.mp every keyword keyword.mem_all) among with rfl | rfl
  · exact .inl rfl
  · exact .inr rfl

/-- The name of a word that is no keyword is a keyword's only where a Kelvin sign is taken for a K. -/
theorem name_of_kelvin {keyword : Keyword} (named : lower word = keyword.name.toList)
    (other : Keyword.ofWord? word = none) : keyword.name = "like" ∨ keyword.name = "ilike" := by
  apply Keyword.name_of_mem_k
  rw [← named]
  rw [Keyword.ofWord?_of_lower named] at other
  split at other
  · next kelvin => exact mem_lowerFrom [] kelvin (by decide) (by decide)
  · cases other

/-- A token that stands for a name is the token of its word, if that is not in quotes. -/
theorem isWord_of_name {text : String} {token : Token} {name : String}
    (found : token ∈ tokenize text) (under : textUnder? text.toList token.span = some word)
    (named : token.kind.name? = some name) (unquoted : word.head? ≠ some '\x22') :
    IsWord word ∧ token.kind = wordKind word := by
  have going : token.kind ≠ .finish := by
    intro finish
    rw [finish] at named
    cases named
  obtain ⟨first, rest, shown⟩ := exists_lexeme_of_mem found going
  rw [Token.shown, under] at shown
  obtain ⟨kinds, texts⟩ := Prod.mk.inj shown
  cases texts
  rw [kinds] at named ⊢
  exact isWord_scanLexeme (isWordStart_of_name named unquoted) rest

/-- A word that shows as a name is no keyword, and the name is its lower case. -/
theorem isWord_of_identifier {text : String} {token : Token} {name : String}
    (found : token ∈ tokenize text) (under : textUnder? text.toList token.span = some word)
    (kind : token.kind = .identifier name) (unquoted : word.head? ≠ some '\x22') :
    IsWord word ∧ Keyword.ofWord? word = none ∧ name = String.ofList (lower word) := by
  have named : token.kind.name? = some name := by rw [kind]; rfl
  obtain ⟨isWord, same⟩ := isWord_of_name found under named unquoted
  rw [kind, wordKind] at same
  split at same
  · cases same
  · next other =>
      cases same
      exact ⟨isWord, other, rfl⟩

/-- What has the name of a keyword in lower case is a word. -/
theorem kind_of_lower {text : String} {token : Token} {keyword : Keyword}
    (found : token ∈ tokenize text) (under : textUnder? text.toList token.span = some word)
    (named : lower word = keyword.name.toList) : token.kind = wordKind word := by
  cases word with
  | nil => exact absurd (String.toList_eq_nil_iff.mp named.symm) keyword.name_ne_empty
  | cons first more =>
      have starts : isWordStart first = true := by
        have undotted : 'İ' ∉ first :: more := by
          intro dotted
          have dot := dot_mem_lower dotted
          rw [named] at dot
          exact absurd (Keyword.plain_of_mem_name dot).1 (by decide)
        obtain ⟨image, images, lowersTo, _, same⟩ :=
          List.forall₂_cons_left_iff.mp (forall₂_lowerFrom [] undotted)
        have among : image ∈ keyword.name.toList := by
          rw [← named, Text.lower, same]
          exact List.mem_cons_self
        obtain ⟨plain, startsToo⟩ := Keyword.plain_of_mem_name among
        rcases lowersTo.plain plain with small | rfl
        · rwa [← isWordStart_toLower, small]
        · exact isWordStart_kelvin
      obtain ⟨rest, kind, shown⟩ := exists_lexeme_of_under found under
      rw [kind, shown]
      exact (isWord_scanLexeme starts rest).2

/-- The bytes of a whole text are the text. -/
theorem textUnder?_whole (text : String) :
    textUnder? text.toList ⟨0, text.utf8ByteSize⟩ = some text.toList := by
  have whole := textUnder?_utf8Length [] text.toList []
  rw [List.nil_append, List.append_nil, ← utf8ByteSize_ofList text.toList, String.ofList_toList]
    at whole
  rwa [utf8Length, Nat.zero_add] at whole

/-- The name of a word that is no keyword is a word with that name, if no dot is left behind in it and
it is no keyword's. -/
theorem wordKind_lower {name : String} (other : Keyword.ofWord? word = none)
    (named : name = String.ofList (lower word)) (undotted : 'İ' ∉ word) (noLike : name ≠ "like")
    (noIlike : name ≠ "ilike") : wordKind (lower word) = .identifier name := by
  have unknown : Keyword.ofWord? (lower word) = none := by
    apply Option.eq_none_iff_forall_ne_some.mpr
    intro keyword spelled
    have namedToo : lower word = keyword.name.toList := by
      apply Keyword.eq_name_of_ofWord? _ spelled
      intro image found
      obtain ⟨_, _, lowersTo⟩ := exists_lowersTo_of_mem_lower undotted found
      exact lowersTo.fixed
    rw [named, namedToo, String.ofList_toList] at noLike noIlike
    rcases name_of_kelvin namedToo other with like | ilike
    · exact noLike like
    · exact noIlike ilike
  rw [wordKind, unknown, named, lower_lower undotted]

/-- A word with a capital I with a dot is no keyword. -/
theorem name_of_dotted {name : String} (dotted : 'İ' ∈ word)
    (named : (wordKind word).name? = some name) : name = String.ofList (lower word) := by
  unfold wordKind at named
  split at named
  · next keyword spelled =>
      have capital : ('İ' : Char).toUpper ∈ keyword.spelling.toList := by
        rw [← Keyword.ofWord?_eq_some_iff.mp spelled]
        exact List.mem_map_of_mem dotted
      exact absurd (Keyword.mem_capitals_of_mem_spelling capital) (by decide)
  · cases named
    rfl

/-- The name of a word is a word that makes the same token, under the same condition. -/
theorem wordKind_name {name : String} (isWord : IsWord word)
    (named : (wordKind word).name? = some name) (undotted : 'İ' ∉ word) (noLike : name ≠ "like")
    (noIlike : name ≠ "ilike") :
    IsWord name.toList ∧ wordKind name.toList = wordKind word := by
  unfold wordKind at named
  split at named
  · next keyword spelled =>
      obtain rfl : keyword.name = name := by
        rw [TokenKind.name?] at named
        split at named
        · cases named
        · exact Option.some.inj named
      have again := Keyword.ofWord?_eq_some_iff.mpr keyword.map_toUpper_name
      have letters : ∀ letter ∈ keyword.name.toList, isWordStart letter = true :=
        fun letter found => (Keyword.plain_of_mem_name found).2
      refine ⟨⟨?_, fun letter found => isWordPart_of_isWordStart (letters letter found)⟩, ?_⟩
      · obtain ⟨first, rest, shown⟩ := List.exists_cons_of_ne_nil
          (mt String.toList_eq_nil_iff.mp keyword.name_ne_empty)
        exact ⟨first, by rw [shown]; rfl, letters first (by rw [shown]; exact List.mem_cons_self)⟩
      · rw [wordKind, wordKind, again, spelled]
  · next other =>
      cases named
      rw [String.toList_ofList, wordKind_lower other rfl undotted noLike noIlike]
      refine ⟨isWord.lower undotted, ?_⟩
      rw [wordKind, other]

/-- The name of a word makes itself again, if no dot is left behind in it and it is no keyword's. -/
theorem tokenize_name_iff {name : String} (isWord : IsWord word)
    (other : Keyword.ofWord? word = none) (named : name = String.ofList (lower word)) :
    tokenize name = [⟨.identifier name, ⟨0, name.utf8ByteSize⟩⟩,
        ⟨.finish, .point name.utf8ByteSize⟩] ↔
      'İ' ∉ word ∧ name ≠ "like" ∧ name ≠ "ilike" := by
  have letters : name.toList = lower word := by rw [named, String.toList_ofList]
  constructor
  · intro tokens
    refine ⟨?_, ?_, ?_⟩
    · intro dotted
      have found : ⟨.identifier name, ⟨0, name.utf8ByteSize⟩⟩ ∈ tokenize name := by
        rw [tokens]
        exact List.mem_cons_self
      have unquoted : name.toList.head? ≠ some '\x22' := by
        intro quote
        rw [letters] at quote
        have among := mem_of_mem_lowerFrom [] (by decide) (by decide)
          (List.mem_of_head? quote)
        exact absurd (isWord.parts _ among) (by decide)
      have lowered := (isWord_of_identifier found (textUnder?_whole name) rfl unquoted).1
      rw [letters] at lowered
      exact absurd (lowered.parts _ (dot_mem_lower dotted)) (by decide)
    · rintro rfl
      exact absurd tokens (by decide)
    · rintro rfl
      exact absurd tokens (by decide)
  · rintro ⟨undotted, noLike, noIlike⟩
    have size : name.utf8ByteSize = utf8Length (lower word) := by rw [named, utf8ByteSize_ofList]
    rw [size, named, (isWord.lower undotted).tokenize,
      wordKind_lower other named undotted noLike noIlike, ← named]

/-- An unquoted name makes itself again just where no capital I with a dot is in the word and the
name is not that of a keyword with a K, and a word that has the name of a keyword in lower case is
the keyword just where no Kelvin sign stands for the K. -/
theorem tokenize_unquoted {text : String} {token : Token} (found : token ∈ tokenize text)
    (under : textUnder? text.toList token.span = some word) :
    (∀ name, token.kind = .identifier name → word.head? ≠ some '\x22' →
      (tokenize name = [⟨.identifier name, ⟨0, name.utf8ByteSize⟩⟩,
          ⟨.finish, .point name.utf8ByteSize⟩] ↔
        'İ' ∉ word ∧ name ≠ "like" ∧ name ≠ "ilike")) ∧
    ∀ keyword : Keyword, lower word = keyword.name.toList →
      token.kind = if '\u212A' ∈ word then .identifier keyword.name else .keyword keyword := by
  constructor
  · intro name kind unquoted
    obtain ⟨isWord, other, named⟩ := isWord_of_identifier found under kind unquoted
    exact tokenize_name_iff isWord other named
  · intro keyword named
    rw [kind_of_lower found under named, wordKind, Keyword.ofWord?_of_lower named]
    by_cases kelvin : '\u212A' ∈ word
    · rw [if_pos kelvin, if_pos kelvin, named, String.ofList_toList]
    · rw [if_neg kelvin, if_neg kelvin]

end Names

/-- The last letter of this name is a final sigma, as it is in the name of the name. -/
theorem tokenize_unquoted_sigma :
    ⟨.identifier "οδος", ⟨0, 8⟩⟩ ∈ tokenize "ΟΔΟΣ" ∧
      textUnder? "ΟΔΟΣ".toList ⟨0, 8⟩ = some ['Ο', 'Δ', 'Ο', 'Σ'] ∧
      tokenize "οδος" = [⟨.identifier "οδος", ⟨0, 8⟩⟩, ⟨.finish, .point 8⟩] := by
  have found : ⟨.identifier "οδος", ⟨0, 8⟩⟩ ∈ tokenize "ΟΔΟΣ" := by decide
  have under : textUnder? "ΟΔΟΣ".toList ⟨0, 8⟩ = some ['Ο', 'Δ', 'Ο', 'Σ'] :=
    textUnder?_whole "ΟΔΟΣ"
  refine ⟨found, under, ?_⟩
  apply ((tokenize_unquoted found under).1 "οδος" rfl (by decide)).mpr
  decide

/-- With a Kelvin sign, the reserved word LIKE is taken for a name, which is the keyword again; and
the name of a capital I with a dot is read as a name and an error. -/
theorem tokenize_unquoted_unstable :
    tokenize "LI\u212AE" = [⟨.identifier "like", ⟨0, 6⟩⟩, ⟨.finish, .point 6⟩] ∧
      tokenize "like" = [⟨.keyword .LIKE, ⟨0, 4⟩⟩, ⟨.finish, .point 4⟩] ∧
      tokenize "İ" = [⟨.identifier "i\u0307", ⟨0, 2⟩⟩, ⟨.finish, .point 2⟩] ∧
      (tokenize "i\u0307").map Token.kind =
        [.identifier "i", .invalid "Unexpected character: \u0307", .finish] := by
  set_option maxRecDepth 4000 in
  refine ⟨?_, ?_, ?_, ?_⟩ <;> decide

end SqlTree
