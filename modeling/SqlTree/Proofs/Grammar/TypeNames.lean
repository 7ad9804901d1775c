import SqlTree.Proofs.Grammar.Primaries
import SqlTree.Proofs.Grammar.Rejection
import SqlTree.Proofs.Grammar.Sessions
import SqlTree.Proofs.Grammar.YieldedRules

/-!
# Texts of data types

A data type is read from words, from modifiers behind them, and from what stands behind those: what
is said about time zones, and dimensions. Its text has the modifiers last. So the text is read as
the type again, unless there are modifiers and something behind them at once.
-/

namespace SqlTree

open SqlTree.Parser SqlTree.Grammar Text

/-- The words that a data type starts with: one that stands for a name, or two. -/
inductive TypeWords
  | one (kind : TokenKind) (name : String) (named : kind.name? = some name)
  | doublePrecision
  | characterVarying

namespace TypeWords

/-- The name that the words make. -/
def name : TypeWords → String
  | one _ name _ => name
  | doublePrecision => "double precision"
  | characterVarying => "character varying"

/-- The tokens of the words. -/
def kinds : TypeWords → List TokenKind
  | one kind _ _ => [kind]
  | doublePrecision => [.identifier "double", .identifier "precision"]
  | characterVarying => [.identifier "character", .identifier "varying"]

end TypeWords

/-- What a data type is put together from. Only a time type says whether it has time zones. -/
structure TypeParts where
  words : TypeWords
  modifiers : List Int64
  zoned : Option Bool
  dimensions : Nat
  unsigned : ∀ modifier ∈ modifiers, 0 ≤ modifier.toInt
  timed : zoned ≠ none → words.name = "time" ∨ words.name = "timestamp"

namespace TypeParts

/-- How it is said whether there are time zones. -/
def zoneText : Option Bool → String
  | none => ""
  | some true => " with time zone"
  | some false => " without time zone"

/-- The tokens that say whether there are time zones. -/
def zoneKinds : Option Bool → List TokenKind
  | none => []
  | some true => [.keyword .WITH, .identifier "time", .identifier "zone"]
  | some false => [.identifier "without", .identifier "time", .identifier "zone"]

/-- The tokens of a number of dimensions. -/
def bracketKinds (dimensions : Nat) : List TokenKind :=
  (List.replicate dimensions [.symbol .leftBracket, .symbol .rightBracket]).flatten

/-- The tokens behind the modifiers. -/
def suffixKinds (parts : TypeParts) : List TokenKind :=
  zoneKinds parts.zoned ++ bracketKinds parts.dimensions

/-- The data type of the parts. -/
def type (parts : TypeParts) : DataType where
  name := parts.words.name ++ zoneText parts.zoned
    ++ String.join (List.replicate parts.dimensions "[]")
  modifiers := parts.modifiers

/-- The same parts without modifiers. -/
def bare (parts : TypeParts) : TypeParts :=
  { parts with modifiers := [], unsigned := nofun }

end TypeParts

open TypeParts

namespace Parser.Reads

variable {rest : List TokenKind}

theorem typeWords (words : TypeWords) (noPrecision : kindAt rest 0 ≠ .identifier "precision")
    (noVarying : kindAt rest 0 ≠ .identifier "varying") :
    Reads Grammar.typeName words.kinds words.name rest := by
  have word (name : String) (back : List TokenKind) :
      Reads Grammar.typeWord [.identifier name] name back := typeWord rfl back
  cases words with
  | one kind name named => exact typeName named noPrecision noVarying
  | doublePrecision =>
      apply bind_one (word _ _)
      dsimp only
      rw [if_pos rfl]
      exact bind_one (eatName _ _) (pure _ _)
  | characterVarying =>
      apply bind_one (word _ _)
      dsimp only
      rw [if_neg (by decide), if_pos (.inl rfl)]
      exact bind_one (eatName _ _) (pure _ _)

theorem zoneMark (zoned : Option Bool) (noWith : kindAt rest 0 ≠ .keyword .WITH)
    (noWithout : kindAt rest 0 ≠ .identifier "without") :
    Reads Grammar.timeZoneMark (zoneKinds zoned) (zoneText zoned) rest := by
  cases zoned with
  | none => exact timeZoneMark noWith noWithout
  | some aware =>
      apply bind_none (look _ 1)
      apply bind_none (look _ 2)
      cases aware <;>
      · rw [if_pos ⟨rfl, rfl⟩]
        apply bind_none (look _ 0)
        dsimp only [zoneKinds, List.cons_append, kindAt_cons_zero]
        rw [if_pos (by decide)]
        exact advance_bind nofun fun _ _ => advance_bind nofun fun _ _ =>
          advance_bind nofun fun _ _ => pure _ _

theorem brackets (dimensions : Nat) (ends : kindAt rest 0 ≠ .symbol .leftBracket) :
    Reads (collect Grammar.arrayMark) (bracketKinds dimensions)
      (List.replicate dimensions "[]") rest := by
  apply ReadsEach.collect
  induction dimensions with
  | zero => exact .none (arrayMark ends)
  | succ dimensions inductionHypothesis =>
      have pair : Reads Grammar.arrayMark [.symbol .leftBracket, .symbol .rightBracket]
          (some "[]") (bracketKinds dimensions ++ rest) := by
        apply bind_none (look _ 0)
        apply bind_none (look _ 1)
        rw [if_pos ⟨rfl, rfl⟩]
        exact advance_bind nofun fun _ _ => advance_bind nofun fun _ _ => pure _ _
      exact .some (List.cons_ne_nil _ _) pair inductionHypothesis

end Parser.Reads

namespace TypeParts

variable {mark : Symbol} {rest : List TokenKind}

/-- What stands behind the modifiers starts with a bracket or with one of two words. -/
theorem suffixKinds_cases (parts : TypeParts) : parts.suffixKinds = [] ∨
    ∃ first more, parts.suffixKinds = first :: more ∧
      first ∈ [.symbol .leftBracket, .keyword .WITH, .identifier "without"] := by
  obtain ⟨words, modifiers, _ | aware, dimensions⟩ := parts
  · cases dimensions with
    | zero => exact .inl rfl
    | succ dimensions => exact .inr ⟨.symbol .leftBracket, _, rfl, by decide⟩
  · cases aware with
    | true => exact .inr ⟨.keyword .WITH, _, rfl, by decide⟩
    | false => exact .inr ⟨.identifier "without", _, rfl, by decide⟩

/-- What starts neither a suffix nor what follows it does not stand behind the modifiers. -/
theorem kindAt_suffixKinds_ne (parts : TypeParts) {kind : TokenKind}
    (other : kind ∉ [.symbol .leftBracket, .keyword .WITH, .identifier "without"])
    (behind : parts.suffixKinds = [] → kindAt rest 0 ≠ kind) :
    kindAt (parts.suffixKinds ++ rest) 0 ≠ kind := by
  rcases suffixKinds_cases parts with empty | ⟨first, more, shown, starts⟩
  · rw [empty]
    exact behind empty
  · rw [shown]
    rintro rfl
    exact other starts

/-- Behind the modifiers, a data type is read to its end. -/
theorem reads_suffix (parts : TypeParts) (noBracket : mark ≠ .leftBracket) :
    Reads (do
      let zone ← if parts.words.name = "time" ∨ parts.words.name = "timestamp" then timeZoneMark
        else pure ""
      let brackets ← collect arrayMark
      return (⟨parts.words.name ++ zone ++ String.join brackets, parts.modifiers⟩ : DataType))
      parts.suffixKinds parts.type (.symbol mark :: rest) := by
  have noMark : TokenKind.symbol mark ≠ .symbol .leftBracket :=
    fun same => noBracket (TokenKind.symbol.inj same)
  have brackets (text : String) : Reads (do
      let brackets ← collect arrayMark
      return (⟨parts.words.name ++ text ++ String.join brackets, parts.modifiers⟩ : DataType))
      (bracketKinds parts.dimensions)
      ⟨parts.words.name ++ text ++ String.join (List.replicate parts.dimensions "[]"),
        parts.modifiers⟩ (.symbol mark :: rest) :=
    Reads.bind_last (Reads.brackets _ noMark) (Reads.pure _ _)
  obtain ⟨symbol, symbols⟩ : ∃ symbol,
      kindAt (bracketKinds parts.dimensions ++ .symbol mark :: rest) 0 = .symbol symbol := by
    cases parts.dimensions <;> exact ⟨_, rfl⟩
  dsimp only
  split
  · refine Reads.bind (Reads.zoneMark parts.zoned ?_ ?_) (brackets _) <;>
      (rw [symbols]; exact TokenKind.noConfusion)
  · next untimed =>
      have unzoned : parts.zoned = none := by
        by_contra zoned
        exact untimed (parts.timed zoned)
      have read := brackets ""
      unfold suffixKinds type
      rw [unzoned]
      exact Reads.bind_none (Reads.pure _ _) read

/-- A data type is read from its parts in the order of the grammar, where neither brackets follow
nor what would be modifiers. -/
theorem reads (parts : TypeParts) (noBracket : mark ≠ .leftBracket)
    (closed : parts.suffixKinds = [] → mark ≠ .leftParen) :
    Reads dataType (parts.words.kinds ++ (modifierKinds parts.modifiers ++ parts.suffixKinds))
      parts.type (.symbol mark :: rest) := by
  have noWord {word : String} (other : word ≠ "without") :
      kindAt (modifierKinds parts.modifiers ++ parts.suffixKinds ++ .symbol mark :: rest) 0
        ≠ .identifier word := by
    cases parts.modifiers with
    | nil => exact kindAt_suffixKinds_ne parts (by simp [other]) fun _ => TokenKind.noConfusion
    | cons => exact TokenKind.noConfusion
  have noModifiers :
      kindAt (parts.suffixKinds ++ .symbol mark :: rest) 0 ≠ .symbol .leftParen :=
    kindAt_suffixKinds_ne parts (by decide) fun empty same =>
      closed empty (TokenKind.symbol.inj same)
  apply Reads.bind (Reads.typeWords parts.words (noWord (by decide)) (noWord (by decide)))
  exact Reads.bind (Reads.typeModifiers _ noModifiers) (parts.reads_suffix noBracket)

/-! ## Texts -/

/-- The characters behind the words and before the modifiers. -/
def suffixText (parts : TypeParts) : List Char :=
  (zoneText parts.zoned).toList ++ (List.replicate parts.dimensions ['[', ']']).flatten

/-- The characters of modifiers. -/
def modifierText : List Int64 → List Char
  | [] => []
  | first :: others =>
    '(' :: ([',', ' '].intercalate
      ((first :: others).map fun modifier => (Int.repr modifier.toInt).toList) ++ [')'])

theorem toList_name (parts : TypeParts) :
    parts.type.name.toList = parts.words.name.toList ++ parts.suffixText := by
  have brackets : (String.join (List.replicate parts.dimensions "[]")).toList
      = (List.replicate parts.dimensions ['[', ']']).flatten := by
    rw [String.toList_join, List.flatMap_def, List.map_replicate]
    rfl
  rw [type, String.toList_append, String.toList_append, brackets, suffixText, List.append_assoc]

/-- The text of a data type has its modifiers last. -/
theorem toList_text (parts : TypeParts) : parts.type.text.toList =
    parts.words.name.toList ++ (parts.suffixText ++ modifierText parts.modifiers) := by
  unfold DataType.text
  split
  · next empty =>
      have none : parts.modifiers = [] := List.isEmpty_iff.mp empty
      rw [none, modifierText, List.append_nil, toList_name]
  · next nonempty =>
      have some : parts.modifiers ≠ [] := mt List.isEmpty_iff.mpr nonempty
      obtain ⟨first, others, shown⟩ := List.exists_cons_of_ne_nil some
      have modifiers : parts.type.modifiers = first :: others := shown
      rw [modifiers, shown, modifierText]
      simp only [String.toList_append, String.toList_intercalate, List.map_map, toList_name,
        List.append_assoc]
      rfl

/-- Nothing that a word goes on with stands behind the words of a data type. -/
theorem ends_suffixText (parts : TypeParts) {behind : List Char}
    (ends : ∀ next ∈ behind.head?, isWordPart next = false) :
    ∀ next ∈ (parts.suffixText ++ behind).head?, isWordPart next = false := by
  obtain ⟨words, modifiers, _ | aware, dimensions⟩ := parts
  · cases dimensions with
    | zero => exact ends
    | succ dimensions =>
        rintro next ⟨⟩
        decide
  · have spaced : (zoneText (some aware)).toList.head? = some ' ' := by cases aware <;> rfl
    intro next found
    rw [suffixText, List.append_assoc, List.head?_append, spaced] at found
    cases found
    decide

theorem ends_modifierText (modifiers : List Int64) {behind : List Char}
    (ends : ∀ next ∈ behind.head?, isWordPart next = false) :
    ∀ next ∈ (modifierText modifiers ++ behind).head?, isWordPart next = false := by
  cases modifiers with
  | nil => exact ends
  | cons first others =>
      rintro next ⟨⟩
      decide

variable {behind : List Char} {kinds : List TokenKind}

/-- Brackets are read as they are written. -/
theorem brackets_isReadAs (dimensions : Nat) (read : IsReadAs behind kinds) :
    IsReadAs ((List.replicate dimensions ['[', ']']).flatten ++ behind)
      (bracketKinds dimensions ++ kinds) := by
  have opening : ('[', Symbol.leftBracket) ∈ delimiters := by decide
  have closing : (']', Symbol.rightBracket) ∈ delimiters := by decide
  induction dimensions with
  | zero => exact read
  | succ dimensions inductionHypothesis =>
      exact .delimiter opening (.delimiter closing inductionHypothesis)

/-- What is said about time zones is read as it is written. -/
theorem zone_isReadAs (zoned : Option Bool) (read : IsReadAs behind kinds)
    (ends : ∀ next ∈ behind.head?, isWordPart next = false) :
    IsReadAs ((zoneText zoned).toList ++ behind) (zoneKinds zoned ++ kinds) := by
  have isWord : IsWord ['z', 'o', 'n', 'e'] := .of_all (by decide) (by decide)
  have zone : IsReadAs (['z', 'o', 'n', 'e'] ++ behind) (.identifier "zone" :: kinds) :=
    .word isWord ends read
  have time : IsReadAs (" time ".toList ++ (['z', 'o', 'n', 'e'] ++ behind))
      (.identifier "time" :: .identifier "zone" :: kinds) := .lexeme rfl rfl (.blank rfl zone)
  cases zoned with
  | none => exact read
  | some aware =>
      cases aware with
      | true => exact .lexeme rfl rfl time
      | false => exact .lexeme rfl rfl time

/-- What stands behind the words and before the modifiers is read as it is written. -/
theorem suffix_isReadAs (parts : TypeParts) (read : IsReadAs behind kinds)
    (ends : ∀ next ∈ behind.head?, isWordPart next = false) :
    IsReadAs (parts.suffixText ++ behind) (parts.suffixKinds ++ kinds) := by
  rw [suffixText, suffixKinds, List.append_assoc, List.append_assoc]
  apply zone_isReadAs parts.zoned (brackets_isReadAs parts.dimensions read)
  cases parts.dimensions with
  | zero => exact ends
  | succ dimensions =>
      rintro next ⟨⟩
      decide

/-- Numerals with commas between them are read as they are written. By induction on the numerals
behind the first. -/
theorem numerals_isReadAs {first : Int64} {others : List Int64}
    (unsigned : ∀ modifier ∈ first :: others, 0 ≤ modifier.toInt)
    (read : IsReadAs behind kinds)
    (ends : ∀ next ∈ behind.head?, isWordPart next = false ∧ next ≠ '.') :
    IsReadAs ([',', ' '].intercalate
        ((first :: others).map fun modifier => (Int.repr modifier.toInt).toList) ++ behind)
      (Piece.separated ((first :: others).map fun value => ⟨value, [.integer value]⟩) ++ kinds) := by
  have comma : (',', Symbol.comma) ∈ delimiters := by decide
  induction others generalizing first with
  | nil =>
      obtain ⟨numeral, kind⟩ := isNumeral_repr (unsigned first List.mem_cons_self)
      have one := IsReadAs.numeral numeral ends read
      simpa [kind, Piece.separated, List.intercalate] using one
  | cons second others inductionHypothesis =>
      obtain ⟨numeral, kind⟩ := isNumeral_repr (unsigned first List.mem_cons_self)
      have more := inductionHypothesis fun modifier among =>
        unsigned modifier (List.mem_cons_of_mem _ among)
      have spaced := more.blank (show isBlank ' ' = true from rfl)
      have one := IsReadAs.numeral numeral (by rintro next ⟨⟩; decide)
        (.delimiter comma spaced)
      simpa [kind, Piece.separated, List.intercalate] using one

/-- Modifiers are read as they are written. -/
theorem modifiers_isReadAs {modifiers : List Int64}
    (unsigned : ∀ modifier ∈ modifiers, 0 ≤ modifier.toInt) (read : IsReadAs behind kinds) :
    IsReadAs (modifierText modifiers ++ behind) (modifierKinds modifiers ++ kinds) := by
  have opening : ('(', Symbol.leftParen) ∈ delimiters := by decide
  have closing : (')', Symbol.rightParen) ∈ delimiters := by decide
  cases modifiers with
  | nil => exact read
  | cons first others =>
      have numerals := numerals_isReadAs unsigned (.delimiter closing read)
        (by rintro next ⟨⟩; decide)
      have whole := IsReadAs.delimiter opening numerals
      simpa [modifierText, modifierKinds, inParens] using whole

end TypeParts

/-! ## What is read -/

namespace Grammar

variable {cursor stopped : Cursor} {type : DataType} {name : String}

/-- A second word that is looked for is part of the name where it stands. -/
theorem eq_of_second {second whole : String} {other : Parser String}
    (read : (do if ← eatName second then return whole else other : Parser String) cursor
      = .ok name stopped) :
    name = whole ∨ other cursor = .ok name stopped := by
  rw [eatName, run_eat] at read
  split at read
  · cases read
    exact .inl rfl
  · exact .inr read

/-- The words that a data type is read from start with the token at the cursor. -/
theorem exists_words (read : typeName cursor = .ok name stopped) : ∃ (first : String)
    (named : cursor.current.kind.name? = some first) (words : TypeWords), words.name = name ∧
      (words = .one cursor.current.kind first named ∨
        (words = .doublePrecision ∨ words = .characterVarying) ∧
          first ∈ ["double", "character", "char"]) := by
  obtain ⟨word, between, taken, rest⟩ := ok_of_bind_ok read
  have named : cursor.current.kind.name? = some word := by
    unfold typeWord at taken
    split at taken
    · next found =>
        cases taken
        exact found
    · cases taken
  refine ⟨word, named, ?_⟩
  have varying (between : Cursor) (rest : (if word = "character" ∨ word = "char" then do
      if ← eatName "varying" then return "character varying" else return word
      else return word : Parser String) between = .ok name stopped) :
      ∃ words : TypeWords, words.name = name ∧
        (words = .one cursor.current.kind word named ∨
          (words = .doublePrecision ∨ words = .characterVarying) ∧
            word ∈ ["double", "character", "char"]) := by
    rw [run_ite] at rest
    split at rest
    · next character =>
        have listed : word ∈ ["double", "character", "char"] := by
          rcases character with rfl | rfl <;> decide
        rcases eq_of_second rest with rfl | same
        · exact ⟨.characterVarying, rfl, .inr ⟨.inr rfl, listed⟩⟩
        · cases same
          exact ⟨.one _ _ named, rfl, .inl rfl⟩
    · cases rest
      exact ⟨.one _ _ named, rfl, .inl rfl⟩
  dsimp only at rest
  rw [run_ite] at rest
  split at rest
  · next double =>
      rcases eq_of_second rest with rfl | more
      · exact ⟨.doublePrecision, rfl, .inr ⟨.inl rfl, by rw [double]; decide⟩⟩
      · exact varying _ more
  · exact varying _ rest

/-- A data type that is read from the tokens of a text is put together from parts, of which the
words start with the token at the cursor. -/
theorem exists_parts (lexical : cursor.IsLexical) (read : dataType cursor = .ok type stopped) :
    ∃ (first : String) (named : cursor.current.kind.name? = some first) (parts : TypeParts),
      parts.type = type ∧ (parts.words = .one cursor.current.kind first named ∨
        (parts.words = .doublePrecision ∨ parts.words = .characterVarying) ∧
          first ∈ ["double", "character", "char"]) := by
  obtain ⟨name, between, nameRead, rest⟩ := ok_of_bind_ok read
  obtain ⟨first, named, words, rfl, spelled⟩ := exists_words nameRead
  refine ⟨first, named, ?_⟩
  have lexicalBetween := (typeName_yields cursor lexical nameRead).1
  have made : Yields (do
      let modifiers ← typeModifiers
      let zone ← if words.name = "time" ∨ words.name = "timestamp" then timeZoneMark else pure ""
      let brackets ← collect arrayMark
      return (⟨words.name ++ zone ++ String.join brackets, modifiers⟩ : DataType))
      fun type => ∃ parts : TypeParts, parts.type = type ∧ parts.words = words := by
    refine typeModifiers_yields.bind fun modifiers unsigned => ?_
    have marked (zoned : Option Bool)
        (timed : zoned ≠ none → words.name = "time" ∨ words.name = "timestamp") : Yields (do
          let brackets ← collect arrayMark
          return (⟨words.name ++ zoneText zoned ++ String.join brackets, modifiers⟩ : DataType))
        fun type => ∃ parts : TypeParts, parts.type = type ∧ parts.words = words := by
      refine arrayMark_yields.collect.bind fun brackets each => Yields.pure ?_
      refine ⟨⟨words, modifiers, zoned, brackets.length, unsigned, timed⟩, ?_, rfl⟩
      rw [TypeParts.type, ← List.eq_replicate_of_mem each]
    dsimp only
    split
    · next timed =>
        refine timeZoneMark_yields.bind fun zone listed => ?_
        obtain ⟨zoned, rfl⟩ : ∃ zoned, zoneText zoned = zone := by
          simp only [List.mem_cons, List.not_mem_nil, or_false] at listed
          rcases listed with rfl | rfl | rfl
          · exact ⟨none, rfl⟩
          · exact ⟨some true, rfl⟩
          · exact ⟨some false, rfl⟩
        exact marked zoned fun _ => timed
    · exact marked none fun zoned => absurd rfl zoned
  obtain ⟨_, parts, same, shared⟩ := made between lexicalBetween rest
  exact ⟨parts, same, shared ▸ spelled⟩

end Grammar

end SqlTree
