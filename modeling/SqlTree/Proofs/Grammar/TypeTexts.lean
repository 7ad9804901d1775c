import SqlTree.Proofs.Grammar.TypeNames
import SqlTree.Proofs.Grammar.YieldedStatements

/-!
# Casts to the text of a type

The text of a type that was read from unquoted words is put into a cast. It is read as the type
again, unless it has modifiers with brackets or a time zone before them, or the name of its first
word does not make that word again.
-/

namespace SqlTree

open SqlTree.Parser SqlTree.Grammar Text

/-- Whether something stands behind the words in the name of a data type: a time zone or brackets. -/
def DataType.Suffixed (type : DataType) : Prop :=
  " time zone".toList <:+ type.name.toList ∨ "[]".toList <:+ type.name.toList

namespace Grammar

variable {cursor stopped : Cursor}

/-- A symbol that has to come next stands there where it is accepted. -/
theorem current_of_expectSymbol {mark : Symbol} (read : expectSymbol mark cursor = .ok () stopped) :
    cursor.current.kind = .symbol mark := by
  unfold expectSymbol at read
  rw [eatSymbol] at read
  by_contra other
  obtain ⟨taken, between, eaten, rest⟩ := ok_of_bind_ok read
  unfold eat at eaten
  rw [if_neg other] at eaten
  cases eaten
  cases rest

/-- The tokens before the type of a column that is cast. -/
def castOpening : List TokenKind :=
  [.keyword .CAST, .symbol .leftParen, .identifier "x", .keyword .AS]

/-- Where a cast of a column is accepted, a data type is read behind `AS`, and a closing parenthesis
stands behind it. -/
theorem dataType_of_cast {kinds : List TokenKind} {body : Expr}
    (faces : cursor.Faces (castOpening ++ kinds))
    (read : Grammar.expression cursor = .ok body stopped) :
    ∃ type between, dataType (cursor.past 4) = .ok type between ∧
      between.current.kind = .symbol .rightParen := by
  have column : Reads ((rules 127).expression 0) [.identifier "x"] (.column "x")
      (.keyword .AS :: kinds) :=
    (ReadsOperand.reference none "x").expression (Nat.le_refl _)
      (EndsExpression.follows ⟨rfl, fun _ => rfl⟩ 0)
  obtain ⟨first, _, operandRead, _⟩ := ok_of_bind_ok read
  have cast : operand (rules 127) cursor = castExpression (rules 127) cursor :=
    ((Reads.look _ 0).step_none faces).trans ((Reads.look _ 0).step_none faces)
  rw [cast] at operandRead
  obtain ⟨_, _, keyword, parens⟩ := ok_of_bind_ok operandRead
  obtain ⟨rfl, rfl⟩ := (Reads.expectKeyword .CAST _).eq_of_ok faces keyword
  obtain ⟨_, _, opening, behindOpening⟩ := ok_of_bind_ok parens
  obtain ⟨rfl, rfl⟩ := (Reads.expectSymbol .leftParen _).eq_of_ok faces.tail opening
  obtain ⟨_, between, inside, closing⟩ := ok_of_bind_ok behindOpening
  obtain ⟨_, _, operandToo, behindOperand⟩ := ok_of_bind_ok inside
  obtain ⟨rfl, rfl⟩ := column.eq_of_ok faces.tail.tail operandToo
  obtain ⟨_, _, separator, behindAs⟩ := ok_of_bind_ok behindOperand
  obtain ⟨rfl, rfl⟩ := (Reads.expectKeyword .AS _).eq_of_ok faces.tail.tail.tail separator
  obtain ⟨type, _, typeRead, made⟩ := ok_of_bind_ok behindAs
  cases made
  obtain ⟨_, _, parenthesis, _⟩ := ok_of_bind_ok closing
  refine ⟨type, between, ?_, current_of_expectSymbol parenthesis⟩
  rwa [Cursor.past_past, Cursor.past_past, Cursor.past_past] at typeRead

end Grammar

/-- The text of a cast of a column to a data type. -/
def castText (type : DataType) : String := "CAST(x AS " ++ type.text ++ ")"

section Reading

variable {behind : List Char} {kinds : List TokenKind}

theorem castOpening_isReadAs (read : IsReadAs behind kinds) :
    IsReadAs ("CAST(x AS ".toList ++ behind) (castOpening ++ kinds) := by
  have column : IsReadAs ("x AS ".toList ++ behind) (.identifier "x" :: .keyword .AS :: kinds) :=
    .lexeme rfl rfl (.lexeme rfl rfl (.blank rfl read))
  have opening : ('(', Symbol.leftParen) ∈ delimiters := by decide
  exact .lexeme rfl rfl (.delimiter opening column)

/-- Whether the words of a data type are read as they are from the name that they make. -/
def TypeWords.IsSpelled : TypeWords → Prop
  | one kind name _ => IsWord name.toList ∧ wordKind name.toList = kind
  | doublePrecision | characterVarying => True

/-- The name of the words is read as the words. -/
theorem TypeWords.IsSpelled.isReadAs {words : TypeWords} (spelled : words.IsSpelled)
    (ends : ∀ next ∈ behind.head?, isWordPart next = false) (read : IsReadAs behind kinds) :
    IsReadAs (words.name.toList ++ behind) (words.kinds ++ kinds) := by
  cases words with
  | one kind name named =>
      have one := IsReadAs.word spelled.1 ends read
      rwa [spelled.2] at one
  | doublePrecision =>
      have isWord : IsWord "precision".toList := .of_all (by decide) (by decide)
      have second : IsReadAs ("precision".toList ++ behind) (.identifier "precision" :: kinds) :=
        .word isWord ends read
      exact .lexeme rfl rfl (.blank rfl second)
  | characterVarying =>
      have isWord : IsWord "varying".toList := .of_all (by decide) (by decide)
      have second : IsReadAs ("varying".toList ++ behind) (.identifier "varying" :: kinds) :=
        .word isWord ends read
      exact .lexeme rfl rfl (.blank rfl second)

end Reading

namespace TypeParts

/-- The words of a data type have no suffix. -/
theorem not_suffixed_of_spelled {words : TypeWords} (spelled : words.IsSpelled) :
    ¬ (" time zone".toList <:+ words.name.toList ∨ "[]".toList <:+ words.name.toList) := by
  cases words with
  | one kind name named =>
      have noPart {mark : Char} (other : isWordPart mark = false) : mark ∉ name.toList := by
        intro found
        rw [spelled.1.parts mark found] at other
        cases other
      rintro (zone | bracket)
      · have blank : ' ' ∈ " time zone".toList := by decide
        exact noPart (by decide) (zone.subset blank)
      · have opening : '[' ∈ "[]".toList := by decide
        exact noPart (by decide) (bracket.subset opening)
  | doublePrecision => decide
  | characterVarying => decide

/-- The name of a data type has a suffix just where something stands behind its words. -/
theorem suffixed_iff (parts : TypeParts) (spelled : parts.words.IsSpelled) :
    parts.type.Suffixed ↔ parts.suffixKinds ≠ [] := by
  unfold DataType.Suffixed
  rw [toList_name]
  obtain ⟨words, modifiers, zoned, dimensions, unsigned, timed⟩ := parts
  cases dimensions with
  | succ dimensions =>
      have brackets : (List.replicate (dimensions + 1) ['[', ']']).flatten
          = (List.replicate dimensions ['[', ']']).flatten ++ "[]".toList := by
        rw [List.replicate_succ', List.flatten_concat]
        rfl
      have behind : zoneKinds zoned ++ bracketKinds (dimensions + 1) ≠ [] :=
        List.append_ne_nil_of_right_ne_nil _ (List.cons_ne_nil _ _)
      refine ⟨fun _ => behind, fun _ => .inr ?_⟩
      rw [suffixText, brackets, ← List.append_assoc, ← List.append_assoc]
      exact List.suffix_append _ _
  | zero =>
      cases zoned with
      | some aware =>
          have behind : zoneKinds (some aware) ++ bracketKinds 0 ≠ [] := by
            cases aware <;> exact List.cons_ne_nil _ _
          have zone : " time zone".toList <:+ (zoneText (some aware)).toList := by
            cases aware <;> decide
          refine ⟨fun _ => behind, fun _ => .inl ?_⟩
          rw [suffixText, List.replicate_zero, List.flatten_nil, List.append_nil]
          exact zone.trans (List.suffix_append _ _)
      | none =>
          have bare : words.name.toList ++ (zoneText none).toList = words.name.toList :=
            List.append_nil _
          rw [suffixText, List.replicate_zero, List.flatten_nil, List.append_nil, bare]
          exact ⟨fun suffixed => absurd suffixed (not_suffixed_of_spelled spelled),
            fun behind => absurd rfl behind⟩

/-- The kinds behind the words in the text of a cast. -/
def closingKinds (parts : TypeParts) : List TokenKind :=
  parts.suffixKinds ++ (modifierKinds parts.modifiers ++ [.symbol .rightParen])

theorem toList_castText (parts : TypeParts) : (castText parts.type).toList = "CAST(x AS ".toList
    ++ (parts.words.name.toList ++ (parts.suffixText ++ (modifierText parts.modifiers ++ [')']))) := by
  have parenthesis : ")".toList = [')'] := rfl
  simp only [castText, String.toList_append, toList_text, List.append_assoc, parenthesis]

/-- The text of a cast to a data type is read part by part, however the words are read. -/
theorem castText_isReadAs (parts : TypeParts) {front : List TokenKind}
    (wordsRead : ∀ {behind kinds}, (∀ next ∈ behind.head?, isWordPart next = false) →
      IsReadAs behind kinds → IsReadAs (parts.words.name.toList ++ behind) (front ++ kinds)) :
    IsReadAs (castText parts.type).toList
      (castOpening ++ (front ++ parts.closingKinds) ++ [.finish]) := by
  have closing : (')', Symbol.rightParen) ∈ delimiters := by decide
  have last : IsReadAs [')'] [.symbol .rightParen, .finish] :=
    .delimiter closing ⟨_, .finish rfl, rfl⟩
  have lastEnds : ∀ next ∈ [')'].head?, isWordPart next = false := by
    rintro next ⟨⟩
    decide
  have modifiersEnd := ends_modifierText parts.modifiers lastEnds
  have behindWords := parts.suffix_isReadAs (modifiers_isReadAs parts.unsigned last) modifiersEnd
  have whole := castOpening_isReadAs (wordsRead (parts.ends_suffixText modifiersEnd) behindWords)
  rw [toList_castText]
  simpa only [closingKinds, List.append_assoc, List.singleton_append] using whole

/-- The text of a cast is read as the cast, if nothing stands between the words and the
modifiers. -/
theorem parses (parts : TypeParts) (spelled : parts.words.IsSpelled)
    (apart : parts.modifiers = [] ∨ parts.suffixKinds = []) :
    parseExpression (castText parts.type) = .ok (.cast (.column "x") parts.type) := by
  have order : parts.suffixKinds ++ modifierKinds parts.modifiers
      = modifierKinds parts.modifiers ++ parts.suffixKinds := by
    rcases apart with none | none
    · rw [none, modifierKinds, List.append_nil, List.nil_append]
    · rw [none, List.append_nil, List.nil_append]
  have typed (rest : List TokenKind) : Reads dataType
      (parts.words.kinds ++ (parts.suffixKinds ++ modifierKinds parts.modifiers)) parts.type
      (.symbol .rightParen :: rest) := by
    rw [order]
    exact parts.reads Symbol.noConfusion fun _ => Symbol.noConfusion
  have operand : ReadsOperand (126 + 1 + 1) 0 (.cast (.column "x") parts.type)
      (castOpening ++ (parts.words.kinds ++ parts.closingKinds)) := by
    have cast : ReadsOperand (126 + 1 + 1) 0 (.cast (.column "x") parts.type) _ :=
      .castCall (.reference none "x") typed
    simpa [castOpening, closingKinds, inParens, referenceKinds] using cast
  have follows : Follows 0 [] := EndsExpression.follows ⟨rfl, fun _ => rfl⟩ 0
  have read : Reads Grammar.expression _ (.cast (.column "x") parts.type) [] :=
    operand.expression (Nat.le_refl _) follows
  have whole : Reads (do let body ← Grammar.expression; finish; return body)
      (castOpening ++ (parts.words.kinds ++ parts.closingKinds)) (.cast (.column "x") parts.type) [] :=
    .bind_last read (.bind_none .finish (.pure _ _))
  have faces := (parts.castText_isReadAs spelled.isReadAs).faces
  rw [parseExpression, Parser.outcome, whole _ (by rwa [List.append_nil])]

/-- The text of a cast is refused where no data type is read in it up to the parenthesis. -/
theorem refuses (parts : TypeParts) {front : List TokenKind}
    (wordsRead : ∀ {behind kinds}, (∀ next ∈ behind.head?, isWordPart next = false) →
      IsReadAs behind kinds → IsReadAs (parts.words.name.toList ++ behind) (front ++ kinds))
    (fails : ∀ {cursor between : Cursor} {type : DataType},
      cursor.Faces (front ++ parts.closingKinds) → dataType cursor = .ok type between →
        between.current.kind ≠ .symbol .rightParen) (body : Expr) :
    parseExpression (castText parts.type) ≠ .ok body := by
  intro parsed
  have faces := (parts.castText_isReadAs wordsRead).faces
  unfold parseExpression Parser.outcome at parsed
  split at parsed
  · next value stopped read =>
      obtain ⟨_, between, expressionRead, _⟩ := ok_of_bind_ok read
      obtain ⟨type, behind, typeRead, closing⟩ := dataType_of_cast faces expressionRead
      exact fails faces.past typeRead closing
  · cases parsed

/-- Modifiers are not taken where they stand behind something else than words. -/
theorem refuses_of_suffixKinds (parts : TypeParts) (spelled : parts.words.IsSpelled)
    (modified : parts.modifiers ≠ []) (behind : parts.suffixKinds ≠ []) (body : Expr) :
    parseExpression (castText parts.type) ≠ .ok body := by
  apply parts.refuses spelled.isReadAs
  intro cursor between type faces read
  obtain ⟨first, others, shown⟩ := List.exists_cons_of_ne_nil modified
  obtain ⟨rest, opens⟩ : ∃ rest,
      modifierKinds parts.modifiers ++ [.symbol .rightParen] = .symbol .leftParen :: rest := by
    rw [shown]
    exact ⟨_, rfl⟩
  have facesBare : cursor.Faces (parts.bare.words.kinds
      ++ (modifierKinds parts.bare.modifiers ++ parts.bare.suffixKinds)
      ++ .symbol .leftParen :: rest) := by
    rw [closingKinds, opens, ← List.append_assoc] at faces
    exact faces
  have bareRead : Reads dataType _ parts.bare.type (.symbol .leftParen :: rest) :=
    parts.bare.reads nofun fun none => absurd none behind
  obtain ⟨_, rfl⟩ := bareRead.eq_of_ok facesBare read
  rw [facesBare.past.current_kind]
  nofun

/-- A keyword that stands for no name starts no data type. -/
theorem refuses_of_keyword (parts : TypeParts) (isWord : IsWord parts.words.name.toList)
    (noName : (wordKind parts.words.name.toList).name? = none) (body : Expr) :
    parseExpression (castText parts.type) ≠ .ok body := by
  have wordsRead {behind : List Char} {kinds : List TokenKind}
      (ends : ∀ next ∈ behind.head?, isWordPart next = false) (read : IsReadAs behind kinds) :
      IsReadAs (parts.words.name.toList ++ behind)
        ([wordKind parts.words.name.toList] ++ kinds) := .word isWord ends read
  apply parts.refuses wordsRead
  intro cursor between type faces read
  obtain ⟨_, _, nameRead, _⟩ := ok_of_bind_ok read
  obtain ⟨first, named, _⟩ := exists_words nameRead
  rw [faces.current_kind, List.singleton_append, kindAt_cons_zero, noName] at named
  cases named

/-- A name with a dot that stands above nothing is no token as a whole. -/
theorem refuses_of_dotted (parts : TypeParts) {word : List Char} (isWord : IsWord word)
    (dotted : 'İ' ∈ word) (name : parts.words.name.toList = lower word) (body : Expr) :
    parseExpression (castText parts.type) ≠ .ok body := by
  intro parsed
  obtain ⟨kinds, message, read, among⟩ := exists_invalid_of_dotted isWord dotted
    (parts.suffixText ++ (modifierText parts.modifiers ++ [')']))
  have whole := castOpening_isReadAs read
  rw [← name, ← toList_castText] at whole
  have shown : .invalid message ∈ (tokenize (castText parts.type)).map Token.kind := by
    rw [whole.tokenize]
    exact List.mem_append_right _ among
  obtain ⟨token, found, invalid⟩ := List.mem_map.mp shown
  exact (parse_reportsInvalid (castText parts.type)).2.2.accepted body parsed token found message
    invalid

end TypeParts

section FirstWord

variable {parts : TypeParts} {kind : TokenKind} {first : String}
  {named : kind.name? = some first} {word : List Char} (isWord : IsWord word)
  (same : kind = wordKind word)
  (shape : parts.words = .one kind first named ∨
    (parts.words = .doublePrecision ∨ parts.words = .characterVarying) ∧
      first ∈ ["double", "character", "char"])

include isWord same shape

/-- The words of a data type are read from their name, if the first is read from its name. -/
theorem TypeParts.isSpelled_of_word (undotted : 'İ' ∉ word) (noLike : first ≠ "like")
    (noIlike : first ≠ "ilike") : parts.words.IsSpelled := by
  rcases shape with one | ⟨two | two, _⟩
  · obtain ⟨isWordToo, again⟩ := wordKind_name isWord (same ▸ named) undotted noLike noIlike
    rw [one]
    exact ⟨isWordToo, again.trans same.symm⟩
  · rw [two]
    trivial
  · rw [two]
    trivial

/-- A data type in an accepted cast starts with a word that is read from its name. -/
theorem TypeParts.word_of_parses {body : Expr}
    (parsed : parseExpression (castText parts.type) = .ok body) :
    'İ' ∉ word ∧ first ≠ "like" ∧ first ≠ "ilike" := by
  have noKeyword {keyword : String} (isWordToo : IsWord keyword.toList)
      (noName : (wordKind keyword.toList).name? = none)
      (other : keyword ∉ ["double", "character", "char"]) : first ≠ keyword := by
    rintro rfl
    rcases shape with one | ⟨_, listed⟩
    · apply parts.refuses_of_keyword _ _ body parsed
      · rwa [one]
      · rwa [one]
    · exact other listed
  refine ⟨?_, ?_, ?_⟩
  · intro dotted
    have name := name_of_dotted dotted (same ▸ named)
    rcases shape with one | ⟨_, listed⟩
    · refine parts.refuses_of_dotted isWord dotted ?_ body parsed
      rw [one, TypeWords.name, name, String.toList_ofList]
    · have dot : '\u0307' ∈ first.toList := by
        rw [name, String.toList_ofList]
        exact dot_mem_lower dotted
      have plain : ∀ name ∈ ["double", "character", "char"], '\u0307' ∉ name.toList := by decide
      exact plain first listed dot
  · exact noKeyword (.of_all (by decide) (by decide)) (by decide) (by decide)
  · exact noKeyword (.of_all (by decide) (by decide)) (by decide) (by decide)

end FirstWord

/-- The text of a type that is read from an unquoted word is that of the type again just where no
modifiers stand behind a time zone or brackets, and the name of the word makes it again. -/
theorem parseExpression_castText {text : String} {count : Nat} {type : DataType} {stopped : Cursor}
    {word : List Char} {name : String}
    (read : dataType ((Cursor.ofText text).past count) = .ok type stopped)
    (named : ((Cursor.ofText text).past count).current.kind.name? = some name)
    (under : ((Cursor.ofText text).past count).currentText? = some word)
    (unquoted : word.head? ≠ some '\x22') :
    parseExpression (castText type) = .ok (.cast (.column "x") type) ↔
      'İ' ∉ word ∧ name ≠ "like" ∧ name ≠ "ilike" ∧ (type.modifiers = [] ∨ ¬ type.Suffixed) := by
  have found : ((Cursor.ofText text).past count).current ∈ tokenize text := by
    rw [← (Cursor.ofText_spec text).1, Cursor.current, Cursor.peek_past]
    exact (Cursor.ofText text).peek_mem_stream _
  have lexical : ((Cursor.ofText text).past count).IsLexical := by
    intro places
    rw [Cursor.peek_past]
    exact Cursor.ofText_isLexical text _
  obtain ⟨isWord, kind⟩ := isWord_of_name found under named unquoted
  obtain ⟨first, namedToo, parts, rfl, shape⟩ := exists_parts lexical read
  obtain rfl : first = name := Option.some.inj (namedToo.symm.trans named)
  constructor
  · intro parsed
    obtain ⟨undotted, noLike, noIlike⟩ := TypeParts.word_of_parses isWord kind shape parsed
    refine ⟨undotted, noLike, noIlike, ?_⟩
    have spelled := TypeParts.isSpelled_of_word isWord kind shape undotted noLike noIlike
    by_contra both
    obtain ⟨modified, suffixed⟩ := not_or.mp both
    have behind := (parts.suffixed_iff spelled).mp (not_not.mp suffixed)
    exact parts.refuses_of_suffixKinds spelled modified behind _ parsed
  · rintro ⟨undotted, noLike, noIlike, apart⟩
    have spelled := TypeParts.isSpelled_of_word isWord kind shape undotted noLike noIlike
    apply parts.parses spelled
    rcases apart with none | bare
    · exact .inl none
    · exact .inr (not_not.mp (mt (parts.suffixed_iff spelled).mpr bare))

/-- A name of two words keeps its modifier. -/
theorem parseExpression_castText_varying :
    dataType ((Cursor.ofText "Char Varying(10)").past 0)
        = .ok ⟨"character varying", [10]⟩ ((Cursor.ofText "Char Varying(10)").past 5) ∧
      ((Cursor.ofText "Char Varying(10)").past 0).current.kind.name? = some "char" ∧
      ((Cursor.ofText "Char Varying(10)").past 0).currentText? = some ['C', 'h', 'a', 'r'] ∧
      parseExpression (castText ⟨"character varying", [10]⟩)
        = .ok (.cast (.column "x") ⟨"character varying", [10]⟩) := by
  have read : dataType ((Cursor.ofText "Char Varying(10)").past 0)
      = .ok ⟨"character varying", [10]⟩ ((Cursor.ofText "Char Varying(10)").past 5) := rfl
  have named : ((Cursor.ofText "Char Varying(10)").past 0).current.kind.name? = some "char" := by
    decide
  have under : ((Cursor.ofText "Char Varying(10)").past 0).currentText?
      = some ['C', 'h', 'a', 'r'] :=
    textUnder?_utf8Length [] ['C', 'h', 'a', 'r'] " Varying(10)".toList
  refine ⟨read, named, under, ?_⟩
  apply (parseExpression_castText read named under (by decide)).mpr
  refine ⟨by decide, by decide, by decide, .inr ?_⟩
  unfold DataType.Suffixed
  decide

/-- A time type with a precision and a time zone has a text that is refused. -/
theorem parseExpression_castText_zoned :
    parseExpression "CAST(x AS timestamp(3) with time zone)"
        = .ok (.cast (.column "x") ⟨"timestamp with time zone", [3]⟩) ∧
      castText ⟨"timestamp with time zone", [3]⟩ = "CAST(x AS timestamp with time zone(3))" ∧
      parseExpression "CAST(x AS timestamp with time zone(3))"
        = .error ⟨.unexpected (.symbol .rightParen) (.symbol .leftParen), ⟨34, 35⟩⟩ :=
  ⟨rfl, rfl, rfl⟩

end SqlTree
