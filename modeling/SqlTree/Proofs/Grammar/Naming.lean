import SqlTree.Grammar.Name
import SqlTree.Proofs.Grammar.Repetition

/-!
# Written names and data types

Names are written as identifiers. A name, an alias and a data type are read back where the token
behind them is none that would go on with them.
-/

namespace SqlTree

/-- The kinds that a name is written with. -/
def ObjectName.kinds (object : ObjectName) : List TokenKind :=
  match object.schema with
  | none => [.identifier object.name]
  | some schema => [.identifier schema, .symbol .dot, .identifier object.name]

/-- A name that stands on its own in a list. -/
def namePiece (name : String) : Piece String := ⟨name, [.identifier name]⟩

/-- The kinds that an alias is written with, always behind `AS`. -/
def aliasKinds (aliasName : Option String) : List TokenKind :=
  Piece.optional .AS (aliasName.map namePiece)

/-- The kinds that the modifiers of a data type are written with. -/
def modifierKinds : List Int64 → List TokenKind
  | [] => []
  | first :: others =>
    inParens (Piece.separated ((first :: others).map fun value => ⟨value, [.integer value]⟩))

/-- The kinds that a data type is written with. -/
def DataType.kinds (dataType : DataType) : List TokenKind :=
  .identifier dataType.name :: modifierKinds dataType.modifiers

/-- Whether a token could go on with a name or a data type before it: a point, a list of arguments
or modifiers, brackets, or one more word. -/
def extendsName : TokenKind → Bool
  | .symbol .dot | .symbol .leftParen | .symbol .leftBracket | .identifier _ | .keyword .WITH =>
    true
  | _ => false

/-- A token that does not go on with a name is none of those that do. -/
theorem ne_of_extendsName {kind other : TokenKind} (ends : extendsName kind = false)
    (goesOn : extendsName other = true) : kind ≠ other := by
  rintro rfl
  rw [ends] at goesOn
  cases goesOn

namespace Parser.Reads

open SqlTree.Grammar

variable {rest : List TokenKind}

theorem objectName (object : ObjectName) (ends : kindAt rest 0 ≠ .symbol .dot) :
    Reads objectName object.kinds object rest := by
  obtain ⟨name, _ | schema⟩ := object
  · exact bind_one (expectName _ _) (bind_none (eat_false ends) (pure _ _))
  · exact bind_one (expectName _ _)
      (bind_one (eatSymbol _ _) (bind_last (expectName _ _) (pure _ _)))

theorem nameList {names : List String} (nonempty : names ≠ [])
    (ends : kindAt rest 0 ≠ .symbol .comma) :
    Reads nameList (Piece.separated (names.map namePiece)) names rest := by
  have read : Reads Grammar.nameList (Piece.separated (names.map namePiece))
      ((names.map namePiece).map Piece.value) rest := by
    refine separated (fun _ => True) (by simpa using nonempty) ?_ ?_ trivial ends
    · intro piece among after _
      obtain ⟨name, _, rfl⟩ := List.mem_map.mp among
      exact expectName _ _
    · exact fun _ => trivial
  simpa [namePiece, Function.comp_def] using read

/-- An alias behind `AS` is read, and none where neither `AS` nor an identifier stands. -/
theorem optionalAlias (aliasName : Option String) (plain : kindAt rest 0 ≠ .keyword .AS)
    (ends : extendsName (kindAt rest 0) = false) :
    Reads optionalAlias (aliasKinds aliasName) aliasName rest := by
  cases aliasName with
  | none =>
      refine bind_none (eat_false plain) (bind_none (look rest 0) ?_)
      cases found : kindAt rest 0 with
      | identifier name => simp [found, extendsName] at ends
      | _ => exact pure _ _
  | some name => exact bind_one (eatKeyword _ _) (bind_last (expectName _ _) (pure _ _))

theorem typeWord {kind : TokenKind} {name : String} (named : kind.name? = some name)
    (rest : List TokenKind) : Reads typeWord [kind] name rest := by
  intro cursor faces
  have going : kind ≠ .finish := by
    rintro rfl
    cases named
  simp only [Grammar.typeWord, faces.current_kind, List.singleton_append, kindAt_cons_zero, named,
    List.length_singleton]
  rw [Cursor.Faces.advance faces going]

theorem plainInteger (value : Int64) (rest : List TokenKind) :
    Reads plainInteger [.integer value] value rest := by
  intro cursor faces
  simp only [Grammar.plainInteger, faces.current_kind, List.singleton_append, kindAt_cons_zero,
    List.length_singleton]
  rw [Cursor.Faces.advance faces TokenKind.noConfusion]

/-- A word is the whole name of a type where no second word follows. -/
theorem typeName {kind : TokenKind} {name : String} (named : kind.name? = some name)
    (noPrecision : kindAt rest 0 ≠ .identifier "precision")
    (noVarying : kindAt rest 0 ≠ .identifier "varying") : Reads typeName [kind] name rest := by
  apply bind_one (typeWord named _)
  have varying : Reads
      (if name = "character" ∨ name = "char" then do
        if ← Parser.eatName "varying" then return "character varying" else return name
      else return name) [] name rest := by
    split
    · exact bind_none (eat_false noVarying) (pure _ _)
    · exact pure _ _
  dsimp only
  split
  · exact bind_none (eat_false noPrecision) varying
  · exact varying

theorem typeModifiers (modifiers : List Int64) (ends : kindAt rest 0 ≠ .symbol .leftParen) :
    Reads typeModifiers (modifierKinds modifiers) modifiers rest := by
  cases modifiers with
  | nil => exact bind_none (eat_false ends) (pure _ _)
  | cons first others =>
      have read : Reads (Parser.separated Grammar.plainInteger)
          (Piece.separated ((first :: others).map fun value => ⟨value, [.integer value]⟩))
          (((first :: others).map fun value => (⟨value, [.integer value]⟩ : Piece Int64)).map
            Piece.value) (.symbol .rightParen :: rest) := by
        refine separated (fun _ => True) (List.cons_ne_nil _ _) ?_ (fun _ => trivial) trivial nofun
        intro piece among after _
        obtain ⟨value, _, rfl⟩ := List.mem_map.mp among
        exact plainInteger _ _
      simp only [List.map_map, Function.comp_def, List.map_id'] at read
      exact bind_one (eatSymbol _ _) (bind read (bind_one (expectSymbol _ _) (pure _ _)))

theorem timeZoneMark (noWith : kindAt rest 0 ≠ .keyword .WITH)
    (noWithout : kindAt rest 0 ≠ .identifier "without") : Reads timeZoneMark [] "" rest := by
  refine bind_none (look rest 1) (bind_none (look rest 2) ?_)
  dsimp only
  split
  · apply bind_none (look rest 0)
    rw [if_neg (not_or.mpr ⟨noWith, noWithout⟩)]
    exact pure _ _
  · exact pure _ _

theorem arrayMark (ends : kindAt rest 0 ≠ .symbol .leftBracket) :
    Reads arrayMark [] none rest := by
  refine bind_none (look rest 0) (bind_none (look rest 1) ?_)
  rw [if_neg fun both => ends both.1]
  exact pure _ _

/-- A data type is read back where the token behind it does not go on with it. -/
theorem dataType (type : DataType) (ends : extendsName (kindAt rest 0) = false) :
    Reads dataType type.kinds type rest := by
  obtain ⟨name, modifiers⟩ := type
  have plain : ∀ word, kindAt (modifierKinds modifiers ++ rest) 0 ≠ .identifier word := by
    intro word
    cases modifiers with
    | nil => exact ne_of_extendsName ends rfl
    | cons => exact TokenKind.noConfusion
  have brackets : Reads (do
      let brackets ← collect Grammar.arrayMark
      return ⟨name ++ "" ++ String.join brackets, modifiers⟩) [] (⟨name, modifiers⟩ : DataType)
      rest := by
    apply bind_none (ReadsEach.none (arrayMark (ne_of_extendsName ends rfl))).collect
    have written : name ++ "" ++ String.join [] = name := by simp
    rw [written]
    exact pure _ _
  refine bind_one (typeName rfl (plain _) (plain _))
    (bind_last (typeModifiers _ (ne_of_extendsName ends rfl)) ?_)
  dsimp only
  split
  · exact bind_none (timeZoneMark (ne_of_extendsName ends rfl) (ne_of_extendsName ends rfl)) brackets
  · exact bind_none (pure _ _) brackets

end Parser.Reads

end SqlTree
