import SqlTree.Proofs.Grammar.Suffixes

/-!
# Reading references and calls

An expression that starts with a name: a column with its table, all columns of a table, or a call.
-/

namespace SqlTree

open SqlTree.Parser SqlTree.Grammar

/-- The parts of a name, from the outermost. -/
def ObjectName.parts (object : ObjectName) : List String :=
  match object.schema with
  | none => [object.name]
  | some schema => [schema, object.name]

/-- The kinds of names behind points. -/
def dottedKinds (names : List String) : List TokenKind :=
  Piece.marked (.symbol .dot) (names.map namePiece)

namespace Parser.Reads

variable {inner : Rules} {rest : List TokenKind}

/-- What starts with an identifier is read by the rule of names. -/
theorem operand_of_name {name : String} {body : Expr}
    (read : Reads (nameExpression inner) (.identifier name :: kinds) body rest) :
    Reads (operand inner) (.identifier name :: kinds) body rest :=
  operand_of_primary rfl (bind_none (look _ 0) read)

/-- A point is taken with the names before it, unless a star stands behind it. -/
theorem eatInnerDot (noStar : kindAt rest 0 ≠ .symbol .star) :
    Reads eatInnerDot [.symbol .dot] true rest := by
  refine bind_none (look _ 0) (bind_none (look _ 1) ?_)
  rw [if_pos ⟨rfl, noStar⟩]
  exact eatSymbol _ _

theorem eatInnerDot_none
    (stops : kindAt rest 0 ≠ .symbol .dot ∨ kindAt rest 1 = .symbol .star) :
    Reads Grammar.eatInnerDot [] false rest := by
  refine bind_none (look _ 0) (bind_none (look _ 1) ?_)
  rw [if_neg (fun both => stops.elim (· both.1) both.2)]
  exact pure _ _

theorem innerNames (names : List String)
    (stops : kindAt rest 0 ≠ .symbol .dot ∨ kindAt rest 1 = .symbol .star) :
    Reads (Parser.manyAfter Grammar.eatInnerDot Parser.expectName) (dottedKinds names) names
      rest := by
  have read : Reads (Parser.manyAfter Grammar.eatInnerDot Parser.expectName) (dottedKinds names)
      ((names.map namePiece).map Piece.value) rest := by
    refine manyAfter (fun _ => True) ?_ ?_ (fun _ => trivial) trivial (eatInnerDot_none stops)
    · intro piece among after
      obtain ⟨name, _, rfl⟩ := List.mem_map.mp among
      exact eatInnerDot nofun
    · intro piece among after _
      obtain ⟨name, _, rfl⟩ := List.mem_map.mp among
      exact expectName _ _
  simpa [namePiece, Function.comp_def] using read

/-- The parts of a name make it, wherever they stand. -/
theorem nameOfParts (object : ObjectName) (span : Span) (rest : List TokenKind) :
    Reads (nameOfParts object.parts span) [] object rest := by
  obtain ⟨name, _ | schema⟩ := object <;> exact pure _ _

/-- Names with points between them are a reference: the last is the column. -/
theorem nameExpression_reference (table : Option ObjectName) (column : String)
    (ends : extendsName (kindAt rest 0) = false) :
    Reads (operand inner) (referenceKinds table column) (.reference table column) rest := by
  have noDot : kindAt rest 0 ≠ .symbol .dot := ne_of_extendsName ends rfl
  have noCall : kindAt rest 0 ≠ .symbol .leftParen := ne_of_extendsName ends rfl
  have read : ∀ (first : String) (others : List String),
      (∀ span, Reads (if others.isEmpty then return Expr.column first else do
          return Expr.reference (some (← Grammar.nameOfParts (first :: others).dropLast span))
            ((first :: others).getLastD first)) [] (.reference table column) rest) →
      Reads (operand inner) (.identifier first :: dottedKinds others) (.reference table column)
        rest := by
    intro first others made
    refine operand_of_name (current_bind fun start _ => bind_one (expectName _ _)
      (bind_last (innerNames others (.inl noDot)) (bind_none (eat_false noDot)
        (previousSpan_bind fun span => bind_none (atSymbol_false noCall) ?_))))
    cases others with
    | nil => exact made span
    | cons => exact made _
  obtain _ | ⟨name, _ | schema⟩ := table
  · exact read column [] fun _ => pure _ _
  · exact read name [column] fun _ => pure _ _
  · exact read schema [name, column] fun _ => pure _ _

/-- A star behind a point stands for all columns of the table before it. -/
theorem nameExpression_allColumns (table : ObjectName) (rest : List TokenKind) :
    Reads (operand inner) (table.kinds ++ [.symbol .dot, .symbol .star])
      (.reference (some table) "*") rest := by
  have read : ∀ (first : String) (others : List String), first :: others = table.parts →
      Reads (operand inner)
        (.identifier first :: (dottedKinds others ++ [.symbol .dot, .symbol .star]))
        (.reference (some table) "*") rest := by
    intro first others parts
    refine operand_of_name (current_bind fun start _ => bind_one (expectName _ _)
      (bind (innerNames others (.inr rfl)) (bind_one (eatSymbol _ _)
        (bind_one (expectSymbol _ _) (previousSpan_bind fun span => ?_)))))
    rw [parts]
    exact bind_none (nameOfParts _ _ _) (pure _ _)
  match table with
  | ⟨name, none⟩ => exact read name [] rfl
  | ⟨name, some schema⟩ => exact read schema [name] rfl

/-- A name before an opening parenthesis is called. -/
theorem nameExpression_call (function : ObjectName) {arguments : List TokenKind} {body : Expr}
    (read : Reads (functionCall inner function) (inParens arguments) body rest) :
    Reads (operand inner) (function.kinds ++ inParens arguments) body rest := by
  have read : ∀ (first : String) (others : List String), first :: others = function.parts →
      Reads (operand inner) (.identifier first :: (dottedKinds others ++ inParens arguments)) body
        rest := by
    intro first others parts
    refine operand_of_name (current_bind fun start _ => bind_one (expectName _ _)
      (bind (innerNames others (.inl nofun)) (bind_none (eat_false nofun)
        (previousSpan_bind fun span => bind_none (atSymbol_true rfl) ?_))))
    rw [parts]
    exact bind_none (nameOfParts _ _ _) read
  match function with
  | ⟨name, none⟩ => exact read name [] rfl
  | ⟨name, some schema⟩ => exact read schema [name] rfl

end Parser.Reads

end SqlTree
