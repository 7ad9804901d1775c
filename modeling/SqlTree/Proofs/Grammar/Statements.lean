import SqlTree.Proofs.Grammar.Completeness
import SqlTree.Proofs.Grammar.Sessions
import SqlTree.Proofs.Grammar.Streams
import SqlTree.Proofs.Grammar.Writable

/-!
# Written statements

How statements that select, insert, change or delete rows are written, and that they are read back.
-/

namespace SqlTree

open SqlTree.Parser SqlTree.Grammar

/-- A row of an insertion. -/
def rowPiece (row : List (Piece Expr)) : Piece (List Expr) :=
  ⟨row.map Piece.value, inParens (Piece.separated row)⟩

/-- An assignment to a column. -/
def assignmentPiece (assigned : String × Piece Expr) : Piece Assignment :=
  ⟨⟨assigned.1, assigned.2.value⟩, .identifier assigned.1 :: .symbol .equal :: assigned.2.kinds⟩

/-- The kinds of the names of the columns that an insertion fills. -/
def targetKinds (columns : List String) : List TokenKind :=
  if columns.isEmpty then [] else inParens (Piece.separated (columns.map namePiece))

/-- The kinds of the columns that a statement returns. -/
def returningKinds (columns : List (Piece OutputColumn)) : List TokenKind :=
  Piece.listBehind [.keyword .RETURNING] columns

/-- Where the rows of an insertion come from may be written with some kinds. There is a row at
least, and no row is empty. -/
inductive InsertSource.Written (levels : Nat) : InsertSource → List TokenKind → Prop
  | rows {rows : List (List (Piece Expr))} (nonempty : rows ≠ []) (filled : ∀ row ∈ rows, row ≠ [])
      (each : ∀ row ∈ rows, ∀ piece ∈ row, Expr.Written levels 0 piece.value piece.kinds) :
      InsertSource.Written levels (.rows ((rows.map rowPiece).map Piece.value))
        (.keyword .VALUES :: Piece.separated (rows.map rowPiece))
  | query {query : Select} {kinds : List TokenKind} (inner : Select.Written levels query kinds) :
      InsertSource.Written levels (.query query) kinds
  | defaults : InsertSource.Written levels .defaults [.keyword .DEFAULT, .keyword .VALUES]

/-- A statement may be written with some kinds. An update assigns to a column at least. -/
inductive Statement.Written (levels : Nat) : Statement → List TokenKind → Prop
  | select {query : Select} {kinds : List TokenKind} (inner : Select.Written levels query kinds) :
      Statement.Written levels (.select query) kinds
  | insert (target : ObjectName) (columns : List String) {source : InsertSource}
      {kinds : List TokenKind} {returned : List (Piece OutputColumn)}
      (rows : InsertSource.Written levels source kinds)
      (returns : ∀ piece ∈ returned, OutputColumn.Written levels piece.value piece.kinds) :
      Statement.Written levels (.insert ⟨target, columns, source, returned.map Piece.value⟩)
        (.keyword .INSERT :: .keyword .INTO :: (target.kinds ++ (targetKinds columns
          ++ (kinds ++ returningKinds returned))))
  | update (target : ObjectName) (aliasName : Option String)
      {assigned : List (String × Piece Expr)} {source : Option (Piece TableRef)}
      {filter : Option (Piece Expr)} {returned : List (Piece OutputColumn)}
      (nonempty : assigned ≠ [])
      (values : ∀ entry ∈ assigned, Expr.Written levels 0 entry.2.value entry.2.kinds)
      (tables : ∀ piece ∈ source, TableRef.Written levels piece.value piece.kinds)
      (condition : ∀ piece ∈ filter, Expr.Written levels 0 piece.value piece.kinds)
      (returns : ∀ piece ∈ returned, OutputColumn.Written levels piece.value piece.kinds) :
      Statement.Written levels
        (.update ⟨target, aliasName, (assigned.map assignmentPiece).map Piece.value,
          source.map Piece.value, filter.map Piece.value, returned.map Piece.value⟩)
        (.keyword .UPDATE :: (target.kinds ++ (aliasKinds aliasName ++ .keyword .SET ::
          (Piece.separated (assigned.map assignmentPiece) ++ (Piece.optional .FROM source
          ++ (Piece.optional .WHERE filter ++ returningKinds returned))))))
  | delete (target : ObjectName) (aliasName : Option String) {filter : Option (Piece Expr)}
      {returned : List (Piece OutputColumn)}
      (condition : ∀ piece ∈ filter, Expr.Written levels 0 piece.value piece.kinds)
      (returns : ∀ piece ∈ returned, OutputColumn.Written levels piece.value piece.kinds) :
      Statement.Written levels
        (.delete ⟨target, aliasName, filter.map Piece.value, returned.map Piece.value⟩)
        (.keyword .DELETE :: .keyword .FROM :: (target.kinds ++ (aliasKinds aliasName
          ++ (Piece.optional .WHERE filter ++ returningKinds returned))))

namespace Parser.Reads

variable {rest : List TokenKind}

/-- What a statement returns is read up to its end. -/
theorem returning {columns : List (Piece OutputColumn)}
    (each : ∀ piece ∈ columns, ReadsColumn maximalNesting piece.value piece.kinds)
    (later : 9 ≤ clausePlace (kindAt rest 0)) :
    Reads returning (returningKinds columns) (columns.map Piece.value) rest := by
  cases columns with
  | nil => exact bind_none (bind_none (eat_false (ne_of_clausePlace later)) (pure _ _)) (pure _ _)
  | cons first others =>
      have read := outputColumns (List.cons_ne_nil first others) each (Nat.zero_lt_of_lt later)
      exact bind_last (bind_one (eatKeyword _ _) (bind_last read (pure _ _))) (pure _ _)

theorem targetColumns (columns : List String) (ends : kindAt rest 0 ≠ .symbol .leftParen) :
    Reads targetColumns (targetKinds columns) columns rest := by
  cases columns with
  | nil => exact bind_none (eat_false ends) (pure _ _)
  | cons first others =>
      exact bind_one (eatSymbol _ _) (bind (nameList (List.cons_ne_nil _ _) nofun)
        (bind_one (expectSymbol _ _) (pure _ _)))

theorem row {row : List (Piece Expr)} (filled : row ≠ [])
    (each : ∀ piece ∈ row, ReadsOperand maximalNesting 0 piece.value piece.kinds) :
    Reads (Parser.parenthesized (Grammar.expressionList topRules)) (rowPiece row).kinds
      (rowPiece row).value rest :=
  parenthesized (expressionList filled each ⟨rfl, fun _ => rfl⟩ nofun)

theorem assignment {assigned : String × Piece Expr}
    (value : ReadsOperand maximalNesting 0 assigned.2.value assigned.2.kinds)
    (follows : Follows 0 rest) :
    Reads assignment (assignmentPiece assigned).kinds (assignmentPiece assigned).value rest :=
  bind_one (expectName _ _) (bind_one (expectSymbol _ _)
    (bind_last (value.expression (Nat.le_refl _) follows) (pure _ _)))

end Parser.Reads

/-- A statement is read from its tokens where its end follows, and opens with no semicolon. -/
structure ReadsStatement (body : Statement) (kinds : List TokenKind) : Prop where
  opens : ∀ rest, kindAt (kinds ++ rest) 0 ≠ .symbol .semicolon
  read : ∀ rest, 9 ≤ clausePlace (kindAt rest 0) → Reads statementBody kinds body rest

/-- A statement at the start of a stream is read up to the end of the stream. -/
theorem ReadsStatement.statement {body : Statement} {kinds : List TokenKind}
    (reads : ReadsStatement body kinds) : Reads statement kinds body [] := by
  intro cursor faces
  rw [run_statement faces (reads.opens [])]
  exact Reads.bind_last (reads.read [] (Nat.le_refl 9)) (statementEnd body) cursor faces

/-- The place of what a statement returns is the last. -/
theorem clausePlace_returning (columns : List (Piece OutputColumn)) {rest : List TokenKind}
    (later : 9 ≤ clausePlace (kindAt rest 0)) :
    8 ≤ clausePlace (kindAt (returningKinds columns ++ rest) 0) :=
  clausePlace_listBehind _ (Nat.le_refl 8) (Nat.le_of_succ_le later)

namespace Parser.Reads

variable {rest : List TokenKind}

/-- The rows of an insertion are read up to what it returns, and open with no mark that could go on
with its target. -/
theorem insertSource {source : InsertSource} {kinds : List TokenKind}
    (written : InsertSource.Written maximalNesting source kinds)
    (later : 8 ≤ clausePlace (kindAt rest 0)) :
    Reads insertSource kinds source rest ∧ kindAt (kinds ++ rest) 0 ≠ .symbol .leftParen
      ∧ kindAt (kinds ++ rest) 0 ≠ .symbol .dot := by
  cases written with
  | @rows rows nonempty filled each =>
      refine ⟨bind_one (eatKeyword _ _) (bind_last ?_ (pure _ _)), nofun, nofun⟩
      refine separated (fun _ => True) (List.map_eq_nil_iff.not.mpr nonempty) ?_
        (fun _ => trivial) trivial (ne_of_clausePlace (Nat.lt_of_lt_of_le (by decide) later))
      intro piece among after _
      obtain ⟨cells, present, rfl⟩ := List.mem_map.mp among
      exact row (filled cells present) fun cell inside => (each cells present cell inside).reads
  | query inner =>
      have reads := inner.reads
      obtain ⟨others, rfl⟩ := reads.opens
      refine ⟨bind_none (eat_false nofun) ?_, nofun, nofun⟩
      exact bind_none (atKeyword_true rfl) (bind_last (reads.read rest later) (pure _ _))
  | defaults =>
      refine ⟨bind_none (eat_false nofun) (bind_none (atKeyword_false nofun) ?_), nofun, nofun⟩
      exact bind_one (eatKeyword _ _) (bind_last (expectKeyword _ _) (pure _ _))

theorem insert (target : ObjectName) (columns : List String) {source : InsertSource}
    {kinds : List TokenKind} {returned : List (Piece OutputColumn)}
    (rows : InsertSource.Written maximalNesting source kinds)
    (returns : ∀ piece ∈ returned, ReadsColumn maximalNesting piece.value piece.kinds)
    (later : 9 ≤ clausePlace (kindAt rest 0)) :
    Reads insert (.keyword .INSERT :: .keyword .INTO :: (target.kinds ++ (targetKinds columns
      ++ (kinds ++ returningKinds returned))))
      ⟨target, columns, source, returned.map Piece.value⟩ rest := by
  obtain ⟨readRows, noParen, noDot⟩ := insertSource rows (clausePlace_returning returned later)
  rw [← List.append_assoc] at noParen noDot
  have behindTarget :
      kindAt (targetKinds columns ++ (kinds ++ returningKinds returned) ++ rest) 0
        ≠ .symbol .dot := by
    cases columns with
    | nil => exact noDot
    | cons => exact nofun
  exact bind_one (expectKeyword _ _) (bind_one (expectKeyword _ _)
    (bind (objectName target behindTarget) (bind (targetColumns columns noParen)
      (bind readRows (bind_last (returning returns later) (pure _ _))))))

/-- The filter of a statement is read up to what the statement returns. -/
theorem rowFilter {filter : Option (Piece Expr)}
    (condition : ∀ piece ∈ filter, ReadsOperand maximalNesting 0 piece.value piece.kinds)
    (later : 8 ≤ clausePlace (kindAt rest 0)) :
    Reads rowFilter (Piece.optional .WHERE filter) (filter.map Piece.value) rest :=
  optionalExpression condition (Nat.lt_of_lt_of_le (by decide) later)

theorem update (target : ObjectName) (aliasName : Option String)
    {assigned : List (String × Piece Expr)} {source : Option (Piece TableRef)}
    {filter : Option (Piece Expr)} {returned : List (Piece OutputColumn)} (nonempty : assigned ≠ [])
    (values : ∀ entry ∈ assigned, ReadsOperand maximalNesting 0 entry.2.value entry.2.kinds)
    (tables : ∀ piece ∈ source, ReadsTables maximalNesting piece.value piece.kinds)
    (condition : ∀ piece ∈ filter, ReadsOperand maximalNesting 0 piece.value piece.kinds)
    (returns : ∀ piece ∈ returned, ReadsColumn maximalNesting piece.value piece.kinds)
    (later : 9 ≤ clausePlace (kindAt rest 0)) :
    Reads update (.keyword .UPDATE :: (target.kinds ++ (aliasKinds aliasName ++ .keyword .SET ::
      (Piece.separated (assigned.map assignmentPiece) ++ (Piece.optional .FROM source
      ++ (Piece.optional .WHERE filter ++ returningKinds returned))))))
      ⟨target, aliasName, (assigned.map assignmentPiece).map Piece.value, source.map Piece.value,
        filter.map Piece.value, returned.map Piece.value⟩ rest := by
  have atReturning := clausePlace_returning returned later
  have atWhere : 2 ≤ clausePlace (kindAt
      (Piece.optional .WHERE filter ++ returningKinds returned ++ rest) 0) := by
    rw [List.append_assoc]
    exact clausePlace_optional _ (Nat.le_refl 2) (Nat.le_trans (by decide) atReturning)
  have atFrom : 1 ≤ clausePlace (kindAt (Piece.optional .FROM source
      ++ (Piece.optional .WHERE filter ++ returningKinds returned) ++ rest) 0) := by
    rw [List.append_assoc]
    exact clausePlace_optional _ (Nat.le_refl 1) (Nat.le_trans (by decide) atWhere)
  have each : ∀ piece ∈ assigned.map assignmentPiece, ∀ after, Follows 0 after →
      Reads Grammar.assignment piece.kinds piece.value after := by
    intro piece among after follows
    obtain ⟨entry, present, rfl⟩ := List.mem_map.mp among
    exact assignment (values entry present) follows
  have assignments := separated (Follows 0) (List.map_eq_nil_iff.not.mpr nonempty) each
    (fun _ => EndsExpression.follows ⟨rfl, fun _ => rfl⟩ 0)
    ((EndsTable.of_clausePlace atFrom).toEndsExpression.follows 0) (ne_of_clausePlace atFrom)
  have behindTarget : ∀ others, kindAt (aliasKinds aliasName ++ .keyword .SET :: others) 0
      ≠ .symbol .dot := by
    intro others
    cases aliasName <;> exact nofun
  refine bind_one (expectKeyword _ _) (bind (objectName target ?_)
    (bind (optionalAlias aliasName nofun rfl) (bind_one (expectKeyword _ _)
      (bind assignments (bind (optionalTables tables atWhere)
        (bind (rowFilter condition atReturning)
          (bind_last (returning returns later) (pure _ _))))))))
  rw [List.append_assoc]
  exact behindTarget _

theorem delete (target : ObjectName) (aliasName : Option String) {filter : Option (Piece Expr)}
    {returned : List (Piece OutputColumn)}
    (condition : ∀ piece ∈ filter, ReadsOperand maximalNesting 0 piece.value piece.kinds)
    (returns : ∀ piece ∈ returned, ReadsColumn maximalNesting piece.value piece.kinds)
    (later : 9 ≤ clausePlace (kindAt rest 0)) :
    Reads delete (.keyword .DELETE :: .keyword .FROM :: (target.kinds ++ (aliasKinds aliasName
      ++ (Piece.optional .WHERE filter ++ returningKinds returned))))
      ⟨target, aliasName, filter.map Piece.value, returned.map Piece.value⟩ rest := by
  have atReturning := clausePlace_returning returned later
  have atWhere : 2 ≤ clausePlace (kindAt
      (Piece.optional .WHERE filter ++ returningKinds returned ++ rest) 0) := by
    rw [List.append_assoc]
    exact clausePlace_optional _ (Nat.le_refl 2) (Nat.le_trans (by decide) atReturning)
  have ends : EndsTable (kindAt
      (Piece.optional .WHERE filter ++ returningKinds returned ++ rest) 0) :=
    .of_clausePlace (Nat.lt_of_lt_of_le (by decide) atWhere)
  have behindTarget : kindAt (aliasKinds aliasName
      ++ (Piece.optional .WHERE filter ++ returningKinds returned) ++ rest) 0 ≠ .symbol .dot := by
    cases aliasName with
    | none => exact ne_of_extendsName ends.ends rfl
    | some => exact nofun
  exact bind_one (expectKeyword _ _) (bind_one (expectKeyword _ _)
    (bind (objectName target behindTarget) (bind (optionalAlias aliasName ends.plain ends.ends)
      (bind (rowFilter condition atReturning) (bind_last (returning returns later) (pure _ _))))))

end Parser.Reads

namespace Statement.Written

variable {body : Statement} {kinds : List TokenKind}

/-- A written statement is read back. -/
theorem reads (written : Statement.Written maximalNesting body kinds) :
    ReadsStatement body kinds := by
  cases written with
  | select inner =>
      have reads := inner.reads
      obtain ⟨others, rfl⟩ := reads.opens
      exact ⟨nofun, fun rest later => Reads.bind_none (Reads.look _ 0)
        (Reads.map (reads.read rest (Nat.le_of_succ_le later)))⟩
  | insert target columns rows returns =>
      exact ⟨nofun, fun rest later => Reads.bind_none (Reads.look _ 0)
        (Reads.map (Reads.insert target columns rows
          (fun piece among => (returns piece among).reads) later))⟩
  | update target aliasName nonempty values tables condition returns =>
      exact ⟨nofun, fun rest later => Reads.bind_none (Reads.look _ 0)
        (Reads.map (Reads.update target aliasName nonempty
          (fun entry among => (values entry among).reads)
          (fun piece present => (tables piece present).reads)
          (fun piece present => (condition piece present).reads)
          (fun piece among => (returns piece among).reads) later))⟩
  | delete target aliasName condition returns =>
      exact ⟨nofun, fun rest later => Reads.bind_none (Reads.look _ 0)
        (Reads.map (Reads.delete target aliasName
          (fun piece present => (condition piece present).reads)
          (fun piece among => (returns piece among).reads) later))⟩

end Statement.Written

end SqlTree
