import SqlTree.Proofs.Grammar.Statements

/-!
# Statements that are read back

Every statement that selects, inserts, changes or deletes rows and that can be written is read back
from the stream of its tokens.
-/

namespace SqlTree

open Filter
open SqlTree.Parser SqlTree.Grammar

/-- Where the rows of an insertion come from can be written: no row is empty, and there is one at
least. -/
inductive InsertSource.Writable : InsertSource → Prop
  | rows {cells : List (List Expr)} (nonempty : cells ≠ []) (filled : ∀ row ∈ cells, row ≠ [])
      (each : ∀ row ∈ cells, ∀ cell ∈ row, cell.Writable) : (InsertSource.rows cells).Writable
  | query {body : Select} (inner : body.Writable) : (InsertSource.query body).Writable
  | defaults : InsertSource.defaults.Writable

/-- A statement that selects, inserts, changes or deletes rows can be written. -/
inductive Statement.Writable : Statement → Prop
  | select {body : Select} (inner : body.Writable) : (Statement.select body).Writable
  | insert {body : Insert} (rows : body.source.Writable)
      (returns : ∀ column ∈ body.returning, column.value.Writable) :
      (Statement.insert body).Writable
  | update {body : Update} (nonempty : body.assignments ≠ [])
      (values : ∀ entry ∈ body.assignments, entry.value.Writable)
      (tables : ∀ tables ∈ body.source, tables.Writable)
      (condition : ∀ filter ∈ body.filter, filter.Writable)
      (returns : ∀ column ∈ body.returning, column.value.Writable) :
      (Statement.update body).Writable
  | delete {body : Delete} (condition : ∀ filter ∈ body.filter, filter.Writable)
      (returns : ∀ column ∈ body.returning, column.value.Writable) :
      (Statement.delete body).Writable

/-- The rows of an insertion can be written from some number of levels on. -/
theorem InsertSource.Writable.writes {source : InsertSource} (writable : source.Writable) :
    ∀ᶠ levels in atTop, ∃ kinds, InsertSource.Written levels source kinds := by
  cases writable with
  | @rows cells nonempty filled each =>
      have writes : ∀ᶠ levels in atTop, ∀ row ∈ cells, ∀ cell ∈ row,
          ∀ power, ∃ kinds, Expr.Written levels power cell kinds :=
        eventually_forall_mem fun row among =>
          eventually_forall_mem fun cell inside => (each row among cell inside).writes
      filter_upwards [writes] with levels holds
      obtain ⟨pieces, rfl, written⟩ : ∃ pieces : List (List (Piece Expr)),
          pieces.map (fun row => (rowPiece row).value) = cells ∧
            ∀ row ∈ pieces, ∀ piece ∈ row, Expr.Written levels 0 piece.value piece.kinds :=
        exists_pieces fun row among =>
          have ⟨parts, same, found⟩ := Expr.Writes.pieces (holds row among)
          ⟨parts, same, found⟩
      have occupied : ∀ row ∈ pieces, row ≠ [] := by
        rintro _ among rfl
        exact filled _ (List.mem_map_of_mem among) rfl
      have found : InsertSource.Written levels _ _ :=
        .rows (List.map_eq_nil_iff.not.mp nonempty) occupied written
      rw [List.map_map] at found
      exact ⟨_, found⟩
  | query inner =>
      filter_upwards [inner.writes] with levels ⟨kinds, written⟩
      exact ⟨kinds, .query written⟩
  | defaults => exact .of_forall fun _ => ⟨_, .defaults⟩

/-- A writable statement has a writing. -/
theorem Statement.Writable.writes {body : Statement} (writable : body.Writable) :
    ∀ᶠ levels in atTop, ∃ kinds, Statement.Written levels body kinds := by
  cases writable with
  | select inner =>
      filter_upwards [inner.writes] with levels ⟨kinds, written⟩
      exact ⟨kinds, .select written⟩
  | @insert body rows returns =>
      obtain ⟨target, columns, source, returning⟩ := body
      filter_upwards [rows.writes, eventually_forall_mem fun column among =>
        (returns column among).writes] with levels ⟨kinds, written⟩ outputs
      obtain ⟨pieces, rfl, found⟩ := Expr.Writes.outputPieces outputs
      exact ⟨_, .insert target columns written found⟩
  | @update body nonempty values tables condition returns =>
      obtain ⟨target, aliasName, assignments, source, filter, returning⟩ := body
      filter_upwards [eventually_forall_mem fun entry among => (values entry among).writes,
        eventually_forall_mem_option fun body present => (tables body present).writes,
        eventually_forall_mem_option fun body present => (condition body present).writes,
        eventually_forall_mem fun column among => (returns column among).writes]
        with levels assigned sources conditions outputs
      obtain ⟨entries, rfl, entriesWritten⟩ : ∃ entries : List (String × Piece Expr),
          entries.map (fun entry => (assignmentPiece entry).value) = assignments ∧
            ∀ entry ∈ entries, Expr.Written levels 0 entry.2.value entry.2.kinds := by
        refine exists_pieces fun ⟨column, value⟩ among => ?_
        obtain ⟨kinds, written⟩ := assigned _ among 0
        exact ⟨(column, ⟨value, kinds⟩), rfl, written⟩
      obtain ⟨sourcePiece, rfl, sourceWritten⟩ := TableRef.Writes.piece sources
      obtain ⟨filterPiece, rfl, filterWritten⟩ := Expr.Writes.piece conditions
      obtain ⟨pieces, rfl, found⟩ := Expr.Writes.outputPieces outputs
      have written : Statement.Written levels _ _ :=
        .update target aliasName (List.map_eq_nil_iff.not.mp nonempty) entriesWritten sourceWritten
          filterWritten found
      rw [List.map_map] at written
      exact ⟨_, written⟩
  | @delete body condition returns =>
      obtain ⟨target, aliasName, filter, returning⟩ := body
      filter_upwards [eventually_forall_mem_option fun body present =>
        (condition body present).writes, eventually_forall_mem fun column among =>
        (returns column among).writes] with levels conditions outputs
      obtain ⟨filterPiece, rfl, filterWritten⟩ := Expr.Writes.piece conditions
      obtain ⟨pieces, rfl, found⟩ := Expr.Writes.outputPieces outputs
      exact ⟨_, .delete target aliasName filterWritten found⟩

/-- No writing of the rows of an insertion holds an end of input. -/
theorem InsertSource.Written.going {levels : Nat} {source : InsertSource} {kinds : List TokenKind}
    (written : InsertSource.Written levels source kinds) : Going kinds := by
  cases written with
  | rows nonempty filled each =>
      refine Going.cons.mpr ⟨nofun, Going.separated (List.forall_mem_map.mpr fun row among => ?_)⟩
      exact Going.inParens.mpr
        (Going.separated fun piece inside => (each row among piece inside).going)
  | query inner => exact inner.going
  | defaults => simp

theorem Going.returned {levels : Nat} {columns : List (Piece OutputColumn)}
    (returns : ∀ piece ∈ columns, OutputColumn.Written levels piece.value piece.kinds) :
    Going (returningKinds columns) :=
  .listBehind (by simp) fun piece among => (returns piece among).going

/-- No writing of a statement holds an end of input. -/
theorem Statement.Written.going {levels : Nat} {body : Statement} {kinds : List TokenKind}
    (written : Statement.Written levels body kinds) : Going kinds := by
  cases written with
  | select inner => exact inner.going
  | insert target columns rows returns =>
      have targets : Going (targetKinds columns) := by
        unfold targetKinds
        split
        · exact Going.nil
        · exact Going.inParens.mpr (Going.names columns)
      simp [targets, rows.going, Going.returned returns]
  | @update target aliasName assigned source filter returned _ values tables condition returns =>
      have assignments : Going (Piece.separated (assigned.map assignmentPiece)) :=
        Going.separated (List.forall_mem_map.mpr fun entry among => by
          simp [assignmentPiece, (values entry among).going])
      have sourceGoing : Going (Piece.optional .FROM source) :=
        Going.optional fun piece present => (tables piece present).going
      have filterGoing : Going (Piece.optional .WHERE filter) :=
        Going.optional fun piece present => (condition piece present).going
      simp [assignments, sourceGoing, filterGoing, Going.returned returns]
  | @delete target aliasName filter returned condition returns =>
      have filterGoing : Going (Piece.optional .WHERE filter) :=
        Going.optional fun piece present => (condition piece present).going
      simp [filterGoing, Going.returned returns]

/-- A writable statement has writings, and any that nests within the levels of the grammar is read
as the statement, up to the end of the stream. -/
theorem Grammar.statement_of_written {body : Statement} (writable : body.Writable) :
    (∃ levels kinds, Statement.Written levels body kinds) ∧
      ∀ kinds tokens, Statement.Written maximalNesting body kinds → Spells tokens kinds →
        ∃ cursor, Grammar.statement (.ofTokens tokens) = .ok body cursor
          ∧ cursor.current.kind = .finish ∧ cursor.consumed = kinds.length := by
  constructor
  · exact writable.writes.exists
  · intro kinds tokens written spells
    exact written.reads.statement.ofTokens written.going spells

/-- `DELETE FROM t WHERE (NOT done) RETURNING *` is read back. -/
theorem Grammar.statement_of_written_delete :
    ∃ cursor, Grammar.statement (.ofTokens
        [⟨.keyword .DELETE, ⟨0, 6⟩⟩, ⟨.keyword .FROM, ⟨7, 11⟩⟩, ⟨.identifier "t", ⟨12, 13⟩⟩,
          ⟨.keyword .WHERE, ⟨14, 19⟩⟩, ⟨.symbol .leftParen, ⟨20, 21⟩⟩, ⟨.keyword .NOT, ⟨21, 24⟩⟩,
          ⟨.identifier "done", ⟨25, 29⟩⟩, ⟨.symbol .rightParen, ⟨29, 30⟩⟩,
          ⟨.keyword .RETURNING, ⟨31, 40⟩⟩, ⟨.symbol .star, ⟨41, 42⟩⟩])
      = .ok (.delete ⟨⟨"t", none⟩, none, some (.unary .not (.reference none "done")),
          [⟨.star, none⟩]⟩) cursor
        ∧ cursor.current.kind = .finish ∧ cursor.consumed = 10 := by
  let condition : Piece Expr := ⟨.unary .not (.reference none "done"),
    inParens [.keyword .NOT, .identifier "done"]⟩
  let column : Piece OutputColumn := ⟨⟨.star, none⟩, [.symbol .star]⟩
  have negation : Expr.Written maximalNesting 0 condition.value condition.kinds :=
    .parens (.leading rfl (by decide) (.reference none "done"))
  have all : OutputColumn.Written maximalNesting column.value column.kinds := .all none
  have written : Statement.Written maximalNesting _ _ :=
    .delete ⟨"t", none⟩ none (show ∀ piece ∈ some condition, _ by rintro _ ⟨⟩; exact negation)
      (show ∀ piece ∈ [column], _ from List.forall_mem_singleton.mpr all)
  have writable : (Statement.delete ⟨⟨"t", none⟩, none,
      some (.unary .not (.reference none "done")), [⟨.star, none⟩]⟩).Writable :=
    .delete (by rintro _ ⟨⟩; exact .unary .not (.reference none "done"))
      (List.forall_mem_singleton.mpr (.reference none "*"))
  exact (statement_of_written writable).2 _ _ written (.inl rfl)

end SqlTree
