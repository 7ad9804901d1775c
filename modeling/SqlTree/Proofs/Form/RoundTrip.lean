import SqlTree.Proofs.Form.Nodes
import SqlTree.Proofs.Form.Sequences

/-!
# Round trip of forms

A statement and an expression are read back from their forms. Only a number that is not finite is
lost: it comes back as null.
-/

namespace SqlTree

open Json Decoder

namespace NodeDecoders.ReadsBack

variable {readers : NodeDecoders} {levels : Nat} {object : Json} {name : String}
  (inner : readers.ReadsBack levels)

include inner

/-- The source of an insertion is read back. -/
theorem insertSource (source : InsertSource) (within : 2 * source.form.depth ≤ levels + 2) :
    readers.insertSource source.form = some (source.image Expr.nullified) := by
  cases source with
  | rows cells =>
      have there : (InsertSource.rows cells).form.find? "values"
          = some (.array (cells.map fun row => .array (expressionForms row))) := by
        simp [InsertSource.form]
      have read : list (list readers.expression)
          (.array (cells.map fun row => .array (expressionForms row)))
            = some (cells.map (expressionImages Expr.nullified)) :=
        list_map fun row among => by
          have below := item_depth_lt_of_find? there (List.mem_map_of_mem among)
          exact inner.list_expressions (by omega)
      rw [InsertSource.form, NodeDecoders.insertSource, read]
      rfl
  | query body =>
      have there : (InsertSource.query body).form.find? "query"
          = some (.object body.members) := by
        simp [InsertSource.form]
      have below := depth_lt_of_find? there
      have read : readers.query (.object body.members) = some (body.image Expr.nullified) :=
        inner.query body [] nofun (by rw [List.nil_append]; omega)
      rw [InsertSource.form, NodeDecoders.insertSource, read]
      rfl
  | defaults => rfl

/-- A statement that inserts rows is read back. -/
theorem insert (kind : String) (insert : Insert)
    (within : 2 * (nodeForm kind insert.members).depth ≤ levels + 2) :
    readers.insert (nodeForm kind insert.members) = some (insert.image Expr.nullified) := by
  generalize shape : nodeForm kind insert.members = object at within ⊢
  have targetThere : object.find? "into" = some insert.target.form := by
    simp [find?_of_nodeForm shape, Insert.members]
  have readTarget : required "into" objectName object = some insert.target :=
    required_of_find? targetThere fun _ => objectName_form insert.target
  have readColumns : defaulted "columns" [] (list string) object = some insert.columns :=
    defaulted_strings_of_find? (by simp [find?_of_nodeForm shape, Insert.members])
  have sourceThere : object.find? "values" = some insert.source.form := by
    simp [find?_of_nodeForm shape, Insert.members]
  have readSource : required "values" readers.insertSource object
      = some (insert.source.image Expr.nullified) :=
    required_of_find? sourceThere fun _ => inner.insertSource _ (by omega)
  have readReturning : defaulted "returning" [] (list readers.outputColumn) object
      = some (columnImages Expr.nullified insert.returning) :=
    inner.defaulted_columns within (by simp [find?_of_nodeForm shape, Insert.members])
  simp only [NodeDecoders.insert, readTarget, readColumns, readSource, readReturning,
    Insert.image, Option.bind_eq_bind, Option.bind_some, Option.pure_def]

/-- An assignment is read back. -/
theorem assignment (assignment : Assignment)
    (within : 2 * assignment.form.depth ≤ levels + 2) :
    readers.assignment assignment.form = some (assignment.image Expr.nullified) := by
  have node : members assignment.form = some assignment.form := rfl
  have readColumn : required "column" string assignment.form = some assignment.column :=
    required_string_of_find? (by simp [Assignment.form])
  have readValue : required "value" readers.expression assignment.form
      = some (assignment.value.image Expr.nullified) :=
    inner.required_expression within (by simp [Assignment.form])
  simp only [NodeDecoders.assignment, node, readColumn, readValue, Assignment.image,
    Option.bind_eq_bind, Option.bind_some, Option.pure_def]

/-- A statement that changes rows is read back. -/
theorem update (kind : String) (update : Update)
    (within : 2 * (nodeForm kind update.members).depth ≤ levels + 2) :
    readers.update (nodeForm kind update.members) = some (update.image Expr.nullified) := by
  generalize shape : nodeForm kind update.members = object at within ⊢
  have targetThere : object.find? "table" = some update.target.form := by
    simp [find?_of_nodeForm shape, Update.members]
  have readTarget : required "table" objectName object = some update.target :=
    required_of_find? targetThere fun _ => objectName_form update.target
  have readAlias : nullable "alias" string object = some update.aliasName :=
    nullable_string_of_find? (by simp [find?_of_nodeForm shape, Update.members])
  have setsThere : object.find? "sets"
      = some (.array (update.assignments.map Assignment.form)) := by
    simp [find?_of_nodeForm shape, Update.members]
  have readSets : required "sets" (list readers.assignment) object
      = some (update.assignments.map (Assignment.image Expr.nullified)) :=
    required_list_of_find? setsThere fun entry _ _ => inner.assignment entry (by omega)
  have readSource : nullable "from" readers.table object
      = some (tableImage? Expr.nullified update.source) :=
    inner.nullable_table within (by simp [find?_of_nodeForm shape, Update.members])
  have readFilter : nullable "where" readers.expression object
      = some (expressionImage? Expr.nullified update.filter) :=
    inner.nullable_expression within (by simp [find?_of_nodeForm shape, Update.members])
  have readReturning : defaulted "returning" [] (list readers.outputColumn) object
      = some (columnImages Expr.nullified update.returning) :=
    inner.defaulted_columns within (by simp [find?_of_nodeForm shape, Update.members])
  simp only [NodeDecoders.update, readTarget, readAlias, readSets, readSource, readFilter,
    readReturning, Update.image, Option.bind_eq_bind, Option.bind_some, Option.pure_def]

/-- A statement that deletes rows is read back. -/
theorem delete (kind : String) (delete : Delete)
    (within : 2 * (nodeForm kind delete.members).depth ≤ levels + 2) :
    readers.delete (nodeForm kind delete.members) = some (delete.image Expr.nullified) := by
  generalize shape : nodeForm kind delete.members = object at within ⊢
  have targetThere : object.find? "from" = some delete.target.form := by
    simp [find?_of_nodeForm shape, Delete.members]
  have readTarget : required "from" objectName object = some delete.target :=
    required_of_find? targetThere fun _ => objectName_form delete.target
  have readAlias : nullable "alias" string object = some delete.aliasName :=
    nullable_string_of_find? (by simp [find?_of_nodeForm shape, Delete.members])
  have readFilter : nullable "where" readers.expression object
      = some (expressionImage? Expr.nullified delete.filter) :=
    inner.nullable_expression within (by simp [find?_of_nodeForm shape, Delete.members])
  have readReturning : defaulted "returning" [] (list readers.outputColumn) object
      = some (columnImages Expr.nullified delete.returning) :=
    inner.defaulted_columns within (by simp [find?_of_nodeForm shape, Delete.members])
  simp only [NodeDecoders.delete, readTarget, readAlias, readFilter, readReturning, Delete.image,
    Option.bind_eq_bind, Option.bind_some, Option.pure_def]

end NodeDecoders.ReadsBack

/-- A statement is read back, up to numbers that are not finite. -/
theorem Decoder.statementWithin_form (statement : Statement) {levels : Nat}
    (within : 2 * statement.form.depth ≤ levels + 1) :
    statementWithin levels statement.form = some (statement.image Expr.nullified) := by
  have inner := NodeDecoders.readsBack_ofLevels levels
  have room : 2 * statement.form.depth ≤ levels + 2 := by omega
  have node : members statement.form = some statement.form := rfl
  have kind : required "type" string statement.form = some statement.kind := rfl
  unfold statementWithin
  cases statement with
  | select body =>
      have read : (NodeDecoders.ofLevels levels).query (Statement.select body).form
          = some (body.image Expr.nullified) :=
        inner.query body [("type", .string "select")] (by simp) within
      simp only [node, kind, Statement.kind, read, Statement.image, Option.bind_eq_bind,
        Option.bind_some, Option.pure_def]
  | insert body =>
      have read : (NodeDecoders.ofLevels levels).insert (Statement.insert body).form
          = some (body.image Expr.nullified) := inner.insert "insert" body room
      simp only [node, kind, Statement.kind, read, Statement.image, Option.bind_eq_bind,
        Option.bind_some, Option.pure_def]
  | update body =>
      have read : (NodeDecoders.ofLevels levels).update (Statement.update body).form
          = some (body.image Expr.nullified) := inner.update "update" body room
      simp only [node, kind, Statement.kind, read, Statement.image, Option.bind_eq_bind,
        Option.bind_some, Option.pure_def]
  | delete body =>
      have read : (NodeDecoders.ofLevels levels).delete (Statement.delete body).form
          = some (body.image Expr.nullified) := inner.delete "delete" body room
      simp only [node, kind, Statement.kind, read, Statement.image, Option.bind_eq_bind,
        Option.bind_some, Option.pure_def]
  | createSequence body =>
      have read : createSequence (Statement.createSequence body).form = some body :=
        createSequence_members "create sequence" body
      simp only [node, kind, Statement.kind, read, Statement.image, Option.bind_eq_bind,
        Option.bind_some, Option.pure_def]
  | alterSequence body =>
      have read : alterSequence (Statement.alterSequence body).form = some body :=
        alterSequence_members "alter sequence" body
      simp only [node, kind, Statement.kind, read, Statement.image, Option.bind_eq_bind,
        Option.bind_some, Option.pure_def]
  | dropSequence body =>
      have read : dropSequence (Statement.dropSequence body).form = some body :=
        dropSequence_members "drop sequence" body
      simp only [node, kind, Statement.kind, read, Statement.image, Option.bind_eq_bind,
        Option.bind_some, Option.pure_def]

/-- Every number among some nodes is finite. -/
def AllFinite (nodes : List Node) : Prop :=
  ∀ value, .expression (.literal (.numeric value)) ∈ nodes → value.isFinite = true

/-- Where every number is finite, none gives way to null. -/
theorem AllFinite.fixes {nodes : List Node} (finite : AllFinite nodes) :
    Fixes Expr.nullified nodes := by
  intro body among
  cases body with
  | literal value =>
      cases value with
      | numeric value =>
          rw [Expr.nullified, Literal.nullified, if_pos (finite value among)]
      | _ => rfl
  | _ => rfl

/-- Every statement and every expression is read back from its form, with null in the place of a
number that is not finite; where every number is finite, it is read back as it is. -/
theorem ofForm?_form :
    (∀ statement : Statement,
      Statement.ofForm? statement.form = some (statement.image Expr.nullified) ∧
      (AllFinite statement.nodes → Statement.ofForm? statement.form = some statement)) ∧
    ∀ expression : Expr,
      Expr.ofForm? expression.form = some (expression.image Expr.nullified) ∧
      (AllFinite expression.nodes → Expr.ofForm? expression.form = some expression) := by
  refine ⟨fun statement => ?_, fun expression => ?_⟩
  · have read : Statement.ofForm? statement.form = some (statement.image Expr.nullified) :=
      statementWithin_form statement (by omega)
    refine ⟨read, fun finite => ?_⟩
    rw [read, statement.image_eq_self finite.fixes]
  · have read : Expr.ofForm? expression.form = some (expression.image Expr.nullified) :=
      (NodeDecoders.readsBack_ofLevels _).expression expression (by omega)
    refine ⟨read, fun finite => ?_⟩
    rw [read, expression.image_eq_self finite.fixes]

/-- The number 1.5 is read back as it is, and an infinite one as null. -/
theorem ofForm?_form_numeric :
    Expr.ofForm? (Expr.literal (.numeric ⟨0x3FF8000000000000⟩)).form
        = some (.literal (.numeric ⟨0x3FF8000000000000⟩)) ∧
      Expr.ofForm? (Expr.literal (.numeric .infinity)).form = some (.literal .null) := by
  have finite : AllFinite (Expr.literal (.numeric ⟨0x3FF8000000000000⟩)).nodes := by
    intro value among
    rcases List.mem_cons.mp among with same | other
    · cases same
      decide
    · cases List.mem_singleton.mp other
  exact ⟨(ofForm?_form.2 _).2 finite, (ofForm?_form.2 _).1⟩

end SqlTree
