import SqlTree.Proofs.Form.Parts
import SqlTree.Proofs.Tree.Image

/-!
# Forms of nodes

Expressions, queries and tables are read back from their forms, level by level: readers that read
back what nests within some levels make readers for one level more.
-/

namespace SqlTree

open Json Decoder

/-- Null in the place of a number that is not finite; any other expression as it is. -/
def Expr.nullified : Expr → Expr
  | .literal value => .literal value.nullified
  | expression => expression

section Lists

/-- The forms of expressions are those of each in turn. -/
theorem expressionForms_eq (expressions : List Expr) :
    expressionForms expressions = expressions.map Expr.form := by
  induction expressions with
  | nil => rfl
  | cons expression expressions inductionHypothesis =>
      rw [expressionForms, inductionHypothesis, List.map_cons]

theorem armForms_eq (arms : List CaseArm) : armForms arms = arms.map CaseArm.form := by
  induction arms with
  | nil => rfl
  | cons arm arms inductionHypothesis => rw [armForms, inductionHypothesis, List.map_cons]

theorem outputColumnForms_eq (columns : List OutputColumn) :
    outputColumnForms columns = columns.map OutputColumn.form := by
  induction columns with
  | nil => rfl
  | cons column columns inductionHypothesis =>
      rw [outputColumnForms, inductionHypothesis, List.map_cons]

theorem sortKeyForms_eq (keys : List SortKey) : sortKeyForms keys = keys.map SortKey.form := by
  induction keys with
  | nil => rfl
  | cons key keys inductionHypothesis => rw [sortKeyForms, inductionHypothesis, List.map_cons]

theorem expressionForm?_eq (expression : Option Expr) :
    expressionForm? expression = expression.map Expr.form := by
  cases expression <;> rfl

theorem tableForm?_eq (table : Option TableRef) :
    tableForm? table = table.map TableRef.form := by
  cases table <;> rfl

end Lists

/-- The form of an expression is no null. -/
theorem Expr.form_ne_null (expression : Expr) : expression.form ≠ .null := by
  cases expression <;> simp [Expr.form, nodeForm]

theorem TableRef.form_ne_null (table : TableRef) : table.form ≠ .null := by
  cases table <;> simp [TableRef.form, nodeForm]

namespace NodeDecoders

/-- Readers that read back what nests within some levels, up to numbers that are not finite. A query
may have its kind before its members. -/
structure ReadsBack (readers : NodeDecoders) (levels : Nat) : Prop where
  expression : ∀ expression : Expr, 2 * expression.form.depth ≤ levels →
    readers.expression expression.form = some (expression.image Expr.nullified)
  query : ∀ (query : Select) (front : List (String × Json)),
    (∀ entry ∈ front, entry.1 = "type") →
    2 * (Json.object (front ++ query.members)).depth ≤ levels + 1 →
    readers.query (.object (front ++ query.members)) = some (query.image Expr.nullified)
  table : ∀ table : TableRef, 2 * table.form.depth ≤ levels →
    readers.table table.form = some (table.image Expr.nullified)

/-- What a form is read as goes by the kind that it names. -/
theorem expressionForm_form (readers : NodeDecoders) (expression : Expr) :
    readers.expressionForm expression.form
      = readers.expressionOf expression.form expression.kind := by
  have node : members expression.form = some expression.form := by cases expression <;> rfl
  have kind : required "type" string expression.form = some expression.kind := by
    cases expression <;> rfl
  simp only [NodeDecoders.expressionForm, node, kind, Option.bind_eq_bind, Option.bind_some]

section Leaves

variable {readers : NodeDecoders}

/-- A reference is read back. -/
theorem expressionForm_reference (table : Option ObjectName) (column : String) :
    readers.expressionForm (Expr.reference table column).form
      = some ((Expr.reference table column).image Expr.nullified) := by
  rw [expressionForm_form]
  have readTable : nullable "table" objectName (Expr.reference table column).form
      = some (table.map id) :=
    nullable_of_find? (show _ = table.map ObjectName.form by simp [Expr.form, nodeForm])
      (fun _ => nofun) fun name _ _ => objectName_form name
  have readColumn : required "name" string (Expr.reference table column).form
      = some column :=
    required_string_of_find? (by simp [Expr.form, nodeForm])
  rw [Option.map_id_apply] at readTable
  simp only [Expr.kind, expressionOf, readTable, readColumn, Expr.image, Expr.nullified,
    Option.bind_eq_bind, Option.bind_some, Option.pure_def]

/-- A constant is read back, up to a number that is not finite. -/
theorem expressionForm_literal (value : Literal) :
    readers.expressionForm (Expr.literal value).form
      = some ((Expr.literal value).image Expr.nullified) := by
  rw [expressionForm_form]
  have readValue : required "value" literal (Expr.literal value).form
      = some value.nullified :=
    required_of_find? (show _ = some value.form by simp [Expr.form, nodeForm])
      fun _ => literal_form value
  simp only [Expr.kind, expressionOf, readValue, Expr.image, Expr.nullified,
    Option.bind_eq_bind, Option.bind_some, Option.pure_def]

/-- A parameter is read back. -/
theorem expressionForm_parameter (name : String) :
    readers.expressionForm (Expr.parameter name).form
      = some ((Expr.parameter name).image Expr.nullified) := by
  rw [expressionForm_form]
  have readName : required "name" string (Expr.parameter name).form = some name :=
    required_string_of_find? (by simp [Expr.form, nodeForm])
  simp only [Expr.kind, expressionOf, readName, Expr.image, Expr.nullified,
    Option.bind_eq_bind, Option.bind_some, Option.pure_def]

end Leaves

namespace ReadsBack

variable {readers : NodeDecoders} {levels : Nat} {object : Json} {name : String}

/-- A list of expressions is read back. -/
theorem list_expressions (inner : readers.ReadsBack levels) {expressions : List Expr}
    (within : 2 * (Json.array (expressionForms expressions)).depth ≤ levels + 2) :
    list readers.expression (.array (expressionForms expressions))
      = some (expressionImages Expr.nullified expressions) := by
  rw [expressionForms_eq] at within ⊢
  rw [expressionImages_eq]
  rw [depth] at within
  refine list_map fun expression among => inner.expression _ ?_
  have below := depth_le_itemsDepth (show expression.form ∈ _ from List.mem_map_of_mem among)
  omega

section Members

variable (inner : readers.ReadsBack levels) (within : 2 * object.depth ≤ levels + 2)

include inner within

theorem required_expression {expression : Expr}
    (there : object.find? name = some expression.form) :
    required name readers.expression object = some (expression.image Expr.nullified) :=
  required_of_find? there fun _ => inner.expression _ (by omega)

theorem nullable_expression {expression : Option Expr}
    (there : object.find? name = expressionForm? expression) :
    nullable name readers.expression object
      = some (expressionImage? Expr.nullified expression) := by
  rw [expressionForm?_eq] at there
  rw [expressionImage?_eq]
  exact nullable_of_find? there Expr.form_ne_null fun _ _ _ => inner.expression _ (by omega)

theorem required_expressions {expressions : List Expr}
    (there : object.find? name = some (.array (expressionForms expressions))) :
    required name (list readers.expression) object
      = some (expressionImages Expr.nullified expressions) :=
  required_of_find? there fun _ => inner.list_expressions (by omega)

theorem defaulted_expressions {expressions : List Expr}
    (there : object.find? name = if (expressionForms expressions).isEmpty then none
      else some (.array (expressionForms expressions))) :
    defaulted name [] (list readers.expression) object
      = some (expressionImages Expr.nullified expressions) := by
  rw [expressionForms_eq] at there
  rw [expressionImages_eq]
  exact defaulted_list_of_find? there fun _ _ _ => inner.expression _ (by omega)

theorem required_query {query : Select}
    (there : object.find? name = some (.object query.members)) :
    required name readers.query object = some (query.image Expr.nullified) :=
  required_of_find? there fun _ => inner.query query [] nofun (by rw [List.nil_append]; omega)

theorem required_table {table : TableRef} (there : object.find? name = some table.form) :
    required name readers.table object = some (table.image Expr.nullified) :=
  required_of_find? there fun _ => inner.table _ (by omega)

theorem nullable_table {table : Option TableRef} (there : object.find? name = tableForm? table) :
    nullable name readers.table object = some (tableImage? Expr.nullified table) := by
  rw [tableForm?_eq] at there
  rw [tableImage?_eq]
  exact nullable_of_find? there TableRef.form_ne_null fun _ _ _ => inner.table _ (by omega)

end Members

variable (inner : readers.ReadsBack levels)

include inner

/-- An arm of a case expression is read back. -/
theorem caseArm (arm : CaseArm) (within : 2 * arm.form.depth ≤ levels + 2) :
    readers.caseArm arm.form = some (arm.image Expr.nullified) := by
  obtain ⟨condition, result⟩ := arm
  have readCondition : required "when" readers.expression (CaseArm.mk condition result).form
      = some (condition.image Expr.nullified) :=
    inner.required_expression within (by simp [CaseArm.form])
  have readResult : required "value" readers.expression (CaseArm.mk condition result).form
      = some (result.image Expr.nullified) :=
    inner.required_expression within (by simp [CaseArm.form])
  rw [CaseArm.form] at readCondition readResult ⊢
  simp only [NodeDecoders.caseArm, members, readCondition, readResult, CaseArm.image,
    Option.bind_eq_bind, Option.bind_some, Option.pure_def]

/-- A returned column is read back. -/
theorem outputColumn (column : OutputColumn) (within : 2 * column.form.depth ≤ levels + 2) :
    readers.outputColumn column.form = some (column.image Expr.nullified) := by
  obtain ⟨value, aliasName⟩ := column
  have readValue : required "expr" readers.expression (OutputColumn.mk value aliasName).form
      = some (value.image Expr.nullified) :=
    inner.required_expression within (by simp [OutputColumn.form])
  have readAlias : nullable "alias" string (OutputColumn.mk value aliasName).form
      = some aliasName :=
    nullable_string_of_find? (by simp [OutputColumn.form])
  rw [OutputColumn.form] at readValue readAlias ⊢
  simp only [NodeDecoders.outputColumn, members, readValue, readAlias, OutputColumn.image,
    Option.bind_eq_bind, Option.bind_some, Option.pure_def]

/-- Returned columns are read back. -/
theorem required_columns (within : 2 * object.depth ≤ levels + 2) {columns : List OutputColumn}
    (there : object.find? name = some (.array (outputColumnForms columns))) :
    required name (list readers.outputColumn) object
      = some (columnImages Expr.nullified columns) := by
  rw [outputColumnForms_eq] at there
  rw [columnImages_eq]
  exact required_list_of_find? there fun column _ _ => inner.outputColumn column (by omega)

theorem defaulted_columns (within : 2 * object.depth ≤ levels + 2) {columns : List OutputColumn}
    (there : object.find? name = if (outputColumnForms columns).isEmpty then none
      else some (.array (outputColumnForms columns))) :
    defaulted name [] (list readers.outputColumn) object
      = some (columnImages Expr.nullified columns) := by
  rw [outputColumnForms_eq] at there
  rw [columnImages_eq]
  exact defaulted_list_of_find? there fun column _ _ => inner.outputColumn column (by omega)

/-- A sort key is read back. -/
theorem sortKey (key : SortKey) (within : 2 * key.form.depth ≤ levels + 2) :
    readers.sortKey key.form = some (key.image Expr.nullified) := by
  obtain ⟨key, direction, nulls⟩ := key
  have readKey : required "by" readers.expression (SortKey.mk key direction nulls).form
      = some (key.image Expr.nullified) :=
    inner.required_expression within (by simp [SortKey.form])
  have readDirection : defaulted "order" .ascending
      (spelled [.ascending, .descending] Direction.spelling) (SortKey.mk key direction nulls).form
        = some direction :=
    defaulted_of_find? (by simp [SortKey.form])
      (spelled_of_nodup (by decide) (by cases direction <;> simp))
  have readNulls : nullable "nulls" (spelled [.first, .last] NullPlacement.spelling)
      (SortKey.mk key direction nulls).form = some (nulls.map id) := by
    refine nullable_of_find?
      (show _ = nulls.map fun placement => .string placement.spelling by simp [SortKey.form])
      (fun _ => nofun) fun placement _ _ => ?_
    exact spelled_of_nodup (by decide) (by cases placement <;> simp)
  rw [Option.map_id_apply] at readNulls
  rw [SortKey.form] at readKey readDirection readNulls ⊢
  simp only [NodeDecoders.sortKey, members, readKey, readDirection, readNulls, SortKey.image,
    Option.bind_eq_bind, Option.bind_some, Option.pure_def]

/-- The right side of a join is read back. -/
theorem joinClause (clause : JoinClause) (within : 2 * clause.form.depth ≤ levels + 2) :
    readers.joinClause clause.form = some (clause.image Expr.nullified) := by
  obtain ⟨kind, table, condition, columns⟩ := clause
  have readKind : required "joinType"
      (spelled [.inner, .left, .right, .full, .cross] JoinKind.spelling)
      (JoinClause.mk kind table condition columns).form = some kind :=
    required_spelled_of_find? (by simp [JoinClause.form]) (by decide) (by cases kind <;> simp)
  have readTable : required "table" readers.table
      (JoinClause.mk kind table condition columns).form = some (table.image Expr.nullified) :=
    inner.required_table within (by simp [JoinClause.form])
  have readCondition : nullable "on" readers.expression
      (JoinClause.mk kind table condition columns).form
        = some (expressionImage? Expr.nullified condition) :=
    inner.nullable_expression within (by simp [JoinClause.form])
  have readColumns : defaulted "using" [] (list string)
      (JoinClause.mk kind table condition columns).form = some columns :=
    defaulted_strings_of_find? (by simp [JoinClause.form])
  rw [JoinClause.form] at readKind readTable readCondition readColumns ⊢
  simp only [NodeDecoders.joinClause, members, readKind, readTable, readCondition, readColumns,
    JoinClause.image, Option.bind_eq_bind, Option.bind_some, Option.pure_def]

/-- A query is read back, also behind its kind. -/
theorem queryForm (query : Select) (front : List (String × Json))
    (kinds : ∀ entry ∈ front, entry.1 = "type")
    (within : 2 * (Json.object (front ++ query.members)).depth ≤ levels + 2) :
    readers.queryForm (.object (front ++ query.members))
      = some (query.image Expr.nullified) := by
  obtain ⟨distinct, columns, source, filter, groupBy, having, orderBy, limit, offset⟩ := query
  generalize shape : Json.object (front ++ Select.members _) = object at within ⊢
  have find {name : String} (other : "type" ≠ name) : object.find? name = (Json.object
      (Select.members ⟨distinct, columns, source, filter, groupBy, having, orderBy, limit,
        offset⟩)).find? name := by
    rw [← shape, find?_append_of_forall kinds other]
  have node : members object = some object := by
    rw [← shape]
    rfl
  have readDistinct : defaulted "distinct" false bool object = some distinct :=
    defaulted_bool_of_find? (by simp [find, Select.members])
  have readColumns : required "columns" (list readers.outputColumn) object
      = some (columnImages Expr.nullified columns) :=
    inner.required_columns within (by simp [find, Select.members])
  have readSource : nullable "from" readers.table object
      = some (tableImage? Expr.nullified source) :=
    inner.nullable_table within (by simp [find, Select.members])
  have readFilter : nullable "where" readers.expression object
      = some (expressionImage? Expr.nullified filter) :=
    inner.nullable_expression within (by simp [find, Select.members])
  have readGroups : defaulted "groupBy" [] (list readers.expression) object
      = some (expressionImages Expr.nullified groupBy) :=
    inner.defaulted_expressions within (by simp [find, Select.members])
  have readHaving : nullable "having" readers.expression object
      = some (expressionImage? Expr.nullified having) :=
    inner.nullable_expression within (by simp [find, Select.members])
  have readOrder : defaulted "orderBy" [] (list readers.sortKey) object
      = some (sortKeyImages Expr.nullified orderBy) := by
    have there : object.find? "orderBy" = if (orderBy.map SortKey.form).isEmpty then none
        else some (.array (orderBy.map SortKey.form)) := by
      simp [find, Select.members, sortKeyForms_eq]
    rw [sortKeyImages_eq]
    exact defaulted_list_of_find? there fun key _ _ => inner.sortKey key (by omega)
  have readLimit : nullable "limit" readers.expression object
      = some (expressionImage? Expr.nullified limit) :=
    inner.nullable_expression within (by simp [find, Select.members])
  have readOffset : nullable "offset" readers.expression object
      = some (expressionImage? Expr.nullified offset) :=
    inner.nullable_expression within (by simp [find, Select.members])
  simp only [NodeDecoders.queryForm, node, readDistinct, readColumns, readSource, readFilter,
    readGroups, readHaving, readOrder, readLimit, readOffset, Select.image,
    Option.bind_eq_bind, Option.bind_some, Option.pure_def]

/-- A table is read back. -/
theorem tableForm (table : TableRef) (within : 2 * table.form.depth ≤ levels + 1) :
    readers.tableForm table.form = some (table.image Expr.nullified) := by
  have room : 2 * table.form.depth ≤ levels + 2 := by omega
  have node : members table.form = some table.form := by cases table <;> rfl
  cases table with
  | table name aliasName =>
      have kind : required "type" string (TableRef.table name aliasName).form
          = some "table" := rfl
      have readName : required "table" objectName (TableRef.table name aliasName).form
          = some name :=
        required_of_find? (show _ = some name.form by simp [TableRef.form, nodeForm])
          fun _ => objectName_form name
      have readAlias : nullable "alias" string (TableRef.table name aliasName).form
          = some aliasName :=
        nullable_string_of_find? (by simp [TableRef.form, nodeForm])
      simp only [NodeDecoders.tableForm, node, kind, readName, readAlias, TableRef.image,
        Option.bind_eq_bind, Option.bind_some, Option.pure_def]
  | subquery query aliasName =>
      have kind : required "type" string (TableRef.subquery query aliasName).form
          = some "subquery" := rfl
      have readQuery : required "query" readers.query (TableRef.subquery query aliasName).form
          = some (query.image Expr.nullified) :=
        inner.required_query room (by simp [TableRef.form, nodeForm])
      have readAlias : required "alias" string (TableRef.subquery query aliasName).form
          = some aliasName :=
        required_string_of_find? (by simp [TableRef.form, nodeForm])
      simp only [NodeDecoders.tableForm, node, kind, readQuery, readAlias, TableRef.image,
        Option.bind_eq_bind, Option.bind_some, Option.pure_def]
  | join left clause =>
      have kind : required "type" string (TableRef.join left clause).form = some "join" := rfl
      have readLeft : required "left" readers.table (TableRef.join left clause).form
          = some (left.image Expr.nullified) :=
        inner.required_table room (by simp [TableRef.form, nodeForm])
      have readClause : required "join" readers.joinClause (TableRef.join left clause).form
          = some (clause.image Expr.nullified) :=
        required_of_find? (show _ = some clause.form by simp [TableRef.form, nodeForm])
          fun _ => inner.joinClause clause (by omega)
      simp only [NodeDecoders.tableForm, node, kind, readLeft, readClause, TableRef.image,
        Option.bind_eq_bind, Option.bind_some, Option.pure_def]

/-- An operator with one operand is read back. -/
theorem unary (operator : UnaryOperator) (operand : Expr)
    (room : 2 * (Expr.unary operator operand).form.depth ≤ levels + 2) :
    readers.expressionForm (Expr.unary operator operand).form
      = some ((Expr.unary operator operand).image Expr.nullified) := by
  rw [expressionForm_form]
  have readOperator : required "op" (spelled UnaryOperator.all UnaryOperator.spelling)
      (Expr.unary operator operand).form = some operator :=
    required_spelled_of_find? (by simp [Expr.form, nodeForm]) (by decide)
      (by cases operator <;> decide)
  have readOperand : required "operand" readers.expression (Expr.unary operator operand).form
      = some (operand.image Expr.nullified) :=
    inner.required_expression room (by simp [Expr.form, nodeForm])
  simp only [Expr.kind, expressionOf, readOperator, readOperand, Expr.image, Expr.nullified,
    Option.bind_eq_bind, Option.bind_some, Option.pure_def]

/-- An operator with two operands is read back. -/
theorem binary (left : Expr) (operator : BinaryOperator) (right : Expr)
    (room : 2 * (Expr.binary left operator right).form.depth ≤ levels + 2) :
    readers.expressionForm (Expr.binary left operator right).form
      = some ((Expr.binary left operator right).image Expr.nullified) := by
  rw [expressionForm_form]
  have readLeft : required "left" readers.expression (Expr.binary left operator right).form
      = some (left.image Expr.nullified) :=
    inner.required_expression room (by simp [Expr.form, nodeForm])
  have readOperator : required "op" (spelled BinaryOperator.all BinaryOperator.spelling)
      (Expr.binary left operator right).form = some operator :=
    required_spelled_of_find? (by simp [Expr.form, nodeForm]) (by decide)
      (by cases operator <;> decide)
  have readRight : required "right" readers.expression (Expr.binary left operator right).form
      = some (right.image Expr.nullified) :=
    inner.required_expression room (by simp [Expr.form, nodeForm])
  simp only [Expr.kind, expressionOf, readLeft, readOperator, readRight, Expr.image,
    Expr.nullified, Option.bind_eq_bind, Option.bind_some, Option.pure_def]

/-- An operator with three operands is read back. -/
theorem ternary (operator : TernaryOperator) (value low high : Expr)
    (room : 2 * (Expr.ternary operator value low high).form.depth ≤ levels + 2) :
    readers.expressionForm (Expr.ternary operator value low high).form
      = some ((Expr.ternary operator value low high).image Expr.nullified) := by
  rw [expressionForm_form]
  have readOperator : required "op" (spelled TernaryOperator.all TernaryOperator.spelling)
      (Expr.ternary operator value low high).form = some operator :=
    required_spelled_of_find? (by simp [Expr.form, nodeForm]) (by decide)
      (by cases operator <;> decide)
  have readValue : required "value" readers.expression
      (Expr.ternary operator value low high).form = some (value.image Expr.nullified) :=
    inner.required_expression room (by simp [Expr.form, nodeForm])
  have readLow : required "lo" readers.expression
      (Expr.ternary operator value low high).form = some (low.image Expr.nullified) :=
    inner.required_expression room (by simp [Expr.form, nodeForm])
  have readHigh : required "hi" readers.expression
      (Expr.ternary operator value low high).form = some (high.image Expr.nullified) :=
    inner.required_expression room (by simp [Expr.form, nodeForm])
  simp only [Expr.kind, expressionOf, readOperator, readValue, readLow, readHigh, Expr.image,
    Expr.nullified, Option.bind_eq_bind, Option.bind_some, Option.pure_def]

/-- A test for membership is read back. -/
theorem inList (operand : Expr) (items : List Expr) (negated : Bool)
    (room : 2 * (Expr.inList operand items negated).form.depth ≤ levels + 2) :
    readers.expressionForm (Expr.inList operand items negated).form
      = some ((Expr.inList operand items negated).image Expr.nullified) := by
  rw [expressionForm_form]
  have readOperand : required "operand" readers.expression
      (Expr.inList operand items negated).form = some (operand.image Expr.nullified) :=
    inner.required_expression room (by simp [Expr.form, nodeForm])
  have readItems : required "list" (list readers.expression)
      (Expr.inList operand items negated).form
        = some (expressionImages Expr.nullified items) :=
    inner.required_expressions room (by simp [Expr.form, nodeForm])
  have readNegated : defaulted "negated" false bool (Expr.inList operand items negated).form
      = some negated :=
    defaulted_of_find? (by simp [Expr.form, nodeForm]; rfl) rfl
  simp only [Expr.kind, expressionOf, readOperand, readItems, readNegated, Expr.image,
    Expr.nullified, Option.bind_eq_bind, Option.bind_some, Option.pure_def]

/-- A call is read back. -/
theorem call (function : ObjectName) (arguments : List Expr) (distinct : Bool)
    (room : 2 * (Expr.call function arguments distinct).form.depth ≤ levels + 2) :
    readers.expressionForm (Expr.call function arguments distinct).form
      = some ((Expr.call function arguments distinct).image Expr.nullified) := by
  rw [expressionForm_form]
  have readFunction : required "function" objectName
      (Expr.call function arguments distinct).form = some function :=
    required_of_find? (show _ = some function.form by simp [Expr.form, nodeForm])
      fun _ => objectName_form function
  have readArguments : required "args" (list readers.expression)
      (Expr.call function arguments distinct).form
        = some (expressionImages Expr.nullified arguments) :=
    inner.required_expressions room (by simp [Expr.form, nodeForm])
  have readDistinct : defaulted "distinct" false bool
      (Expr.call function arguments distinct).form = some distinct :=
    defaulted_bool_of_find? (by simp [Expr.form, nodeForm])
  simp only [Expr.kind, expressionOf, readFunction, readArguments, readDistinct, Expr.image,
    Expr.nullified, Option.bind_eq_bind, Option.bind_some, Option.pure_def]

/-- A cast is read back. -/
theorem cast (operand : Expr) (target : DataType)
    (room : 2 * (Expr.cast operand target).form.depth ≤ levels + 2) :
    readers.expressionForm (Expr.cast operand target).form
      = some ((Expr.cast operand target).image Expr.nullified) := by
  rw [expressionForm_form]
  have readOperand : required "operand" readers.expression (Expr.cast operand target).form
      = some (operand.image Expr.nullified) :=
    inner.required_expression room (by simp [Expr.form, nodeForm])
  have readTarget : required "to" dataType (Expr.cast operand target).form = some target :=
    required_of_find? (show _ = some target.form by simp [Expr.form, nodeForm])
      fun _ => dataType_form target
  simp only [Expr.kind, expressionOf, readOperand, readTarget, Expr.image, Expr.nullified,
    Option.bind_eq_bind, Option.bind_some, Option.pure_def]

/-- A case expression is read back. -/
theorem case (subject : Option Expr) (arms : List CaseArm) (otherwise : Option Expr)
    (room : 2 * (Expr.case subject arms otherwise).form.depth ≤ levels + 2) :
    readers.expressionForm (Expr.case subject arms otherwise).form
      = some ((Expr.case subject arms otherwise).image Expr.nullified) := by
  rw [expressionForm_form]
  have readSubject : nullable "value" readers.expression
      (Expr.case subject arms otherwise).form
        = some (expressionImage? Expr.nullified subject) :=
    inner.nullable_expression room (by simp [Expr.form, nodeForm])
  have readArms : required "whens" (list readers.caseArm)
      (Expr.case subject arms otherwise).form = some (armImages Expr.nullified arms) := by
    have there : (Expr.case subject arms otherwise).form.find? "whens"
        = some (.array (arms.map CaseArm.form)) := by
      simp [Expr.form, nodeForm, armForms_eq]
    rw [armImages_eq]
    exact required_list_of_find? there fun arm _ _ => inner.caseArm arm (by omega)
  have readOtherwise : nullable "else" readers.expression
      (Expr.case subject arms otherwise).form
        = some (expressionImage? Expr.nullified otherwise) :=
    inner.nullable_expression room (by simp [Expr.form, nodeForm])
  simp only [Expr.kind, expressionOf, readSubject, readArms, readOtherwise, Expr.image,
    Expr.nullified, Option.bind_eq_bind, Option.bind_some, Option.pure_def]

/-- A query in the place of an expression is read back. -/
theorem select (query : Select)
    (within : 2 * (Expr.select query).form.depth ≤ levels + 1) :
    readers.expressionForm (Expr.select query).form
      = some ((Expr.select query).image Expr.nullified) := by
  rw [expressionForm_form]
  have readQuery : readers.query (Expr.select query).form
      = some (query.image Expr.nullified) := by
    rw [Expr.form, nodeForm] at within ⊢
    exact inner.query query [("type", .string "select")] (by simp) within
  simp only [Expr.kind, expressionOf, readQuery, Expr.image, Expr.nullified,
    Option.bind_eq_bind, Option.bind_some, Option.pure_def]

/-- An expression is read back. -/
theorem expressionForm (expression : Expr) (within : 2 * expression.form.depth ≤ levels + 1) :
    readers.expressionForm expression.form = some (expression.image Expr.nullified) := by
  have room : 2 * expression.form.depth ≤ levels + 2 := by omega
  cases expression with
  | reference table column => exact expressionForm_reference table column
  | literal value => exact expressionForm_literal value
  | parameter name => exact expressionForm_parameter name
  | unary operator operand => exact inner.unary operator operand room
  | binary left operator right => exact inner.binary left operator right room
  | ternary operator value low high => exact inner.ternary operator value low high room
  | inList operand items negated => exact inner.inList operand items negated room
  | call function arguments distinct => exact inner.call function arguments distinct room
  | cast operand target => exact inner.cast operand target room
  | case subject arms otherwise => exact inner.case subject arms otherwise room
  | select query => exact inner.select query within

/-- Readers for one level more read back what nests within one level more. -/
theorem succ : ReadsBack ⟨readers.expressionForm, readers.queryForm, readers.tableForm⟩
    (levels + 1) where
  expression := inner.expressionForm
  query := inner.queryForm
  table := inner.tableForm

end ReadsBack

/-- No node nests within no level. -/
theorem readsBack_zero : (ofLevels 0).ReadsBack 0 where
  expression expression within := by
    cases expression <;> simp [Expr.form, nodeForm, depth] at within
  query query front _ within := by
    rw [depth] at within
    omega
  table table within := by cases table <;> simp [TableRef.form, nodeForm, depth] at within

/-- Readers of some levels read back what nests within them. -/
theorem readsBack_ofLevels (levels : Nat) : (ofLevels levels).ReadsBack levels := by
  induction levels with
  | zero => exact readsBack_zero
  | succ levels inductionHypothesis => exact inductionHypothesis.succ

end NodeDecoders

end SqlTree
