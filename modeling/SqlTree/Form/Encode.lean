import SqlTree.Json.Value
import SqlTree.Tree.Statement

/-!
# JSON form of trees

A node is an object whose member `type` names its kind. Members come in the order in which the
parts are declared, and what is absent, false or empty is left out.
-/

namespace SqlTree

open Json

/-- The form of a string. -/
def stringForm (value : String) : Json := .string value

/-- The form of a bigint. -/
def bigintForm (value : Int64) : Json := .integer value.toInt

/-- A node of a kind. -/
def nodeForm (kind : String) (members : List (String × Json)) : Json :=
  .object (("type", .string kind) :: members)

/-- The form of a name. -/
def ObjectName.form (object : ObjectName) : Json :=
  .object (("name", .string object.name) :: member? "schema" (object.schema.map stringForm))

/-- The form of a data type. -/
def DataType.form (dataType : DataType) : Json :=
  .object (("type", .string dataType.name) ::
    items? "config" (dataType.modifiers.map bigintForm))

/-- The form of a constant. A number that is not finite is null. -/
def Literal.form : Literal → Json
  | .integer value => bigintForm value
  | .numeric value => if value.isFinite then .number value else .null
  | .string value => .string value
  | .boolean value => .bool value
  | .null => .null

mutual

/-- The form of an expression. -/
def Expr.form : Expr → Json
  | .reference table column =>
    nodeForm "ref" (member? "table" (table.map ObjectName.form) ++ [("name", .string column)])
  | .literal value => nodeForm "literal" [("value", value.form)]
  | .parameter name => nodeForm "parameter" [("name", .string name)]
  | .unary operator operand =>
    nodeForm "unary" [("op", .string operator.spelling), ("operand", operand.form)]
  | .binary left operator right =>
    nodeForm "binary"
      [("left", left.form), ("op", .string operator.spelling), ("right", right.form)]
  | .ternary operator value low high =>
    nodeForm "ternary"
      [("op", .string operator.spelling), ("value", value.form), ("lo", low.form),
        ("hi", high.form)]
  | .inList operand list negated =>
    nodeForm "in list"
      [("operand", operand.form), ("list", .array (expressionForms list)),
        ("negated", .bool negated)]
  | .call function arguments distinct =>
    nodeForm "call"
      ([("function", function.form), ("args", .array (expressionForms arguments))]
        ++ flag "distinct" distinct)
  | .cast operand target => nodeForm "cast" [("operand", operand.form), ("to", target.form)]
  | .case subject arms otherwise =>
    nodeForm "case"
      (member? "value" (expressionForm? subject) ++ [("whens", .array (armForms arms))]
        ++ member? "else" (expressionForm? otherwise))
  | .select query => nodeForm "select" query.members

/-- The form of an expression that may be absent. -/
def expressionForm? : Option Expr → Option Json
  | none => none
  | some expression => some expression.form

/-- The forms of expressions. -/
def expressionForms : List Expr → List Json
  | [] => []
  | expression :: expressions => expression.form :: expressionForms expressions

/-- The form of an arm of a case expression. -/
def CaseArm.form : CaseArm → Json
  | ⟨condition, result⟩ => .object [("when", condition.form), ("value", result.form)]

/-- The forms of arms. -/
def armForms : List CaseArm → List Json
  | [] => []
  | arm :: arms => arm.form :: armForms arms

/-- The members of a query, without its kind. -/
def Select.members : Select → List (String × Json)
  | ⟨distinct, columns, source, filter, groupBy, having, orderBy, limit, offset⟩ =>
    flag "distinct" distinct
      ++ [("columns", .array (outputColumnForms columns))]
      ++ member? "from" (tableForm? source)
      ++ member? "where" (expressionForm? filter)
      ++ items? "groupBy" (expressionForms groupBy)
      ++ member? "having" (expressionForm? having)
      ++ items? "orderBy" (sortKeyForms orderBy)
      ++ member? "limit" (expressionForm? limit)
      ++ member? "offset" (expressionForm? offset)

/-- The form of a returned column. -/
def OutputColumn.form : OutputColumn → Json
  | ⟨value, aliasName⟩ =>
    .object (("expr", value.form) :: member? "alias" (aliasName.map stringForm))

/-- The forms of returned columns. -/
def outputColumnForms : List OutputColumn → List Json
  | [] => []
  | column :: columns => column.form :: outputColumnForms columns

/-- The form of a sort key. -/
def SortKey.form : SortKey → Json
  | ⟨key, direction, nulls⟩ =>
    .object ([("by", key.form), ("order", .string direction.spelling)]
      ++ member? "nulls" (nulls.map fun placement => .string placement.spelling))

/-- The forms of sort keys. -/
def sortKeyForms : List SortKey → List Json
  | [] => []
  | key :: keys => key.form :: sortKeyForms keys

/-- The form of a table. -/
def TableRef.form : TableRef → Json
  | .table name aliasName =>
    nodeForm "table" (("table", name.form) :: member? "alias" (aliasName.map stringForm))
  | .subquery query aliasName =>
    nodeForm "subquery" [("query", .object query.members), ("alias", .string aliasName)]
  | .join left clause => nodeForm "join" [("left", left.form), ("join", clause.form)]

/-- The form of a table that may be absent. -/
def tableForm? : Option TableRef → Option Json
  | none => none
  | some table => some table.form

/-- The form of the right side of a join. -/
def JoinClause.form : JoinClause → Json
  | ⟨kind, table, condition, columns⟩ =>
    .object ([("joinType", .string kind.spelling), ("table", table.form)]
      ++ member? "on" (expressionForm? condition)
      ++ items? "using" (columns.map stringForm))

end

/-- The form of the source of an insertion. -/
def InsertSource.form : InsertSource → Json
  | .rows cells =>
    .object [("values", .array (cells.map fun row => .array (expressionForms row)))]
  | .query body => .object [("query", .object body.members)]
  | .defaults => .string "defaultValues"

/-- The members of an insertion, without its kind. -/
def Insert.members (insert : Insert) : List (String × Json) :=
  [("into", insert.target.form)]
    ++ items? "columns" (insert.columns.map stringForm)
    ++ [("values", insert.source.form)]
    ++ items? "returning" (outputColumnForms insert.returning)

/-- The form of an assignment. -/
def Assignment.form (assignment : Assignment) : Json :=
  .object [("column", .string assignment.column), ("value", assignment.value.form)]

/-- The members of an update, without its kind. -/
def Update.members (update : Update) : List (String × Json) :=
  [("table", update.target.form)]
    ++ member? "alias" (update.aliasName.map stringForm)
    ++ [("sets", .array (update.assignments.map Assignment.form))]
    ++ member? "from" (tableForm? update.source)
    ++ member? "where" (expressionForm? update.filter)
    ++ items? "returning" (outputColumnForms update.returning)

/-- The members of a deletion, without its kind. -/
def Delete.members (delete : Delete) : List (String × Json) :=
  [("from", delete.target.form)]
    ++ member? "alias" (delete.aliasName.map stringForm)
    ++ member? "where" (expressionForm? delete.filter)
    ++ items? "returning" (outputColumnForms delete.returning)

/-- The form of a bound of a sequence, which has a word of its own if it is left open. -/
def SequenceBound.form (openWord : String) : SequenceBound → Json
  | .unbounded => .string openWord
  | .value bound => bigintForm bound

/-- How a way of cycling is written. -/
def Cycling.spelling : Cycling → String
  | .cycle => "cycle"
  | .noCycle => "no cycle"

/-- The form of what a sequence belongs to. -/
def Ownership.form : Ownership → Json
  | .nothing => .string "none"
  | .column owner =>
    .object (member? "schema" (owner.schema.map stringForm)
      ++ [("table", .string owner.table), ("column", .string owner.column)])

/-- The form of where a sequence is set back to. -/
def Restart.form : Restart → Json
  | .atStart => .bool true
  | .value position => bigintForm position

/-- The members that the options of a sequence make. -/
def SequenceOptions.members (options : SequenceOptions) : List (String × Json) :=
  member? "as" (options.dataType.map DataType.form)
    ++ member? "startWith" (options.start.map bigintForm)
    ++ member? "incrementBy" (options.increment.map bigintForm)
    ++ member? "minValue" (options.minimum.map (SequenceBound.form "no minvalue"))
    ++ member? "maxValue" (options.maximum.map (SequenceBound.form "no maxvalue"))
    ++ member? "cache" (options.cache.map bigintForm)
    ++ member? "cycle" (options.cycling.map fun cycling => .string cycling.spelling)
    ++ member? "ownedBy" (options.ownership.map Ownership.form)

/-- The members that the name of a sequence makes. -/
def sequenceNameMembers (object : ObjectName) : List (String × Json) :=
  ("name", .string object.name) :: member? "schema" (object.schema.map stringForm)

/-- The members of a statement that makes a sequence, without its kind. -/
def CreateSequence.members (create : CreateSequence) : List (String × Json) :=
  sequenceNameMembers create.name
    ++ flag "temp" create.temporary
    ++ flag "unlogged" create.unlogged
    ++ flag "ifNotExists" create.ifNotExists
    ++ create.options.members

/-- The form of a change of a sequence. -/
def SequenceChange.form : SequenceChange → Json
  | .options chosen restart =>
    nodeForm "set options" (chosen.members ++ member? "restart" (restart.map Restart.form))
  | .rename name => nodeForm "rename" [("newName", .string name)]
  | .owner role => nodeForm "owner to" [("owner", .string role)]
  | .schema target => nodeForm "set schema" [("newSchema", .string target)]

/-- The members of a statement that changes a sequence, without its kind. -/
def AlterSequence.members (alter : AlterSequence) : List (String × Json) :=
  sequenceNameMembers alter.name
    ++ flag "ifExists" alter.ifExists
    ++ [("change", alter.change.form)]

/-- How a behavior on dropping is written. -/
def DropBehavior.spelling : DropBehavior → String
  | .cascade => "cascade"
  | .restrict => "restrict"

/-- The members of a statement that drops sequences, without its kind. -/
def DropSequence.members (drop : DropSequence) : List (String × Json) :=
  [("names", .array (drop.names.map ObjectName.form))]
    ++ flag "ifExists" drop.ifExists
    ++ member? "cascade" (drop.behavior.map fun behavior => .string behavior.spelling)

/-- The form of a statement. -/
def Statement.form (statement : Statement) : Json :=
  nodeForm statement.kind <|
    match statement with
    | .select body => body.members
    | .insert body => body.members
    | .update body => body.members
    | .delete body => body.members
    | .createSequence body => body.members
    | .alterSequence body => body.members
    | .dropSequence body => body.members

end SqlTree
