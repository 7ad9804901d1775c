import SqlTree.Traversal.Node

/-!
# Visiting trees

A visitor is handed every node together with the walk over what lies below it. It decides whether
and when to take the walk; one that always takes it meets every node, each before what lies below
it and in the order in which the parts are declared.
-/

namespace SqlTree

/-- What is done at a node, given the walk below it. -/
abbrev Visitor (m : Type → Type) := Node → m Unit → m Unit

variable {m : Type → Type} [Monad m]

mutual

/-- Visits an expression and what lies below it. -/
def Expr.visit (visitor : Visitor m) : Expr → m Unit
  | .reference table column =>
    visitor (.expression (.reference table column)) <|
      visitor (.reference table column) (pure ())
  | .literal value =>
    visitor (.expression (.literal value)) <| visitor (.literal value) (pure ())
  | .parameter name =>
    visitor (.expression (.parameter name)) <| visitor (.parameter name) (pure ())
  | .unary operator operand =>
    visitor (.expression (.unary operator operand)) <|
      visitor (.unary operator operand) (operand.visit visitor)
  | .binary left operator right =>
    visitor (.expression (.binary left operator right)) <|
      visitor (.binary left operator right) do
        left.visit visitor
        right.visit visitor
  | .ternary operator value low high =>
    visitor (.expression (.ternary operator value low high)) <|
      visitor (.ternary operator value low high) do
        value.visit visitor
        low.visit visitor
        high.visit visitor
  | .inList operand list negated =>
    visitor (.expression (.inList operand list negated)) <|
      visitor (.inList operand list negated) do
        operand.visit visitor
        visitExpressions visitor list
  | .call function arguments distinct =>
    visitor (.expression (.call function arguments distinct)) <|
      visitor (.call function arguments distinct) (visitExpressions visitor arguments)
  | .cast operand target =>
    visitor (.expression (.cast operand target)) <|
      visitor (.cast operand target) do
        operand.visit visitor
        visitor (.dataType target) (pure ())
  | .case subject arms otherwise =>
    visitor (.expression (.case subject arms otherwise)) <|
      visitor (.case subject arms otherwise) do
        visitExpression? visitor subject
        visitArms visitor arms
        visitExpression? visitor otherwise
  | .select query => visitor (.expression (.select query)) (query.visit visitor)

/-- Visits an expression that may be absent. -/
def visitExpression? (visitor : Visitor m) : Option Expr → m Unit
  | none => pure ()
  | some expression => expression.visit visitor

/-- Visits expressions in turn. -/
def visitExpressions (visitor : Visitor m) : List Expr → m Unit
  | [] => pure ()
  | expression :: expressions => do
    expression.visit visitor
    visitExpressions visitor expressions

/-- Visits an arm of a case expression. -/
def CaseArm.visit (visitor : Visitor m) : CaseArm → m Unit
  | ⟨condition, result⟩ => do
    condition.visit visitor
    result.visit visitor

/-- Visits arms in turn. -/
def visitArms (visitor : Visitor m) : List CaseArm → m Unit
  | [] => pure ()
  | arm :: arms => do
    arm.visit visitor
    visitArms visitor arms

/-- Visits a query and what lies below it. -/
def Select.visit (visitor : Visitor m) : Select → m Unit
  | ⟨distinct, columns, source, filter, groupBy, having, orderBy, limit, offset⟩ =>
    visitor
        (.select ⟨distinct, columns, source, filter, groupBy, having, orderBy, limit, offset⟩) do
      visitColumns visitor columns
      visitTable? visitor source
      visitExpression? visitor filter
      visitExpressions visitor groupBy
      visitExpression? visitor having
      visitSortKeys visitor orderBy
      visitExpression? visitor limit
      visitExpression? visitor offset

/-- Visits a returned column. -/
def OutputColumn.visit (visitor : Visitor m) : OutputColumn → m Unit
  | ⟨value, _⟩ => value.visit visitor

/-- Visits returned columns in turn. -/
def visitColumns (visitor : Visitor m) : List OutputColumn → m Unit
  | [] => pure ()
  | column :: columns => do
    column.visit visitor
    visitColumns visitor columns

/-- Visits a sort key. -/
def SortKey.visit (visitor : Visitor m) : SortKey → m Unit
  | ⟨key, _, _⟩ => key.visit visitor

/-- Visits sort keys in turn. -/
def visitSortKeys (visitor : Visitor m) : List SortKey → m Unit
  | [] => pure ()
  | key :: keys => do
    key.visit visitor
    visitSortKeys visitor keys

/-- Visits a table and what lies below it. -/
def TableRef.visit (visitor : Visitor m) : TableRef → m Unit
  | .table name aliasName => visitor (.table (.table name aliasName)) (pure ())
  | .subquery query aliasName =>
    visitor (.table (.subquery query aliasName)) (query.visit visitor)
  | .join left clause =>
    visitor (.table (.join left clause)) do
      left.visit visitor
      clause.visit visitor

/-- Visits a table that may be absent. -/
def visitTable? (visitor : Visitor m) : Option TableRef → m Unit
  | none => pure ()
  | some table => table.visit visitor

/-- Visits the right side of a join. -/
def JoinClause.visit (visitor : Visitor m) : JoinClause → m Unit
  | ⟨_, table, condition, _⟩ => do
    table.visit visitor
    visitExpression? visitor condition

end

/-- Visits a data type that may be absent. -/
def visitDataType? (visitor : Visitor m) : Option DataType → m Unit
  | none => pure ()
  | some type => visitor (.dataType type) (pure ())

/-- Visits the source of an insertion. -/
def InsertSource.visit (visitor : Visitor m) : InsertSource → m Unit
  | .rows cells => cells.forM (visitExpressions visitor)
  | .query body => body.visit visitor
  | .defaults => pure ()

/-- Visits an insertion and what lies below it. -/
def Insert.visit (visitor : Visitor m) (insert : Insert) : m Unit :=
  visitor (.insert insert) do
    insert.source.visit visitor
    visitColumns visitor insert.returning

/-- Visits an update and what lies below it. -/
def Update.visit (visitor : Visitor m) (update : Update) : m Unit :=
  visitor (.update update) do
    update.assignments.forM fun assignment => assignment.value.visit visitor
    visitTable? visitor update.source
    visitExpression? visitor update.filter
    visitColumns visitor update.returning

/-- Visits a deletion and what lies below it. -/
def Delete.visit (visitor : Visitor m) (delete : Delete) : m Unit :=
  visitor (.delete delete) do
    visitExpression? visitor delete.filter
    visitColumns visitor delete.returning

/-- Visits what lies below a statement that makes a sequence. -/
def CreateSequence.visit (visitor : Visitor m) (create : CreateSequence) : m Unit :=
  visitor (.createSequence create) (visitDataType? visitor create.options.dataType)

/-- The data type that a change of a sequence sets. -/
def SequenceChange.dataType? : SequenceChange → Option DataType
  | .options chosen _ => chosen.dataType
  | _ => none

/-- Visits a statement that changes a sequence. -/
def AlterSequence.visit (visitor : Visitor m) (alter : AlterSequence) : m Unit :=
  visitor (.alterSequence alter) (visitDataType? visitor alter.change.dataType?)

/-- Visits a statement and what lies below it. -/
def Statement.visit (visitor : Visitor m) (statement : Statement) : m Unit :=
  visitor (.statement statement) <|
    match statement with
    | .select body => body.visit visitor
    | .insert body => body.visit visitor
    | .update body => body.visit visitor
    | .delete body => body.visit visitor
    | .createSequence body => body.visit visitor
    | .alterSequence body => body.visit visitor
    | .dropSequence body => visitor (.dropSequence body) (pure ())

end SqlTree
