import SqlTree.Traversal.Visit

/-!
# Listings

The nodes of a tree as a list, each before what lies below it and in the order in which the parts
are declared. What holds everywhere in a tree is said of its listing.
-/

namespace SqlTree

mutual

/-- The nodes of an expression. -/
def Expr.nodes : Expr → List Node
  | .reference table column =>
    [.expression (.reference table column), .reference table column]
  | .literal value => [.expression (.literal value), .literal value]
  | .parameter name => [.expression (.parameter name), .parameter name]
  | .unary operator operand =>
    .expression (.unary operator operand) :: .unary operator operand :: operand.nodes
  | .binary left operator right =>
    .expression (.binary left operator right) :: .binary left operator right ::
      (left.nodes ++ right.nodes)
  | .ternary operator value low high =>
    .expression (.ternary operator value low high) :: .ternary operator value low high ::
      (value.nodes ++ low.nodes ++ high.nodes)
  | .inList operand list negated =>
    .expression (.inList operand list negated) :: .inList operand list negated ::
      (operand.nodes ++ expressionNodes list)
  | .call function arguments distinct =>
    .expression (.call function arguments distinct) :: .call function arguments distinct ::
      expressionNodes arguments
  | .cast operand target =>
    .expression (.cast operand target) :: .cast operand target ::
      (operand.nodes ++ [.dataType target])
  | .case subject arms otherwise =>
    .expression (.case subject arms otherwise) :: .case subject arms otherwise ::
      (expressionNodes? subject ++ armNodes arms ++ expressionNodes? otherwise)
  | .select query => .expression (.select query) :: query.nodes

/-- The nodes of an expression that may be absent. -/
def expressionNodes? : Option Expr → List Node
  | none => []
  | some expression => expression.nodes

/-- The nodes of expressions. -/
def expressionNodes : List Expr → List Node
  | [] => []
  | expression :: expressions => expression.nodes ++ expressionNodes expressions

/-- The nodes of an arm of a case expression. -/
def CaseArm.nodes : CaseArm → List Node
  | ⟨condition, result⟩ => condition.nodes ++ result.nodes

/-- The nodes of arms. -/
def armNodes : List CaseArm → List Node
  | [] => []
  | arm :: arms => arm.nodes ++ armNodes arms

/-- The nodes of a query. -/
def Select.nodes : Select → List Node
  | ⟨distinct, columns, source, filter, groupBy, having, orderBy, limit, offset⟩ =>
    .select ⟨distinct, columns, source, filter, groupBy, having, orderBy, limit, offset⟩ ::
      (columnNodes columns ++ tableNodes? source ++ expressionNodes? filter
        ++ expressionNodes groupBy ++ expressionNodes? having ++ sortKeyNodes orderBy
        ++ expressionNodes? limit ++ expressionNodes? offset)

/-- The nodes of a returned column. -/
def OutputColumn.nodes : OutputColumn → List Node
  | ⟨value, _⟩ => value.nodes

/-- The nodes of returned columns. -/
def columnNodes : List OutputColumn → List Node
  | [] => []
  | column :: columns => column.nodes ++ columnNodes columns

/-- The nodes of a sort key. -/
def SortKey.nodes : SortKey → List Node
  | ⟨key, _, _⟩ => key.nodes

/-- The nodes of sort keys. -/
def sortKeyNodes : List SortKey → List Node
  | [] => []
  | key :: keys => key.nodes ++ sortKeyNodes keys

/-- The nodes of a table. -/
def TableRef.nodes : TableRef → List Node
  | .table name aliasName => [.table (.table name aliasName)]
  | .subquery query aliasName => .table (.subquery query aliasName) :: query.nodes
  | .join left clause => .table (.join left clause) :: (left.nodes ++ clause.nodes)

/-- The nodes of a table that may be absent. -/
def tableNodes? : Option TableRef → List Node
  | none => []
  | some table => table.nodes

/-- The nodes of the right side of a join. -/
def JoinClause.nodes : JoinClause → List Node
  | ⟨_, table, condition, _⟩ => table.nodes ++ expressionNodes? condition

end

/-- The nodes of the source of an insertion. -/
def InsertSource.nodes : InsertSource → List Node
  | .rows cells => cells.flatMap expressionNodes
  | .query body => body.nodes
  | .defaults => []

/-- The nodes of an insertion. -/
def Insert.nodes (insert : Insert) : List Node :=
  .insert insert :: (insert.source.nodes ++ columnNodes insert.returning)

/-- The nodes of an update. -/
def Update.nodes (update : Update) : List Node :=
  .update update ::
    (update.assignments.flatMap (fun assignment => assignment.value.nodes)
      ++ tableNodes? update.source ++ expressionNodes? update.filter
      ++ columnNodes update.returning)

/-- The nodes of a deletion. -/
def Delete.nodes (delete : Delete) : List Node :=
  .delete delete :: (expressionNodes? delete.filter ++ columnNodes delete.returning)

/-- The node of a data type that may be absent. -/
def dataTypeNodes? (type : Option DataType) : List Node := (type.map Node.dataType).toList

/-- The nodes of a statement. -/
def Statement.nodes (statement : Statement) : List Node :=
  .statement statement ::
    match statement with
    | .select body => body.nodes
    | .insert body => body.nodes
    | .update body => body.nodes
    | .delete body => body.nodes
    | .createSequence body => .createSequence body :: dataTypeNodes? body.options.dataType
    | .alterSequence body => .alterSequence body :: dataTypeNodes? body.change.dataType?
    | .dropSequence body => [.dropSequence body]

end SqlTree
