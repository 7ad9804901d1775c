import SqlTree.Tree.Statement

/-!
# Equality of trees

Trees are compared part by part. Numbers are equal if their bits are.
-/

namespace SqlTree

mutual

/-- Whether two expressions are the same. -/
def Expr.same : Expr → Expr → Bool
  | .reference table column, .reference table' column' => table == table' && column == column'
  | .literal value, .literal value' => value == value'
  | .parameter name, .parameter name' => name == name'
  | .unary operator operand, .unary operator' operand' =>
    operator == operator' && operand.same operand'
  | .binary left operator right, .binary left' operator' right' =>
    left.same left' && operator == operator' && right.same right'
  | .ternary operator value low high, .ternary operator' value' low' high' =>
    operator == operator' && value.same value' && low.same low' && high.same high'
  | .inList operand list negated, .inList operand' list' negated' =>
    operand.same operand' && sameExpressions list list' && negated == negated'
  | .call function arguments distinct, .call function' arguments' distinct' =>
    function == function' && sameExpressions arguments arguments' && distinct == distinct'
  | .cast operand target, .cast operand' target' => operand.same operand' && target == target'
  | .case subject arms otherwise, .case subject' arms' otherwise' =>
    sameExpression? subject subject' && sameArms arms arms'
      && sameExpression? otherwise otherwise'
  | .select query, .select query' => query.same query'
  | _, _ => false

/-- Whether two optional expressions are the same. -/
def sameExpression? : Option Expr → Option Expr → Bool
  | none, none => true
  | some left, some right => left.same right
  | _, _ => false

/-- Whether two lists of expressions are the same. -/
def sameExpressions : List Expr → List Expr → Bool
  | [], [] => true
  | left :: lefts, right :: rights => left.same right && sameExpressions lefts rights
  | _, _ => false

/-- Whether two arms of case expressions are the same. -/
def CaseArm.same : CaseArm → CaseArm → Bool
  | ⟨condition, result⟩, ⟨condition', result'⟩ => condition.same condition' && result.same result'

/-- Whether two lists of arms are the same. -/
def sameArms : List CaseArm → List CaseArm → Bool
  | [], [] => true
  | left :: lefts, right :: rights => left.same right && sameArms lefts rights
  | _, _ => false

/-- Whether two queries are the same. -/
def Select.same : Select → Select → Bool
  | ⟨distinct, columns, source, filter, groupBy, having, orderBy, limit, offset⟩,
    ⟨distinct', columns', source', filter', groupBy', having', orderBy', limit', offset'⟩ =>
    distinct == distinct' && sameColumns columns columns' && sameTable? source source'
      && sameExpression? filter filter' && sameExpressions groupBy groupBy'
      && sameExpression? having having' && sameSortKeys orderBy orderBy'
      && sameExpression? limit limit' && sameExpression? offset offset'

/-- Whether two returned columns are the same. -/
def OutputColumn.same : OutputColumn → OutputColumn → Bool
  | ⟨value, aliasName⟩, ⟨value', aliasName'⟩ => value.same value' && aliasName == aliasName'

/-- Whether two lists of returned columns are the same. -/
def sameColumns : List OutputColumn → List OutputColumn → Bool
  | [], [] => true
  | left :: lefts, right :: rights => left.same right && sameColumns lefts rights
  | _, _ => false

/-- Whether two sort keys are the same. -/
def SortKey.same : SortKey → SortKey → Bool
  | ⟨key, direction, nulls⟩, ⟨key', direction', nulls'⟩ =>
    key.same key' && direction == direction' && nulls == nulls'

/-- Whether two lists of sort keys are the same. -/
def sameSortKeys : List SortKey → List SortKey → Bool
  | [], [] => true
  | left :: lefts, right :: rights => left.same right && sameSortKeys lefts rights
  | _, _ => false

/-- Whether two tables are the same. -/
def TableRef.same : TableRef → TableRef → Bool
  | .table name aliasName, .table name' aliasName' => name == name' && aliasName == aliasName'
  | .subquery query aliasName, .subquery query' aliasName' =>
    query.same query' && aliasName == aliasName'
  | .join left clause, .join left' clause' => left.same left' && clause.same clause'
  | _, _ => false

/-- Whether two optional tables are the same. -/
def sameTable? : Option TableRef → Option TableRef → Bool
  | none, none => true
  | some left, some right => left.same right
  | _, _ => false

/-- Whether two right sides of joins are the same. -/
def JoinClause.same : JoinClause → JoinClause → Bool
  | ⟨kind, table, condition, columns⟩, ⟨kind', table', condition', columns'⟩ =>
    kind == kind' && table.same table' && sameExpression? condition condition'
      && columns == columns'

end

/-- Whether two lists of rows are the same. -/
def sameRows : List (List Expr) → List (List Expr) → Bool
  | [], [] => true
  | left :: lefts, right :: rights => sameExpressions left right && sameRows lefts rights
  | _, _ => false

/-- Whether two sources of an insertion are the same. -/
def InsertSource.same : InsertSource → InsertSource → Bool
  | .rows left, .rows right => sameRows left right
  | .query left, .query right => left.same right
  | .defaults, .defaults => true
  | _, _ => false

/-- Whether two lists of assignments are the same. -/
def sameAssignments : List Assignment → List Assignment → Bool
  | [], [] => true
  | left :: lefts, right :: rights =>
    left.column == right.column && left.value.same right.value && sameAssignments lefts rights
  | _, _ => false

/-- Whether two insertions are the same. -/
def Insert.same (left right : Insert) : Bool :=
  left.target == right.target && left.columns == right.columns && left.source.same right.source
    && sameColumns left.returning right.returning

/-- Whether two updates are the same. -/
def Update.same (left right : Update) : Bool :=
  left.target == right.target && left.aliasName == right.aliasName
    && sameAssignments left.assignments right.assignments && sameTable? left.source right.source
    && sameExpression? left.filter right.filter && sameColumns left.returning right.returning

/-- Whether two deletions are the same. -/
def Delete.same (left right : Delete) : Bool :=
  left.target == right.target && left.aliasName == right.aliasName
    && sameExpression? left.filter right.filter && sameColumns left.returning right.returning

/-- Whether two statements are the same. -/
def Statement.same : Statement → Statement → Bool
  | .select left, .select right => left.same right
  | .insert left, .insert right => left.same right
  | .update left, .update right => left.same right
  | .delete left, .delete right => left.same right
  | .createSequence left, .createSequence right => left == right
  | .alterSequence left, .alterSequence right => left == right
  | .dropSequence left, .dropSequence right => left == right
  | _, _ => false

instance : BEq Expr := ⟨Expr.same⟩

instance : BEq Statement := ⟨Statement.same⟩

end SqlTree
