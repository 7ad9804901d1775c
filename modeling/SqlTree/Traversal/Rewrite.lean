import SqlTree.Traversal.Node

/-!
# Rewriting trees

A rewriter is asked at every node whether to go on below it, and may edit statements, queries,
tables, expressions and data types once what lies below them is rewritten. A failure ends the
rewriting where it arises: the edits made before it stay, and no node after it is changed.
-/

namespace SqlTree

/-- What a rewriter decides when it enters a node. -/
inductive Entry (ε : Type) where
  /-- Go on below the node, then edit it. -/
  | descend
  /-- Leave the node and all below it as they are. -/
  | skip
  /-- Give up. -/
  | fail (error : ε)

/-- What is done to the nodes of a tree, with a state of its own and errors. -/
structure Rewriter (σ ε : Type) where
  enter : Node → σ → Entry ε × σ := fun _ state => (.descend, state)
  leaveStatement : Statement → σ → Statement × σ := Prod.mk
  leaveSelect : Select → σ → Select × σ := Prod.mk
  leaveTable : TableRef → σ → TableRef × σ := Prod.mk
  leaveExpression : Expr → σ → Expr × σ := Prod.mk
  leaveDataType : DataType → σ → DataType × σ := Prod.mk

/-- How far a rewriting has come: the state of the rewriter, and the error that ended it. -/
structure Progress (σ ε : Type) where
  state : σ
  failure : Option ε

/-- A part of a rewriting. -/
abbrev Rewriting (σ ε : Type) := StateM (Progress σ ε)

variable {σ ε : Type}

/-- Rewrites one node: enters it, walks below it, and edits what the walk returns. Where the
rewriting has ended, or does not go on below the node, the node stays as it is; where it ends on the
walk, the node is not edited. -/
def Rewriter.around {α : Type} (rewriter : Rewriter σ ε) (node : Node) (unchanged : α)
    (leave : α → σ → α × σ) (walk : Rewriting σ ε α) : Rewriting σ ε α := fun progress =>
  if progress.failure.isSome then (unchanged, progress)
  else
    match rewriter.enter node progress.state with
    | (.fail error, state) => (unchanged, ⟨state, some error⟩)
    | (.skip, state) => (unchanged, ⟨state, none⟩)
    | (.descend, state) =>
      let (walked, progress) := walk ⟨state, none⟩
      if progress.failure.isSome then (walked, progress)
      else
        let (edited, state) := leave walked progress.state
        (edited, ⟨state, none⟩)

/-- Rewrites an expression, which is entered as such and then as the node that it is. -/
def Rewriter.aroundExpression (rewriter : Rewriter σ ε) (expression : Expr) (node : Node)
    (walk : Rewriting σ ε Expr) : Rewriting σ ε Expr :=
  rewriter.around (.expression expression) expression rewriter.leaveExpression <|
    rewriter.around node expression Prod.mk walk

/-- Rewrites a data type. -/
def DataType.rewrite (rewriter : Rewriter σ ε) (type : DataType) : Rewriting σ ε DataType :=
  rewriter.around (.dataType type) type rewriter.leaveDataType (pure type)

mutual

/-- Rewrites an expression and what lies below it. -/
def Expr.rewrite (rewriter : Rewriter σ ε) : Expr → Rewriting σ ε Expr
  | .reference table column =>
    rewriter.aroundExpression (.reference table column) (.reference table column)
      (pure (.reference table column))
  | .literal value =>
    rewriter.aroundExpression (.literal value) (.literal value) (pure (.literal value))
  | .parameter name =>
    rewriter.aroundExpression (.parameter name) (.parameter name) (pure (.parameter name))
  | .unary operator operand =>
    rewriter.aroundExpression (.unary operator operand) (.unary operator operand) do
      let operand ← operand.rewrite rewriter
      return .unary operator operand
  | .binary left operator right =>
    rewriter.aroundExpression (.binary left operator right) (.binary left operator right) do
      let left ← left.rewrite rewriter
      let right ← right.rewrite rewriter
      return .binary left operator right
  | .ternary operator value low high =>
    rewriter.aroundExpression (.ternary operator value low high)
        (.ternary operator value low high) do
      let value ← value.rewrite rewriter
      let low ← low.rewrite rewriter
      let high ← high.rewrite rewriter
      return .ternary operator value low high
  | .inList operand list negated =>
    rewriter.aroundExpression (.inList operand list negated) (.inList operand list negated) do
      let operand ← operand.rewrite rewriter
      let list ← rewriteExpressions rewriter list
      return .inList operand list negated
  | .call function arguments distinct =>
    rewriter.aroundExpression (.call function arguments distinct)
        (.call function arguments distinct) do
      let arguments ← rewriteExpressions rewriter arguments
      return .call function arguments distinct
  | .cast operand target =>
    rewriter.aroundExpression (.cast operand target) (.cast operand target) do
      let operand ← operand.rewrite rewriter
      let target ← target.rewrite rewriter
      return .cast operand target
  | .case subject arms otherwise =>
    rewriter.aroundExpression (.case subject arms otherwise) (.case subject arms otherwise) do
      let subject ← rewriteExpression? rewriter subject
      let arms ← rewriteArms rewriter arms
      let otherwise ← rewriteExpression? rewriter otherwise
      return .case subject arms otherwise
  | .select query =>
    rewriter.around (.expression (.select query)) (.select query) rewriter.leaveExpression do
      let query ← query.rewrite rewriter
      return .select query

/-- Rewrites an expression that may be absent. -/
def rewriteExpression? (rewriter : Rewriter σ ε) : Option Expr → Rewriting σ ε (Option Expr)
  | none => pure none
  | some expression => do
    let expression ← expression.rewrite rewriter
    return some expression

/-- Rewrites expressions in turn. -/
def rewriteExpressions (rewriter : Rewriter σ ε) : List Expr → Rewriting σ ε (List Expr)
  | [] => pure []
  | expression :: expressions => do
    let expression ← expression.rewrite rewriter
    let expressions ← rewriteExpressions rewriter expressions
    return expression :: expressions

/-- Rewrites an arm of a case expression. -/
def CaseArm.rewrite (rewriter : Rewriter σ ε) : CaseArm → Rewriting σ ε CaseArm
  | ⟨condition, result⟩ => do
    let condition ← condition.rewrite rewriter
    let result ← result.rewrite rewriter
    return ⟨condition, result⟩

/-- Rewrites arms in turn. -/
def rewriteArms (rewriter : Rewriter σ ε) : List CaseArm → Rewriting σ ε (List CaseArm)
  | [] => pure []
  | arm :: arms => do
    let arm ← arm.rewrite rewriter
    let arms ← rewriteArms rewriter arms
    return arm :: arms

/-- Rewrites a query and what lies below it. -/
def Select.rewrite (rewriter : Rewriter σ ε) : Select → Rewriting σ ε Select
  | ⟨distinct, columns, source, filter, groupBy, having, orderBy, limit, offset⟩ =>
    rewriter.around
        (.select ⟨distinct, columns, source, filter, groupBy, having, orderBy, limit, offset⟩)
        ⟨distinct, columns, source, filter, groupBy, having, orderBy, limit, offset⟩
        rewriter.leaveSelect do
      let columns ← rewriteColumns rewriter columns
      let source ← rewriteTable? rewriter source
      let filter ← rewriteExpression? rewriter filter
      let groupBy ← rewriteExpressions rewriter groupBy
      let having ← rewriteExpression? rewriter having
      let orderBy ← rewriteSortKeys rewriter orderBy
      let limit ← rewriteExpression? rewriter limit
      let offset ← rewriteExpression? rewriter offset
      return ⟨distinct, columns, source, filter, groupBy, having, orderBy, limit, offset⟩

/-- Rewrites a returned column. -/
def OutputColumn.rewrite (rewriter : Rewriter σ ε) : OutputColumn → Rewriting σ ε OutputColumn
  | ⟨value, aliasName⟩ => do
    let value ← value.rewrite rewriter
    return ⟨value, aliasName⟩

/-- Rewrites returned columns in turn. -/
def rewriteColumns (rewriter : Rewriter σ ε) :
    List OutputColumn → Rewriting σ ε (List OutputColumn)
  | [] => pure []
  | column :: columns => do
    let column ← column.rewrite rewriter
    let columns ← rewriteColumns rewriter columns
    return column :: columns

/-- Rewrites a sort key. -/
def SortKey.rewrite (rewriter : Rewriter σ ε) : SortKey → Rewriting σ ε SortKey
  | ⟨key, direction, nulls⟩ => do
    let key ← key.rewrite rewriter
    return ⟨key, direction, nulls⟩

/-- Rewrites sort keys in turn. -/
def rewriteSortKeys (rewriter : Rewriter σ ε) : List SortKey → Rewriting σ ε (List SortKey)
  | [] => pure []
  | key :: keys => do
    let key ← key.rewrite rewriter
    let keys ← rewriteSortKeys rewriter keys
    return key :: keys

/-- Rewrites a table and what lies below it. -/
def TableRef.rewrite (rewriter : Rewriter σ ε) : TableRef → Rewriting σ ε TableRef
  | .table name aliasName =>
    rewriter.around (.table (.table name aliasName)) (.table name aliasName) rewriter.leaveTable
      (pure (.table name aliasName))
  | .subquery query aliasName =>
    rewriter.around (.table (.subquery query aliasName)) (.subquery query aliasName)
        rewriter.leaveTable do
      let query ← query.rewrite rewriter
      return .subquery query aliasName
  | .join left clause =>
    rewriter.around (.table (.join left clause)) (.join left clause) rewriter.leaveTable do
      let left ← left.rewrite rewriter
      let clause ← clause.rewrite rewriter
      return .join left clause

/-- Rewrites a table that may be absent. -/
def rewriteTable? (rewriter : Rewriter σ ε) : Option TableRef → Rewriting σ ε (Option TableRef)
  | none => pure none
  | some table => do
    let table ← table.rewrite rewriter
    return some table

/-- Rewrites the right side of a join. -/
def JoinClause.rewrite (rewriter : Rewriter σ ε) : JoinClause → Rewriting σ ε JoinClause
  | ⟨kind, table, condition, columns⟩ => do
    let table ← table.rewrite rewriter
    let condition ← rewriteExpression? rewriter condition
    return ⟨kind, table, condition, columns⟩

end

/-- Rewrites the source of an insertion. -/
def InsertSource.rewrite (rewriter : Rewriter σ ε) : InsertSource → Rewriting σ ε InsertSource
  | .rows cells => do return .rows (← cells.mapM (rewriteExpressions rewriter))
  | .query body => do return .query (← body.rewrite rewriter)
  | .defaults => pure .defaults

/-- Rewrites an insertion and what lies below it. -/
def Insert.rewrite (rewriter : Rewriter σ ε) (insert : Insert) : Rewriting σ ε Insert :=
  rewriter.around (.insert insert) insert Prod.mk do
    let source ← insert.source.rewrite rewriter
    let returning ← rewriteColumns rewriter insert.returning
    return { insert with source, returning }

/-- Rewrites an assignment. -/
def Assignment.rewrite (rewriter : Rewriter σ ε) (assignment : Assignment) :
    Rewriting σ ε Assignment := do
  let value ← assignment.value.rewrite rewriter
  return { assignment with value }

/-- Rewrites an update and what lies below it. -/
def Update.rewrite (rewriter : Rewriter σ ε) (update : Update) : Rewriting σ ε Update :=
  rewriter.around (.update update) update Prod.mk do
    let assignments ← update.assignments.mapM (Assignment.rewrite rewriter)
    let source ← rewriteTable? rewriter update.source
    let filter ← rewriteExpression? rewriter update.filter
    let returning ← rewriteColumns rewriter update.returning
    return { update with assignments, source, filter, returning }

/-- Rewrites a deletion and what lies below it. -/
def Delete.rewrite (rewriter : Rewriter σ ε) (delete : Delete) : Rewriting σ ε Delete :=
  rewriter.around (.delete delete) delete Prod.mk do
    let filter ← rewriteExpression? rewriter delete.filter
    let returning ← rewriteColumns rewriter delete.returning
    return { delete with filter, returning }

/-- Rewrites the options of a sequence. -/
def SequenceOptions.rewrite (rewriter : Rewriter σ ε) (options : SequenceOptions) :
    Rewriting σ ε SequenceOptions := do
  match options.dataType with
  | none => return options
  | some type =>
    let type ← type.rewrite rewriter
    return { options with dataType := some type }

/-- Rewrites a statement that makes a sequence. -/
def CreateSequence.rewrite (rewriter : Rewriter σ ε) (create : CreateSequence) :
    Rewriting σ ε CreateSequence :=
  rewriter.around (.createSequence create) create Prod.mk do
    let options ← create.options.rewrite rewriter
    return { create with options }

/-- Rewrites a change of a sequence. -/
def SequenceChange.rewrite (rewriter : Rewriter σ ε) :
    SequenceChange → Rewriting σ ε SequenceChange
  | .options chosen restart => do
    let chosen ← chosen.rewrite rewriter
    return .options chosen restart
  | change => pure change

/-- Rewrites a statement that changes a sequence. -/
def AlterSequence.rewrite (rewriter : Rewriter σ ε) (alter : AlterSequence) :
    Rewriting σ ε AlterSequence :=
  rewriter.around (.alterSequence alter) alter Prod.mk do
    let change ← alter.change.rewrite rewriter
    return { alter with change }

/-- Rewrites what a statement is. -/
def Statement.rewriteBody (rewriter : Rewriter σ ε) : Statement → Rewriting σ ε Statement
  | .select body => do return .select (← body.rewrite rewriter)
  | .insert body => do return .insert (← body.rewrite rewriter)
  | .update body => do return .update (← body.rewrite rewriter)
  | .delete body => do return .delete (← body.rewrite rewriter)
  | .createSequence body => do return .createSequence (← body.rewrite rewriter)
  | .alterSequence body => do return .alterSequence (← body.rewrite rewriter)
  | .dropSequence body => do
    return .dropSequence (← rewriter.around (.dropSequence body) body Prod.mk (pure body))

/-- Rewrites a statement and what lies below it. -/
def Statement.rewrite (rewriter : Rewriter σ ε) (statement : Statement) :
    Rewriting σ ε Statement :=
  rewriter.around (.statement statement) statement rewriter.leaveStatement
    (statement.rewriteBody rewriter)

end SqlTree
