import SqlTree.Proofs.Tree.Throughout

/-!
# Names of tables

A tree names tables where it reads from them and where it looks up columns in them. The tree with
these names changed has the nodes of the tree with their names changed, in the same order, so each
name is changed once and wherever it stands. A change that is undone at every name of a tree is
undone on the tree.
-/

namespace SqlTree

mutual

/-- An expression with the names of its tables changed. -/
def Expr.mapTables (change : ObjectName → ObjectName) : Expr → Expr
  | .reference table column => .reference (table.map change) column
  | .literal value => .literal value
  | .parameter name => .parameter name
  | .unary operator operand => .unary operator (operand.mapTables change)
  | .binary left operator right => .binary (left.mapTables change) operator (right.mapTables change)
  | .ternary operator value low high =>
    .ternary operator (value.mapTables change) (low.mapTables change) (high.mapTables change)
  | .inList operand list negated =>
    .inList (operand.mapTables change) (expressionsMapTables change list) negated
  | .call function arguments distinct =>
    .call function (expressionsMapTables change arguments) distinct
  | .cast operand target => .cast (operand.mapTables change) target
  | .case subject arms otherwise =>
    .case (expressionMapTables? change subject) (armsMapTables change arms)
      (expressionMapTables? change otherwise)
  | .select query => .select (query.mapTables change)

/-- An expression that may be absent, with the names of its tables changed. -/
def expressionMapTables? (change : ObjectName → ObjectName) : Option Expr → Option Expr
  | none => none
  | some expression => some (expression.mapTables change)

/-- Expressions with the names of their tables changed. -/
def expressionsMapTables (change : ObjectName → ObjectName) : List Expr → List Expr
  | [] => []
  | expression :: expressions =>
    expression.mapTables change :: expressionsMapTables change expressions

/-- An arm of a case expression with the names of its tables changed. -/
def CaseArm.mapTables (change : ObjectName → ObjectName) : CaseArm → CaseArm
  | ⟨condition, result⟩ => ⟨condition.mapTables change, result.mapTables change⟩

/-- Arms with the names of their tables changed. -/
def armsMapTables (change : ObjectName → ObjectName) : List CaseArm → List CaseArm
  | [] => []
  | arm :: arms => arm.mapTables change :: armsMapTables change arms

/-- A query with the names of its tables changed. -/
def Select.mapTables (change : ObjectName → ObjectName) : Select → Select
  | ⟨distinct, columns, source, filter, groupBy, having, orderBy, limit, offset⟩ =>
    ⟨distinct, columnsMapTables change columns, tableMapTables? change source,
      expressionMapTables? change filter, expressionsMapTables change groupBy,
      expressionMapTables? change having, sortKeysMapTables change orderBy,
      expressionMapTables? change limit, expressionMapTables? change offset⟩

/-- A returned column with the names of its tables changed. -/
def OutputColumn.mapTables (change : ObjectName → ObjectName) : OutputColumn → OutputColumn
  | ⟨value, aliasName⟩ => ⟨value.mapTables change, aliasName⟩

/-- Returned columns with the names of their tables changed. -/
def columnsMapTables (change : ObjectName → ObjectName) : List OutputColumn → List OutputColumn
  | [] => []
  | column :: columns => column.mapTables change :: columnsMapTables change columns

/-- A sort key with the names of its tables changed. -/
def SortKey.mapTables (change : ObjectName → ObjectName) : SortKey → SortKey
  | ⟨key, direction, nulls⟩ => ⟨key.mapTables change, direction, nulls⟩

/-- Sort keys with the names of their tables changed. -/
def sortKeysMapTables (change : ObjectName → ObjectName) : List SortKey → List SortKey
  | [] => []
  | key :: keys => key.mapTables change :: sortKeysMapTables change keys

/-- A table with its name, or the names of the tables in it, changed. The alias stays. -/
def TableRef.mapTables (change : ObjectName → ObjectName) : TableRef → TableRef
  | .table name aliasName => .table (change name) aliasName
  | .subquery query aliasName => .subquery (query.mapTables change) aliasName
  | .join left clause => .join (left.mapTables change) (clause.mapTables change)

/-- A table that may be absent, with its name changed. -/
def tableMapTables? (change : ObjectName → ObjectName) : Option TableRef → Option TableRef
  | none => none
  | some table => some (table.mapTables change)

/-- The right side of a join with the names of its tables changed. -/
def JoinClause.mapTables (change : ObjectName → ObjectName) : JoinClause → JoinClause
  | ⟨kind, table, condition, columns⟩ =>
    ⟨kind, table.mapTables change, expressionMapTables? change condition, columns⟩

end

/-- The source of an insertion with the names of its tables changed. -/
def InsertSource.mapTables (change : ObjectName → ObjectName) : InsertSource → InsertSource
  | .rows cells => .rows (cells.map (expressionsMapTables change))
  | .query body => .query (body.mapTables change)
  | .defaults => .defaults

/-- An insertion with the names of its tables changed. The one that it inserts into stays. -/
def Insert.mapTables (change : ObjectName → ObjectName) (insert : Insert) : Insert :=
  { insert with
    source := insert.source.mapTables change
    returning := columnsMapTables change insert.returning }

/-- An assignment with the names of its tables changed. -/
def Assignment.mapTables (change : ObjectName → ObjectName) (assignment : Assignment) :
    Assignment :=
  { assignment with value := assignment.value.mapTables change }

/-- An update with the names of its tables changed. The one that it updates stays. -/
def Update.mapTables (change : ObjectName → ObjectName) (update : Update) : Update :=
  { update with
    assignments := update.assignments.map (Assignment.mapTables change)
    source := tableMapTables? change update.source
    filter := expressionMapTables? change update.filter
    returning := columnsMapTables change update.returning }

/-- A deletion with the names of its tables changed. The one that it deletes from stays. -/
def Delete.mapTables (change : ObjectName → ObjectName) (delete : Delete) : Delete :=
  { delete with
    filter := expressionMapTables? change delete.filter
    returning := columnsMapTables change delete.returning }

/-- A statement with the names of its tables changed. -/
def Statement.mapTables (change : ObjectName → ObjectName) : Statement → Statement
  | .select body => .select (body.mapTables change)
  | .insert body => .insert (body.mapTables change)
  | .update body => .update (body.mapTables change)
  | .delete body => .delete (body.mapTables change)
  | .createSequence body => .createSequence body
  | .alterSequence body => .alterSequence body
  | .dropSequence body => .dropSequence body

/-- Trees with the names of their tables changed. -/
def Forest.mapTables (change : ObjectName → ObjectName) : Forest → Forest
  | .statement tree => .statement (tree.mapTables change)
  | .expression tree => .expression (tree.mapTables change)
  | .statements trees => .statements (trees.map (Statement.mapTables change))
  | .expressions trees => .expressions (trees.map (Expr.mapTables change))

namespace Node

/-- A node with the names of its tables changed. -/
def mapTables (change : ObjectName → ObjectName) : Node → Node
  | .statement body => .statement (body.mapTables change)
  | .select body => .select (body.mapTables change)
  | .insert body => .insert (body.mapTables change)
  | .update body => .update (body.mapTables change)
  | .delete body => .delete (body.mapTables change)
  | .createSequence body => .createSequence body
  | .alterSequence body => .alterSequence body
  | .dropSequence body => .dropSequence body
  | .table body => .table (body.mapTables change)
  | .expression body => .expression (body.mapTables change)
  | .reference qualifier column => .reference (qualifier.map change) column
  | .literal value => .literal value
  | .parameter name => .parameter name
  | .unary operator operand => .unary operator (operand.mapTables change)
  | .binary left operator right => .binary (left.mapTables change) operator (right.mapTables change)
  | .ternary operator value low high =>
    .ternary operator (value.mapTables change) (low.mapTables change) (high.mapTables change)
  | .inList operand list negated =>
    .inList (operand.mapTables change) (expressionsMapTables change list) negated
  | .call function arguments distinct =>
    .call function (expressionsMapTables change arguments) distinct
  | .cast operand target => .cast (operand.mapTables change) target
  | .case subject arms otherwise =>
    .case (expressionMapTables? change subject) (armsMapTables change arms)
      (expressionMapTables? change otherwise)
  | .dataType type => .dataType type

/-- The name that a node itself gives to a table: where it reads from one, and where it looks up a
column in one. -/
def tableNames : Node → List ObjectName
  | .table (.table name _) => [name]
  | .reference (some qualifier) _ => [qualifier]
  | _ => []

/-- A node with its names changed gives the changed name to its table. -/
theorem tableNames_mapTables (change : ObjectName → ObjectName) (node : Node) :
    (node.mapTables change).tableNames = node.tableNames.map change := by
  cases node with
  | table body => cases body <;> rfl
  | expression body => rfl
  | reference qualifier column => cases qualifier <;> rfl
  | _ => rfl

/-- A change is undone at the name that a node gives to a table. -/
def Undoes (back change : ObjectName → ObjectName) (node : Node) : Prop :=
  ∀ name ∈ node.tableNames, back (change name) = name

end Node

section Nodes

variable (change : ObjectName → ObjectName)

mutual

/-- The nodes of a tree with its names changed are the nodes of the tree with their names
changed. -/
theorem Expr.nodes_mapTables : (expression : Expr) →
    (expression.mapTables change).nodes = expression.nodes.map (Node.mapTables change)
  | .reference _ _ => by simp [Expr.mapTables, Expr.nodes, Node.mapTables]
  | .literal _ => by simp [Expr.mapTables, Expr.nodes, Node.mapTables]
  | .parameter _ => by simp [Expr.mapTables, Expr.nodes, Node.mapTables]
  | .unary _ operand => by
      simp [Expr.mapTables, Expr.nodes, Node.mapTables, operand.nodes_mapTables]
  | .binary left _ right => by
      simp [Expr.mapTables, Expr.nodes, Node.mapTables, left.nodes_mapTables,
        right.nodes_mapTables]
  | .ternary _ value low high => by
      simp [Expr.mapTables, Expr.nodes, Node.mapTables, value.nodes_mapTables,
        low.nodes_mapTables, high.nodes_mapTables]
  | .inList operand list _ => by
      simp [Expr.mapTables, Expr.nodes, Node.mapTables, operand.nodes_mapTables,
        expressionNodes_mapTables list]
  | .call _ arguments _ => by
      simp [Expr.mapTables, Expr.nodes, Node.mapTables, expressionNodes_mapTables arguments]
  | .cast operand _ => by
      simp [Expr.mapTables, Expr.nodes, Node.mapTables, operand.nodes_mapTables]
  | .case subject arms otherwise => by
      simp [Expr.mapTables, Expr.nodes, Node.mapTables, expressionNodes?_mapTables subject,
        armNodes_mapTables arms, expressionNodes?_mapTables otherwise]
  | .select query => by
      simp [Expr.mapTables, Expr.nodes, Node.mapTables, query.nodes_mapTables]

theorem expressionNodes?_mapTables : (expression : Option Expr) →
    expressionNodes? (expressionMapTables? change expression)
      = (expressionNodes? expression).map (Node.mapTables change)
  | none => rfl
  | some expression => expression.nodes_mapTables

theorem expressionNodes_mapTables : (expressions : List Expr) →
    expressionNodes (expressionsMapTables change expressions)
      = (expressionNodes expressions).map (Node.mapTables change)
  | [] => rfl
  | expression :: expressions => by
      rw [expressionsMapTables, expressionNodes, expressionNodes, expression.nodes_mapTables,
        expressionNodes_mapTables expressions, List.map_append]

theorem CaseArm.nodes_mapTables : (arm : CaseArm) →
    (arm.mapTables change).nodes = arm.nodes.map (Node.mapTables change)
  | ⟨condition, result⟩ => by
      rw [CaseArm.mapTables, CaseArm.nodes, CaseArm.nodes, condition.nodes_mapTables,
        result.nodes_mapTables, List.map_append]

theorem armNodes_mapTables : (arms : List CaseArm) →
    armNodes (armsMapTables change arms) = (armNodes arms).map (Node.mapTables change)
  | [] => rfl
  | arm :: arms => by
      rw [armsMapTables, armNodes, armNodes, arm.nodes_mapTables, armNodes_mapTables arms,
        List.map_append]

theorem Select.nodes_mapTables : (query : Select) →
    (query.mapTables change).nodes = query.nodes.map (Node.mapTables change)
  | ⟨_, columns, source, filter, groupBy, having, orderBy, limit, offset⟩ => by
      simp only [Select.mapTables, Select.nodes, Node.mapTables, List.map_cons, List.map_append,
        columnNodes_mapTables columns, tableNodes?_mapTables source,
        expressionNodes?_mapTables filter, expressionNodes_mapTables groupBy,
        expressionNodes?_mapTables having, sortKeyNodes_mapTables orderBy,
        expressionNodes?_mapTables limit, expressionNodes?_mapTables offset]

theorem OutputColumn.nodes_mapTables : (column : OutputColumn) →
    (column.mapTables change).nodes = column.nodes.map (Node.mapTables change)
  | ⟨value, _⟩ => value.nodes_mapTables

theorem columnNodes_mapTables : (columns : List OutputColumn) →
    columnNodes (columnsMapTables change columns)
      = (columnNodes columns).map (Node.mapTables change)
  | [] => rfl
  | column :: columns => by
      rw [columnsMapTables, columnNodes, columnNodes, column.nodes_mapTables,
        columnNodes_mapTables columns, List.map_append]

theorem SortKey.nodes_mapTables : (key : SortKey) →
    (key.mapTables change).nodes = key.nodes.map (Node.mapTables change)
  | ⟨key, _, _⟩ => key.nodes_mapTables

theorem sortKeyNodes_mapTables : (keys : List SortKey) →
    sortKeyNodes (sortKeysMapTables change keys)
      = (sortKeyNodes keys).map (Node.mapTables change)
  | [] => rfl
  | key :: keys => by
      rw [sortKeysMapTables, sortKeyNodes, sortKeyNodes, key.nodes_mapTables,
        sortKeyNodes_mapTables keys, List.map_append]

theorem TableRef.nodes_mapTables : (table : TableRef) →
    (table.mapTables change).nodes = table.nodes.map (Node.mapTables change)
  | .table _ _ => by simp [TableRef.mapTables, TableRef.nodes, Node.mapTables]
  | .subquery query _ => by
      simp [TableRef.mapTables, TableRef.nodes, Node.mapTables, query.nodes_mapTables]
  | .join left clause => by
      simp [TableRef.mapTables, TableRef.nodes, Node.mapTables, left.nodes_mapTables,
        clause.nodes_mapTables]

theorem tableNodes?_mapTables : (table : Option TableRef) →
    tableNodes? (tableMapTables? change table) = (tableNodes? table).map (Node.mapTables change)
  | none => rfl
  | some table => table.nodes_mapTables

theorem JoinClause.nodes_mapTables : (clause : JoinClause) →
    (clause.mapTables change).nodes = clause.nodes.map (Node.mapTables change)
  | ⟨_, table, condition, _⟩ => by
      rw [JoinClause.mapTables, JoinClause.nodes, JoinClause.nodes, table.nodes_mapTables,
        expressionNodes?_mapTables condition, List.map_append]

end

theorem InsertSource.nodes_mapTables (source : InsertSource) :
    (source.mapTables change).nodes = source.nodes.map (Node.mapTables change) := by
  cases source with
  | rows cells =>
      rw [mapTables, nodes, nodes, List.flatMap_map, List.map_flatMap]
      exact List.flatMap_congr fun row _ => expressionNodes_mapTables change row
  | query body => exact body.nodes_mapTables change
  | defaults => rfl

theorem Insert.nodes_mapTables (insert : Insert) :
    (insert.mapTables change).nodes = insert.nodes.map (Node.mapTables change) := by
  simp [nodes, mapTables, Node.mapTables, InsertSource.nodes_mapTables, columnNodes_mapTables]

theorem Update.nodes_mapTables (update : Update) :
    (update.mapTables change).nodes = update.nodes.map (Node.mapTables change) := by
  simp [nodes, mapTables, Node.mapTables, Assignment.mapTables, Expr.nodes_mapTables,
    tableNodes?_mapTables, expressionNodes?_mapTables, columnNodes_mapTables, List.flatMap_map,
    List.map_flatMap]

theorem Delete.nodes_mapTables (delete : Delete) :
    (delete.mapTables change).nodes = delete.nodes.map (Node.mapTables change) := by
  simp [nodes, mapTables, Node.mapTables, expressionNodes?_mapTables, columnNodes_mapTables]

theorem dataTypeNodes?_mapTables (type : Option DataType) :
    (dataTypeNodes? type).map (Node.mapTables change) = dataTypeNodes? type := by
  cases type <;> rfl

theorem Statement.nodes_mapTables (statement : Statement) :
    (statement.mapTables change).nodes = statement.nodes.map (Node.mapTables change) := by
  unfold nodes
  rw [List.map_cons]
  refine congrArg (Node.statement _ :: ·) ?_
  cases statement with
  | select body => exact body.nodes_mapTables change
  | insert body => exact body.nodes_mapTables change
  | update body => exact body.nodes_mapTables change
  | delete body => exact body.nodes_mapTables change
  | createSequence body =>
      simp [mapTables, Node.mapTables, dataTypeNodes?_mapTables]
  | alterSequence body =>
      simp [mapTables, Node.mapTables, dataTypeNodes?_mapTables]
  | dropSequence body => rfl

/-- The preorder listing of trees with their names changed is that of the trees, with the names
changed. -/
theorem Forest.preorder_mapTables (forest : Forest) :
    (forest.mapTables change).preorder = forest.preorder.map (Node.mapTables change) := by
  rw [preorder_eq_nodes, preorder_eq_nodes]
  cases forest with
  | statement tree => simp [mapTables, roots, Node.nodes, Statement.nodes_mapTables]
  | expression tree => simp [mapTables, roots, Node.nodes, Expr.nodes_mapTables]
  | statements trees =>
      simp [mapTables, roots, List.flatMap_map, List.map_flatMap, Node.nodes, Statement.nodes_mapTables]
  | expressions trees =>
      simp [mapTables, roots, List.flatMap_map, List.map_flatMap, Node.nodes, Expr.nodes_mapTables]

end Nodes

section Undoing

variable {back change : ObjectName → ObjectName}

mutual

/-- A change that is undone at every name of a tree is undone on the tree. -/
theorem Expr.mapTables_undone : (expression : Expr) →
    Node.All (Node.Undoes back change) expression.nodes →
      (expression.mapTables change).mapTables back = expression
  | .reference none _, _ => by simp [Expr.mapTables]
  | .reference (some table) column, undone => by
      have same : back (change table) = table :=
        undone (.reference (some table) column) (by simp [Expr.nodes]) table (by simp [Node.tableNames])
      simp [Expr.mapTables, same]
  | .literal _, _ => by simp [Expr.mapTables]
  | .parameter _, _ => by simp [Expr.mapTables]
  | .unary _ operand, undone => by
      simp only [Expr.nodes, Node.All.cons_iff] at undone
      rw [Expr.mapTables, Expr.mapTables, operand.mapTables_undone undone.2.2]
  | .binary left _ right, undone => by
      simp only [Expr.nodes, Node.All.cons_iff, Node.All.append_iff] at undone
      obtain ⟨-, -, inLeft, inRight⟩ := undone
      rw [Expr.mapTables, Expr.mapTables, left.mapTables_undone inLeft,
        right.mapTables_undone inRight]
  | .ternary _ value low high, undone => by
      simp only [Expr.nodes, Node.All.cons_iff, Node.All.append_iff] at undone
      obtain ⟨-, -, ⟨inValue, inLow⟩, inHigh⟩ := undone
      rw [Expr.mapTables, Expr.mapTables, value.mapTables_undone inValue,
        low.mapTables_undone inLow, high.mapTables_undone inHigh]
  | .inList operand list _, undone => by
      simp only [Expr.nodes, Node.All.cons_iff, Node.All.append_iff] at undone
      obtain ⟨-, -, inOperand, inList⟩ := undone
      rw [Expr.mapTables, Expr.mapTables, operand.mapTables_undone inOperand,
        expressionsMapTables_undone list inList]
  | .call _ arguments _, undone => by
      simp only [Expr.nodes, Node.All.cons_iff] at undone
      rw [Expr.mapTables, Expr.mapTables, expressionsMapTables_undone arguments undone.2.2]
  | .cast operand _, undone => by
      simp only [Expr.nodes, Node.All.cons_iff, Node.All.append_iff] at undone
      rw [Expr.mapTables, Expr.mapTables, operand.mapTables_undone undone.2.2.1]
  | .case subject arms otherwise, undone => by
      simp only [Expr.nodes, Node.All.cons_iff, Node.All.append_iff] at undone
      obtain ⟨-, -, ⟨inSubject, inArms⟩, inOtherwise⟩ := undone
      rw [Expr.mapTables, Expr.mapTables, expressionMapTables?_undone subject inSubject,
        armsMapTables_undone arms inArms, expressionMapTables?_undone otherwise inOtherwise]
  | .select query, undone => by
      simp only [Expr.nodes, Node.All.cons_iff] at undone
      rw [Expr.mapTables, Expr.mapTables, query.mapTables_undone undone.2]

theorem expressionMapTables?_undone : (expression : Option Expr) →
    Node.All (Node.Undoes back change) (expressionNodes? expression) →
      expressionMapTables? back (expressionMapTables? change expression) = expression
  | none, _ => rfl
  | some expression, undone => congrArg some (expression.mapTables_undone undone)

theorem expressionsMapTables_undone : (expressions : List Expr) →
    Node.All (Node.Undoes back change) (expressionNodes expressions) →
      expressionsMapTables back (expressionsMapTables change expressions) = expressions
  | [], _ => rfl
  | expression :: expressions, undone => by
      rw [expressionNodes, Node.All.append_iff] at undone
      rw [expressionsMapTables, expressionsMapTables, expression.mapTables_undone undone.1,
        expressionsMapTables_undone expressions undone.2]

theorem CaseArm.mapTables_undone : (arm : CaseArm) →
    Node.All (Node.Undoes back change) arm.nodes → (arm.mapTables change).mapTables back = arm
  | ⟨condition, result⟩, undone => by
      rw [CaseArm.nodes, Node.All.append_iff] at undone
      rw [CaseArm.mapTables, CaseArm.mapTables, condition.mapTables_undone undone.1,
        result.mapTables_undone undone.2]

theorem armsMapTables_undone : (arms : List CaseArm) →
    Node.All (Node.Undoes back change) (armNodes arms) →
      armsMapTables back (armsMapTables change arms) = arms
  | [], _ => rfl
  | arm :: arms, undone => by
      rw [armNodes, Node.All.append_iff] at undone
      rw [armsMapTables, armsMapTables, arm.mapTables_undone undone.1,
        armsMapTables_undone arms undone.2]

theorem Select.mapTables_undone : (query : Select) →
    Node.All (Node.Undoes back change) query.nodes →
      (query.mapTables change).mapTables back = query
  | ⟨_, columns, source, filter, groupBy, having, orderBy, limit, offset⟩, undone => by
      simp only [Select.nodes, Node.All.cons_iff, Node.All.append_iff] at undone
      obtain ⟨-, ⟨⟨⟨⟨⟨⟨inColumns, inSource⟩, inFilter⟩, inGroups⟩, inHaving⟩, inOrder⟩, inLimit⟩,
        inOffset⟩ := undone
      rw [Select.mapTables, Select.mapTables, columnsMapTables_undone columns inColumns,
        tableMapTables?_undone source inSource, expressionMapTables?_undone filter inFilter,
        expressionsMapTables_undone groupBy inGroups, expressionMapTables?_undone having inHaving,
        sortKeysMapTables_undone orderBy inOrder, expressionMapTables?_undone limit inLimit,
        expressionMapTables?_undone offset inOffset]

theorem OutputColumn.mapTables_undone : (column : OutputColumn) →
    Node.All (Node.Undoes back change) column.nodes →
      (column.mapTables change).mapTables back = column
  | ⟨value, _⟩, undone => by
      rw [OutputColumn.mapTables, OutputColumn.mapTables, value.mapTables_undone undone]

theorem columnsMapTables_undone : (columns : List OutputColumn) →
    Node.All (Node.Undoes back change) (columnNodes columns) →
      columnsMapTables back (columnsMapTables change columns) = columns
  | [], _ => rfl
  | column :: columns, undone => by
      rw [columnNodes, Node.All.append_iff] at undone
      rw [columnsMapTables, columnsMapTables, column.mapTables_undone undone.1,
        columnsMapTables_undone columns undone.2]

theorem SortKey.mapTables_undone : (key : SortKey) →
    Node.All (Node.Undoes back change) key.nodes → (key.mapTables change).mapTables back = key
  | ⟨key, _, _⟩, undone => by
      rw [SortKey.mapTables, SortKey.mapTables, key.mapTables_undone undone]

theorem sortKeysMapTables_undone : (keys : List SortKey) →
    Node.All (Node.Undoes back change) (sortKeyNodes keys) →
      sortKeysMapTables back (sortKeysMapTables change keys) = keys
  | [], _ => rfl
  | key :: keys, undone => by
      rw [sortKeyNodes, Node.All.append_iff] at undone
      rw [sortKeysMapTables, sortKeysMapTables, key.mapTables_undone undone.1,
        sortKeysMapTables_undone keys undone.2]

theorem TableRef.mapTables_undone : (table : TableRef) →
    Node.All (Node.Undoes back change) table.nodes →
      (table.mapTables change).mapTables back = table
  | .table name aliasName, undone => by
      have same : back (change name) = name :=
        undone (.table (.table name aliasName)) (by simp [TableRef.nodes]) name
          (by simp [Node.tableNames])
      rw [TableRef.mapTables, TableRef.mapTables, same]
  | .subquery query _, undone => by
      simp only [TableRef.nodes, Node.All.cons_iff] at undone
      rw [TableRef.mapTables, TableRef.mapTables, query.mapTables_undone undone.2]
  | .join left clause, undone => by
      simp only [TableRef.nodes, Node.All.cons_iff, Node.All.append_iff] at undone
      rw [TableRef.mapTables, TableRef.mapTables, left.mapTables_undone undone.2.1,
        clause.mapTables_undone undone.2.2]

theorem tableMapTables?_undone : (table : Option TableRef) →
    Node.All (Node.Undoes back change) (tableNodes? table) →
      tableMapTables? back (tableMapTables? change table) = table
  | none, _ => rfl
  | some table, undone => congrArg some (table.mapTables_undone undone)

theorem JoinClause.mapTables_undone : (clause : JoinClause) →
    Node.All (Node.Undoes back change) clause.nodes →
      (clause.mapTables change).mapTables back = clause
  | ⟨_, table, condition, _⟩, undone => by
      rw [JoinClause.nodes, Node.All.append_iff] at undone
      rw [JoinClause.mapTables, JoinClause.mapTables, table.mapTables_undone undone.1,
        expressionMapTables?_undone condition undone.2]

end

/-- A change that is undone on the parts of a list is undone on the list. -/
theorem map_undone {α : Type} {forth returned : α → α} {nodes : α → List Node} {items : List α}
    (each : ∀ item, Node.All (Node.Undoes back change) (nodes item) →
      returned (forth item) = item)
    (undone : Node.All (Node.Undoes back change) (items.flatMap nodes)) :
    (items.map forth).map returned = items := by
  rw [List.map_map]
  refine (List.map_congr_left fun item found => ?_).trans (List.map_id items)
  exact each item (Node.All.flatMap_iff.mp undone item found)

theorem Assignment.mapTables_undone (assignment : Assignment)
    (undone : Node.All (Node.Undoes back change) assignment.value.nodes) :
    (assignment.mapTables change).mapTables back = assignment := by
  rw [mapTables, mapTables, assignment.value.mapTables_undone undone]

theorem InsertSource.mapTables_undone (source : InsertSource)
    (undone : Node.All (Node.Undoes back change) source.nodes) :
    (source.mapTables change).mapTables back = source := by
  cases source with
  | rows cells => rw [mapTables, mapTables, map_undone expressionsMapTables_undone undone]
  | query body => rw [mapTables, mapTables, body.mapTables_undone undone]
  | defaults => rfl

theorem Insert.mapTables_undone (insert : Insert)
    (undone : Node.All (Node.Undoes back change) insert.nodes) :
    (insert.mapTables change).mapTables back = insert := by
  simp only [nodes, Node.All.cons_iff, Node.All.append_iff] at undone
  rw [mapTables, mapTables, insert.source.mapTables_undone undone.2.1,
    columnsMapTables_undone _ undone.2.2]

theorem Update.mapTables_undone (update : Update)
    (undone : Node.All (Node.Undoes back change) update.nodes) :
    (update.mapTables change).mapTables back = update := by
  rw [nodes, Node.All.cons_iff, Node.All.append_iff, Node.All.append_iff, Node.All.append_iff]
    at undone
  obtain ⟨-, ⟨⟨inAssignments, inSource⟩, inFilter⟩, inReturning⟩ := undone
  rw [mapTables, mapTables, map_undone Assignment.mapTables_undone inAssignments,
    tableMapTables?_undone _ inSource, expressionMapTables?_undone _ inFilter,
    columnsMapTables_undone _ inReturning]

theorem Delete.mapTables_undone (delete : Delete)
    (undone : Node.All (Node.Undoes back change) delete.nodes) :
    (delete.mapTables change).mapTables back = delete := by
  simp only [nodes, Node.All.cons_iff, Node.All.append_iff] at undone
  rw [mapTables, mapTables, expressionMapTables?_undone _ undone.2.1,
    columnsMapTables_undone _ undone.2.2]

theorem Statement.mapTables_undone (statement : Statement)
    (undone : Node.All (Node.Undoes back change) statement.nodes) :
    (statement.mapTables change).mapTables back = statement := by
  unfold nodes at undone
  rw [Node.All.cons_iff] at undone
  cases statement with
  | select body => rw [mapTables, mapTables, body.mapTables_undone undone.2]
  | insert body => rw [mapTables, mapTables, body.mapTables_undone undone.2]
  | update body => rw [mapTables, mapTables, body.mapTables_undone undone.2]
  | delete body => rw [mapTables, mapTables, body.mapTables_undone undone.2]
  | createSequence | alterSequence | dropSequence => rfl

theorem Forest.mapTables_undone (forest : Forest)
    (undone : Node.All (Node.Undoes back change) forest.preorder) :
    (forest.mapTables change).mapTables back = forest := by
  rw [preorder_eq_nodes] at undone
  cases forest with
  | statement tree =>
      rw [roots, List.flatMap_singleton] at undone
      rw [mapTables, mapTables, tree.mapTables_undone undone]
  | expression tree =>
      rw [roots, List.flatMap_singleton] at undone
      rw [mapTables, mapTables, tree.mapTables_undone undone]
  | statements trees =>
      rw [roots, List.flatMap_map] at undone
      rw [mapTables, mapTables, map_undone Statement.mapTables_undone undone]
  | expressions trees =>
      rw [roots, List.flatMap_map] at undone
      rw [mapTables, mapTables, map_undone Expr.mapTables_undone undone]

end Undoing

end SqlTree
