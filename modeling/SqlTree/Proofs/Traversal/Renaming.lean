import SqlTree.Proofs.Traversal.Editing
import SqlTree.Proofs.Tree.TableNames

/-!
# Renaming tables

The rewriter that renames tables makes the tree with the names of its tables changed, wherever they
stand, and changes nothing else. No table keeps the replaced name. A table that already had the new
name could not be told from a renamed one; where there is none, the way back is the renaming with
the two names swapped.
-/

namespace SqlTree

namespace ObjectName

variable {source target : String}

theorem renamed_name_ne (distinct : source ≠ target) (object : ObjectName) :
    (object.renamed source target).name ≠ source := by
  unfold renamed
  split
  · exact distinct.symm
  · assumption

/-- A renaming is undone at every name but the new one. -/
theorem renamed_renamed {object : ObjectName} (unused : object.name ≠ target) :
    (object.renamed source target).renamed target source = object := by
  obtain ⟨name, schema⟩ := object
  by_cases same : name = source
  · subst same
    simp [renamed]
  · have kept : name ≠ target := unused
    simp [renamed, same, kept]

end ObjectName

namespace Rewriting.Makes

variable {α : Type} {rewriting : Rewriting Unit String α} {made : α} {source target : String}

/-- A node that the renaming does not edit. -/
theorem kept {node : Node} {unchanged : α} {leave : α → Unit → α × Unit}
    (below : Makes rewriting made) (leaves : leave made = fun state => (made, state)) :
    Makes ((renameTables source target).around node unchanged leave rewriting) made :=
  below.entered (fun _ => rfl) fun state => congrFun leaves state

/-- An expression that is not a reference with a table is not edited. -/
theorem keptExpression {rewriting : Rewriting Unit String Expr} {made given : Expr} {node : Node}
    (below : Makes rewriting made)
    (leaves : (renameTables source target).leaveExpression made = fun state => (made, state)) :
    Makes ((renameTables source target).aroundExpression given node rewriting) made :=
  (below.kept rfl).kept leaves

end Rewriting.Makes

section Trees

variable (source target : String)

theorem DataType.rewrite_renames (type : DataType) :
    Rewriting.Makes (type.rewrite (renameTables source target)) type :=
  (Rewriting.Makes.pure type).kept rfl

mutual

theorem Expr.rewrite_renames : (expression : Expr) →
    Rewriting.Makes (expression.rewrite (renameTables source target))
      (expression.mapTables (ObjectName.renamed source target))
  | .reference none _ => by
      rw [Expr.rewrite, Expr.mapTables]
      exact .keptExpression (.pure _) rfl
  | .reference (some table) column => by
      rw [Expr.rewrite, Expr.mapTables]
      have walked : Rewriting.Makes (pure (.reference (some table) column) :
          Rewriting Unit String Expr) (.reference (some table) column) := .pure _
      exact (walked.kept rfl).entered (fun _ => rfl) fun _ => rfl
  | .literal _ => by
      rw [Expr.rewrite, Expr.mapTables]
      exact .keptExpression (.pure _) rfl
  | .parameter _ => by
      rw [Expr.rewrite, Expr.mapTables]
      exact .keptExpression (.pure _) rfl
  | .unary operator operand => by
      rw [Expr.rewrite, Expr.mapTables]
      exact .keptExpression (operand.rewrite_renames.map (Expr.unary operator)) rfl
  | .binary left operator right => by
      rw [Expr.rewrite, Expr.mapTables]
      exact .keptExpression (left.rewrite_renames.bind
        (right.rewrite_renames.map (Expr.binary _ operator))) rfl
  | .ternary operator value low high => by
      rw [Expr.rewrite, Expr.mapTables]
      exact .keptExpression (value.rewrite_renames.bind (low.rewrite_renames.bind
        (high.rewrite_renames.map (Expr.ternary operator _ _)))) rfl
  | .inList operand list negated => by
      rw [Expr.rewrite, Expr.mapTables]
      exact .keptExpression (operand.rewrite_renames.bind
        ((rewriteExpressions_renames list).map (Expr.inList _ · negated))) rfl
  | .call function arguments distinct => by
      rw [Expr.rewrite, Expr.mapTables]
      exact .keptExpression ((rewriteExpressions_renames arguments).map
        (Expr.call function · distinct)) rfl
  | .cast operand target => by
      rw [Expr.rewrite, Expr.mapTables]
      exact .keptExpression (operand.rewrite_renames.bind
        ((target.rewrite_renames _ _).map (Expr.cast _))) rfl
  | .case subject arms otherwise => by
      rw [Expr.rewrite, Expr.mapTables]
      exact .keptExpression ((rewriteExpression?_renames subject).bind
        ((rewriteArms_renames arms).bind
          ((rewriteExpression?_renames otherwise).map (Expr.case _ _)))) rfl
  | .select query => by
      rw [Expr.rewrite, Expr.mapTables]
      exact (query.rewrite_renames.map Expr.select).kept rfl

theorem rewriteExpression?_renames : (expression : Option Expr) →
    Rewriting.Makes (rewriteExpression? (renameTables source target) expression)
      (expressionMapTables? (ObjectName.renamed source target) expression)
  | none => .pure none
  | some expression => by
      rw [rewriteExpression?, expressionMapTables?]
      exact expression.rewrite_renames.map some

theorem rewriteExpressions_renames : (expressions : List Expr) →
    Rewriting.Makes (rewriteExpressions (renameTables source target) expressions)
      (expressionsMapTables (ObjectName.renamed source target) expressions)
  | [] => .pure []
  | expression :: expressions => by
      rw [rewriteExpressions, expressionsMapTables]
      exact expression.rewrite_renames.bind ((rewriteExpressions_renames expressions).map (_ :: ·))

theorem CaseArm.rewrite_renames : (arm : CaseArm) →
    Rewriting.Makes (arm.rewrite (renameTables source target))
      (arm.mapTables (ObjectName.renamed source target))
  | ⟨condition, result⟩ => by
      rw [CaseArm.rewrite, CaseArm.mapTables]
      exact condition.rewrite_renames.bind (result.rewrite_renames.map (CaseArm.mk _))

theorem rewriteArms_renames : (arms : List CaseArm) →
    Rewriting.Makes (rewriteArms (renameTables source target) arms)
      (armsMapTables (ObjectName.renamed source target) arms)
  | [] => .pure []
  | arm :: arms => by
      rw [rewriteArms, armsMapTables]
      exact arm.rewrite_renames.bind ((rewriteArms_renames arms).map (_ :: ·))

theorem Select.rewrite_renames : (query : Select) →
    Rewriting.Makes (query.rewrite (renameTables source target))
      (query.mapTables (ObjectName.renamed source target))
  | ⟨distinct, columns, source, filter, groupBy, having, orderBy, limit, offset⟩ => by
      rw [Select.rewrite, Select.mapTables]
      refine .kept ?_ rfl
      exact (rewriteColumns_renames columns).bind <|
        (rewriteTable?_renames source).bind <|
        (rewriteExpression?_renames filter).bind <|
        (rewriteExpressions_renames groupBy).bind <|
        (rewriteExpression?_renames having).bind <|
        (rewriteSortKeys_renames orderBy).bind <|
        (rewriteExpression?_renames limit).bind <|
        (rewriteExpression?_renames offset).map (Select.mk distinct _ _ _ _ _ _ _)

theorem OutputColumn.rewrite_renames : (column : OutputColumn) →
    Rewriting.Makes (column.rewrite (renameTables source target))
      (column.mapTables (ObjectName.renamed source target))
  | ⟨value, aliasName⟩ => by
      rw [OutputColumn.rewrite, OutputColumn.mapTables]
      exact value.rewrite_renames.map (OutputColumn.mk · aliasName)

theorem rewriteColumns_renames : (columns : List OutputColumn) →
    Rewriting.Makes (rewriteColumns (renameTables source target) columns)
      (columnsMapTables (ObjectName.renamed source target) columns)
  | [] => .pure []
  | column :: columns => by
      rw [rewriteColumns, columnsMapTables]
      exact column.rewrite_renames.bind ((rewriteColumns_renames columns).map (_ :: ·))

theorem SortKey.rewrite_renames : (key : SortKey) →
    Rewriting.Makes (key.rewrite (renameTables source target))
      (key.mapTables (ObjectName.renamed source target))
  | ⟨key, direction, nulls⟩ => by
      rw [SortKey.rewrite, SortKey.mapTables]
      exact key.rewrite_renames.map (SortKey.mk · direction nulls)

theorem rewriteSortKeys_renames : (keys : List SortKey) →
    Rewriting.Makes (rewriteSortKeys (renameTables source target) keys)
      (sortKeysMapTables (ObjectName.renamed source target) keys)
  | [] => .pure []
  | key :: keys => by
      rw [rewriteSortKeys, sortKeysMapTables]
      exact key.rewrite_renames.bind ((rewriteSortKeys_renames keys).map (_ :: ·))

theorem TableRef.rewrite_renames : (table : TableRef) →
    Rewriting.Makes (table.rewrite (renameTables source target))
      (table.mapTables (ObjectName.renamed source target))
  | .table name aliasName => by
      rw [TableRef.rewrite, TableRef.mapTables]
      have walked : Rewriting.Makes (pure (.table name aliasName) :
          Rewriting Unit String TableRef) (.table name aliasName) := .pure _
      exact walked.entered (fun _ => rfl) fun _ => rfl
  | .subquery query aliasName => by
      rw [TableRef.rewrite, TableRef.mapTables]
      exact (query.rewrite_renames.map (TableRef.subquery · aliasName)).kept rfl
  | .join left clause => by
      rw [TableRef.rewrite, TableRef.mapTables]
      exact (left.rewrite_renames.bind (clause.rewrite_renames.map (TableRef.join _))).kept rfl

theorem rewriteTable?_renames : (table : Option TableRef) →
    Rewriting.Makes (rewriteTable? (renameTables source target) table)
      (tableMapTables? (ObjectName.renamed source target) table)
  | none => .pure none
  | some table => by
      rw [rewriteTable?, tableMapTables?]
      exact table.rewrite_renames.map some

theorem JoinClause.rewrite_renames : (clause : JoinClause) →
    Rewriting.Makes (clause.rewrite (renameTables source target))
      (clause.mapTables (ObjectName.renamed source target))
  | ⟨kind, table, condition, columns⟩ => by
      rw [JoinClause.rewrite, JoinClause.mapTables]
      exact table.rewrite_renames.bind
        ((rewriteExpression?_renames condition).map (JoinClause.mk kind _ · columns))

end

theorem InsertSource.rewrite_renames (inserted : InsertSource) :
    Rewriting.Makes (inserted.rewrite (renameTables source target))
      (inserted.mapTables (ObjectName.renamed source target)) := by
  cases inserted with
  | rows cells =>
      exact (Rewriting.Makes.forList (rewriteExpressions_renames source target) cells).map
        InsertSource.rows
  | query body => exact (body.rewrite_renames source target).map InsertSource.query
  | defaults => exact .pure _

theorem Insert.rewrite_renames (body : Insert) :
    Rewriting.Makes (body.rewrite (renameTables source target))
      (body.mapTables (ObjectName.renamed source target)) := by
  obtain ⟨table, columns, inserted, returning⟩ := body
  refine .kept ?_ rfl
  exact (inserted.rewrite_renames source target).bind <|
    (rewriteColumns_renames source target returning).map (Insert.mk table columns _)

theorem Assignment.rewrite_renames (assignment : Assignment) :
    Rewriting.Makes (assignment.rewrite (renameTables source target))
      (assignment.mapTables (ObjectName.renamed source target)) := by
  obtain ⟨column, value⟩ := assignment
  exact (value.rewrite_renames source target).map (Assignment.mk column)

theorem Update.rewrite_renames (body : Update) :
    Rewriting.Makes (body.rewrite (renameTables source target))
      (body.mapTables (ObjectName.renamed source target)) := by
  obtain ⟨table, aliasName, assignments, reading, filter, returning⟩ := body
  refine .kept ?_ rfl
  exact (Rewriting.Makes.forList (Assignment.rewrite_renames source target) assignments).bind <|
    (rewriteTable?_renames source target reading).bind <|
    (rewriteExpression?_renames source target filter).bind <|
    (rewriteColumns_renames source target returning).map (Update.mk table aliasName _ _ _)

theorem Delete.rewrite_renames (body : Delete) :
    Rewriting.Makes (body.rewrite (renameTables source target))
      (body.mapTables (ObjectName.renamed source target)) := by
  obtain ⟨table, aliasName, filter, returning⟩ := body
  refine .kept ?_ rfl
  exact (rewriteExpression?_renames source target filter).bind <|
    (rewriteColumns_renames source target returning).map (Delete.mk table aliasName _)

/-- The data type of a sequence is entered and kept. -/
theorem SequenceOptions.rewrite_renames (options : SequenceOptions) :
    Rewriting.Makes (options.rewrite (renameTables source target)) options := by
  rw [SequenceOptions.rewrite]
  cases chosen : options.dataType with
  | none => exact .pure options
  | some type =>
      have same : { options with dataType := some type } = options := by rw [← chosen]
      conv => arg 2; rw [← same]
      exact (type.rewrite_renames source target).map fun type =>
        { options with dataType := some type }

theorem CreateSequence.rewrite_renames (body : CreateSequence) :
    Rewriting.Makes (body.rewrite (renameTables source target)) body := by
  obtain ⟨name, temporary, unlogged, ifNotExists, options⟩ := body
  refine .kept ?_ rfl
  exact (options.rewrite_renames source target).map
    (CreateSequence.mk name temporary unlogged ifNotExists)

theorem SequenceChange.rewrite_renames (change : SequenceChange) :
    Rewriting.Makes (change.rewrite (renameTables source target)) change := by
  cases change with
  | options chosen restart =>
      exact (chosen.rewrite_renames source target).map (SequenceChange.options · restart)
  | rename | owner | schema => exact .pure _

theorem AlterSequence.rewrite_renames (body : AlterSequence) :
    Rewriting.Makes (body.rewrite (renameTables source target)) body := by
  obtain ⟨name, ifExists, change⟩ := body
  refine .kept ?_ rfl
  exact (change.rewrite_renames source target).map (AlterSequence.mk name ifExists)

theorem Statement.rewrite_renames (statement : Statement) :
    Rewriting.Makes (statement.rewrite (renameTables source target))
      (statement.mapTables (ObjectName.renamed source target)) := by
  refine .kept ?_ rfl
  cases statement with
  | select body => exact (body.rewrite_renames source target).map Statement.select
  | insert body => exact (body.rewrite_renames source target).map Statement.insert
  | update body => exact (body.rewrite_renames source target).map Statement.update
  | delete body => exact (body.rewrite_renames source target).map Statement.delete
  | createSequence body =>
      exact (body.rewrite_renames source target).map Statement.createSequence
  | alterSequence body => exact (body.rewrite_renames source target).map Statement.alterSequence
  | dropSequence body =>
      exact (Rewriting.Makes.kept (.pure body) rfl).map Statement.dropSequence

/-- Renaming tables changes their names and nothing else. -/
theorem Forest.rewrite_renames (forest : Forest) :
    Rewriting.Makes (forest.rewrite (renameTables source target))
      (forest.mapTables (ObjectName.renamed source target)) := by
  cases forest with
  | statement tree => exact (tree.rewrite_renames source target).map Forest.statement
  | expression tree => exact (tree.rewrite_renames source target).map Forest.expression
  | statements trees =>
      exact (Rewriting.Makes.forList (Statement.rewrite_renames source target) trees).map
        Forest.statements
  | expressions trees =>
      exact (Rewriting.Makes.forList (Expr.rewrite_renames source target) trees).map
        Forest.expressions

end Trees

namespace Forest

/-- No table of some trees has a name. -/
def NamesNoTable (name : String) (forest : Forest) : Prop :=
  Node.All (fun node => ∀ table ∈ node.tableNames, table.name ≠ name) forest.preorder

variable {source target : String}

theorem mapTables_renamed_namesNoTable (distinct : source ≠ target) (forest : Forest) :
    (forest.mapTables (ObjectName.renamed source target)).NamesNoTable source := by
  unfold NamesNoTable Node.All
  rw [preorder_mapTables, List.forall_mem_map]
  intro node _
  rw [Node.tableNames_mapTables, List.forall_mem_map]
  exact fun table _ => table.renamed_name_ne distinct

theorem mapTables_renamed_renamed {forest : Forest} (unused : forest.NamesNoTable target) :
    (forest.mapTables (ObjectName.renamed source target)).mapTables
      (ObjectName.renamed target source) = forest :=
  forest.mapTables_undone fun node among table named =>
    ObjectName.renamed_renamed (unused node among table named)

/-- Renaming tables never fails, reaches every name that a table has in the trees, and changes
nothing else: the nodes of the result are those of the trees with the names changed, in the same
order. No table keeps the replaced name, and where no table had the new one, renaming back gives the
trees again. -/
theorem rewrite_renameTables (distinct : source ≠ target) (forest : Forest) :
    ∃ renamed,
      forest.rewrite (renameTables source target) ⟨(), none⟩ = (renamed, ⟨(), none⟩)
      ∧ renamed = forest.mapTables (ObjectName.renamed source target)
      ∧ renamed.preorder
          = forest.preorder.map (Node.mapTables (ObjectName.renamed source target))
      ∧ renamed.NamesNoTable source
      ∧ (forest.NamesNoTable target →
          renamed.rewrite (renameTables target source) ⟨(), none⟩ = (forest, ⟨(), none⟩)) := by
  refine ⟨_, forest.rewrite_renames source target (), rfl, forest.preorder_mapTables _,
    forest.mapTables_renamed_namesNoTable distinct, fun unused => ?_⟩
  have back := (forest.mapTables (ObjectName.renamed source target)).rewrite_renames target source
  rw [mapTables_renamed_renamed unused] at back
  exact back ()

/-- The table of a query and the one in which its column is looked up are renamed, and renamed
back. -/
theorem rewrite_renameTables_old :
    let name : String → ObjectName := fun name => ⟨name, none⟩
    let query : ObjectName → Forest := fun table =>
      .statement (.select ⟨false, [⟨.reference (some table) "a", none⟩],
        some (.table table none), none, [], none, [], none, none⟩)
    (query (name "old")).NamesNoTable "new"
      ∧ (query (name "old")).rewrite (renameTables "old" "new") ⟨(), none⟩
          = (query (name "new"), ⟨(), none⟩)
      ∧ (query (name "new")).rewrite (renameTables "new" "old") ⟨(), none⟩
          = (query (name "old"), ⟨(), none⟩) := by
  intro name query
  have unused : (query (name "old")).NamesNoTable "new" := by
    simp [NamesNoTable, Node.All, preorder_eq_nodes, query, name, roots, Node.nodes,
      Statement.nodes, Select.nodes, columnNodes, OutputColumn.nodes, Expr.nodes, tableNodes?,
      TableRef.nodes, expressionNodes?, expressionNodes, sortKeyNodes, Node.tableNames]
  obtain ⟨renamed, renames, told, -, -, back⟩ :=
    rewrite_renameTables (by decide : "old" ≠ "new") (query (name "old"))
  have same : renamed = query (name "new") := told
  rw [same] at renames back
  exact ⟨unused, renames, back unused⟩

end Forest

end SqlTree
