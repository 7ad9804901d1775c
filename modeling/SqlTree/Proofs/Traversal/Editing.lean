import SqlTree.Proofs.Tree.Image
import SqlTree.Traversal.Edit
import SqlTree.Traversal.Forest

/-!
# Rewriters of expressions

A rewriter that edits expressions and does nothing else makes the image of a tree under the edit:
every expression is edited once what lies below it is rewritten, and all else is copied. The state
stays as it is, and nothing fails.
-/

namespace SqlTree

/-- The images of trees. -/
def Forest.image (change : Expr → Expr) : Forest → Forest
  | .statement tree => .statement (tree.image change)
  | .expression tree => .expression (tree.image change)
  | .statements trees => .statements (trees.map (Statement.image change))
  | .expressions trees => .expressions (trees.map (Expr.image change))

/-- The rewriter that edits expressions, and does nothing else. -/
def Rewriter.editing {σ ε : Type} (edit : Expr → Expr) : Rewriter σ ε where
  leaveExpression expression state := (edit expression, state)

/-- A rewriting returns a tree, and leaves the state as it is. -/
def Rewriting.Makes {σ ε α : Type} (rewriting : Rewriting σ ε α) (made : α) : Prop :=
  ∀ state, rewriting ⟨state, none⟩ = (made, ⟨state, none⟩)

namespace Rewriting.Makes

variable {σ ε α β : Type} {rewriting : Rewriting σ ε α} {made : α} {result : β}
  {edit : Expr → Expr}

theorem pure (tree : α) : Makes (pure tree : Rewriting σ ε α) tree := fun _ => rfl

theorem bind {next : α → Rewriting σ ε β} (first : Makes rewriting made)
    (second : Makes (next made) result) : Makes (rewriting >>= next) result := by
  intro state
  change next (rewriting ⟨state, none⟩).1 (rewriting ⟨state, none⟩).2 = _
  rw [first state]
  exact second state

theorem map (part : Makes rewriting made) (make : α → β) :
    Makes (do return make (← rewriting)) (make made) :=
  part.bind (.pure (make made))

/-- Where a node is always entered, it is edited once what lies below it is made. -/
theorem entered {rewriter : Rewriter σ ε} {node : Node} {unchanged edited : α}
    {leave : α → σ → α × σ} (enters : ∀ state, rewriter.enter node state = (.descend, state))
    (below : Makes rewriting made) (leaves : ∀ state, leave made state = (edited, state)) :
    Makes (rewriter.around node unchanged leave rewriting) edited := by
  intro state
  have walked : rewriting ⟨state, none⟩ = (made, ⟨state, none⟩) := below state
  simp [Rewriter.around, enters, walked, leaves]

/-- A node is always entered, and edited once what lies below it is made. -/
theorem around {node : Node} {unchanged edited : α} {leave : α → σ → α × σ}
    (below : Makes rewriting made) (leaves : ∀ state, leave made state = (edited, state)) :
    Makes ((Rewriter.editing edit : Rewriter σ ε).around node unchanged leave rewriting)
      edited :=
  below.entered (fun _ => rfl) leaves

/-- A node that is no expression is not edited. -/
theorem enter {node : Node} {unchanged : α} (below : Makes rewriting made) :
    Makes ((Rewriter.editing edit : Rewriter σ ε).around node unchanged Prod.mk rewriting)
      made :=
  below.around fun _ => rfl

theorem expression {rewriting : Rewriting σ ε Expr} {made given : Expr} {node : Node}
    (below : Makes rewriting made) :
    Makes ((Rewriter.editing edit : Rewriter σ ε).aroundExpression given node rewriting)
      (edit made) :=
  below.enter.around fun _ => rfl

theorem forList {rewrite : α → Rewriting σ ε α} {image : α → α}
    (makes : ∀ item, Makes (rewrite item) (image item)) (items : List α) :
    Makes (items.mapM rewrite) (items.map image) := by
  induction items with
  | nil => exact .pure []
  | cons item items inductionHypothesis =>
      rw [List.mapM_cons]
      exact (makes item).bind (inductionHypothesis.map (image item :: ·))

end Rewriting.Makes

section Trees

variable {σ ε : Type} (edit : Expr → Expr)

theorem DataType.rewrite_makes (type : DataType) :
    Rewriting.Makes (type.rewrite (Rewriter.editing edit : Rewriter σ ε)) type :=
  (Rewriting.Makes.pure type).enter

mutual

theorem Expr.rewrite_makes : (expression : Expr) →
    Rewriting.Makes (expression.rewrite (Rewriter.editing edit : Rewriter σ ε))
      (expression.image edit)
  | .reference _ _ => by
      rw [Expr.rewrite, Expr.image]
      exact .expression (.pure _)
  | .literal _ => by
      rw [Expr.rewrite, Expr.image]
      exact .expression (.pure _)
  | .parameter _ => by
      rw [Expr.rewrite, Expr.image]
      exact .expression (.pure _)
  | .unary operator operand => by
      rw [Expr.rewrite, Expr.image]
      exact .expression (operand.rewrite_makes.map (Expr.unary operator))
  | .binary left operator right => by
      rw [Expr.rewrite, Expr.image]
      exact .expression (left.rewrite_makes.bind
        (right.rewrite_makes.map (Expr.binary _ operator)))
  | .ternary operator value low high => by
      rw [Expr.rewrite, Expr.image]
      exact .expression (value.rewrite_makes.bind (low.rewrite_makes.bind
        (high.rewrite_makes.map (Expr.ternary operator _ _))))
  | .inList operand list negated => by
      rw [Expr.rewrite, Expr.image]
      exact .expression (operand.rewrite_makes.bind
        ((rewriteExpressions_makes list).map (Expr.inList _ · negated)))
  | .call function arguments distinct => by
      rw [Expr.rewrite, Expr.image]
      exact .expression ((rewriteExpressions_makes arguments).map
        (Expr.call function · distinct))
  | .cast operand target => by
      rw [Expr.rewrite, Expr.image]
      exact .expression (operand.rewrite_makes.bind
        ((target.rewrite_makes edit).map (Expr.cast _)))
  | .case subject arms otherwise => by
      rw [Expr.rewrite, Expr.image]
      exact .expression ((rewriteExpression?_makes subject).bind
        ((rewriteArms_makes arms).bind
          ((rewriteExpression?_makes otherwise).map (Expr.case _ _))))
  | .select query => by
      rw [Expr.rewrite, Expr.image]
      exact (query.rewrite_makes.map Expr.select).around fun _ => rfl

theorem rewriteExpression?_makes : (expression : Option Expr) →
    Rewriting.Makes (rewriteExpression? (Rewriter.editing edit : Rewriter σ ε) expression)
      (expressionImage? edit expression)
  | none => .pure none
  | some expression => by
      rw [rewriteExpression?, expressionImage?]
      exact expression.rewrite_makes.map some

theorem rewriteExpressions_makes : (expressions : List Expr) →
    Rewriting.Makes (rewriteExpressions (Rewriter.editing edit : Rewriter σ ε) expressions)
      (expressionImages edit expressions)
  | [] => .pure []
  | expression :: expressions => by
      rw [rewriteExpressions, expressionImages]
      exact expression.rewrite_makes.bind ((rewriteExpressions_makes expressions).map (_ :: ·))

theorem CaseArm.rewrite_makes : (arm : CaseArm) →
    Rewriting.Makes (arm.rewrite (Rewriter.editing edit : Rewriter σ ε)) (arm.image edit)
  | ⟨condition, result⟩ => by
      rw [CaseArm.rewrite, CaseArm.image]
      exact condition.rewrite_makes.bind (result.rewrite_makes.map (CaseArm.mk _))

theorem rewriteArms_makes : (arms : List CaseArm) →
    Rewriting.Makes (rewriteArms (Rewriter.editing edit : Rewriter σ ε) arms) (armImages edit arms)
  | [] => .pure []
  | arm :: arms => by
      rw [rewriteArms, armImages]
      exact arm.rewrite_makes.bind ((rewriteArms_makes arms).map (_ :: ·))

theorem Select.rewrite_makes : (query : Select) →
    Rewriting.Makes (query.rewrite (Rewriter.editing edit : Rewriter σ ε)) (query.image edit)
  | ⟨distinct, columns, source, filter, groupBy, having, orderBy, limit, offset⟩ => by
      rw [Select.rewrite, Select.image]
      refine .enter ?_
      exact (rewriteColumns_makes columns).bind <|
        (rewriteTable?_makes source).bind <|
        (rewriteExpression?_makes filter).bind <|
        (rewriteExpressions_makes groupBy).bind <|
        (rewriteExpression?_makes having).bind <|
        (rewriteSortKeys_makes orderBy).bind <|
        (rewriteExpression?_makes limit).bind <|
        (rewriteExpression?_makes offset).map (Select.mk distinct _ _ _ _ _ _ _)

theorem OutputColumn.rewrite_makes : (column : OutputColumn) →
    Rewriting.Makes (column.rewrite (Rewriter.editing edit : Rewriter σ ε)) (column.image edit)
  | ⟨value, aliasName⟩ => by
      rw [OutputColumn.rewrite, OutputColumn.image]
      exact value.rewrite_makes.map (OutputColumn.mk · aliasName)

theorem rewriteColumns_makes : (columns : List OutputColumn) →
    Rewriting.Makes (rewriteColumns (Rewriter.editing edit : Rewriter σ ε) columns)
      (columnImages edit columns)
  | [] => .pure []
  | column :: columns => by
      rw [rewriteColumns, columnImages]
      exact column.rewrite_makes.bind ((rewriteColumns_makes columns).map (_ :: ·))

theorem SortKey.rewrite_makes : (key : SortKey) →
    Rewriting.Makes (key.rewrite (Rewriter.editing edit : Rewriter σ ε)) (key.image edit)
  | ⟨key, direction, nulls⟩ => by
      rw [SortKey.rewrite, SortKey.image]
      exact key.rewrite_makes.map (SortKey.mk · direction nulls)

theorem rewriteSortKeys_makes : (keys : List SortKey) →
    Rewriting.Makes (rewriteSortKeys (Rewriter.editing edit : Rewriter σ ε) keys)
      (sortKeyImages edit keys)
  | [] => .pure []
  | key :: keys => by
      rw [rewriteSortKeys, sortKeyImages]
      exact key.rewrite_makes.bind ((rewriteSortKeys_makes keys).map (_ :: ·))

theorem TableRef.rewrite_makes : (table : TableRef) →
    Rewriting.Makes (table.rewrite (Rewriter.editing edit : Rewriter σ ε)) (table.image edit)
  | .table name aliasName => by
      rw [TableRef.rewrite, TableRef.image]
      exact .enter (.pure _)
  | .subquery query aliasName => by
      rw [TableRef.rewrite, TableRef.image]
      exact .enter (query.rewrite_makes.map (TableRef.subquery · aliasName))
  | .join left clause => by
      rw [TableRef.rewrite, TableRef.image]
      exact .enter (left.rewrite_makes.bind (clause.rewrite_makes.map (TableRef.join _)))

theorem rewriteTable?_makes : (table : Option TableRef) →
    Rewriting.Makes (rewriteTable? (Rewriter.editing edit : Rewriter σ ε) table)
      (tableImage? edit table)
  | none => .pure none
  | some table => by
      rw [rewriteTable?, tableImage?]
      exact table.rewrite_makes.map some

theorem JoinClause.rewrite_makes : (clause : JoinClause) →
    Rewriting.Makes (clause.rewrite (Rewriter.editing edit : Rewriter σ ε)) (clause.image edit)
  | ⟨kind, table, condition, columns⟩ => by
      rw [JoinClause.rewrite, JoinClause.image]
      exact table.rewrite_makes.bind
        ((rewriteExpression?_makes condition).map (JoinClause.mk kind _ · columns))

end

theorem InsertSource.rewrite_makes (source : InsertSource) :
    Rewriting.Makes (source.rewrite (Rewriter.editing edit : Rewriter σ ε))
      (source.image edit) := by
  cases source with
  | rows cells =>
      exact (Rewriting.Makes.forList (rewriteExpressions_makes edit) cells).map InsertSource.rows
  | query body => exact (body.rewrite_makes edit).map InsertSource.query
  | defaults => exact .pure _

theorem Insert.rewrite_makes (body : Insert) :
    Rewriting.Makes (body.rewrite (Rewriter.editing edit : Rewriter σ ε)) (body.image edit) := by
  obtain ⟨target, columns, source, returning⟩ := body
  exact Rewriting.Makes.enter <| (source.rewrite_makes edit).bind <|
    (rewriteColumns_makes edit returning).map (Insert.mk target columns _)

theorem Assignment.rewrite_makes (assignment : Assignment) :
    Rewriting.Makes (assignment.rewrite (Rewriter.editing edit : Rewriter σ ε))
      (assignment.image edit) := by
  obtain ⟨column, value⟩ := assignment
  exact (value.rewrite_makes edit).map (Assignment.mk column)

theorem Update.rewrite_makes (body : Update) :
    Rewriting.Makes (body.rewrite (Rewriter.editing edit : Rewriter σ ε)) (body.image edit) := by
  obtain ⟨target, aliasName, assignments, source, filter, returning⟩ := body
  exact Rewriting.Makes.enter <|
    (Rewriting.Makes.forList (Assignment.rewrite_makes edit) assignments).bind <|
    (rewriteTable?_makes edit source).bind <|
    (rewriteExpression?_makes edit filter).bind <|
    (rewriteColumns_makes edit returning).map (Update.mk target aliasName _ _ _)

theorem Delete.rewrite_makes (body : Delete) :
    Rewriting.Makes (body.rewrite (Rewriter.editing edit : Rewriter σ ε)) (body.image edit) := by
  obtain ⟨target, aliasName, filter, returning⟩ := body
  exact Rewriting.Makes.enter <| (rewriteExpression?_makes edit filter).bind <|
    (rewriteColumns_makes edit returning).map (Delete.mk target aliasName _)

/-- The data type of a sequence is entered, and is no expression. -/
theorem SequenceOptions.rewrite_makes (options : SequenceOptions) :
    Rewriting.Makes (options.rewrite (Rewriter.editing edit : Rewriter σ ε)) options := by
  rw [SequenceOptions.rewrite]
  cases chosen : options.dataType with
  | none => exact .pure options
  | some type =>
      have same : { options with dataType := some type } = options := by rw [← chosen]
      conv => arg 2; rw [← same]
      exact (type.rewrite_makes edit).map fun type => { options with dataType := some type }

theorem CreateSequence.rewrite_makes (body : CreateSequence) :
    Rewriting.Makes (body.rewrite (Rewriter.editing edit : Rewriter σ ε)) body := by
  obtain ⟨name, temporary, unlogged, ifNotExists, options⟩ := body
  exact Rewriting.Makes.enter <| (options.rewrite_makes edit).map
    (CreateSequence.mk name temporary unlogged ifNotExists)

theorem SequenceChange.rewrite_makes (change : SequenceChange) :
    Rewriting.Makes (change.rewrite (Rewriter.editing edit : Rewriter σ ε)) change := by
  cases change with
  | options chosen restart =>
      exact (chosen.rewrite_makes edit).map (SequenceChange.options · restart)
  | rename | owner | schema => exact .pure _

theorem AlterSequence.rewrite_makes (body : AlterSequence) :
    Rewriting.Makes (body.rewrite (Rewriter.editing edit : Rewriter σ ε)) body := by
  obtain ⟨name, ifExists, change⟩ := body
  exact Rewriting.Makes.enter <| (change.rewrite_makes edit).map (AlterSequence.mk name ifExists)

theorem Statement.rewrite_makes (statement : Statement) :
    Rewriting.Makes (statement.rewrite (Rewriter.editing edit : Rewriter σ ε))
      (statement.image edit) := by
  refine .enter ?_
  cases statement with
  | select body => exact (body.rewrite_makes edit).map Statement.select
  | insert body => exact (body.rewrite_makes edit).map Statement.insert
  | update body => exact (body.rewrite_makes edit).map Statement.update
  | delete body => exact (body.rewrite_makes edit).map Statement.delete
  | createSequence body => exact (body.rewrite_makes edit).map Statement.createSequence
  | alterSequence body => exact (body.rewrite_makes edit).map Statement.alterSequence
  | dropSequence body => exact (Rewriting.Makes.enter (.pure body)).map Statement.dropSequence

theorem Forest.rewrite_makes (forest : Forest) :
    Rewriting.Makes (forest.rewrite (Rewriter.editing edit : Rewriter σ ε))
      (forest.image edit) := by
  cases forest with
  | statement tree => exact (tree.rewrite_makes edit).map Forest.statement
  | expression tree => exact (tree.rewrite_makes edit).map Forest.expression
  | statements trees =>
      exact (Rewriting.Makes.forList (Statement.rewrite_makes edit) trees).map Forest.statements
  | expressions trees =>
      exact (Rewriting.Makes.forList (Expr.rewrite_makes edit) trees).map Forest.expressions

end Trees

end SqlTree
