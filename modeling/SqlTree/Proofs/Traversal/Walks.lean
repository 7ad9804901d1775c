import SqlTree.Proofs.Traversal.Children
import SqlTree.Traversal.Forest

/-!
# Walks

Every visit of a tree is one and the same walk: a node is handed to the visitor together with the
walks of its children in turn. What is said of walks is said of the visits of all kinds of trees.
-/

namespace SqlTree

variable {m : Type → Type} [Monad m]

/-- Hands a node to a visitor, together with the walks of its children in turn. -/
def Node.walk (visitor : Visitor m) (node : Node) : m Unit :=
  visitor node (forM node.children.attach fun child => child.1.walk visitor)
termination_by node
decreasing_by exact child.2

/-- The nodes that a traversal starts with. -/
def Forest.roots : Forest → List Node
  | .statement tree => [.statement tree]
  | .expression tree => [.expression tree]
  | .statements trees => trees.map .statement
  | .expressions trees => trees.map .expression

variable (visitor : Visitor m)

/-- Walks nodes in turn. -/
def walks (nodes : List Node) : m Unit := forM nodes (Node.walk visitor)

theorem walks_nil : walks visitor [] = pure () := rfl

theorem walks_cons (node : Node) (nodes : List Node) : walks visitor (node :: nodes) = (do
    node.walk visitor
    walks visitor nodes) :=
  rfl

variable [LawfulMonad m]

theorem walks_singleton (node : Node) : walks visitor [node] = node.walk visitor := bind_pure_unit

theorem walks_append (nodes others : List Node) : walks visitor (nodes ++ others) = (do
    walks visitor nodes
    walks visitor others) :=
  List.forM_append

theorem Node.walk_eq (node : Node) :
    node.walk visitor = visitor node (walks visitor node.children) := by
  rw [Node.walk]
  congr 1
  conv => rhs; rw [← List.attach_map_subtype_val node.children]
  rw [walks, List.forM_map]

/-- An expression is walked as such and then as what it is. -/
theorem Node.walk_expression (body : Expr) :
    (Node.expression body).walk visitor =
      visitor (.expression body) (visitor body.node (walks visitor body.node.children)) := by
  rw [Node.walk_eq, Node.children, walks_singleton, Node.walk_eq]

theorem Node.walk_dataType (type : DataType) :
    (Node.dataType type).walk visitor = visitor (.dataType type) (pure ()) := by
  rw [Node.walk_eq, Node.children, walks_nil]

set_option linter.unusedSectionVars false in
mutual

/-- A visit of an expression is its walk. -/
theorem Expr.visit_eq_walk : (body : Expr) →
    body.visit visitor = (Node.expression body).walk visitor
  | .reference _ _ => by
      rw [Expr.visit, Node.walk_expression, Expr.node, Node.children, walks_nil]
  | .literal _ => by
      rw [Expr.visit, Node.walk_expression, Expr.node, Node.children, walks_nil]
  | .parameter _ => by
      rw [Expr.visit, Node.walk_expression, Expr.node, Node.children, walks_nil]
  | .unary _ operand => by
      rw [Expr.visit, Node.walk_expression, Expr.node, Node.children, operand.visit_eq_walk,
        walks_singleton]
  | .binary left _ right => by
      rw [Expr.visit, Node.walk_expression, Expr.node, Node.children, left.visit_eq_walk,
        right.visit_eq_walk, walks_cons, walks_singleton]
  | .ternary _ value low high => by
      rw [Expr.visit, Node.walk_expression, Expr.node, Node.children, value.visit_eq_walk,
        low.visit_eq_walk, high.visit_eq_walk, walks_cons, walks_cons, walks_singleton]
  | .inList operand list _ => by
      rw [Expr.visit, Node.walk_expression, Expr.node, Node.children, operand.visit_eq_walk,
        visitExpressions_eq_walks list, walks_cons]
  | .call _ arguments _ => by
      rw [Expr.visit, Node.walk_expression, Expr.node, Node.children,
        visitExpressions_eq_walks arguments]
  | .cast operand target => by
      rw [Expr.visit, Node.walk_expression, Expr.node, Node.children, operand.visit_eq_walk,
        walks_cons, walks_singleton, Node.walk_dataType]
  | .case subject arms otherwise => by
      rw [Expr.visit, Node.walk_expression, Expr.node, Node.children,
        visitExpression?_eq_walks subject, visitArms_eq_walks arms,
        visitExpression?_eq_walks otherwise, walks_append, walks_append, bind_assoc]
  | .select query => by
      rw [Expr.visit, Node.walk_expression, Expr.node, query.visit_eq_walk, Node.walk_eq]

theorem visitExpression?_eq_walks : (expression : Option Expr) →
    visitExpression? visitor expression = walks visitor (Node.ofExpression? expression)
  | none => rfl
  | some expression => by
      rw [visitExpression?, expression.visit_eq_walk]
      exact (walks_singleton visitor _).symm

theorem visitExpressions_eq_walks : (expressions : List Expr) →
    visitExpressions visitor expressions = walks visitor (Node.ofExpressions expressions)
  | [] => rfl
  | expression :: expressions => by
      rw [visitExpressions, expression.visit_eq_walk, visitExpressions_eq_walks expressions]
      rfl

theorem CaseArm.visit_eq_walks : (arm : CaseArm) →
    arm.visit visitor = walks visitor [.expression arm.condition, .expression arm.result]
  | ⟨condition, result⟩ => by
      rw [CaseArm.visit, condition.visit_eq_walk, result.visit_eq_walk, walks_cons, walks_singleton]

theorem visitArms_eq_walks : (arms : List CaseArm) →
    visitArms visitor arms = walks visitor (Node.ofArms arms)
  | [] => rfl
  | arm :: arms => by
      rw [visitArms, arm.visit_eq_walks, visitArms_eq_walks arms, ← walks_append]
      rfl

/-- A visit of a query is its walk. -/
theorem Select.visit_eq_walk : (query : Select) →
    query.visit visitor = (Node.select query).walk visitor
  | ⟨_, columns, source, filter, groupBy, having, orderBy, limit, offset⟩ => by
      rw [Select.visit, visitColumns_eq_walks columns, visitTable?_eq_walks source,
        visitExpression?_eq_walks filter, visitExpressions_eq_walks groupBy,
        visitExpression?_eq_walks having, visitSortKeys_eq_walks orderBy,
        visitExpression?_eq_walks limit, visitExpression?_eq_walks offset, Node.walk_eq]
      simp only [Node.children, walks_append, bind_assoc]

theorem OutputColumn.visit_eq_walk : (column : OutputColumn) →
    column.visit visitor = (Node.expression column.value).walk visitor
  | ⟨value, _⟩ => by rw [OutputColumn.visit, value.visit_eq_walk]

theorem visitColumns_eq_walks : (columns : List OutputColumn) →
    visitColumns visitor columns = walks visitor (Node.ofColumns columns)
  | [] => rfl
  | column :: columns => by
      rw [visitColumns, column.visit_eq_walk, visitColumns_eq_walks columns]
      rfl

theorem SortKey.visit_eq_walk : (key : SortKey) →
    key.visit visitor = (Node.expression key.key).walk visitor
  | ⟨key, _, _⟩ => by rw [SortKey.visit, key.visit_eq_walk]

theorem visitSortKeys_eq_walks : (keys : List SortKey) →
    visitSortKeys visitor keys = walks visitor (Node.ofSortKeys keys)
  | [] => rfl
  | key :: keys => by
      rw [visitSortKeys, key.visit_eq_walk, visitSortKeys_eq_walks keys]
      rfl

/-- A visit of a table is its walk. -/
theorem TableRef.visit_eq_walk : (table : TableRef) →
    table.visit visitor = (Node.table table).walk visitor
  | .table _ _ => by
      rw [TableRef.visit, Node.walk_eq, Node.children, walks_nil]
  | .subquery query _ => by
      rw [TableRef.visit, Node.walk_eq, Node.children, query.visit_eq_walk, walks_singleton]
  | .join left ⟨kind, right, condition, columns⟩ => by
      rw [TableRef.visit, Node.walk_eq, Node.children, left.visit_eq_walk, JoinClause.visit,
        right.visit_eq_walk, visitExpression?_eq_walks condition, List.cons_append, walks_cons,
        List.cons_append, walks_cons, List.nil_append]

theorem visitTable?_eq_walks : (table : Option TableRef) →
    visitTable? visitor table = walks visitor (Node.ofTable? table)
  | none => rfl
  | some table => by
      rw [visitTable?, table.visit_eq_walk]
      exact (walks_singleton visitor _).symm

end

theorem visitDataType?_eq_walks (type : Option DataType) :
    visitDataType? visitor type = walks visitor (Node.ofDataType? type) := by
  cases type with
  | none => rfl
  | some type => exact ((walks_singleton visitor _).trans (Node.walk_dataType visitor type)).symm

theorem visitRows_eq_walks (cells : List (List Expr)) :
    (cells.forM (visitExpressions visitor) : m Unit)
      = walks visitor (cells.flatMap Node.ofExpressions) := by
  induction cells with
  | nil => rfl
  | cons row rows inductionHypothesis =>
      rw [List.flatMap_cons, walks_append, ← inductionHypothesis, ← visitExpressions_eq_walks]
      rfl

theorem InsertSource.visit_eq_walks (source : InsertSource) :
    source.visit visitor = walks visitor (Node.ofInsertSource source) := by
  cases source with
  | rows cells => exact visitRows_eq_walks visitor cells
  | query body => exact (body.visit_eq_walk visitor).trans (walks_singleton visitor _).symm
  | defaults => rfl

theorem visitAssignments_eq_walks (assignments : List Assignment) :
    (assignments.forM fun assignment => assignment.value.visit visitor)
      = walks visitor (Node.ofAssignments assignments) := by
  induction assignments with
  | nil => rfl
  | cons assignment assignments inductionHypothesis =>
      rw [Node.ofAssignments, List.map_cons, walks_cons, ← Expr.visit_eq_walk]
      exact congrArg _ (funext fun _ => inductionHypothesis)

theorem Insert.visit_eq_walk (body : Insert) :
    body.visit visitor = (Node.insert body).walk visitor := by
  obtain ⟨target, columns, source, returning⟩ := body
  rw [Insert.visit, source.visit_eq_walks, visitColumns_eq_walks, ← walks_append, Node.walk_eq]
  rfl

theorem Update.visit_eq_walk (body : Update) :
    body.visit visitor = (Node.update body).walk visitor := by
  obtain ⟨target, aliasName, assignments, source, filter, returning⟩ := body
  rw [Update.visit, visitAssignments_eq_walks, visitTable?_eq_walks, visitExpression?_eq_walks,
    visitColumns_eq_walks, Node.walk_eq, Node.children]
  simp only [walks_append, bind_assoc]

theorem Delete.visit_eq_walk (body : Delete) :
    body.visit visitor = (Node.delete body).walk visitor := by
  obtain ⟨target, aliasName, filter, returning⟩ := body
  rw [Delete.visit, visitExpression?_eq_walks, visitColumns_eq_walks, ← walks_append, Node.walk_eq]
  rfl

theorem CreateSequence.visit_eq_walk (body : CreateSequence) :
    body.visit visitor = (Node.createSequence body).walk visitor := by
  rw [CreateSequence.visit, visitDataType?_eq_walks, Node.walk_eq]
  rfl

theorem AlterSequence.visit_eq_walk (body : AlterSequence) :
    body.visit visitor = (Node.alterSequence body).walk visitor := by
  obtain ⟨name, ifExists, change⟩ := body
  rw [AlterSequence.visit, visitDataType?_eq_walks, Node.walk_eq]
  cases change <;> rfl

/-- What a statement is, is walked below it. -/
theorem Statement.visit_eq_walk (body : Statement) :
    body.visit visitor = (Node.statement body).walk visitor := by
  rw [Node.walk_eq, Node.children, walks_singleton]
  refine congrArg (visitor (.statement body)) ?_
  cases body with
  | select body => exact body.visit_eq_walk visitor
  | insert body => exact body.visit_eq_walk visitor
  | update body => exact body.visit_eq_walk visitor
  | delete body => exact body.visit_eq_walk visitor
  | createSequence body => exact body.visit_eq_walk visitor
  | alterSequence body => exact body.visit_eq_walk visitor
  | dropSequence body =>
      rw [Statement.node, Node.walk_eq]
      rfl

/-- A traversal walks its roots in turn. -/
theorem Forest.visit_eq_walks (forest : Forest) :
    forest.visit visitor = walks visitor forest.roots := by
  cases forest with
  | statement tree => exact (tree.visit_eq_walk visitor).trans (walks_singleton visitor _).symm
  | expression tree => exact (tree.visit_eq_walk visitor).trans (walks_singleton visitor _).symm
  | statements trees =>
      simp only [Forest.visit, Forest.roots, walks, List.forM_map, ← Statement.visit_eq_walk]
      rfl
  | expressions trees =>
      simp only [Forest.visit, Forest.roots, walks, List.forM_map, ← Expr.visit_eq_walk]
      rfl

end SqlTree
