import Mathlib.Data.List.Basic
import SqlTree.Proofs.Traversal.Listing
import SqlTree.Proofs.Traversal.Walks

/-!
# Preorder

The preorder listing of a tree has a node before the listings of its children in turn, and the
listing of each kind of tree is of that form. A visitor that records every node and takes every walk
records the preorder listing.
-/

namespace SqlTree

/-- The preorder listing of a tree: a node, and then the listings of its children in turn. -/
def Node.preorder (node : Node) : List Node :=
  node :: node.children.attach.flatMap fun child => child.1.preorder
termination_by node
decreasing_by exact child.2

theorem Node.preorder_eq (node : Node) :
    node.preorder = node :: node.children.flatMap Node.preorder := by
  rw [Node.preorder]
  conv => rhs; rw [← List.attach_map_subtype_val node.children, List.flatMap_map]

/-- The preorder listing of trees in turn. -/
def Forest.preorder (forest : Forest) : List Node := forest.roots.flatMap Node.preorder

section Listings

/-- The nodes of a tree, as they are listed for its kind. -/
def Node.nodes : Node → List Node
  | .statement body => body.nodes
  | .select body => body.nodes
  | .insert body => body.nodes
  | .update body => body.nodes
  | .delete body => body.nodes
  | .createSequence body => .createSequence body :: dataTypeNodes? body.options.dataType
  | .alterSequence body => .alterSequence body :: dataTypeNodes? body.change.dataType?
  | .dropSequence body => [.dropSequence body]
  | .table body => body.nodes
  | .expression body => body.nodes
  | .reference qualifier column => [.reference qualifier column]
  | .literal value => [.literal value]
  | .parameter name => [.parameter name]
  | .unary operator operand => .unary operator operand :: operand.nodes
  | .binary left operator right => .binary left operator right :: (left.nodes ++ right.nodes)
  | .ternary operator value low high =>
    .ternary operator value low high :: (value.nodes ++ low.nodes ++ high.nodes)
  | .inList operand list negated =>
    .inList operand list negated :: (operand.nodes ++ expressionNodes list)
  | .call function arguments distinct =>
    .call function arguments distinct :: expressionNodes arguments
  | .cast operand target => .cast operand target :: (operand.nodes ++ [.dataType target])
  | .case subject arms otherwise =>
    .case subject arms otherwise ::
      (expressionNodes? subject ++ armNodes arms ++ expressionNodes? otherwise)
  | .dataType type => [.dataType type]

theorem expressionNodes?_eq (expression : Option Expr) :
    expressionNodes? expression = (Node.ofExpression? expression).flatMap Node.nodes := by
  cases expression with
  | none => rfl
  | some expression => exact (List.flatMap_singleton _ _).symm

theorem tableNodes?_eq (table : Option TableRef) :
    tableNodes? table = (Node.ofTable? table).flatMap Node.nodes := by
  cases table with
  | none => rfl
  | some table => exact (List.flatMap_singleton _ _).symm

theorem dataTypeNodes?_eq (type : Option DataType) :
    dataTypeNodes? type = (Node.ofDataType? type).flatMap Node.nodes := by
  cases type <;> rfl

theorem expressionNodes_eq (expressions : List Expr) :
    expressionNodes expressions = (Node.ofExpressions expressions).flatMap Node.nodes := by
  induction expressions with
  | nil => rfl
  | cons expression expressions inductionHypothesis =>
      rw [expressionNodes, inductionHypothesis]
      rfl

theorem armNodes_eq (arms : List CaseArm) :
    armNodes arms = (Node.ofArms arms).flatMap Node.nodes := by
  induction arms with
  | nil => rfl
  | cons arm arms inductionHypothesis =>
      obtain ⟨condition, result⟩ := arm
      rw [armNodes, inductionHypothesis, CaseArm.nodes, List.append_assoc]
      rfl

theorem columnNodes_eq (columns : List OutputColumn) :
    columnNodes columns = (Node.ofColumns columns).flatMap Node.nodes := by
  induction columns with
  | nil => rfl
  | cons column columns inductionHypothesis =>
      obtain ⟨value, aliasName⟩ := column
      rw [columnNodes, inductionHypothesis, OutputColumn.nodes]
      rfl

theorem sortKeyNodes_eq (keys : List SortKey) :
    sortKeyNodes keys = (Node.ofSortKeys keys).flatMap Node.nodes := by
  induction keys with
  | nil => rfl
  | cons key keys inductionHypothesis =>
      obtain ⟨value, direction, nulls⟩ := key
      rw [sortKeyNodes, inductionHypothesis, SortKey.nodes]
      rfl

theorem assignmentNodes_eq (assignments : List Assignment) :
    assignments.flatMap (fun assignment => assignment.value.nodes)
      = (Node.ofAssignments assignments).flatMap Node.nodes := by
  rw [Node.ofAssignments, List.flatMap_map]
  rfl

theorem InsertSource.nodes_eq (source : InsertSource) :
    source.nodes = (Node.ofInsertSource source).flatMap Node.nodes := by
  cases source with
  | rows cells =>
      refine Eq.trans ?_ List.flatMap_assoc.symm
      exact List.flatMap_congr fun row _ => expressionNodes_eq row
  | query body => exact (List.flatMap_singleton _ _).symm
  | defaults => rfl

/-- An expression is listed before what it is. -/
theorem Expr.nodes_eq (body : Expr) : body.nodes = .expression body :: body.node.nodes := by
  cases body <;> rfl

/-- A node is listed before the nodes below its children. -/
theorem Node.nodes_eq (node : Node) : node.nodes = node :: node.children.flatMap Node.nodes := by
  cases node with
  | statement body =>
      rw [Node.children, List.flatMap_singleton]
      cases body <;> rfl
  | select body =>
      obtain ⟨distinct, columns, source, filter, groupBy, having, orderBy, limit, offset⟩ := body
      simp only [Node.nodes, Select.nodes, Node.children, List.flatMap_append, columnNodes_eq,
        tableNodes?_eq, expressionNodes?_eq, expressionNodes_eq, sortKeyNodes_eq]
  | insert body =>
      simp only [Node.nodes, Insert.nodes, Node.children, List.flatMap_append,
        InsertSource.nodes_eq, columnNodes_eq]
  | update body =>
      simp only [Node.nodes, Update.nodes, Node.children, List.flatMap_append, assignmentNodes_eq,
        tableNodes?_eq, expressionNodes?_eq, columnNodes_eq]
  | delete body =>
      simp only [Node.nodes, Delete.nodes, Node.children, List.flatMap_append, expressionNodes?_eq,
        columnNodes_eq]
  | createSequence body => rw [Node.nodes, Node.children, dataTypeNodes?_eq]
  | alterSequence body =>
      obtain ⟨name, ifExists, change⟩ := body
      rw [Node.nodes, dataTypeNodes?_eq]
      cases change <;> rfl
  | table body =>
      rcases body with _ | ⟨query, _⟩ | ⟨left, _, right, condition, _⟩
      · rfl
      · rw [Node.children, List.flatMap_singleton]
        rfl
      · rw [Node.children, List.flatMap_append, ← expressionNodes?_eq, List.flatMap_cons,
          List.flatMap_singleton, List.append_assoc]
        rfl
  | expression body =>
      rw [Node.children, List.flatMap_singleton]
      exact body.nodes_eq
  | unary operator operand =>
      rw [Node.children, List.flatMap_singleton]
      rfl
  | binary left operator right =>
      rw [Node.children, List.flatMap_cons, List.flatMap_singleton]
      rfl
  | ternary operator value low high =>
      rw [Node.children, List.flatMap_cons, List.flatMap_cons, List.flatMap_singleton,
        ← List.append_assoc]
      rfl
  | inList operand list negated =>
      rw [Node.nodes, Node.children, expressionNodes_eq]
      rfl
  | call function arguments distinct => rw [Node.nodes, Node.children, expressionNodes_eq]
  | cast operand target => rfl
  | case subject arms otherwise =>
      rw [Node.nodes, Node.children, List.flatMap_append, List.flatMap_append, expressionNodes?_eq,
        armNodes_eq, expressionNodes?_eq]
  | dropSequence | reference | literal | parameter | dataType => rfl

/-- The listing of a tree is its preorder listing. -/
theorem Node.nodes_eq_preorder (node : Node) : node.nodes = node.preorder := by
  have told : Node.PassesUp fun node => node.nodes = node.preorder := by
    intro node below
    rw [Node.nodes_eq, Node.preorder_eq, List.flatMap_congr below]
  exact Node.holds_of_passesUp told node

theorem Forest.preorder_eq_nodes (forest : Forest) :
    forest.preorder = forest.roots.flatMap Node.nodes :=
  List.flatMap_congr fun root _ => root.nodes_eq_preorder.symm

end Listings

section Recording

variable {m : Type → Type} [Monad m]

/-- The visitor that does something at every node and then takes the walk below it. -/
def Visitor.recording (record : Node → m Unit) : Visitor m := fun node walk => do
  record node
  walk

/-- Records every node. -/
def recordNodes : Visitor (StateM (List Node)) :=
  Visitor.recording fun node => modify (· ++ [node])

variable [LawfulMonad m]

/-- Walks that are told by lists are told by the lists in turn. -/
theorem forM_flatMap {α β : Type} {step : α → m Unit} {parts : α → List β} {record : β → m Unit}
    {items : List α} (told : ∀ item ∈ items, step item = forM (parts item) record) :
    forM items step = forM (items.flatMap parts) record := by
  induction items with
  | nil => rfl
  | cons item items inductionHypothesis =>
      obtain ⟨first, others⟩ := List.forall_mem_cons.mp told
      rw [List.forM_cons, List.flatMap_cons, List.forM_append, first, inductionHypothesis others]

theorem Node.walk_recording (record : Node → m Unit) (node : Node) :
    node.walk (Visitor.recording record) = forM node.preorder record := by
  have told : Node.PassesUp fun node =>
      node.walk (Visitor.recording record) = forM node.preorder record := by
    intro node below
    rw [Node.walk_eq, Node.preorder_eq, List.forM_cons, Visitor.recording]
    exact congrArg _ (funext fun _ => forM_flatMap below)
  exact Node.holds_of_passesUp told node

theorem Forest.visit_recording (record : Node → m Unit) (forest : Forest) :
    forest.visit (Visitor.recording record) = forM forest.preorder record := by
  rw [Forest.visit_eq_walks]
  exact forM_flatMap fun node _ => node.walk_recording record

end Recording

/-- Recording nodes in turn puts them behind those that were recorded before. -/
theorem forM_modify_append (nodes recorded : List Node) :
    (forM nodes fun node => modify (· ++ [node]) : StateM (List Node) Unit) recorded
      = ((), recorded ++ nodes) := by
  induction nodes generalizing recorded with
  | nil => rw [List.append_nil]; rfl
  | cons node nodes inductionHypothesis =>
      rw [List.forM_cons]
      refine (inductionHypothesis (recorded ++ [node])).trans ?_
      rw [List.append_assoc, List.singleton_append]

/-- A visitor that records every node and takes every walk records the preorder listing. -/
theorem Forest.visit_recordNodes (forest : Forest) (recorded : List Node) :
    forest.visit recordNodes recorded = ((), recorded ++ forest.preorder) := by
  rw [recordNodes, Forest.visit_recording]
  exact forM_modify_append forest.preorder recorded

end SqlTree
