import SqlTree.Proofs.Traversal.Children
import SqlTree.Proofs.Traversal.Preorder

/-!
# What holds throughout a tree

What holds of all nodes of a listing holds of all nodes of its parts.
-/

namespace SqlTree

/-- Something holds of a node if it is a call. -/
def Node.IfCall (property : ObjectName → List Expr → Bool → Prop) : Node → Prop
  | .call function arguments distinct => property function arguments distinct
  | _ => True

/-- Something holds of all calls of a listing. -/
abbrev CallsHold (property : ObjectName → List Expr → Bool → Prop) (nodes : List Node) : Prop :=
  Node.All (Node.IfCall property) nodes

namespace Node.All

variable {holds : Node → Prop} {node : Node} {nodes others : List Node}

@[simp] theorem nil_iff : Node.All holds [] ↔ True := iff_true_intro nil

@[simp] theorem cons_iff :
    Node.All holds (node :: nodes) ↔ holds node ∧ Node.All holds nodes :=
  List.forall_mem_cons

@[simp] theorem append_iff :
    Node.All holds (nodes ++ others) ↔ Node.All holds nodes ∧ Node.All holds others :=
  List.forall_mem_append

@[simp] theorem flatMap_iff {α : Type} {items : List α} {parts : α → List Node} :
    Node.All holds (items.flatMap parts) ↔ ∀ item ∈ items, Node.All holds (parts item) :=
  List.forall_mem_flatMap

@[simp] theorem expressionNodes_iff {list : List Expr} :
    Node.All holds (expressionNodes list) ↔ ∀ body ∈ list, Node.All holds body.nodes := by
  rw [expressionNodes_eq, flatMap_iff, Node.ofExpressions, List.forall_mem_map]
  rfl

@[simp] theorem expressionNodes?_iff {body : Option Expr} :
    Node.All holds (expressionNodes? body) ↔ ∀ present ∈ body, Node.All holds present.nodes := by
  cases body <;> simp [expressionNodes?]

@[simp] theorem armNodes_iff {arms : List CaseArm} :
    Node.All holds (armNodes arms) ↔ ∀ arm ∈ arms, Node.All holds arm.nodes := by
  induction arms with
  | nil => simp [armNodes]
  | cons first arms inductionHypothesis => simp [armNodes, inductionHypothesis]

@[simp] theorem columnNodes_iff {columns : List OutputColumn} :
    Node.All holds (columnNodes columns) ↔ ∀ column ∈ columns, Node.All holds column.nodes := by
  induction columns with
  | nil => simp [columnNodes]
  | cons first columns inductionHypothesis => simp [columnNodes, inductionHypothesis]

@[simp] theorem sortKeyNodes_iff {keys : List SortKey} :
    Node.All holds (sortKeyNodes keys) ↔ ∀ key ∈ keys, Node.All holds key.nodes := by
  induction keys with
  | nil => simp [sortKeyNodes]
  | cons first keys inductionHypothesis => simp [sortKeyNodes, inductionHypothesis]

@[simp] theorem tableNodes?_iff {table : Option TableRef} :
    Node.All holds (tableNodes? table) ↔ ∀ present ∈ table, Node.All holds present.nodes := by
  cases table <;> simp [tableNodes?]

end Node.All

end SqlTree
