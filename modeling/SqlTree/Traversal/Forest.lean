import SqlTree.Traversal.Rewrite
import SqlTree.Traversal.Visit

/-!
# Forests

What a traversal can be started on: a statement, an expression, or a list of either. The trees of a
list are taken in turn.
-/

namespace SqlTree

/-- What a traversal is started on. -/
inductive Forest where
  | statement (tree : Statement)
  | expression (tree : Expr)
  | statements (trees : List Statement)
  | expressions (trees : List Expr)

namespace Forest

/-- Visits every tree in turn. -/
def visit {m : Type → Type} [Monad m] (visitor : Visitor m) : Forest → m Unit
  | .statement tree => tree.visit visitor
  | .expression tree => tree.visit visitor
  | .statements trees => trees.forM fun tree => tree.visit visitor
  | .expressions trees => trees.forM fun tree => tree.visit visitor

/-- Rewrites every tree in turn. -/
def rewrite {σ ε : Type} (rewriter : Rewriter σ ε) : Forest → Rewriting σ ε Forest
  | .statement tree => do return .statement (← tree.rewrite rewriter)
  | .expression tree => do return .expression (← tree.rewrite rewriter)
  | .statements trees => do return .statements (← trees.mapM fun tree => tree.rewrite rewriter)
  | .expressions trees => do return .expressions (← trees.mapM fun tree => tree.rewrite rewriter)

end Forest

end SqlTree
