import SqlTree.Proofs.Grammar.Independence
import SqlTree.Proofs.Grammar.ToldStatements
import SqlTree.Proofs.Traversal.Preorder

/-!
# Leaves in source order

A traversal of what a step answers meets the column references, the literals and the parameters in
the order in which they were written, each at the token that spells it. None is lost between the text
and the traversal: every token that the step took is a leaf at its turn, or is accounted for as
something else.
-/

namespace SqlTree

open SqlTree.Parser

section Placed

variable {roles : List Role} {start : Nat} {node : Node} {place : Nat}

end Placed

section Visits

/-- The trees that a step answers. -/
def Answer.forest : Answer → Forest
  | .statement body => .statement body
  | .statements bodies => .statements bodies
  | .expression body => .expression body
  | .nothing => .statements []

/-- Records column references, literals and parameters, and takes every walk. -/
def recordLeaves : Visitor (StateM (List Node)) :=
  Visitor.recording fun node => if node.isLeaf then modify (· ++ [node]) else pure ()

theorem forM_recordLeaf (nodes recorded : List Node) :
    (forM nodes fun node => if node.isLeaf then modify (· ++ [node]) else pure () :
      StateM (List Node) Unit) recorded = ((), recorded ++ leavesAmong nodes) := by
  induction nodes generalizing recorded with
  | nil => rw [leavesAmong_nil, List.append_nil]; rfl
  | cons node nodes inductionHypothesis =>
      rw [List.forM_cons, leavesAmong_cons]
      cases node.isLeaf with
      | true =>
          refine (inductionHypothesis (recorded ++ [node])).trans ?_
          rw [if_pos rfl, List.append_assoc, List.singleton_append]
      | false => exact inductionHypothesis recorded

/-- A visit records the leaves of the preorder listing. -/
theorem Forest.visit_recordLeaves (forest : Forest) (recorded : List Node) :
    forest.visit recordLeaves recorded = ((), recorded ++ leavesAmong forest.preorder) := by
  rw [recordLeaves, Forest.visit_recording]
  exact forM_recordLeaf forest.preorder recorded

/-- The leaves among the parts of what a step answers are those that a visit of it records. -/
theorem Answer.leavesOf_told {answer : Answer} {told : List Role} (tells : answer.Tells told) :
    leavesOf told = (answer.forest.visit recordLeaves []).2 := by
  rw [Forest.visit_recordLeaves, List.nil_append, Forest.preorder]
  cases answer with
  | statement body =>
      rw [Statement.leavesOf_told tells, Answer.forest, Forest.roots, List.flatMap_singleton,
        ← Node.nodes_eq_preorder, Node.nodes]
  | statements bodies =>
      rw [leavesOf_statementsTell tells, Answer.forest, Forest.roots, List.flatMap_map]
      congr 1
      apply List.flatMap_congr
      intro body _
      rw [← Node.nodes_eq_preorder, Node.nodes]
  | expression body =>
      obtain rfl : told = body.roles := tells
      rw [Expr.leavesOf_roles, Answer.forest, Forest.roots, List.flatMap_singleton,
        ← Node.nodes_eq_preorder, Node.nodes]
  | nothing =>
      obtain rfl : told = [] := tells
      rfl

end Visits

end SqlTree
