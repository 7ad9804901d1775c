import SqlTree.Traversal.Rewrite

/-!
# Edits

Rewriters for common changes of trees.
-/

namespace SqlTree

/-- A name with another in the place of one that is to be replaced; its schema stays. -/
def ObjectName.renamed (source target : String) (object : ObjectName) : ObjectName :=
  if object.name = source then { object with name := target } else object

/-- Renames tables where they are read from and where columns are looked up in them. -/
def renameTables (source target : String) : Rewriter Unit String where
  leaveTable table state :=
    match table with
    | .table name aliasName => (.table (name.renamed source target) aliasName, state)
    | other => (other, state)
  leaveExpression expression state :=
    match expression with
    | .reference (some table) column =>
      (.reference (some (table.renamed source target)) column, state)
    | other => (other, state)

/-- Renames columns where they are referred to, and ends at a forbidden one. -/
def renameColumns (source target : String) (forbidden : Option String) : Rewriter Unit String where
  enter node state :=
    match node with
    | .reference _ column => (if forbidden = some column then .fail column else .descend, state)
    | _ => (.descend, state)
  leaveExpression expression state :=
    match expression with
    | .reference table column =>
      (.reference table (if column = source then target else column), state)
    | other => (other, state)

/-- The negation of a truth value, computed; any other expression as it is. -/
def foldNegation : Expr → Expr
  | .unary .not (.literal (.boolean value)) => .literal (.boolean !value)
  | expression => expression

/-- Computes the negations of truth values, inner ones first. -/
def foldNegations : Rewriter Unit String where
  leaveExpression expression state := (foldNegation expression, state)

/-- Null in the place of a parameter; any other expression as it is. -/
def stripParameter : Expr → Expr
  | .parameter _ => .literal .null
  | expression => expression

/-- Replaces parameters by null. -/
def stripParameters : Rewriter Unit String where
  leaveExpression expression state := (stripParameter expression, state)

/-- Numbers parameters in the order in which they are met. The state counts those met. -/
def renumberParameters : Rewriter Nat String where
  leaveExpression expression count :=
    match expression with
    | .parameter _ => (.parameter ("$" ++ Nat.repr (count + 1)), count + 1)
    | other => (other, count)

/-- Replaces every data type by one without modifiers. -/
def replaceTypes (name : String) : Rewriter Unit String where
  leaveDataType _ state := (⟨name, []⟩, state)

/-- Replaces literals by their ordinals. The state counts those met. -/
def numberLiterals : Rewriter Nat String where
  leaveExpression expression count :=
    match expression with
    | .literal _ => (.literal (.integer (Int64.ofNat (count + 1))), count + 1)
    | other => (other, count)

/-- Swaps the operands of every operator with two. -/
def swapOperands : Rewriter Unit String where
  leaveExpression expression state :=
    match expression with
    | .binary left operator right => (.binary right operator left, state)
    | other => (other, state)

/-- Limits queries to their ordinals, inner ones first. The state counts those met. -/
def limitQueries : Rewriter Nat String where
  leaveSelect query count :=
    ({ query with limit := some (.literal (.integer (Int64.ofNat (count + 1)))) }, count + 1)

/-- Changes nothing. -/
def changeNothing : Rewriter Unit String where

end SqlTree
