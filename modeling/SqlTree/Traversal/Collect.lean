import SqlTree.Traversal.Visit

/-!
# Collectors

Visitors that gather what they look for and otherwise take every walk.
-/

namespace SqlTree

/-- Gathers the references, as they are shown. -/
def collectReferences : Visitor (StateM (List String)) := fun node walk => do
  if let .reference qualifier column := node then
    modify (· ++ [referenceText qualifier column])
  walk

/-- Gathers the data types, as they are written in SQL. -/
def collectTypes : Visitor (StateM (List String)) := fun node walk => do
  if let .dataType type := node then modify (· ++ [type.text])
  walk

/-- Gathers the references of the first query that is met and of nothing below the others. The state
says whether a query was met. -/
def collectTopReferences : Visitor (StateM (Bool × List String)) := fun node walk => do
  let (met, _) ← get
  match node with
  | .select _ =>
    unless met do
      modify fun (_, found) => (true, found)
      walk
  | .reference qualifier column =>
    modify fun (met, found) => (met, found ++ [referenceText qualifier column])
  | _ => walk

/-- Gathers the columns, each with the number of negations around it. The state counts those around
the node that is visited. -/
def collectNegations : Visitor (StateM (Nat × List String)) := fun node walk => do
  match node with
  | .unary .not _ =>
    modify fun (around, found) => (around + 1, found)
    walk
    modify fun (around, found) => (around - 1, found)
  | .reference _ column =>
    modify fun (around, found) => (around, found ++ [column ++ "@" ++ Nat.repr around])
  | _ => walk

/-- The references of a traversal, in the order in which they are met. -/
def referencesOf (visit : StateM (List String) Unit) : List String := (visit []).2

end SqlTree
