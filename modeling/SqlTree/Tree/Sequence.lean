import SqlTree.Tree.Name

/-!
# Statements on sequences

Every option of a sequence is optional, and one that has a negative form keeps it apart from being
left out.
-/

namespace SqlTree

/-- The least or the greatest value of a sequence. -/
inductive SequenceBound where
  /-- The negative form, which leaves the bound to the data type. -/
  | unbounded
  | value (bound : Int64)
deriving DecidableEq, Repr

/-- Whether a sequence starts over at its end. -/
inductive Cycling where
  | cycle
  | noCycle
deriving DecidableEq, Repr

/-- A column that a sequence belongs to. -/
structure OwnerColumn where
  schema : Option String
  table : String
  column : String
deriving DecidableEq, Repr

/-- What a sequence belongs to. -/
inductive Ownership where
  | nothing
  | column (owner : OwnerColumn)
deriving DecidableEq, Repr

/-- Where a sequence is set back to. -/
inductive Restart where
  | atStart
  | value (position : Int64)
deriving DecidableEq, Repr

/-- The options that a sequence can be made or changed with. -/
structure SequenceOptions where
  dataType : Option DataType := none
  start : Option Int64 := none
  increment : Option Int64 := none
  minimum : Option SequenceBound := none
  maximum : Option SequenceBound := none
  cache : Option Int64 := none
  cycling : Option Cycling := none
  ownership : Option Ownership := none
deriving DecidableEq, Repr

/-- A statement that makes a sequence. -/
structure CreateSequence where
  name : ObjectName
  temporary : Bool := false
  unlogged : Bool := false
  ifNotExists : Bool := false
  options : SequenceOptions := {}
deriving DecidableEq, Repr

/-- What a statement changes about a sequence. -/
inductive SequenceChange where
  | options (chosen : SequenceOptions) (restart : Option Restart)
  | rename (name : String)
  | owner (role : String)
  | schema (target : String)
deriving DecidableEq, Repr

/-- A statement that changes a sequence. -/
structure AlterSequence where
  name : ObjectName
  ifExists : Bool
  change : SequenceChange
deriving DecidableEq, Repr

/-- What happens to the objects that depend on one that is dropped. -/
inductive DropBehavior where
  | cascade
  | restrict
deriving DecidableEq, Repr

/-- A statement that drops sequences. -/
structure DropSequence where
  names : List ObjectName
  ifExists : Bool
  behavior : Option DropBehavior
deriving DecidableEq, Repr

end SqlTree
