import SqlTree.Grammar.Sequence
import SqlTree.Proofs.Tree.Throughout

/-!
# Well-formed trees

What the types of a tree leave open. A name can be empty, a list without an entry, a join without
anything that matches its sides; in a well-formed tree no node is so, however deep it lies.
-/

namespace SqlTree

/-- A name that is not empty, with a schema that is not empty if it has one. -/
structure ObjectName.WellFormed (object : ObjectName) : Prop where
  name : object.name ≠ ""
  schema : ∀ schema ∈ object.schema, schema ≠ ""

/-- The name of a data type is not empty. -/
def DataType.WellFormed (type : DataType) : Prop := type.name ≠ ""

/-- A literal has no sign of its own. -/
def Literal.WellFormed : Literal → Prop
  | .integer value => 0 ≤ value.toInt
  | _ => True

/-- Returned columns have no empty alias. -/
def aliasesWellFormed (columns : List OutputColumn) : Prop :=
  ∀ column ∈ columns, ∀ aliasName ∈ column.aliasName, aliasName ≠ ""

/-- A cross join matches its sides by nothing, and every other join by either a condition or
columns. -/
structure JoinClause.WellFormed (clause : JoinClause) : Prop where
  cross : clause.kind = .cross → clause.condition = none ∧ clause.columns = []
  matched : clause.kind ≠ .cross →
    (clause.condition.isSome = true ∧ clause.columns = []) ∨
      (clause.condition = none ∧ clause.columns ≠ [])
  columns : ∀ column ∈ clause.columns, column ≠ ""

/-- A table and its alias are named, and a join is well formed. -/
def TableRef.WellFormed : TableRef → Prop
  | .table name aliasName => name.WellFormed ∧ ∀ alternative ∈ aliasName, alternative ≠ ""
  | .subquery _ aliasName => aliasName ≠ ""
  | .join _ clause => clause.WellFormed

/-- There is a row at least, and a cell in every row. -/
def InsertSource.WellFormed : InsertSource → Prop
  | .rows cells => cells ≠ [] ∧ ∀ row ∈ cells, row ≠ []
  | _ => True

structure Insert.WellFormed (insert : Insert) : Prop where
  target : insert.target.WellFormed
  columns : ∀ column ∈ insert.columns, column ≠ ""
  source : insert.source.WellFormed
  returning : aliasesWellFormed insert.returning

structure Update.WellFormed (update : Update) : Prop where
  target : update.target.WellFormed
  aliasName : ∀ aliasName ∈ update.aliasName, aliasName ≠ ""
  nonempty : update.assignments ≠ []
  assignments : ∀ assignment ∈ update.assignments, assignment.column ≠ ""
  returning : aliasesWellFormed update.returning

structure Delete.WellFormed (delete : Delete) : Prop where
  target : delete.target.WellFormed
  aliasName : ∀ aliasName ∈ delete.aliasName, aliasName ≠ ""
  returning : aliasesWellFormed delete.returning

/-- The column that a sequence belongs to, its table and its schema are named. -/
def Ownership.WellFormed : Ownership → Prop
  | .nothing => True
  | .column owner =>
    (∀ schema ∈ owner.schema, schema ≠ "") ∧ owner.table ≠ "" ∧ owner.column ≠ ""

/-- The data type of a sequence is named, and so is the column that it belongs to. -/
structure SequenceOptions.WellFormed (options : SequenceOptions) : Prop where
  dataType : ∀ type ∈ options.dataType, type.WellFormed
  ownership : ∀ owner ∈ options.ownership, owner.WellFormed

structure CreateSequence.WellFormed (create : CreateSequence) : Prop where
  name : create.name.WellFormed
  lifetime : ¬ (create.temporary = true ∧ create.unlogged = true)
  ownership : ∀ owner ∈ create.options.ownership, owner.WellFormed

/-- An option is changed at least, and a new name is not empty. -/
def SequenceChange.WellFormed : SequenceChange → Prop
  | .options chosen restart =>
    (chosen ≠ {} ∨ restart ≠ none) ∧ ∀ owner ∈ chosen.ownership, owner.WellFormed
  | .rename name => name ≠ ""
  | .owner role => role ≠ ""
  | .schema target => target ≠ ""

structure AlterSequence.WellFormed (alter : AlterSequence) : Prop where
  name : alter.name.WellFormed
  change : alter.change.WellFormed

structure DropSequence.WellFormed (drop : DropSequence) : Prop where
  nonempty : drop.names ≠ []
  names : ∀ name ∈ drop.names, name.WellFormed

/-- Whether a node is well formed, whatever the nodes below it are. -/
def Node.WellFormed : Node → Prop
  | .select body => body.columns ≠ [] ∧ aliasesWellFormed body.columns
  | .insert body => body.WellFormed
  | .update body => body.WellFormed
  | .delete body => body.WellFormed
  | .createSequence body => body.WellFormed
  | .alterSequence body => body.WellFormed
  | .dropSequence body => body.WellFormed
  | .table body => body.WellFormed
  | .reference qualifier column => (∀ table ∈ qualifier, table.WellFormed) ∧ column ≠ ""
  | .literal value => value.WellFormed
  | .parameter name => ∃ number : UInt32, name = "$" ++ Nat.repr number.toNat
  | .inList _ list _ => list ≠ []
  | .call function _ _ => function.WellFormed
  | .case _ arms _ => arms ≠ []
  | .dataType type => type.WellFormed
  | .statement _ | .expression _ | .unary .. | .binary .. | .ternary .. | .cast .. => True

/-- Every node of a listing is well formed. -/
def AllWellFormed (nodes : List Node) : Prop := ∀ node ∈ nodes, node.WellFormed

@[simp] theorem AllWellFormed.nil : AllWellFormed [] := Node.All.nil

@[simp] theorem AllWellFormed.cons {node : Node} {nodes : List Node} :
    AllWellFormed (node :: nodes) ↔ node.WellFormed ∧ AllWellFormed nodes :=
  Node.All.cons_iff

@[simp] theorem AllWellFormed.append {nodes others : List Node} :
    AllWellFormed (nodes ++ others) ↔ AllWellFormed nodes ∧ AllWellFormed others :=
  Node.All.append_iff

@[simp] theorem AllWellFormed.flatMap {α : Type} {items : List α} {nodes : α → List Node} :
    AllWellFormed (items.flatMap nodes) ↔ ∀ item ∈ items, AllWellFormed (nodes item) :=
  Node.All.flatMap_iff

/-! ## Parts of a tree -/

section Lists

@[simp] theorem allWellFormed_expressionNodes {expressions : List Expr} :
    AllWellFormed (expressionNodes expressions) ↔
      ∀ expression ∈ expressions, AllWellFormed expression.nodes :=
  Node.All.expressionNodes_iff

@[simp] theorem allWellFormed_expressionNodes? {expression : Option Expr} :
    AllWellFormed (expressionNodes? expression) ↔
      ∀ present ∈ expression, AllWellFormed present.nodes :=
  Node.All.expressionNodes?_iff

@[simp] theorem allWellFormed_armNodes {arms : List CaseArm} :
    AllWellFormed (armNodes arms) ↔ ∀ arm ∈ arms, AllWellFormed arm.nodes :=
  Node.All.armNodes_iff

@[simp] theorem allWellFormed_columnNodes {columns : List OutputColumn} :
    AllWellFormed (columnNodes columns) ↔ ∀ column ∈ columns, AllWellFormed column.nodes :=
  Node.All.columnNodes_iff

@[simp] theorem allWellFormed_sortKeyNodes {keys : List SortKey} :
    AllWellFormed (sortKeyNodes keys) ↔ ∀ key ∈ keys, AllWellFormed key.nodes :=
  Node.All.sortKeyNodes_iff

@[simp] theorem allWellFormed_tableNodes? {table : Option TableRef} :
    AllWellFormed (tableNodes? table) ↔ ∀ present ∈ table, AllWellFormed present.nodes :=
  Node.All.tableNodes?_iff

@[simp] theorem allWellFormed_dataTypeNodes? {type : Option DataType} :
    AllWellFormed (dataTypeNodes? type) ↔ ∀ present ∈ type, present.WellFormed := by
  cases type <;> simp [dataTypeNodes?, Node.WellFormed]

end Lists

end SqlTree
