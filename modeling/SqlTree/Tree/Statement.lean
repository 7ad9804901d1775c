import SqlTree.Tree.Query
import SqlTree.Tree.Sequence

/-!
# Statements
-/

namespace SqlTree

/-- Where the rows of an insertion come from. -/
inductive InsertSource where
  | rows (cells : List (List Expr))
  | query (body : Select)
  | defaults

/-- A statement that inserts rows. -/
structure Insert where
  target : ObjectName
  columns : List String
  source : InsertSource
  returning : List OutputColumn

/-- A column and its new value. -/
structure Assignment where
  column : String
  value : Expr

/-- A statement that changes rows. -/
structure Update where
  target : ObjectName
  aliasName : Option String
  assignments : List Assignment
  source : Option TableRef
  filter : Option Expr
  returning : List OutputColumn

/-- A statement that deletes rows. -/
structure Delete where
  target : ObjectName
  aliasName : Option String
  filter : Option Expr
  returning : List OutputColumn

/-- A statement. -/
inductive Statement where
  | select (body : Select)
  | insert (body : Insert)
  | update (body : Update)
  | delete (body : Delete)
  | createSequence (body : CreateSequence)
  | alterSequence (body : AlterSequence)
  | dropSequence (body : DropSequence)

/-- The name of a statement's kind. -/
def Statement.kind : Statement → String
  | .select .. => "select"
  | .insert .. => "insert"
  | .update .. => "update"
  | .delete .. => "delete"
  | .createSequence .. => "create sequence"
  | .alterSequence .. => "alter sequence"
  | .dropSequence .. => "drop sequence"

end SqlTree
