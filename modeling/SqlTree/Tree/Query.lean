import SqlTree.Decimal.Binary64
import SqlTree.Tree.Name
import SqlTree.Tree.Operator

/-!
# Expressions and queries

Expressions, queries and the tables that queries read from. They hold one another: a query is made
of expressions, an expression may be a query, and a table may be one too.
-/

namespace SqlTree

open Decimal

/-- A constant. -/
inductive Literal where
  | integer (value : Int64)
  | numeric (value : Binary64)
  | string (value : String)
  | boolean (value : Bool)
  | null
deriving DecidableEq, Repr

/-- The direction of a sort key. -/
inductive Direction where
  | ascending
  | descending
deriving DecidableEq, Repr

/-- How a direction is written. -/
def Direction.spelling : Direction → String
  | .ascending => "ASC"
  | .descending => "DESC"

/-- Where nulls are sorted. -/
inductive NullPlacement where
  | first
  | last
deriving DecidableEq, Repr

/-- How a placement of nulls is written. -/
def NullPlacement.spelling : NullPlacement → String
  | .first => "NULLS FIRST"
  | .last => "NULLS LAST"

/-- How two tables are joined. -/
inductive JoinKind where
  | inner
  | left
  | right
  | full
  | cross
deriving DecidableEq, Repr

/-- How a kind of join is written. -/
def JoinKind.spelling : JoinKind → String
  | .inner => "INNER JOIN"
  | .left => "LEFT JOIN"
  | .right => "RIGHT JOIN"
  | .full => "FULL JOIN"
  | .cross => "CROSS JOIN"

mutual

/-- An expression. -/
inductive Expr where
  /-- A column, with the table that it is looked up in; the column `*` stands for all. -/
  | reference (table : Option ObjectName) (column : String)
  | literal (value : Literal)
  /-- A positional parameter, named with its dollar sign. -/
  | parameter (name : String)
  | unary (operator : UnaryOperator) (operand : Expr)
  | binary (left : Expr) (operator : BinaryOperator) (right : Expr)
  | ternary (operator : TernaryOperator) (value low high : Expr)
  | inList (operand : Expr) (list : List Expr) (negated : Bool)
  | call (function : ObjectName) (arguments : List Expr) (distinct : Bool)
  | cast (operand : Expr) (target : DataType)
  | case (subject : Option Expr) (arms : List CaseArm) (otherwise : Option Expr)
  | select (query : Select)

/-- One arm of a case expression. -/
structure CaseArm where
  condition : Expr
  result : Expr

/-- A query. -/
structure Select where
  distinct : Bool
  columns : List OutputColumn
  source : Option TableRef
  filter : Option Expr
  groupBy : List Expr
  having : Option Expr
  orderBy : List SortKey
  limit : Option Expr
  offset : Option Expr

/-- A column that a statement returns. -/
structure OutputColumn where
  value : Expr
  aliasName : Option String

/-- An entry of a sort order. -/
structure SortKey where
  key : Expr
  direction : Direction
  nulls : Option NullPlacement

/-- What a statement reads from. -/
inductive TableRef where
  | table (name : ObjectName) (aliasName : Option String)
  | subquery (query : Select) (aliasName : String)
  | join (left : TableRef) (clause : JoinClause)

/-- The right side of a join, and what the two sides are matched by. -/
structure JoinClause where
  kind : JoinKind
  table : TableRef
  condition : Option Expr
  columns : List String

end

namespace Expr

/-- A column that is looked up everywhere. -/
def column (name : String) : Expr := .reference none name

/-- The reference to all columns. -/
def star : Expr := column "*"

/-- The name of an expression's kind. -/
def kind : Expr → String
  | .reference .. => "ref"
  | .literal .. => "literal"
  | .parameter .. => "parameter"
  | .unary .. => "unary"
  | .binary .. => "binary"
  | .ternary .. => "ternary"
  | .inList .. => "in list"
  | .call .. => "call"
  | .cast .. => "cast"
  | .case .. => "case"
  | .select .. => "select"

end Expr

end SqlTree
