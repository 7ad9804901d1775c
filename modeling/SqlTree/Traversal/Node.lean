import SqlTree.Form.Encode
import SqlTree.Json.Exact
import SqlTree.Json.Text

/-!
# Nodes

The places of a tree that a traversal meets. A statement and an expression are met twice, first as
such and then as what they are; a query is met wherever it stands.
-/

namespace SqlTree

/-- A place in a tree. -/
inductive Node where
  | statement (body : Statement)
  | select (body : Select)
  | insert (body : Insert)
  | update (body : Update)
  | delete (body : Delete)
  | createSequence (body : CreateSequence)
  | alterSequence (body : AlterSequence)
  | dropSequence (body : DropSequence)
  | table (body : TableRef)
  | expression (body : Expr)
  | reference (qualifier : Option ObjectName) (column : String)
  | literal (value : Literal)
  | parameter (name : String)
  | unary (operator : UnaryOperator) (operand : Expr)
  | binary (left : Expr) (operator : BinaryOperator) (right : Expr)
  | ternary (operator : TernaryOperator) (value low high : Expr)
  | inList (operand : Expr) (list : List Expr) (negated : Bool)
  | call (function : ObjectName) (arguments : List Expr) (distinct : Bool)
  | cast (operand : Expr) (target : DataType)
  | case (subject : Option Expr) (arms : List CaseArm) (otherwise : Option Expr)
  | dataType (type : DataType)

/-- What a node is. -/
inductive NodeKind where
  | statement | select | insert | update | delete
  | createSequence | alterSequence | dropSequence
  | table | expression
  | reference | literal | parameter | unary | binary | ternary | inList | call | cast | case
  | dataType
deriving DecidableEq, Repr

namespace NodeKind

/-- Every kind of node. -/
def all : List NodeKind :=
  [.statement, .select, .insert, .update, .delete, .createSequence, .alterSequence, .dropSequence,
    .table, .expression, .reference, .literal, .parameter, .unary, .binary, .ternary, .inList,
    .call, .cast, .case, .dataType]

/-- The name of a kind. -/
def name : NodeKind → String
  | .statement => "statement"
  | .select => "select"
  | .insert => "insert"
  | .update => "update"
  | .delete => "delete"
  | .createSequence => "create_sequence"
  | .alterSequence => "alter_sequence"
  | .dropSequence => "drop_sequence"
  | .table => "table_ref"
  | .expression => "expr"
  | .reference => "ref"
  | .literal => "literal"
  | .parameter => "parameter"
  | .unary => "unary"
  | .binary => "binary"
  | .ternary => "ternary"
  | .inList => "in_list"
  | .call => "call"
  | .cast => "cast"
  | .case => "case"
  | .dataType => "data_type"

end NodeKind

/-- A reference as it is shown: its table and a point stand before the column. -/
def referenceText (qualifier : Option ObjectName) (column : String) : String :=
  match qualifier with
  | some table => table.text ++ "." ++ column
  | none => column

namespace Node

/-- What a node is. -/
def kind : Node → NodeKind
  | .statement .. => .statement
  | .select .. => .select
  | .insert .. => .insert
  | .update .. => .update
  | .delete .. => .delete
  | .createSequence .. => .createSequence
  | .alterSequence .. => .alterSequence
  | .dropSequence .. => .dropSequence
  | .table .. => .table
  | .expression .. => .expression
  | .reference .. => .reference
  | .literal .. => .literal
  | .parameter .. => .parameter
  | .unary .. => .unary
  | .binary .. => .binary
  | .ternary .. => .ternary
  | .inList .. => .inList
  | .call .. => .call
  | .cast .. => .cast
  | .case .. => .case
  | .dataType .. => .dataType

/-- An alias in a label; a dash stands for none. -/
def aliasLabel (aliasName : Option String) : String := aliasName.getD "-"

/-- The label of a change of a sequence. -/
def changeLabel : SequenceChange → String
  | .options .. => "options"
  | .rename name => "rename " ++ name
  | .owner role => "owner " ++ role
  | .schema target => "schema " ++ target

/-- The label of a table. -/
def tableLabel : TableRef → String
  | .table name aliasName => name.text ++ " " ++ aliasLabel aliasName
  | .subquery _ aliasName => "subquery " ++ aliasName
  | .join _ clause => clause.kind.spelling ++ " (" ++ ",".intercalate clause.columns ++ ")"

/-- A short text that tells a node from its neighbours. -/
def label : Node → String
  | .statement body => body.kind
  | .select body =>
    Nat.repr body.columns.length ++ " ["
      ++ ",".intercalate (body.orderBy.map fun key => key.direction.spelling) ++ "]"
  | .insert body => body.target.text
  | .update body => body.target.text ++ " " ++ aliasLabel body.aliasName
  | .delete body => body.target.text ++ " " ++ aliasLabel body.aliasName
  | .createSequence body => body.name.text
  | .alterSequence body => body.name.name ++ " " ++ changeLabel body.change
  | .dropSequence body => ",".intercalate (body.names.map ObjectName.text)
  | .table body => tableLabel body
  | .expression body => body.kind
  | .reference qualifier column => referenceText qualifier column
  | .literal value => (Json.object [("value", value.form)]).exact.compact
  | .parameter name => name
  | .unary operator _ => operator.spelling
  | .binary _ operator _ => operator.spelling
  | .ternary operator .. => operator.spelling
  | .inList _ list negated => (if negated then "not " else "") ++ Nat.repr list.length
  | .call function arguments distinct =>
    function.text ++ "/" ++ Nat.repr arguments.length ++ (if distinct then " distinct" else "")
  | .cast _ target => target.text
  | .case _ arms _ => Nat.repr arms.length
  | .dataType type => type.text

end Node

end SqlTree
