import SqlTree.Form.Encode

/-!
# Reading the JSON form of trees

Members may come in any order and those without a meaning are passed over. A part that can be
absent may be left out; where it is one value that is there or not, it may also be null.
-/

namespace SqlTree

open Json Decimal

/-- A reader of forms. -/
abbrev Decoder (α : Type) := Json → Option α

namespace Decoder

/-- Reads a string. -/
def string : Decoder String
  | .string value => some value
  | _ => none

/-- Reads a truth value. -/
def bool : Decoder Bool
  | .bool value => some value
  | _ => none

/-- Reads an integer in the range of a bigint. -/
def bigint : Decoder Int64
  | .integer value =>
    if -0x8000000000000000 ≤ value ∧ value < 0x8000000000000000 then some (Int64.ofInt value)
    else none
  | _ => none

/-- Reads an array, item by item. -/
def list {α : Type} (item : Decoder α) : Decoder (List α)
  | .array items => items.mapM item
  | _ => none

/-- Reads an object as it is. -/
def members : Decoder Json
  | .object members => some (.object members)
  | _ => none

/-- Reads a member that has to be there. -/
def required {α : Type} (name : String) (decoder : Decoder α) (object : Json) : Option α :=
  (object.find? name).bind decoder

/-- Reads a member that may be left out but is not null. -/
def defaulted {α : Type} (name : String) (default : α) (decoder : Decoder α) (object : Json) :
    Option α :=
  match object.find? name with
  | none => some default
  | some value => decoder value

/-- Reads a member that may be left out or null. -/
def nullable {α : Type} (name : String) (decoder : Decoder α) (object : Json) :
    Option (Option α) :=
  match object.find? name with
  | none | some .null => some none
  | some value => (decoder value).map some

/-- Reads a member that may be left out but is not null, and is there or not. -/
def present {α : Type} (name : String) (decoder : Decoder α) (object : Json) :
    Option (Option α) :=
  defaulted name none (fun value => (decoder value).map some) object

/-- Reads one of a closed set of spellings. -/
def spelled {α : Type} (values : List α) (spelling : α → String) : Decoder α
  | .string word => values.find? fun value => spelling value == word
  | _ => none

/-- Reads a name. -/
def objectName : Decoder ObjectName := fun form => do
  let object ← members form
  return { name := ← required "name" string object, schema := ← nullable "schema" string object }

/-- Reads a data type. -/
def dataType : Decoder DataType := fun form => do
  let object ← members form
  return {
    name := ← required "type" string object
    modifiers := ← defaulted "config" [] (list bigint) object }

/-- Reads a constant. An integer beyond the range of a bigint is a number. -/
def literal : Decoder Literal
  | .integer value =>
    match bigint (.integer value) with
    | some value => some (.integer value)
    | none => some (.numeric (Binary64.ofInt value))
  | .number value => some (.numeric value)
  | .string value => some (.string value)
  | .bool value => some (.boolean value)
  | .null => some .null
  | _ => none

end Decoder

open Decoder

/-- The readers of the nodes that nest. -/
structure NodeDecoders where
  expression : Decoder Expr
  query : Decoder Select
  table : Decoder TableRef

namespace NodeDecoders

/-- Reads an arm of a case expression. -/
def caseArm (inner : NodeDecoders) : Decoder CaseArm := fun form => do
  let object ← members form
  return {
    condition := ← required "when" inner.expression object
    result := ← required "value" inner.expression object }

/-- Reads the members of an expression of a given kind. -/
def expressionOf (inner : NodeDecoders) (object : Json) (kind : String) : Option Expr := do
  match kind with
  | "ref" =>
    return .reference (← nullable "table" objectName object) (← required "name" string object)
  | "literal" => return .literal (← required "value" literal object)
  | "parameter" => return .parameter (← required "name" string object)
  | "unary" =>
    return .unary (← required "op" (spelled UnaryOperator.all UnaryOperator.spelling) object)
      (← required "operand" inner.expression object)
  | "binary" =>
    return .binary (← required "left" inner.expression object)
      (← required "op" (spelled BinaryOperator.all BinaryOperator.spelling) object)
      (← required "right" inner.expression object)
  | "ternary" =>
    return .ternary (← required "op" (spelled TernaryOperator.all TernaryOperator.spelling) object)
      (← required "value" inner.expression object)
      (← required "lo" inner.expression object)
      (← required "hi" inner.expression object)
  | "in list" =>
    return .inList (← required "operand" inner.expression object)
      (← required "list" (list inner.expression) object)
      (← defaulted "negated" false bool object)
  | "call" =>
    return .call (← required "function" objectName object)
      (← required "args" (list inner.expression) object)
      (← defaulted "distinct" false bool object)
  | "cast" =>
    return .cast (← required "operand" inner.expression object)
      (← required "to" dataType object)
  | "case" =>
    return .case (← nullable "value" inner.expression object)
      (← required "whens" (list inner.caseArm) object)
      (← nullable "else" inner.expression object)
  | "select" => return .select (← inner.query object)
  | _ => none

/-- Reads an expression. -/
def expressionForm (inner : NodeDecoders) : Decoder Expr := fun form => do
  let object ← members form
  inner.expressionOf object (← required "type" string object)

/-- Reads a returned column. -/
def outputColumn (inner : NodeDecoders) : Decoder OutputColumn := fun form => do
  let object ← members form
  return {
    value := ← required "expr" inner.expression object
    aliasName := ← nullable "alias" string object }

/-- Reads a sort key. -/
def sortKey (inner : NodeDecoders) : Decoder SortKey := fun form => do
  let object ← members form
  return {
    key := ← required "by" inner.expression object
    direction := ← defaulted "order" .ascending
      (spelled [.ascending, .descending] Direction.spelling) object
    nulls := ← nullable "nulls" (spelled [.first, .last] NullPlacement.spelling) object }

/-- Reads a query. -/
def queryForm (inner : NodeDecoders) : Decoder Select := fun form => do
  let object ← members form
  return {
    distinct := ← defaulted "distinct" false bool object
    columns := ← required "columns" (list inner.outputColumn) object
    source := ← nullable "from" inner.table object
    filter := ← nullable "where" inner.expression object
    groupBy := ← defaulted "groupBy" [] (list inner.expression) object
    having := ← nullable "having" inner.expression object
    orderBy := ← defaulted "orderBy" [] (list inner.sortKey) object
    limit := ← nullable "limit" inner.expression object
    offset := ← nullable "offset" inner.expression object }

/-- Reads the right side of a join. -/
def joinClause (inner : NodeDecoders) : Decoder JoinClause := fun form => do
  let object ← members form
  return {
    kind := ← required "joinType"
      (spelled [.inner, .left, .right, .full, .cross] JoinKind.spelling) object
    table := ← required "table" inner.table object
    condition := ← nullable "on" inner.expression object
    columns := ← defaulted "using" [] (list string) object }

/-- Reads a table. -/
def tableForm (inner : NodeDecoders) : Decoder TableRef := fun form => do
  let object ← members form
  match ← required "type" string object with
  | "table" =>
    return .table (← required "table" objectName object) (← nullable "alias" string object)
  | "subquery" =>
    return .subquery (← required "query" inner.query object) (← required "alias" string object)
  | "join" =>
    return .join (← required "left" inner.table object)
      (← required "join" inner.joinClause object)
  | _ => none

/-- The readers for forms that may nest so many levels deeper. -/
def ofLevels : (levels : Nat) → NodeDecoders
  | 0 => { expression := fun _ => none, query := fun _ => none, table := fun _ => none }
  | levels + 1 =>
    let inner := ofLevels levels
    { expression := inner.expressionForm, query := inner.queryForm, table := inner.tableForm }

/-- Reads the source of an insertion. -/
def insertSource (inner : NodeDecoders) : Decoder InsertSource
  | .string "defaultValues" => some .defaults
  | .object [("defaultValues", .null)] | .object [("defaultValues", .object [])] => some .defaults
  | .object [("values", rows)] => (list (list inner.expression) rows).map .rows
  | .object [("query", query)] => (inner.query query).map .query
  | _ => none

/-- Reads the members of an insertion. -/
def insert (inner : NodeDecoders) : Decoder Insert := fun object => do
  return {
    target := ← required "into" objectName object
    columns := ← defaulted "columns" [] (list string) object
    source := ← required "values" inner.insertSource object
    returning := ← defaulted "returning" [] (list inner.outputColumn) object }

/-- Reads an assignment. -/
def assignment (inner : NodeDecoders) : Decoder Assignment := fun form => do
  let object ← members form
  return {
    column := ← required "column" string object
    value := ← required "value" inner.expression object }

/-- Reads the members of an update. -/
def update (inner : NodeDecoders) : Decoder Update := fun object => do
  return {
    target := ← required "table" objectName object
    aliasName := ← nullable "alias" string object
    assignments := ← required "sets" (list inner.assignment) object
    source := ← nullable "from" inner.table object
    filter := ← nullable "where" inner.expression object
    returning := ← defaulted "returning" [] (list inner.outputColumn) object }

/-- Reads the members of a deletion. -/
def delete (inner : NodeDecoders) : Decoder Delete := fun object => do
  return {
    target := ← required "from" objectName object
    aliasName := ← nullable "alias" string object
    filter := ← nullable "where" inner.expression object
    returning := ← defaulted "returning" [] (list inner.outputColumn) object }

end NodeDecoders

namespace Decoder

/-- Reads a bound of a sequence, which has a word of its own if it is left open. -/
def sequenceBound (openWord : String) : Decoder SequenceBound := fun form =>
  if string form = some openWord then some .unbounded else (bigint form).map .value

/-- Reads what a sequence belongs to. -/
def ownership : Decoder Ownership
  | .string "none" => some .nothing
  | .object members => do
    let object := Json.object members
    return .column {
      schema := ← nullable "schema" string object
      table := ← required "table" string object
      column := ← required "column" string object }
  | _ => none

/-- Reads where a sequence is set back to. -/
def restart : Decoder Restart
  | .bool true => some .atStart
  | form => (bigint form).map .value

/-- Reads the options of a sequence. -/
def sequenceOptions : Decoder SequenceOptions := fun object => do
  return {
    dataType := ← nullable "as" dataType object
    start := ← nullable "startWith" bigint object
    increment := ← nullable "incrementBy" bigint object
    minimum := ← present "minValue" (sequenceBound "no minvalue") object
    maximum := ← present "maxValue" (sequenceBound "no maxvalue") object
    cache := ← nullable "cache" bigint object
    cycling := ← present "cycle" (spelled [.cycle, .noCycle] Cycling.spelling) object
    ownership := ← present "ownedBy" ownership object }

/-- Reads the name of a sequence. -/
def sequenceName : Decoder ObjectName := fun object => do
  return { name := ← required "name" string object, schema := ← nullable "schema" string object }

/-- Reads the members of a statement that makes a sequence. -/
def createSequence : Decoder CreateSequence := fun object => do
  return {
    name := ← sequenceName object
    temporary := ← defaulted "temp" false bool object
    unlogged := ← defaulted "unlogged" false bool object
    ifNotExists := ← defaulted "ifNotExists" false bool object
    options := ← sequenceOptions object }

/-- Reads a change of a sequence. -/
def sequenceChange : Decoder SequenceChange := fun form => do
  let object ← members form
  match ← required "type" string object with
  | "set options" =>
    return .options (← sequenceOptions object) (← nullable "restart" restart object)
  | "rename" => return .rename (← required "newName" string object)
  | "owner to" => return .owner (← required "owner" string object)
  | "set schema" => return .schema (← required "newSchema" string object)
  | _ => none

/-- Reads the members of a statement that changes a sequence. -/
def alterSequence : Decoder AlterSequence := fun object => do
  return {
    name := ← sequenceName object
    ifExists := ← defaulted "ifExists" false bool object
    change := ← required "change" sequenceChange object }

/-- Reads the members of a statement that drops sequences. -/
def dropSequence : Decoder DropSequence := fun object => do
  return {
    names := ← required "names" (list objectName) object
    ifExists := ← defaulted "ifExists" false bool object
    behavior := ← nullable "cascade" (spelled [.cascade, .restrict] DropBehavior.spelling) object }

/-- Reads a statement whose nodes may nest so many levels deep. -/
def statementWithin (levels : Nat) : Decoder Statement := fun form => do
  let object ← members form
  let inner := NodeDecoders.ofLevels levels
  match ← required "type" string object with
  | "select" => return .select (← inner.query object)
  | "insert" => return .insert (← inner.insert object)
  | "update" => return .update (← inner.update object)
  | "delete" => return .delete (← inner.delete object)
  | "create sequence" => return .createSequence (← createSequence object)
  | "alter sequence" => return .alterSequence (← alterSequence object)
  | "drop sequence" => return .dropSequence (← dropSequence object)
  | _ => none

end Decoder

/-- The statement that a form is of. -/
def Statement.ofForm? (form : Json) : Option Statement :=
  Decoder.statementWithin (2 * form.depth + 2) form

/-- The expression that a form is of. -/
def Expr.ofForm? (form : Json) : Option Expr :=
  (NodeDecoders.ofLevels (2 * form.depth + 2)).expression form

end SqlTree
