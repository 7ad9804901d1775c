import SqlTree.Grammar.Expression

/-!
# Grammar of queries

The clauses of a query come in a fixed order. Tables in a list are crossed, and joins group to the
left.
-/

namespace SqlTree.Grammar

open SqlTree.Parser

/-- A returned column with its alias. -/
def outputColumn (inner : Rules) : Parser OutputColumn := do
  let value ← inner.expression 0
  return ⟨value, ← optionalAlias⟩

/-- Returned columns with commas between them. -/
def outputColumns (inner : Rules) : Parser (List OutputColumn) := separated (outputColumn inner)

/-- The kind of join that a keyword starts. -/
def joinStart? : TokenKind → Option JoinKind
  | .keyword .JOIN | .keyword .INNER => some .inner
  | .keyword .LEFT => some .left
  | .keyword .RIGHT => some .right
  | .keyword .FULL => some .full
  | .keyword .CROSS => some .cross
  | _ => none

/-- The words of a join behind the first, which was taken. -/
def joinWords (first : TokenKind) (kind : JoinKind) : Parser Unit := do
  if first ≠ .keyword .JOIN then
    if kind = .left ∨ kind = .right ∨ kind = .full then
      let _ ← eatKeyword .OUTER
    expectKeyword .JOIN

/-- A table, a query with an alias, or tables in parentheses, which have none. -/
def tableFactor (inner : Rules) : Parser TableRef := do
  if ← eatSymbol .leftParen then
    if ← atKeyword .SELECT then
      let query ← inner.query
      expectSymbol .rightParen
      match ← optionalAlias with
      | some aliasName => return .subquery query aliasName
      | none => fail .subqueryWithoutAlias (← current).span
    else
      let tables ← inner.tables
      expectSymbol .rightParen
      return tables
  else
    let name ← objectName
    return .table name (← optionalAlias)

/-- What the two sides of a join are matched by: nothing for a cross join, else a condition or
columns. -/
def joinCondition (inner : Rules) (kind : JoinKind) : Parser (Option Expr × List String) := do
  if kind = .cross then return (none, [])
  if ← eatKeyword .ON then return (some (← inner.expression 0), [])
  if ← eatKeyword .USING then return (none, ← parenthesized nameList)
  unexpected .joinCondition

/-- The next join, if one starts here. -/
def nextJoin (inner : Rules) : Parser (Option JoinClause) := do
  match joinStart? (← look 0) with
  | none => return none
  | some kind =>
    let first ← advance
    joinWords first.kind kind
    let table ← tableFactor inner
    let (condition, columns) ← joinCondition inner kind
    return some ⟨kind, table, condition, columns⟩

/-- A table with the joins behind it. -/
def joinedTables (inner : Rules) : Parser TableRef := do
  let first ← tableFactor inner
  let joins ← collect (nextJoin inner)
  return joins.foldl .join first

/-- Tables with commas between them, which are crossed. -/
def tableList (inner : Rules) : Parser TableRef := do
  let first ← joinedTables inner
  let others ← manyAfter (eatSymbol .comma) (joinedTables inner)
  return others.foldl (fun left table => .join left ⟨.cross, table, none, []⟩) first

/-- The placement of nulls in a sort key. -/
def nullPlacement : Parser NullPlacement := do
  if ← eatKeyword .FIRST then return .first
  expectKeyword .LAST
  return .last

/-- The direction of a sort key, which is ascending if nothing is said. -/
def direction : Parser Direction := do
  if ← eatKeyword .DESC then return .descending
  let _ ← eatKeyword .ASC
  return .ascending

/-- An entry of a sort order. -/
def sortKey (inner : Rules) : Parser SortKey := do
  let key ← inner.expression 0
  let direction ← direction
  return ⟨key, direction, ← optionalAfter .NULLS nullPlacement⟩

/-- Items behind a keyword and `BY`, if the keyword is there. -/
def listBy {α : Type} (word : Keyword) (item : Parser α) : Parser (List α) := do
  if ← eatKeyword word then
    expectKeyword .BY
    separated item
  else return []

/-- Whether a query is distinct; `ALL` says that it is not. -/
def distinctness : Parser Bool := do
  if ← eatKeyword .DISTINCT then return true
  let _ ← eatKeyword .ALL
  return false

/-- Refuses the set operations between queries. -/
def noSetOperation : Parser Unit := do
  let token ← current
  match token.kind with
  | .keyword .UNION => fail (.unsupportedSetOperation .UNION) token.span
  | .keyword .INTERSECT => fail (.unsupportedSetOperation .INTERSECT) token.span
  | .keyword .EXCEPT => fail (.unsupportedSetOperation .EXCEPT) token.span
  | _ => return ()

/-- A query. -/
def query (inner : Rules) : Parser Select := do
  expectKeyword .SELECT
  let distinct ← distinctness
  let columns ← outputColumns inner
  let source ← optionalAfter .FROM (tableList inner)
  let filter ← optionalAfter .WHERE (inner.expression 0)
  let groupBy ← listBy .GROUP (inner.expression 0)
  let having ← optionalAfter .HAVING (inner.expression 0)
  let orderBy ← listBy .ORDER (sortKey inner)
  let limit ← optionalAfter .LIMIT (inner.expression 0)
  let offset ← optionalAfter .OFFSET (inner.expression 0)
  noSetOperation
  return { distinct, columns, source, filter, groupBy, having, orderBy, limit, offset }

/-- How deep expressions, queries and tables in parentheses may nest. -/
def maximalNesting : Nat := 128

/-- The rules for a text that may nest so many levels deeper. -/
def rules : (levels : Nat) → Rules
  | 0 =>
    { expression := fun _ => tooDeep, query := tooDeep, tables := tooDeep }
  | levels + 1 =>
    let inner := rules levels
    { expression := operators inner, query := query inner, tables := joinedTables inner }
where
  /-- Fails at the current token, where no level is left. -/
  tooDeep {α : Type} : Parser α := do fail .nestedTooDeeply (← current).span

/-- The rules at the start of a statement or an expression. -/
def topRules : Rules := rules maximalNesting

end SqlTree.Grammar
