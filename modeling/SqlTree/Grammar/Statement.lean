import SqlTree.Grammar.Query
import SqlTree.Grammar.Sequence
import SqlTree.Text.Uppercase
import SqlTree.Tree.Statement

/-!
# Grammar of statements
-/

namespace SqlTree.Grammar

open SqlTree.Parser

/-- The returned columns of a statement that changes rows, if there are any. -/
def returning : Parser (List OutputColumn) := do
  return (← optionalAfter .RETURNING (outputColumns topRules)).getD []

/-- The filter of a statement that changes rows, if there is one. -/
def rowFilter : Parser (Option Expr) := optionalAfter .WHERE (topRules.expression 0)

/-- The names of the columns that an insertion fills, if they are given. -/
def targetColumns : Parser (List String) := do
  if ← eatSymbol .leftParen then
    let columns ← nameList
    expectSymbol .rightParen
    return columns
  else return []

/-- Where the rows of an insertion come from. -/
def insertSource : Parser InsertSource := do
  if ← eatKeyword .VALUES then
    return .rows (← separated (parenthesized (expressionList topRules)))
  if ← atKeyword .SELECT then return .query (← topRules.query)
  if ← eatKeyword .DEFAULT then
    expectKeyword .VALUES
    return .defaults
  unexpected .insertSource

/-- A statement that inserts rows. -/
def insert : Parser Insert := do
  expectKeyword .INSERT
  expectKeyword .INTO
  let target ← objectName
  let columns ← targetColumns
  let source ← insertSource
  return { target, columns, source, returning := ← returning }

/-- A column and its new value. -/
def assignment : Parser Assignment := do
  let column ← expectName
  expectSymbol .equal
  return ⟨column, ← topRules.expression 0⟩

/-- A statement that changes rows. -/
def update : Parser Update := do
  expectKeyword .UPDATE
  let target ← objectName
  let aliasName ← optionalAlias
  expectKeyword .SET
  let assignments ← separated assignment
  let source ← optionalAfter .FROM (tableList topRules)
  let filter ← rowFilter
  return { target, aliasName, assignments, source, filter, returning := ← returning }

/-- A statement that deletes rows. -/
def delete : Parser Delete := do
  expectKeyword .DELETE
  expectKeyword .FROM
  let target ← objectName
  let aliasName ← optionalAlias
  let filter ← rowFilter
  return { target, aliasName, filter, returning := ← returning }

/-- Whether a keyword says how long an object lives. -/
def isPersistence : TokenKind → Bool
  | .keyword .TEMP | .keyword .TEMPORARY | .keyword .UNLOGGED => true
  | _ => false

/-- Whether a `CREATE` is followed by what it takes to make a sequence. -/
def startsSequence (second third : TokenKind) : Bool :=
  second = .keyword .SEQUENCE || (isPersistence second && third = .keyword .SEQUENCE)

/-- The word that a keyword or a name shows in a message, in upper case. -/
def upperWord? : TokenKind → Option String
  | .keyword word => some word.spelling
  | .identifier name => some (String.ofList (Text.upper name.toList))
  | _ => none

/-- The words that name the kind of object behind a verb, with their tokens' spans: one word, or
two where the first says how long the object lives. -/
def objectWords (second third : Token) : List (String × Span) :=
  match upperWord? second.kind with
  | none => []
  | some word =>
    if isPersistence second.kind then
      match upperWord? third.kind with
      | none => [(word, second.span)]
      | some object => [(word, second.span), (object, third.span)]
    else [(word, second.span)]

/-- Refuses a statement that is not modelled, by the verb at its start and the object behind it. -/
def unsupportedStatement {α : Type} (verb : Keyword) (takesObject : Bool) : Parser α := do
  let cursor ← get
  let objects := if takesObject then objectWords (cursor.peek 1) (cursor.peek 2) else []
  fail (.unsupportedStatement (verb.spelling :: objects.map Prod.fst))
    (objects.foldl (fun span object => span.merge object.2) cursor.current.span)

/-- A statement without its end, told by its first words. -/
def statementBody : Parser Statement := do
  match ← look 0 with
  | .keyword .SELECT => return .select (← topRules.query)
  | .keyword .INSERT => return .insert (← insert)
  | .keyword .UPDATE => return .update (← update)
  | .keyword .DELETE => return .delete (← delete)
  | .keyword .CREATE =>
    if startsSequence (← look 1) (← look 2) then return .createSequence (← createSequence)
    else unsupportedStatement .CREATE true
  | .keyword .ALTER =>
    if (← look 1) = .keyword .SEQUENCE then return .alterSequence (← alterSequence)
    else unsupportedStatement .ALTER true
  | .keyword .DROP =>
    if (← look 1) = .keyword .SEQUENCE then return .dropSequence (← dropSequence)
    else unsupportedStatement .DROP true
  | .keyword .TRUNCATE => unsupportedStatement .TRUNCATE false
  | .keyword .WITH => unsupportedStatement .WITH false
  | _ => unexpected .statement

/-- Checks that a statement ends here. -/
def endOfStatement : Parser Unit := do
  unless (← look 0).isTerminator do unexpected .endOfStatement

end SqlTree.Grammar
