import SqlTree.Grammar.Name
import SqlTree.Tree.Sequence

/-!
# Grammar of statements on sequences

The options of a sequence come in any order, each at most once. They are read as a list of clauses,
and the options are what the clauses set.
-/

namespace SqlTree.Grammar

open SqlTree.Parser

/-- One option of a sequence. -/
inductive SequenceClause where
  | dataType (type : DataType)
  | start (value : Int64)
  | increment (value : Int64)
  | minimum (bound : SequenceBound)
  | maximum (bound : SequenceBound)
  | cache (value : Int64)
  | cycling (mode : Cycling)
  | ownership (owner : Ownership)
  | restart (target : Restart)
deriving DecidableEq, Repr

namespace SequenceClause

/-- The name of a clause, which its negative form shares. -/
def name : SequenceClause → String
  | .dataType _ => "AS"
  | .start _ => "START"
  | .increment _ => "INCREMENT"
  | .minimum _ => "MINVALUE"
  | .maximum _ => "MAXVALUE"
  | .cache _ => "CACHE"
  | .cycling _ => "CYCLE"
  | .ownership _ => "OWNED BY"
  | .restart _ => "RESTART"

/-- The options with one clause set. -/
def setIn (options : SequenceOptions) : SequenceClause → SequenceOptions
  | .dataType type => { options with dataType := some type }
  | .start value => { options with start := some value }
  | .increment value => { options with increment := some value }
  | .minimum bound => { options with minimum := some bound }
  | .maximum bound => { options with maximum := some bound }
  | .cache value => { options with cache := some value }
  | .cycling mode => { options with cycling := some mode }
  | .ownership owner => { options with ownership := some owner }
  | .restart _ => options

/-- The restart that a clause asks for. -/
def restart? : SequenceClause → Option Restart
  | .restart target => some target
  | _ => none

end SequenceClause

/-- The options that clauses set. -/
def optionsOf (clauses : List SequenceClause) : SequenceOptions :=
  clauses.foldl SequenceClause.setIn {}

/-- The restart that clauses ask for. -/
def restartOf (clauses : List SequenceClause) : Option Restart :=
  clauses.findSome? SequenceClause.restart?

/-- The digits of the least bigint, which is one below what its magnitude fits in. -/
def leastMagnitude : List Char := "9223372036854775808".toList

/-- An integer with an optional sign. A numeral beyond the range of a bigint is a number token; its
text tells the least bigint from one that is out of range. -/
def signedInteger : Parser Int64 := do
  let negative ← eatSymbol .minus
  unless negative do
    let _ ← eatSymbol .plus
  let cursor ← get
  match cursor.current.kind with
  | .integer value =>
    let _ ← advance
    return if negative then -value else value
  | .numeric _ =>
    if negative && cursor.currentText? == some leastMagnitude then
      let _ ← advance
      return Int64.minValue
    else if cursor.currentText?.any Decimal.isNumeral then
      fail .integerOutOfRange cursor.current.span
    else unexpected .integer
  | _ => unexpected .integer

/-- What a sequence belongs to: `NONE`, or a column with its table. -/
def ownership : Parser Ownership := do
  if (← look 0) = .keyword .NONE ∧ (← look 1) ≠ .symbol .dot then
    let _ ← advance
    return .nothing
  let start ← current
  let first ← expectName
  match first :: (← manyAfter (eatSymbol .dot) expectName) with
  | [table, column] => return .column ⟨none, table, column⟩
  | [schema, table, column] => return .column ⟨some schema, table, column⟩
  | _ => fail .ownerNotAColumn (start.span.merge (← previousSpan))

/-- What stands behind `NO`, which was taken. -/
def negatedClause : Parser SequenceClause := do
  if ← eatKeyword .MINVALUE then return .minimum .unbounded
  if ← eatKeyword .MAXVALUE then return .maximum .unbounded
  if ← eatKeyword .CYCLE then return .cycling .noCycle
  unexpected .negatedOption

/-- The next clause that a sequence can be made with, if one starts here. -/
def sequenceClause : Parser (Option SequenceClause) := do
  if ← eatKeyword .AS then return some (.dataType (← dataType))
  if ← eatKeyword .START then
    let _ ← eatKeyword .WITH
    return some (.start (← signedInteger))
  if ← eatKeyword .INCREMENT then
    let _ ← eatKeyword .BY
    return some (.increment (← signedInteger))
  if ← eatKeyword .MINVALUE then return some (.minimum (.value (← signedInteger)))
  if ← eatKeyword .MAXVALUE then return some (.maximum (.value (← signedInteger)))
  if ← eatKeyword .CACHE then return some (.cache (← signedInteger))
  if ← eatKeyword .CYCLE then return some (.cycling .cycle)
  if ← eatKeyword .NO then return some (← negatedClause)
  if ← eatKeyword .OWNED then
    expectKeyword .BY
    return some (.ownership (← ownership))
  return none

/-- Whether a token starts a number, with or without a sign. -/
def startsSignedNumber : TokenKind → Bool
  | .integer _ | .numeric _ | .symbol .minus | .symbol .plus => true
  | _ => false

/-- The next clause that a sequence can be changed with, if one starts here. -/
def changeClause : Parser (Option SequenceClause) := do
  if ← eatKeyword .RESTART then
    if ← eatKeyword .WITH then return some (.restart (.value (← signedInteger)))
    if startsSignedNumber (← look 0) then return some (.restart (.value (← signedInteger)))
    return some (.restart .atStart)
  sequenceClause

/-- Clauses up to the end of the statement, at most `fuel` of them. Those behind are given, the
last one first, and none may come again. -/
def clausesWithin (clause : Parser (Option SequenceClause)) :
    (fuel : Nat) → (behind : List SequenceClause) → Parser (List SequenceClause)
  | 0, behind => return behind.reverse
  | fuel + 1, behind => do
    let start ← current
    if start.kind.isTerminator then return behind.reverse
    match ← clause with
    | none => unexpected .sequenceOptionOrEnd
    | some found =>
      if behind.any fun other => other.name == found.name then
        fail (.duplicateClause found.name) (start.span.merge (← previousSpan))
      clausesWithin clause fuel (found :: behind)

/-- Clauses in any order up to the end of the statement. -/
def clauses (clause : Parser (Option SequenceClause)) : Parser (List SequenceClause) := do
  clausesWithin clause ((← get).ahead.length + 1) []

/-- How long a sequence lives: whether it is temporary, and whether it is not logged. -/
def persistence : Parser (Bool × Bool) := do
  if ← eatKeyword .TEMP then return (true, false)
  if ← eatKeyword .TEMPORARY then return (true, false)
  if ← eatKeyword .UNLOGGED then return (false, true)
  return (false, false)

/-- A statement that makes a sequence. -/
def createSequence : Parser CreateSequence := do
  expectKeyword .CREATE
  let (temporary, unlogged) ← persistence
  expectKeyword .SEQUENCE
  let ifNotExists ← ifNotExists
  let name ← objectName
  let clauses ← clauses sequenceClause
  return { name, temporary, unlogged, ifNotExists, options := optionsOf clauses }

/-- What a statement changes about a sequence. -/
def sequenceChange : Parser SequenceChange := do
  let cursor ← get
  match cursor.current.kind with
  | .keyword .RENAME =>
    let _ ← advance
    expectKeyword .TO
    return .rename (← expectName)
  | .keyword .OWNER =>
    let _ ← advance
    expectKeyword .TO
    return .owner (← expectName)
  | .keyword .SET =>
    if (← look 1) = .keyword .SCHEMA then
      let _ ← advance
      let _ ← advance
      return .schema (← expectName)
    else fail .unsupportedSequenceSetting (cursor.current.span.merge (cursor.peek 1).span)
  | kind =>
    if kind.isTerminator then unexpected .sequenceOption
    let clauses ← clauses changeClause
    return .options (optionsOf clauses) (restartOf clauses)

/-- A statement that changes a sequence. -/
def alterSequence : Parser AlterSequence := do
  expectKeyword .ALTER
  expectKeyword .SEQUENCE
  let ifExists ← ifExists
  let name ← objectName
  return { name, ifExists, change := ← sequenceChange }

/-- What happens to dependent objects, if it is said. -/
def dropBehavior : Parser (Option DropBehavior) := do
  if ← eatKeyword .CASCADE then return some .cascade
  if ← eatKeyword .RESTRICT then return some .restrict
  return none

/-- A statement that drops sequences. -/
def dropSequence : Parser DropSequence := do
  expectKeyword .DROP
  expectKeyword .SEQUENCE
  let ifExists ← ifExists
  let names ← separated objectName
  return { names, ifExists, behavior := ← dropBehavior }

end SqlTree.Grammar
