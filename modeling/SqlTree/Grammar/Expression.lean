import SqlTree.Grammar.Name
import SqlTree.Grammar.Precedence
import SqlTree.Tree.Query

/-!
# Grammar of expressions

An expression is an operand and the suffixes behind it that bind tightly enough. The rules that
expressions, queries and tables share are given as a record, so that nesting is counted where the
record is made: the rules here parse everything inside by the record of the next level.
-/

namespace SqlTree.Grammar

open SqlTree.Parser

/-- The rules that nest: an expression whose operators have at least a power, a query, and a table
with its joins. -/
structure Rules where
  expression : (power : Nat) → Parser Expr
  query : Parser Select
  tables : Parser TableRef

/-- What can stand behind an operand. -/
inductive Suffix where
  | unary (operator : UnaryOperator)
  | cast (target : DataType)
  | binary (operator : BinaryOperator) (right : Expr)
  | ternary (operator : TernaryOperator) (low high : Expr)
  | inList (list : List Expr) (negated : Bool)

/-- The expression that an operand and its suffix make. -/
def Suffix.applyTo : Suffix → Expr → Expr
  | .unary operator, operand => .unary operator operand
  | .cast target, operand => .cast operand target
  | .binary operator right, left => .binary left operator right
  | .ternary operator low high, value => .ternary operator value low high
  | .inList list negated, operand => .inList operand list negated

/-- The literal that a token is, if it is one. -/
def literalOf? : TokenKind → Option Literal
  | .integer value => some (.integer value)
  | .numeric value => some (.numeric value)
  | .string value => some (.string value)
  | .keyword .TRUE => some (.boolean true)
  | .keyword .FALSE => some (.boolean false)
  | .keyword .NULL => some .null
  | _ => none

/-- The name of a positional parameter. -/
def parameterName (number : UInt32) : String := "$" ++ Nat.repr number.toNat

/-- Expressions with commas between them. -/
def expressionList (inner : Rules) : Parser (List Expr) := separated (inner.expression 0)

/-- An expression or a query, between parentheses. -/
def parenthesizedExpression (inner : Rules) : Parser Expr :=
  parenthesized do
    if ← atKeyword .SELECT then return .select (← inner.query) else inner.expression 0

/-- The test whether a query has rows, which is a call with the query as its argument. -/
def existsTest (inner : Rules) : Parser Expr := do
  expectKeyword .EXISTS
  let query ← parenthesized inner.query
  return .call (.plain "exists") [.select query] false

/-- The arguments of a call. A star on its own stands for all columns, but not behind `DISTINCT`. -/
def callArguments (inner : Rules) (distinct : Bool) : Parser (List Expr) := do
  if ← atSymbol .rightParen then return []
  if !distinct && (← atSymbol .star) then
    let _ ← advance
    return [.star]
  expressionList inner

/-- A call of a function whose name was read. -/
def functionCall (inner : Rules) (function : ObjectName) : Parser Expr :=
  parenthesized do
    let distinct ← eatKeyword .DISTINCT
    return .call function (← callArguments inner distinct) distinct

/-- Whether a point comes next that has no star behind it. The point is taken. -/
def eatInnerDot : Parser Bool := do
  if (← look 0) = .symbol .dot ∧ (← look 1) ≠ .symbol .star then eatSymbol .dot else return false

/-- An expression that starts with a name: a column, all columns of a table, or a call. -/
def nameExpression (inner : Rules) : Parser Expr := do
  let start ← current
  let first ← expectName
  let parts := first :: (← manyAfter eatInnerDot expectName)
  if ← eatSymbol .dot then
    expectSymbol .star
    return .reference (← nameOfParts parts (start.span.merge (← previousSpan))) "*"
  let span := start.span.merge (← previousSpan)
  if ← atSymbol .leftParen then
    functionCall inner (← nameOfParts parts span)
  else
    match parts with
    | [column] => return .column column
    | _ => return .reference (← nameOfParts parts.dropLast span) (parts.getLastD first)

/-- A cast in the form of a call. -/
def castExpression (inner : Rules) : Parser Expr := do
  expectKeyword .CAST
  parenthesized do
    let operand ← inner.expression 0
    expectKeyword .AS
    return .cast operand (← dataType)

/-- One arm of a case expression, behind its `WHEN`. -/
def caseArm (inner : Rules) : Parser CaseArm := do
  let condition ← inner.expression 0
  expectKeyword .THEN
  return ⟨condition, ← inner.expression 0⟩

/-- A case expression. It has an arm at least. -/
def caseExpression (inner : Rules) : Parser Expr := do
  expectKeyword .CASE
  let subject ← if ← atKeyword .WHEN then pure none else some <$> inner.expression 0
  let arms ← manyAfter (eatKeyword .WHEN) (caseArm inner)
  if arms.isEmpty then unexpected (.keyword .WHEN)
  let otherwise ← optionalAfter .ELSE (inner.expression 0)
  expectKeyword .END
  return .case subject arms otherwise

/-- An expression without operators around it. -/
def primary (inner : Rules) : Parser Expr := do
  let kind ← look 0
  match literalOf? kind with
  | some value =>
    let _ ← advance
    return .literal value
  | none =>
    match kind with
    | .parameter number =>
      let _ ← advance
      return .parameter (parameterName number)
    | .symbol .star =>
      let _ ← advance
      return .star
    | .symbol .leftParen => parenthesizedExpression inner
    | .keyword .CASE => caseExpression inner
    | .keyword .CAST => castExpression inner
    | .keyword .EXISTS =>
      if (← look 1) = .symbol .leftParen then existsTest inner else nameExpression inner
    | kind => if kind.name?.isSome then nameExpression inner else unexpected .expression

/-- An operand with the operators before it. -/
def operand (inner : Rules) : Parser Expr := do
  match leadingOperator? (← look 0) with
  | some (operator, power) =>
    let _ ← advance
    return .unary operator (← inner.expression power)
  | none => primary inner

/-- The test behind an `IS` that was taken. -/
def truthSuffix : Parser Suffix := do
  let negated ← eatKeyword .NOT
  match truthTest? negated (← look 0) with
  | some operator =>
    let _ ← advance
    return .unary operator
  | none => unexpected .truthValue

/-- The list behind an `IN` that was taken: expressions, or one query. -/
def listSuffix (inner : Rules) (negated : Bool) : Parser Suffix :=
  parenthesized do
    if ← atKeyword .SELECT then return .inList [.select (← inner.query)] negated
    else return .inList (← expressionList inner) negated

/-- The bounds behind a `BETWEEN` that was taken. -/
def rangeSuffix (inner : Rules) (power : Nat) (negated : Bool) : Parser Suffix := do
  let low ← inner.expression power
  expectKeyword .AND
  let high ← inner.expression power
  return .ternary (if negated then .notBetween else .between) low high

/-- The suffix that the next tokens start; its right operand has at least the given power. -/
def suffix (inner : Rules) (power : Nat) : Parser Suffix := do
  let first ← advance
  let negated := first.kind = .keyword .NOT
  let token ← if negated then advance else pure first
  match token.kind with
  | .keyword .IS => truthSuffix
  | .symbol .doubleColon => return .cast (← dataType)
  | .keyword .BETWEEN => rangeSuffix inner power negated
  | .keyword .IN => listSuffix inner negated
  | .keyword .LIKE =>
    return .binary (if negated then .notLike else .like) (← inner.expression power)
  | .keyword .ILIKE =>
    return .binary (if negated then .notIlike else .ilike) (← inner.expression power)
  | kind =>
    match binaryOperator? kind with
    | some operator => return .binary operator (← inner.expression power)
    | none => fail (.unexpected .operator kind) token.span

/-- The next suffix, if its operator has at least the given power. -/
def nextSuffix (inner : Rules) (power : Nat) : Parser (Option Suffix) := do
  match suffixPower? (← look 0) (← look 1) with
  | none => return none
  | some found => if power ≤ found then return some (← suffix inner (found + 1)) else return none

/-- An operand and the suffixes behind it whose operators have at least the given power. -/
def operators (inner : Rules) (power : Nat) : Parser Expr := do
  let first ← operand inner
  let suffixes ← collect (nextSuffix inner power)
  return suffixes.foldl (fun left suffix => suffix.applyTo left) first

end SqlTree.Grammar
