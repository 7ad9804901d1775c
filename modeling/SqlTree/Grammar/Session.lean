import SqlTree.Grammar.Statement

/-!
# Sessions

A text is parsed in steps: a statement, all statements, an expression, or the check that nothing is
left. Each step goes on where the one before stopped, also where that one failed.
-/

namespace SqlTree

open SqlTree.Parser

/-- A statement and where it stands, from its first token to its last. -/
structure LocatedStatement where
  statement : Statement
  span : Span

namespace Grammar

/-- Takes semicolons as long as there are any. -/
def skipSemicolons : Parser Unit := do
  let _ ← manyAfter (eatSymbol .semicolon) (pure ())

/-- A statement behind any number of semicolons, and the semicolon that ends it. -/
def locatedStatement : Parser LocatedStatement := do
  skipSemicolons
  let start ← current
  let statement ← statementBody
  endOfStatement
  let span := start.span.merge (← previousSpan)
  let _ ← eatSymbol .semicolon
  return ⟨statement, span⟩

/-- A statement. -/
def statement : Parser Statement := do
  return (← locatedStatement).statement

/-- An expression. -/
def expression : Parser Expr := topRules.expression 0

/-- Checks that only semicolons are left. -/
def finish : Parser Unit := do
  skipSemicolons
  unless (← look 0) = .finish do unexpected .endOfInput

end Grammar

/-- The statements of a stream up to its end or to the first that fails. -/
structure Batch where
  statements : List LocatedStatement
  failure : Option Failure
  cursor : Cursor

namespace Batch

/-- Parses statements, at most `fuel` of them. -/
def parseWithin : (fuel : Nat) → Cursor → Batch
  | 0, cursor => ⟨[], none, cursor⟩
  | fuel + 1, cursor =>
    match Grammar.skipSemicolons cursor with
    | .error failure cursor => ⟨[], some failure, cursor⟩
    | .ok _ cursor =>
      if cursor.current.kind = .finish then ⟨[], none, cursor⟩
      else
        match Grammar.locatedStatement cursor with
        | .error failure cursor => ⟨[], some failure, cursor⟩
        | .ok statement cursor =>
          let batch := parseWithin fuel cursor
          { batch with statements := statement :: batch.statements }

/-- Parses every statement of a stream. Each takes a token at least. -/
def parse (cursor : Cursor) : Batch :=
  parseWithin (cursor.ahead.length + 1) cursor

/-- The statements of a batch, if none failed. -/
def result (batch : Batch) : Except Failure (List Statement) :=
  match batch.failure with
  | some failure => .error failure
  | none => .ok (batch.statements.map LocatedStatement.statement)

end Batch

/-- Every statement of a stream; none is returned where one fails. -/
def Grammar.statements : Parser (List Statement) := fun cursor =>
  let batch := Batch.parse cursor
  match batch.result with
  | .ok statements => .ok statements batch.cursor
  | .error failure => .error failure batch.cursor

/-- The outcome of a parser, without the cursor. -/
def Parser.outcome {α : Type} (parser : Parser α) (cursor : Cursor) : Except Failure α :=
  match parser cursor with
  | .ok value _ => .ok value
  | .error failure _ => .error failure

/-- Every statement of a text. -/
def parseStatements (text : String) : Except Failure (List Statement) :=
  Grammar.statements.outcome (.ofText text)

/-- The one statement of a text. -/
def parseStatement (text : String) : Except Failure Statement :=
  Parser.outcome (do let statement ← Grammar.statement; Grammar.finish; return statement)
    (.ofText text)

/-- The one expression of a text. -/
def parseExpression (text : String) : Except Failure Expr :=
  Parser.outcome (do let expression ← Grammar.expression; Grammar.finish; return expression)
    (.ofText text)

/-- A step of a session. -/
inductive Step where
  | statement
  | statements
  | expression
  | finish
deriving DecidableEq, Repr

/-- What a step answers. -/
inductive Answer where
  | statement (statement : Statement)
  | statements (statements : List Statement)
  | expression (expression : Expr)
  | nothing

/-- The parser of a step. -/
def Step.parser : Step → Parser Answer
  | .statement => Answer.statement <$> Grammar.statement
  | .statements => Answer.statements <$> Grammar.statements
  | .expression => Answer.expression <$> Grammar.expression
  | .finish => (fun _ => Answer.nothing) <$> Grammar.finish

/-- The outcome of a step, and the cursor that it leaves. -/
def Step.run (step : Step) (cursor : Cursor) : Except Failure Answer × Cursor :=
  match step.parser cursor with
  | .ok answer cursor => (.ok answer, cursor)
  | .error failure cursor => (.error failure, cursor)

/-- The outcomes of steps in turn, each with the number of tokens that lie behind the cursor. -/
def runSteps : List Step → Cursor → List (Except Failure Answer × Nat)
  | [], _ => []
  | step :: steps, cursor =>
    let (outcome, cursor) := step.run cursor
    (outcome, cursor.consumed) :: runSteps steps cursor

end SqlTree
