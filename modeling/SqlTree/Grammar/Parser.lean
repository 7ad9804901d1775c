import SqlTree.Grammar.Cursor
import SqlTree.Grammar.Failure

/-!
# Parsers

A parser moves a cursor and makes a value, or fails. A failure leaves the cursor where it was
reached: what was read before it stays read.
-/

namespace SqlTree

/-- A parser of values. -/
abbrev Parser := EStateM Failure Cursor

namespace Parser

/-- The token at the position. -/
def current : Parser Token := fun cursor => .ok cursor.current cursor

/-- What stands a number of places ahead. -/
def look (places : Nat) : Parser TokenKind := fun cursor => .ok (cursor.peek places).kind cursor

/-- Takes the token at the position. -/
def advance : Parser Token := fun cursor => .ok cursor.current cursor.advance

/-- The span of the last token taken. -/
def previousSpan : Parser Span := fun cursor => .ok cursor.previousSpan cursor

/-- Fails with a cause that lies at a span. -/
def fail {α : Type} (cause : Cause) (span : Span) : Parser α := throw ⟨cause, span⟩

/-- Fails at the current token, which is not the one expected. -/
def unexpected {α : Type} (expected : Expectation) : Parser α := fun cursor =>
  .error ⟨.unexpected expected cursor.current.kind, cursor.current.span⟩ cursor

/-- Takes the current token if it is of a given kind, and says whether it was. -/
def eat (kind : TokenKind) : Parser Bool := fun cursor =>
  if cursor.current.kind = kind then .ok true cursor.advance else .ok false cursor

/-- Takes the current token if it is a given symbol. -/
def eatSymbol (mark : Symbol) : Parser Bool := eat (.symbol mark)

/-- Takes the current token if it is a given keyword. -/
def eatKeyword (word : Keyword) : Parser Bool := eat (.keyword word)

/-- Takes the current token if it is a given name. -/
def eatName (name : String) : Parser Bool := eat (.identifier name)

/-- Whether the current token is a given symbol. -/
def atSymbol (mark : Symbol) : Parser Bool := return (← look 0) = .symbol mark

/-- Whether the current token is a given keyword. -/
def atKeyword (word : Keyword) : Parser Bool := return (← look 0) = .keyword word

/-- Takes a symbol that has to come next. -/
def expectSymbol (mark : Symbol) : Parser Unit := do
  unless ← eatSymbol mark do unexpected (.symbol mark)

/-- Takes a keyword that has to come next. -/
def expectKeyword (word : Keyword) : Parser Unit := do
  unless ← eatKeyword word do unexpected (.keyword word)

/-- Takes a name that has to come next. -/
def expectName : Parser String := fun cursor =>
  match cursor.current.kind.name? with
  | some name => .ok name cursor.advance
  | none => unexpected .identifier cursor

/-- Makes values as long as there is one, at most `fuel` of them. -/
def collectWithin {α : Type} (item : Parser (Option α)) : (fuel : Nat) → Parser (List α)
  | 0 => return []
  | fuel + 1 => do
    match ← item with
    | none => return []
    | some value => return value :: (← collectWithin item fuel)

/-- Makes values as long as there is one. Each takes a token at least, so that the tokens ahead
bound their number. -/
def collect {α : Type} (item : Parser (Option α)) : Parser (List α) := do
  collectWithin item ((← get).ahead.length + 1)

/-- Parses an item behind each turn of a guard. -/
def manyAfter {α : Type} (guard : Parser Bool) (item : Parser α) : Parser (List α) :=
  collect do
    if ← guard then return some (← item) else return none

/-- Parses items with commas between them, at least one. -/
def separated {α : Type} (item : Parser α) : Parser (List α) := do
  let first ← item
  return first :: (← manyAfter (eatSymbol .comma) item)

/-- Parses an item behind a keyword, if the keyword is there. -/
def optionalAfter {α : Type} (word : Keyword) (item : Parser α) : Parser (Option α) := do
  if ← eatKeyword word then return some (← item) else return none

/-- Parses an item between parentheses. -/
def parenthesized {α : Type} (item : Parser α) : Parser α := do
  expectSymbol .leftParen
  let value ← item
  expectSymbol .rightParen
  return value

end Parser

end SqlTree
