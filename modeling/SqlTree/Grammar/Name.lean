import SqlTree.Grammar.Parser
import SqlTree.Tree.Name

/-!
# Grammar of names and data types
-/

namespace SqlTree.Grammar

open SqlTree.Parser

/-- The name that one or two parts make. More are refused. -/
def nameOfParts (parts : List String) (span : Span) : Parser ObjectName :=
  match parts with
  | [name] => return .plain name
  | [schema, name] => return ⟨name, some schema⟩
  | _ => fail .tooManyNameParts span

/-- A name, with a schema before it if a point follows. -/
def objectName : Parser ObjectName := do
  let first ← expectName
  if ← eatSymbol .dot then return ⟨← expectName, some first⟩ else return .plain first

/-- Names with commas between them. -/
def nameList : Parser (List String) := separated expectName

/-- An alias: a name behind `AS`, or an identifier on its own. -/
def optionalAlias : Parser (Option String) := do
  if ← eatKeyword .AS then return some (← expectName)
  match ← look 0 with
  | .identifier _ => return some (← expectName)
  | _ => return none

/-- Whether `IF EXISTS` comes next, which is taken. -/
def ifExists : Parser Bool := do
  if (← look 0) = .keyword .IF ∧ (← look 1) = .keyword .EXISTS then
    expectKeyword .IF
    expectKeyword .EXISTS
    return true
  else return false

/-- Whether `IF NOT EXISTS` comes next, which is taken; `IF NOT` needs the third word. -/
def ifNotExists : Parser Bool := do
  if (← look 0) = .keyword .IF ∧ (← look 1) = .keyword .NOT then
    expectKeyword .IF
    expectKeyword .NOT
    expectKeyword .EXISTS
    return true
  else return false

/-- The first word of a data type. -/
def typeWord : Parser String := fun cursor =>
  match cursor.current.kind.name? with
  | some name => .ok name cursor.advance
  | none => unexpected .dataType cursor

/-- The second word of a data type whose name has two, brought to one spelling. -/
def typeName : Parser String := do
  let word ← typeWord
  if word = "double" then
    if ← eatName "precision" then return "double precision"
  if word = "character" ∨ word = "char" then
    if ← eatName "varying" then return "character varying"
  return word

/-- An integer without a sign. -/
def plainInteger : Parser Int64 := fun cursor =>
  match cursor.current.kind with
  | .integer value => .ok value cursor.advance
  | _ => unexpected .integer cursor

/-- The modifiers of a data type, if there are any. -/
def typeModifiers : Parser (List Int64) := do
  if ← eatSymbol .leftParen then
    let modifiers ← separated plainInteger
    expectSymbol .rightParen
    return modifiers
  else return []

/-- What a time type says about time zones, if it does: `WITH TIME ZONE` or `WITHOUT TIME ZONE`. -/
def timeZoneMark : Parser String := do
  if (← look 1) = .identifier "time" ∧ (← look 2) = .identifier "zone" then
    let mark ← look 0
    if mark = .keyword .WITH ∨ mark = .identifier "without" then
      let _ ← advance
      let _ ← advance
      let _ ← advance
      return if mark = .keyword .WITH then " with time zone" else " without time zone"
  return ""

/-- A pair of brackets, if one comes next. -/
def arrayMark : Parser (Option String) := do
  if (← look 0) = .symbol .leftBracket ∧ (← look 1) = .symbol .rightBracket then
    let _ ← advance
    let _ ← advance
    return some "[]"
  else return none

/-- A data type: its name, its modifiers, the time zone of a time type, and a pair of brackets for
each dimension of an array. -/
def dataType : Parser DataType := do
  let name ← typeName
  let modifiers ← typeModifiers
  let zone ← if name = "time" ∨ name = "timestamp" then timeZoneMark else pure ""
  let brackets ← collect arrayMark
  return ⟨name ++ zone ++ String.join brackets, modifiers⟩

end SqlTree.Grammar
