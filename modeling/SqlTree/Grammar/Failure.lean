import SqlTree.Token

/-!
# Failures

Why a text was not accepted. A failure keeps its cause as data; the wording is in one place.
-/

namespace SqlTree

/-- What the grammar asked for where it found something else. -/
inductive Expectation where
  | symbol (mark : Symbol)
  | keyword (word : Keyword)
  | identifier
  | integer
  | dataType
  | expression
  | operator
  /-- What a test with `IS` compares with. -/
  | truthValue
  | joinCondition
  | insertSource
  | sequenceOption
  | sequenceOptionOrEnd
  /-- What can follow `NO` among the options of a sequence. -/
  | negatedOption
  | statement
  | endOfStatement
  | endOfInput
deriving DecidableEq, Repr

/-- How an expectation is worded. -/
def Expectation.text : Expectation → String
  | .symbol mark => (TokenKind.symbol mark).describe
  | .keyword word => word.spelling
  | .identifier => "identifier"
  | .integer => "integer"
  | .dataType => "data type"
  | .expression => "expression"
  | .operator => "operator"
  | .truthValue => "NULL, TRUE or FALSE"
  | .joinCondition => "ON or USING"
  | .insertSource => "VALUES, SELECT, or DEFAULT VALUES"
  | .sequenceOption => "sequence option"
  | .sequenceOptionOrEnd => "sequence option or end of statement"
  | .negatedOption => "MINVALUE, MAXVALUE or CYCLE"
  | .statement => "statement"
  | .endOfStatement => "end of statement"
  | .endOfInput => "end of input"

/-- Why a text was not accepted. -/
inductive Cause where
  | unexpected (expected : Expectation) (found : TokenKind)
  | nestedTooDeeply
  | tooManyNameParts
  | subqueryWithoutAlias
  | duplicateClause (name : String)
  | integerOutOfRange
  | ownerNotAColumn
  /-- A statement that is not modelled, named by its first words. -/
  | unsupportedStatement (words : List String)
  /-- A set operation between queries. -/
  | unsupportedSetOperation (word : Keyword)
  | unsupportedSequenceSetting
deriving DecidableEq, Repr

namespace Cause

/-- Whether the text may be well formed, but is not modelled. -/
def isUnsupported : Cause → Bool
  | .unsupportedStatement _ | .unsupportedSetOperation _ | .unsupportedSequenceSetting => true
  | _ => false

/-- How a cause is worded. A piece of text that is no token keeps the reason it came with. -/
def message : Cause → String
  | .unexpected _ (.invalid reason) => reason
  | .unexpected expected .finish => "Unexpected end of input: expected " ++ expected.text
  | .unexpected expected found =>
    "Unexpected token: expected " ++ expected.text ++ ", found " ++ found.describe
  | .nestedTooDeeply => "Expression nested too deeply"
  | .tooManyNameParts => "Improper qualified name (too many dotted names)"
  | .subqueryWithoutAlias => "Subquery in FROM must have an alias"
  | .duplicateClause name => "Duplicate " ++ name ++ " clause"
  | .integerOutOfRange => "Integer out of range for bigint"
  | .ownerNotAColumn => "OWNED BY expects NONE or a table.column reference"
  | .unsupportedStatement words => " ".intercalate words ++ " statements are not supported"
  | .unsupportedSetOperation word => word.spelling ++ " queries are not supported"
  | .unsupportedSequenceSetting => "ALTER SEQUENCE SET only supports SET SCHEMA"

/-- What was asked for, where a token was not the one asked for. -/
def expected? : Cause → Option String
  | .unexpected expected _ => some expected.text
  | _ => none

/-- What was found, where a token was not the one asked for. -/
def found? : Cause → Option TokenKind
  | .unexpected _ found => some found
  | _ => none

end Cause

/-- A cause and where it lies. -/
structure Failure where
  cause : Cause
  span : Span
deriving DecidableEq, Repr

/-- A failure as it is shown, with its position. -/
def Failure.text (failure : Failure) : String :=
  failure.cause.message ++ " at position " ++ failure.span.text

end SqlTree
