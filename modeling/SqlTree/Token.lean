import SqlTree.Keyword
import SqlTree.Span
import SqlTree.Decimal.Layout

/-!
# Tokens

The words of the language: literals, names, keywords, symbols, the end of the input, and the pieces
of text that are no token at all.
-/

namespace SqlTree

open Decimal

/-- An operator or a delimiter. -/
inductive Symbol where
  | plus | minus | star | slash | percent | caret
  | equal | notEqual | less | lessEqual | greater | greaterEqual
  | concat
  | leftParen | rightParen | leftBracket | rightBracket
  | comma | semicolon | dot | doubleColon
deriving DecidableEq, Repr

/-- How a symbol is written. -/
def Symbol.spelling : Symbol → String
  | .plus => "+"
  | .minus => "-"
  | .star => "*"
  | .slash => "/"
  | .percent => "%"
  | .caret => "^"
  | .equal => "="
  | .notEqual => "<>"
  | .less => "<"
  | .lessEqual => "<="
  | .greater => ">"
  | .greaterEqual => ">="
  | .concat => "||"
  | .leftParen => "("
  | .rightParen => ")"
  | .leftBracket => "["
  | .rightBracket => "]"
  | .comma => ","
  | .semicolon => ";"
  | .dot => "."
  | .doubleColon => "::"

/-- What a token is. -/
inductive TokenKind where
  /-- A whole number that fits in a bigint. -/
  | integer (value : Int64)
  /-- A number with a fraction or an exponent, or too large for a bigint. -/
  | numeric (value : Binary64)
  | string (value : String)
  | parameter (number : UInt32)
  /-- A name, in lower case unless it was quoted. -/
  | identifier (name : String)
  | keyword (word : Keyword)
  | symbol (mark : Symbol)
  /-- The end of the input. -/
  | finish
  /-- A piece of text that is no token, with the reason. -/
  | invalid (message : String)
deriving DecidableEq, Repr

/-- Numbers in messages are always positional, and whole numbers have no mark. -/
def messageLayout : Layout where
  positional := none
  wholeMark := ""
  tie := .upper

/-- The text of a number in a message. -/
def messageNumber (number : Binary64) : String :=
  match number.magnitude with
  | .notANumber => "NaN"
  | .infinite => if number.isNegative then "-inf" else "inf"
  | .finite .. => (messageLayout.finiteText? number).getD ""

namespace TokenKind

/-- A token as it is named in messages. -/
def describe : TokenKind → String
  | .integer value => "integer " ++ Int.repr value.toInt
  | .numeric value => "number " ++ messageNumber value
  | .string value => "string '" ++ value ++ "'"
  | .parameter number => "parameter $" ++ Nat.repr number.toNat
  | .identifier name => "identifier \"" ++ name ++ "\""
  | .keyword word => "keyword " ++ word.spelling
  | .symbol mark => "'" ++ mark.spelling ++ "'"
  | .finish => "end of input"
  | .invalid message => message

/-- Whether a token ends a statement. -/
def isTerminator : TokenKind → Bool
  | .finish | .symbol .semicolon => true
  | _ => false

/-- The keyword that a token is, if it is one. -/
def keyword? : TokenKind → Option Keyword
  | .keyword word => some word
  | _ => none

/-- The name that a token stands for: an identifier, or an unreserved keyword in lower case. -/
def name? : TokenKind → Option String
  | .identifier name => some name
  | .keyword word => if word.isReserved then none else some word.name
  | _ => none

end TokenKind

/-- A token and where it stands. -/
structure Token where
  kind : TokenKind
  span : Span
deriving DecidableEq, Repr

end SqlTree
