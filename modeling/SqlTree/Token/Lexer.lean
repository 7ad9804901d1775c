import SqlTree.Token
import SqlTree.Text.Alphabetic
import SqlTree.Text.Blank
import SqlTree.Text.Lowercase

/-!
# Reading tokens

A text is read from left to right as gaps and lexemes in turn. A gap is white space and comments; a
lexeme is the longest piece of text that makes one token. Every scanner returns the characters that
it took together with those that are left, so that nothing is lost between them.
-/

namespace SqlTree

open Decimal Text

/-- Where in a gap a reader stands. -/
inductive GapState where
  | between
  | lineComment
  | blockComment
deriving DecidableEq, Repr

/-- Splits a text after the gap at its start. A line comment runs to the end of its line, a block
comment to the first end mark, and both to the end of the text where that is missing. -/
def splitGap : GapState → List Char → List Char × List Char
  | .between, '-' :: '-' :: rest =>
    let (gap, rest) := splitGap .lineComment rest
    ('-' :: '-' :: gap, rest)
  | .between, '/' :: '*' :: rest =>
    let (gap, rest) := splitGap .blockComment rest
    ('/' :: '*' :: gap, rest)
  | .between, character :: rest =>
    if isBlank character then
      let (gap, rest) := splitGap .between rest
      (character :: gap, rest)
    else ([], character :: rest)
  | .lineComment, character :: rest =>
    let (gap, rest) := splitGap (if character = '\n' then .between else .lineComment) rest
    (character :: gap, rest)
  | .blockComment, '*' :: '/' :: rest =>
    let (gap, rest) := splitGap .between rest
    ('*' :: '/' :: gap, rest)
  | .blockComment, character :: rest =>
    let (gap, rest) := splitGap .blockComment rest
    (character :: gap, rest)
  | _, [] => ([], [])

/-- A token at the start of a text: what it is, the characters that it took, and the rest. -/
structure Lexeme where
  kind : TokenKind
  text : List Char
  rest : List Char
deriving DecidableEq, Repr

/-- Whether an unquoted word can start with a character. -/
def isWordStart (character : Char) : Bool :=
  isAlphabetic character || character == '_'

/-- Whether an unquoted word can go on with a character. -/
def isWordPart (character : Char) : Bool :=
  isAlphanumeric character || character == '_' || character == '$'

/-- The token that an unquoted word makes: a keyword, or else a name in lower case. -/
def wordKind (word : List Char) : TokenKind :=
  match Keyword.ofWord? word with
  | some keyword => .keyword keyword
  | none => .identifier (String.ofList (lower word))

/-- Text in quotes, from behind the opening quote: its value, the characters taken, and the rest. A
quote inside is written twice. Nothing is returned where the closing quote is missing. -/
def splitQuoted (quote : Char) : List Char → Option (List Char × List Char × List Char)
  | [] => none
  | first :: second :: rest =>
    if first = quote then
      if second = quote then
        (splitQuoted quote rest).map fun (value, text, rest) =>
          (quote :: value, first :: second :: text, rest)
      else some ([], [first], second :: rest)
    else
      (splitQuoted quote (second :: rest)).map fun (value, text, rest) =>
        (first :: value, first :: text, rest)
  | [last] => if last = quote then some ([], [last], []) else none

/-- The digits of a fraction, if a point and a digit come next. -/
def splitFraction : List Char → Option (List Char) × List Char
  | '.' :: digit :: rest =>
    if digit.isDigit then
      let (digits, rest) := splitDigits (digit :: rest)
      (some digits, rest)
    else (none, '.' :: digit :: rest)
  | source => (none, source)

/-- An exponent mark with its sign, if one comes next. -/
def splitExponentMark : List Char → List Char × List Char
  | mark :: sign :: rest =>
    if mark = 'e' ∨ mark = 'E' then
      if sign = '+' ∨ sign = '-' then ([mark, sign], rest) else ([mark], sign :: rest)
    else ([], mark :: sign :: rest)
  | [mark] => if mark = 'e' ∨ mark = 'E' then ([mark], []) else ([], [mark])
  | [] => ([], [])

/-- The number that a whole part, an optional fraction and an optional exponent write. A numeral on
its own is an integer as long as it fits in a bigint. -/
def numberKind (whole : List Char) (fraction : Option (List Char)) (exponent : Option Int) :
    TokenKind :=
  match fraction, exponent with
  | none, none =>
    if numeralValue whole < 0x8000000000000000 then .integer (Int64.ofNat (numeralValue whole))
    else .numeric (Binary64.ofDecimal (numeralValue whole) 0)
  | _, _ =>
    let decimals := fraction.getD []
    .numeric (Binary64.ofDecimal (numeralValue (whole ++ decimals))
      (exponent.getD 0 - decimals.length))

/-- The number at the start of a text. An exponent mark belongs to it in any case, and is an error
where no digits follow. -/
def scanNumber (source : List Char) : Lexeme :=
  let (whole, rest) := splitDigits source
  let (fraction, rest) := splitFraction rest
  let text := whole ++ (fraction.map ('.' :: ·)).getD []
  match splitExponentMark rest with
  | ([], rest) => ⟨numberKind whole fraction none, text, rest⟩
  | (mark, rest) =>
    match splitDigits rest with
    | ([], rest) => ⟨.invalid "Invalid exponent in numeric literal", text ++ mark, rest⟩
    | (digits, rest) =>
      let exponent : Int := numeralValue digits
      let signed := if mark.contains '-' then -exponent else exponent
      ⟨numberKind whole fraction (some signed), text ++ mark ++ digits, rest⟩

/-- The string literal behind an opening quote. -/
def scanString (source : List Char) : Lexeme :=
  match splitQuoted '\x27' source with
  | some (value, text, rest) => ⟨.string (String.ofList value), '\x27' :: text, rest⟩
  | none => ⟨.invalid "Unterminated string literal", '\x27' :: source, []⟩

/-- The quoted name behind an opening quote. It keeps its case and is never empty. -/
def scanQuotedName (source : List Char) : Lexeme :=
  match splitQuoted '\x22' source with
  | some ([], text, rest) => ⟨.invalid "Zero-length quoted identifier", '\x22' :: text, rest⟩
  | some (value, text, rest) => ⟨.identifier (String.ofList value), '\x22' :: text, rest⟩
  | none => ⟨.invalid "Unterminated quoted identifier", '\x22' :: source, []⟩

/-- The positional parameter behind a dollar sign. -/
def scanParameter (source : List Char) : Lexeme :=
  let (digits, rest) := splitDigits source
  let kind : TokenKind :=
    if digits.isEmpty ∨ 0x100000000 ≤ numeralValue digits then
      .invalid "Invalid positional parameter"
    else .parameter (UInt32.ofNat (numeralValue digits))
  ⟨kind, '$' :: digits, rest⟩

/-- The spellings of the symbols, longer ones first. -/
def symbolSpellings : List (List Char × Symbol) := [
  (['<', '='], .lessEqual), (['<', '>'], .notEqual), (['!', '='], .notEqual),
  (['>', '='], .greaterEqual), (['|', '|'], .concat), ([':', ':'], .doubleColon),
  (['('], .leftParen), ([')'], .rightParen), (['['], .leftBracket), ([']'], .rightBracket),
  ([','], .comma), ([';'], .semicolon), (['.'], .dot),
  (['+'], .plus), (['-'], .minus), (['*'], .star), (['/'], .slash), (['%'], .percent),
  (['^'], .caret), (['='], .equal), (['<'], .less), (['>'], .greater)]

/-- The symbol at the start of a text, or the error that its first character is. -/
def scanSymbol (first : Char) (rest : List Char) : Lexeme :=
  match symbolSpellings.find? fun entry => entry.1.isPrefixOf (first :: rest) with
  | some (text, symbol) => ⟨.symbol symbol, text, (first :: rest).drop text.length⟩
  | none => ⟨.invalid (String.ofList ("Unexpected character: ".toList ++ [first])), [first], rest⟩

/-- Whether a text starts with a number: with a digit, or with a point before one. -/
def startsNumber : List Char → Bool
  | first :: second :: _ => first.isDigit || (first == '.' && second.isDigit)
  | [first] => first.isDigit
  | [] => false

/-- The lexeme at the start of a text that is not empty and has no gap at its start. -/
def scanLexeme (first : Char) (rest : List Char) : Lexeme :=
  if first = '\x27' then scanString rest
  else if first = '\x22' then scanQuotedName rest
  else if first = '$' then scanParameter rest
  else if startsNumber (first :: rest) then scanNumber (first :: rest)
  else if isWordStart first then
    let word := (first :: rest).takeWhile isWordPart
    ⟨wordKind word, word, (first :: rest).dropWhile isWordPart⟩
  else scanSymbol first rest

/-- The number of bytes of a text in UTF-8. -/
def utf8Length : List Char → Nat
  | [] => 0
  | character :: text => character.utf8Size + utf8Length text

/-- A reader of tokens: the text that is left, and how many bytes stand before it. -/
structure Lexer where
  rest : List Char
  position : Nat
deriving DecidableEq, Repr

namespace Lexer

/-- A reader at the start of a text. -/
def ofText (text : String) : Lexer := ⟨text.toList, 0⟩

/-- The next token. At the end of the text it is the end of the input, again and again. -/
def next (lexer : Lexer) : Token × Lexer :=
  let (gap, rest) := splitGap .between lexer.rest
  let start := lexer.position + utf8Length gap
  match rest with
  | [] => (⟨.finish, .point start⟩, ⟨[], start⟩)
  | first :: rest =>
    let lexeme := scanLexeme first rest
    let stop := start + utf8Length lexeme.text
    (⟨lexeme.kind, ⟨start, stop⟩⟩, ⟨lexeme.rest, stop⟩)

/-- The next tokens, a given number of them. -/
def take : Nat → Lexer → List Token
  | 0, _ => []
  | count + 1, lexer => lexer.next.1 :: take count lexer.next.2

/-- The tokens up to the end of the input, at most `fuel` of them. -/
def tokensWithin : (fuel : Nat) → Lexer → List Token
  | 0, _ => []
  | fuel + 1, lexer =>
    let (token, lexer) := lexer.next
    if token.kind = .finish then [token] else token :: tokensWithin fuel lexer

/-- The tokens up to and with the end of the input. Every other token takes a character at least. -/
def tokens (lexer : Lexer) : List Token :=
  tokensWithin (lexer.rest.length + 1) lexer

end Lexer

/-- The tokens of a text. The last one is the end of the input. -/
def tokenize (text : String) : List Token :=
  (Lexer.ofText text).tokens

end SqlTree
