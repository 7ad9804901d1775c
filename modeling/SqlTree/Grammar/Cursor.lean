import SqlTree.Token.Lexer

/-!
# Cursors

A position in a stream of tokens. The stream is closed by an end of input, which is read again and
again; a cursor never moves past an end of input, also where one stands in the middle of a stream.
-/

namespace SqlTree

/-- A position in a stream of tokens. -/
structure Cursor where
  /-- The text that the tokens were read from; empty for a stream without one. -/
  source : List Char
  /-- The tokens from the position on, without the closing one. -/
  ahead : List Token
  /-- The end of input that closes the stream. -/
  close : Token
  /-- How many tokens lie behind the position. -/
  consumed : Nat
  /-- The span of the last token behind the position. -/
  previous : Option Span
deriving DecidableEq, Repr

namespace Cursor

/-- A cursor at the start of a stream. A stream that does not end with an end of input is closed
with one behind its last token. -/
def ofTokens (tokens : List Token) : Cursor :=
  match tokens.getLast? with
  | none => ⟨[], [], ⟨.finish, .point 0⟩, 0, none⟩
  | some last =>
    if last.kind = .finish then ⟨[], tokens.dropLast, last, 0, none⟩
    else ⟨[], tokens, ⟨.finish, .point last.span.stop⟩, 0, none⟩

/-- A cursor at the start of a text. -/
def ofText (text : String) : Cursor :=
  { ofTokens (tokenize text) with source := text.toList }

/-- The token that stands a number of places ahead. -/
def peek (cursor : Cursor) (places : Nat) : Token :=
  cursor.ahead[places]?.getD cursor.close

/-- The token at the position. -/
def current (cursor : Cursor) : Token := cursor.peek 0

/-- The cursor behind the current token, or the same one at an end of input. -/
def advance (cursor : Cursor) : Cursor :=
  match cursor.ahead with
  | [] => cursor
  | token :: ahead =>
    if token.kind = .finish then cursor
    else
      { cursor with ahead, consumed := cursor.consumed + 1, previous := some token.span }

/-- The span of the last token behind the position; an empty one where there is none. -/
def previousSpan (cursor : Cursor) : Span :=
  cursor.previous.getD (.point cursor.current.span.start)

end Cursor

/-- The part of a text behind a number of bytes, if a character starts there. -/
def dropBytes : Nat → List Char → Option (List Char)
  | 0, text => some text
  | _ + 1, [] => none
  | count + 1, character :: text =>
    if character.utf8Size ≤ count + 1 then dropBytes (count + 1 - character.utf8Size) text else none
termination_by _ text => text.length

/-- The part of a text up to a number of bytes, if a character ends there. -/
def takeBytes : Nat → List Char → Option (List Char)
  | 0, _ => some []
  | _ + 1, [] => none
  | count + 1, character :: text =>
    if character.utf8Size ≤ count + 1 then
      (takeBytes (count + 1 - character.utf8Size) text).map (character :: ·)
    else none
termination_by _ text => text.length

/-- The text under a span, if it lies in the source and on character boundaries. -/
def textUnder? (source : List Char) (span : Span) : Option (List Char) :=
  if span.start ≤ span.stop then
    (dropBytes span.start source).bind (takeBytes (span.stop - span.start))
  else none

/-- The source text of the token at the position, if there is one. -/
def Cursor.currentText? (cursor : Cursor) : Option (List Char) :=
  textUnder? cursor.source cursor.current.span

end SqlTree
