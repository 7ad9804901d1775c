/-!
# Spans

Byte ranges of the source text, in UTF-8.
-/

namespace SqlTree

/-- The bytes from `start` up to and without `stop`. -/
structure Span where
  start : Nat
  stop : Nat
deriving DecidableEq, Repr

namespace Span

/-- The empty span at a position. -/
def point (position : Nat) : Span := ⟨position, position⟩

/-- The number of bytes in a span. -/
def length (span : Span) : Nat := span.stop - span.start

/-- Whether a span ends where it starts. -/
def isEmpty (span : Span) : Bool := span.start == span.stop

/-- The smallest span that covers both. -/
def merge (left right : Span) : Span :=
  ⟨min left.start right.start, max left.stop right.stop⟩

/-- A span as it is written in messages. -/
def text (span : Span) : String :=
  Nat.repr span.start ++ ".." ++ Nat.repr span.stop

end Span

end SqlTree
