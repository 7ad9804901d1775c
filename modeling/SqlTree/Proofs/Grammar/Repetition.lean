import SqlTree.Proofs.Grammar.Reading

/-!
# Readings of lists and of optional parts

A repeated rule reads one piece after another until it finds none. The bound on their number is
never reached, because every piece takes a token at least.
-/

namespace SqlTree

/-- A value and the kinds of the tokens that it is written with. -/
structure Piece (α : Type) where
  value : α
  kinds : List TokenKind

namespace Piece

variable {α : Type}

/-- The kinds of pieces that each stand behind a mark. -/
def marked (mark : TokenKind) (pieces : List (Piece α)) : List TokenKind :=
  pieces.flatMap fun piece => mark :: piece.kinds

/-- The kinds of pieces with commas between them. -/
def separated : List (Piece α) → List TokenKind
  | [] => []
  | first :: others => first.kinds ++ marked (.symbol .comma) others

/-- The kinds of a piece behind a keyword, if there is a piece. -/
def optional (word : Keyword) : Option (Piece α) → List TokenKind
  | none => []
  | some piece => .keyword word :: piece.kinds

@[simp] theorem marked_nil (mark : TokenKind) : marked mark ([] : List (Piece α)) = [] := rfl

@[simp] theorem marked_cons (mark : TokenKind) (piece : Piece α) (pieces : List (Piece α)) :
    marked mark (piece :: pieces) = mark :: (piece.kinds ++ marked mark pieces) := rfl

end Piece

/-- The kinds of a text between parentheses. -/
def inParens (kinds : List TokenKind) : List TokenKind :=
  .symbol .leftParen :: (kinds ++ [.symbol .rightParen])

namespace Parser

variable {α β : Type} {item : Parser α} {guard : Parser Bool} {mark : TokenKind}
  {front back kinds rest : List TokenKind} {value : α} {values : List α}

/-- A parser of optional values reads a list of them, and then none. Each takes a token at least. -/
inductive ReadsEach (item : Parser (Option α)) : List TokenKind → List α → List TokenKind → Prop
  | none {rest : List TokenKind} (stops : Reads item [] none rest) : ReadsEach item [] [] rest
  | some {front back rest : List TokenKind} {value : α} {values : List α} (taken : front ≠ [])
      (first : Reads item front (some value) (back ++ rest))
      (others : ReadsEach item back values rest) :
      ReadsEach item (front ++ back) (value :: values) rest

namespace ReadsEach

variable {item : Parser (Option α)}

/-- There are no more values than tokens. -/
theorem length_le (each : ReadsEach item kinds values rest) : values.length ≤ kinds.length := by
  induction each with
  | none => exact Nat.le_refl _
  | @some front _ _ _ _ taken _ _ inductionHypothesis =>
      have positive : 0 < front.length := List.length_pos_iff.mpr taken
      simp only [List.length_cons, List.length_append]
      omega

/-- Enough fuel reads them all. -/
theorem collectWithin (each : ReadsEach item kinds values rest) {fuel : Nat}
    (enough : values.length < fuel) : Reads (collectWithin item fuel) kinds values rest := by
  induction each generalizing fuel with
  | none stops =>
      cases fuel with
      | zero => cases enough
      | succ fuel => exact Reads.bind_none stops (Reads.pure _ _)
  | some _ first _ inductionHypothesis =>
      cases fuel with
      | zero => cases enough
      | succ fuel =>
          have others := inductionHypothesis (Nat.lt_of_succ_lt_succ enough)
          exact Reads.bind first (Reads.bind_last others (Reads.pure _ _))

/-- The tokens ahead are enough fuel. -/
theorem collect (each : ReadsEach item kinds values rest) :
    Reads (collect item) kinds values rest := by
  refine Reads.get_bind fun cursor faces => each.collectWithin ?_
  have bound := each.length_le
  rw [faces.length_ahead, List.length_append]
  omega

end ReadsEach

namespace Reads

/-- Pieces behind marks are read one by one, where each is read before the next mark and before what
follows the last. -/
theorem manyAfter {pieces : List (Piece α)} (Follows : List TokenKind → Prop)
    (marks : ∀ piece ∈ pieces, ∀ after, Reads guard [mark] true (piece.kinds ++ after))
    (each : ∀ piece ∈ pieces, ∀ after, Follows after → Reads item piece.kinds piece.value after)
    (between : ∀ after, Follows (mark :: after)) (behind : Follows rest)
    (stops : Reads guard [] false rest) :
    Reads (manyAfter guard item) (Piece.marked mark pieces) (pieces.map Piece.value) rest := by
  apply ReadsEach.collect
  induction pieces with
  | nil => exact .none (bind_none stops (pure _ _))
  | cons piece pieces inductionHypothesis =>
      have others := inductionHypothesis
        (fun other among => marks other (List.mem_cons_of_mem _ among))
        (fun other among => each other (List.mem_cons_of_mem _ among))
      have follows : Follows (Piece.marked mark pieces ++ rest) := by
        cases pieces with
        | nil => exact behind
        | cons next pieces => exact between _
      have first := each piece List.mem_cons_self _ follows
      rw [Piece.marked_cons, ← List.cons_append]
      refine .some (List.cons_ne_nil _ _) ?_ others
      exact bind_one (marks piece List.mem_cons_self _) (bind_last first (pure _ _))

/-- Pieces with commas between them are read one by one. -/
theorem separated {pieces : List (Piece α)} (Follows : List TokenKind → Prop)
    (nonempty : pieces ≠ [])
    (each : ∀ piece ∈ pieces, ∀ after, Follows after → Reads item piece.kinds piece.value after)
    (between : ∀ after, Follows (.symbol .comma :: after)) (behind : Follows rest)
    (stops : kindAt rest 0 ≠ .symbol .comma) :
    Reads (separated item) (Piece.separated pieces) (pieces.map Piece.value) rest := by
  cases pieces with
  | nil => exact absurd rfl nonempty
  | cons first others =>
      have follows : Follows (Piece.marked (.symbol .comma) others ++ rest) := by
        cases others with
        | nil => exact behind
        | cons next others => exact between _
      have more : Reads (Parser.manyAfter (Parser.eatSymbol .comma) item) _ _ rest :=
        manyAfter Follows (fun _ _ _ => eatSymbol _ _)
          (fun piece among => each piece (List.mem_cons_of_mem _ among)) between behind
          (eat_false stops)
      exact bind (each first List.mem_cons_self _ follows) (bind_last more (pure _ _))

/-- An optional part is read where its keyword stands. -/
theorem optionalAfter {word : Keyword} {piece : Option (Piece α)}
    (present : ∀ part ∈ piece, Reads item part.kinds part.value rest)
    (absent : piece = none → kindAt rest 0 ≠ .keyword word) :
    Reads (optionalAfter word item) (Piece.optional word piece) (piece.map Piece.value) rest := by
  cases piece with
  | none => exact bind_none (eat_false (absent rfl)) (pure _ _)
  | some part => exact bind_one (eatKeyword _ _) (bind_last (present part rfl) (pure _ _))

theorem parenthesized (read : Reads item kinds value (.symbol .rightParen :: rest)) :
    Reads (parenthesized item) (inParens kinds) value rest :=
  bind_one (expectSymbol _ _)
    (bind read (bind_one (expectSymbol _ _) (pure _ _)))

end Reads

end Parser

end SqlTree
