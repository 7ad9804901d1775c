import SqlTree.Proofs.Grammar.Primaries

/-!
# Nesting that is too deep

An expression in as many parentheses as there are levels is refused at the first token inside them.
-/

namespace SqlTree

open SqlTree.Parser SqlTree.Grammar

/-- A number of opening parentheses. -/
def openings (count : Nat) : List TokenKind := List.replicate count (.symbol .leftParen)

/-- An expression in too many parentheses is refused behind the last that opens in time. -/
theorem Grammar.expression_of_openings {levels : Nat} {rest : List TokenKind}
    (plain : kindAt rest 0 ≠ .keyword .SELECT) (least : Nat) {cursor : Cursor}
    (faces : cursor.Faces (openings levels ++ rest)) :
    (rules levels).expression least cursor
      = .error ⟨.nestedTooDeeply, (cursor.past levels).current.span⟩ (cursor.past levels) := by
  induction levels generalizing least cursor with
  | zero =>
      rw [Cursor.past_zero]
      rfl
  | succ levels inductionHypothesis =>
      have inside : kindAt (openings levels ++ rest) 0 ≠ .keyword .SELECT := by
        cases levels with
        | zero => exact plain
        | succ levels => exact nofun
      have behind : (cursor.past 1).Faces (openings levels ++ rest) := faces.tail
      have fails := inductionHypothesis 0 behind
      rw [Cursor.past_past, Nat.add_comm 1 levels] at fails
      refine bind_of_error (((Reads.look _ 0).step_none faces).trans ?_)
      refine ((Reads.look _ 0).step_none faces).trans ?_
      refine ((Reads.expectSymbol .leftParen _).step faces).trans (bind_of_error ?_)
      refine ((Reads.atKeyword_false inside).step_none behind).trans ?_
      exact fails

end SqlTree
