import SqlTree.Grammar.Session
import SqlTree.Proofs.Grammar.Completeness
import SqlTree.Proofs.Grammar.Nesting
import SqlTree.Proofs.Grammar.Streams
import SqlTree.Proofs.Grammar.Writable

/-!
# Written expressions

Every expression that can be written is read back from the stream of its tokens, as long as the
writing nests within the levels of the grammar. Parentheses may nest deeper; then it is refused.
-/

namespace SqlTree

open SqlTree.Parser SqlTree.Grammar

/-- A number of closing parentheses. -/
def closings (count : Nat) : List TokenKind := List.replicate count (.symbol .rightParen)

/-- An expression may be written in any number of parentheses. -/
theorem Expr.Written.inOpenings {levels : Nat} {body : Expr} {kinds : List TokenKind}
    (written : Expr.Written levels 0 body kinds) (count : Nat) :
    Expr.Written (levels + count) 0 body (openings count ++ (kinds ++ closings count)) := by
  induction count with
  | zero =>
      rw [closings, List.replicate_zero, List.append_nil]
      exact written
  | succ count inductionHypothesis =>
      have front : openings (count + 1) = .symbol .leftParen :: openings count :=
        List.replicate_succ
      have back : closings (count + 1) = closings count ++ [.symbol .rightParen] :=
        List.replicate_succ'
      have shape : openings (count + 1) ++ (kinds ++ closings (count + 1))
          = inParens (openings count ++ (kinds ++ closings count)) := by
        rw [front, back]
        simp only [inParens, List.cons_append, List.append_assoc]
      rw [shape]
      exact .parens inductionHypothesis

/-- A writable expression has writings, and any that nests within the levels of the grammar is read
as the expression, up to the end of the stream. -/
theorem Grammar.expression_of_written {body : Expr} (writable : body.Writable) :
    (∃ levels kinds, Expr.Written levels 0 body kinds) ∧
      ∀ kinds tokens, Expr.Written maximalNesting 0 body kinds → Spells tokens kinds →
        ∃ cursor, Grammar.expression (.ofTokens tokens) = .ok body cursor
          ∧ cursor.current.kind = .finish ∧ cursor.consumed = kinds.length := by
  constructor
  · obtain ⟨levels, written⟩ := writable.writes.exists
    exact ⟨levels, written 0⟩
  · intro kinds tokens written spells
    have follows : Follows 0 [] := EndsExpression.follows ⟨rfl, fun _ => rfl⟩ 0
    exact (written.reads.expression (Nat.le_refl _) follows).ofTokens written.going spells

/-- `1 + 2 * 3` is written without parentheses and read back. -/
theorem Grammar.expression_of_written_sum :
    ∃ cursor, Grammar.expression (.ofTokens
        [⟨.integer 1, ⟨0, 1⟩⟩, ⟨.symbol .plus, ⟨1, 2⟩⟩, ⟨.integer 2, ⟨2, 3⟩⟩,
          ⟨.symbol .star, ⟨3, 4⟩⟩, ⟨.integer 3, ⟨4, 5⟩⟩])
      = .ok (.binary (.literal (.integer 1)) .add
          (.binary (.literal (.integer 2)) .multiply (.literal (.integer 3)))) cursor
        ∧ cursor.current.kind = .finish ∧ cursor.consumed = 5 :=
  (expression_of_written (.binary _ (.literal _) (.binary _ (.literal _) (.literal _)))).2
    [.integer 1, .symbol .plus, .integer 2, .symbol .star, .integer 3] _
    (.binary (by decide) (.literal _) (.binary (by decide) (.literal _) (.literal _)))
    (.inl rfl)

/-- A constant in as many parentheses as there are levels. -/
def deepKinds : List TokenKind :=
  openings maximalNesting ++ ([.integer 1] ++ closings maximalNesting)

/-- Without a bound on the nesting, what is written need not be read back. -/
theorem Grammar.expression_of_written_unbounded :
    ¬ ∀ (body : Expr) (levels : Nat) (kinds : List TokenKind) (tokens : List Token),
      body.Writable → Expr.Written levels 0 body kinds → Spells tokens kinds →
        ∃ cursor, Grammar.expression (.ofTokens tokens) = .ok body cursor := by
  intro unbounded
  let tokens : List Token := deepKinds.map (⟨·, .point 0⟩)
  have spelled : Spells tokens deepKinds := by
    refine .inl ?_
    rw [List.map_map]
    exact List.map_id _
  have written : Expr.Written (1 + maximalNesting) 0 (.literal (.integer 1)) deepKinds :=
    (Expr.Written.literal (.integer 1)).inOpenings maximalNesting
  obtain ⟨cursor, read⟩ := unbounded _ _ _ tokens (.literal _) written spelled
  have faces : (Cursor.ofTokens tokens).Faces
      (openings maximalNesting ++ ([.integer 1] ++ closings maximalNesting)) :=
    Cursor.faces_ofTokens written.going spelled
  have plain : kindAt ([.integer 1] ++ closings maximalNesting) 0 ≠ .keyword .SELECT := nofun
  have refused := expression_of_openings plain 0 faces
  rw [Grammar.expression, topRules, refused] at read
  cases read

end SqlTree
