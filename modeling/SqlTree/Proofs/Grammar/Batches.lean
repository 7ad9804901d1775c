import SqlTree.Proofs.Grammar.SteadyStatements

/-!
# Batches of statements

The statements of a stream are told as a parser: a loop that skips semicolons, stops at the end of
the input, and else takes a statement. The loop is steady, and so is every step of a session.
-/

namespace SqlTree

open SqlTree.Parser SqlTree.Grammar

namespace Grammar

/-- Statements up to the end of the input, at most `fuel` of them. -/
def statementsWithin : (fuel : Nat) → Parser (List LocatedStatement)
  | 0 => return []
  | fuel + 1 => do
    skipSemicolons
    if (← look 0) = .finish then return []
    return (← locatedStatement) :: (← statementsWithin fuel)


end Grammar

/-- What a batch comes to, as the result of a parser. -/
def Batch.settled (batch : Batch) : EStateM.Result Failure Cursor (List LocatedStatement) :=
  match batch.failure with
  | none => .ok batch.statements batch.cursor
  | some failure => .error failure batch.cursor

theorem Batch.settled_parseWithin (fuel : Nat) (cursor : Cursor) :
    (parseWithin fuel cursor).settled = statementsWithin fuel cursor := by
  induction fuel generalizing cursor with
  | zero => rfl
  | succ fuel inductionHypothesis =>
      rw [parseWithin, statementsWithin]
      cases skipped : skipSemicolons cursor with
      | error failure behind => exact (bind_of_error skipped).symm
      | ok done behind =>
          refine Eq.trans ?_ (bind_of_ok skipped).symm
          change _ = (if behind.current.kind = .finish then _ else _ : Parser _) behind
          by_cases ends : behind.current.kind = .finish
          · rw [if_pos ends]
            dsimp only
            rw [if_pos ends]
            rfl
          · rw [if_neg ends]
            dsimp only
            rw [if_neg ends]
            cases located : locatedStatement behind with
            | error failure stopped => exact (bind_of_error located).symm
            | ok statement stopped =>
                refine Eq.trans ?_ (bind_of_ok located).symm
                have rest := inductionHypothesis stopped
                dsimp only
                cases failed : (parseWithin fuel stopped).failure with
                | none =>
                    simp only [settled, failed] at rest ⊢
                    rw [bind_of_ok rest.symm]
                    rfl
                | some failure =>
                    simp only [settled, failed] at rest ⊢
                    exact (bind_of_error rest.symm).symm

/-- Every statement of a stream is read by the loop. -/
theorem Grammar.statements_eq : Grammar.statements = (do
    return (← statementsWithin ((← get).ahead.length + 1)).map LocatedStatement.statement) := by
  funext cursor
  have read := Batch.settled_parseWithin (cursor.ahead.length + 1) cursor
  change _ = ((statementsWithin (cursor.ahead.length + 1) >>= fun statements =>
    pure (statements.map LocatedStatement.statement) : Parser _)) cursor
  unfold Grammar.statements Batch.parse Batch.result
  cases failed : (Batch.parseWithin (cursor.ahead.length + 1) cursor).failure with
  | none =>
      simp only [Batch.settled, failed] at read ⊢
      rw [bind_of_ok read.symm]
      rfl
  | some failure =>
      simp only [Batch.settled, failed] at read ⊢
      exact (bind_of_error read.symm).symm

namespace Grammar

theorem statementsWithin_settles {size : Nat} {cursor : Cursor}
    (closed : cursor.close.kind = .finish) (bound : cursor.ahead.length < size) :
    Settles statementsWithin cursor := by
  induction size generalizing cursor with
  | zero => cases bound
  | succ size inductionHypothesis =>
      obtain ⟨skipped, front, skips, _⟩ := skipSemicolons_steady cursor closed
      match skipped with
      | .error failure => exact Settles.of_last fun fuel => skips.bind_error
      | .ok () =>
          by_cases ends : ((cursor.past front).peek 0).kind = .finish
          · apply Settles.of_last
            intro fuel
            apply skips.bind closed
            apply Comes.look_bind (by decide)
            rw [if_pos ends]
            exact Comes.pure [] _
          · obtain ⟨located, more, comes, moved⟩ :=
              locatedStatement_taking (cursor.past front) closed
            match located with
            | .error failure =>
                apply Settles.of_last
                intro fuel
                apply skips.bind closed
                apply Comes.look_bind (by decide)
                rw [if_neg ends]
                exact comes.bind_error
            | .ok statement =>
                have positive : 0 < more := moved _ rfl trivial
                have inside : front + more ≤ cursor.ahead.length :=
                  (skips.clear.append comes.clear).inside closed
                have shorter : (cursor.past (front + more)).ahead.length < size := by
                  rw [Cursor.past, List.length_drop]
                  omega
                have closedBehind : (cursor.past (front + more)).close.kind = .finish := closed
                refine Settles.of_turn (Nat.add_pos_right front positive)
                  (inductionHypothesis closedBehind shorter) (Except.map (statement :: ·)) ?_
                intro fuel outcome back others
                rw [← Cursor.past_past] at others
                rw [Nat.add_assoc]
                apply skips.bind closed
                apply Comes.look_bind (by decide)
                rw [if_neg ends]
                exact comes.bind closed (others.andReturn closed)

theorem statements_steady : Steady Grammar.statements := by
  rw [statements_eq]
  exact (Settles.steady fun _ closed => statementsWithin_settles closed (Nat.lt_succ_self _)).bind
    fun _ => Steady.pure _

end Grammar

/-- Every step of a session is steady. -/
theorem Step.parser_steady (step : Step) : Steady step.parser := by
  cases step with
  | statement => exact statement_taking.steady.map
  | statements => exact statements_steady.map
  | expression => exact expression_steady.map
  | finish => exact finish_steady.map

end SqlTree
