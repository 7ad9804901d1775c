import SqlTree.Grammar.Session
import SqlTree.Proofs.Grammar.Repetition

/-!
# Statements of a session

A step that reads a statement passes the semicolons before it, reads its body, and checks that it
ends there. What is left is the body.
-/

namespace SqlTree

open SqlTree.Parser SqlTree.Grammar

/-- No semicolon is passed where none stands. -/
theorem Parser.Reads.noSemicolons {kinds : List TokenKind}
    (opens : kindAt kinds 0 ≠ .symbol .semicolon) : Reads skipSemicolons [] () kinds :=
  Reads.bind_none (ReadsEach.none (Reads.bind_none (Reads.eat_false opens)
    (Reads.pure _ _))).collect (Reads.pure _ _)

/-- Nothing is left where the end of the input comes next. -/
theorem Parser.Reads.finish : Reads Grammar.finish [] () [] :=
  .bind_none (.noSemicolons nofun) (.bind_none (.look [] 0) (.pure () []))

section Statement

variable {cursor stopped : Cursor} {kinds : List TokenKind}

/-- A step that reads a statement starts with its body. -/
theorem run_statement (faces : cursor.Faces kinds)
    (opens : kindAt kinds 0 ≠ .symbol .semicolon) :
    Grammar.statement cursor = (do
      let body ← statementBody
      endOfStatement
      let _ ← previousSpan
      let _ ← eatSymbol .semicolon
      return body : Parser _) cursor := by
  unfold Grammar.statement locatedStatement
  simp only [bind_assoc, pure_bind]
  exact (Reads.noSemicolons opens).step_none faces

/-- Behind a body at the end of the input, the statement ends. -/
theorem statementEnd (body : Statement) : Reads (do
    endOfStatement
    let _ ← previousSpan
    let _ ← eatSymbol .semicolon
    return body) [] body [] := by
  refine Reads.bind_none (Reads.bind_none (Reads.look [] 0) (Reads.pure _ _)) ?_
  exact Reads.previousSpan_bind fun _ => Reads.bind_none (Reads.eat_false nofun) (Reads.pure _ _)

/-- A body that ends where the statement does is returned. -/
theorem statement_of_body (faces : cursor.Faces kinds) (opens : kindAt kinds 0 ≠ .symbol .semicolon)
    {body : Statement} (parsed : statementBody cursor = .ok body stopped)
    (ends : stopped.current.kind.isTerminator = true) :
    ∃ behind, Grammar.statement cursor = .ok body behind := by
  have ended : endOfStatement stopped = .ok () stopped :=
    congrFun (if_pos ends) stopped
  obtain ⟨taken, behind, marked⟩ : ∃ taken behind,
      eatSymbol .semicolon stopped = .ok taken behind := by
    unfold eatSymbol eat
    split <;> exact ⟨_, _, rfl⟩
  refine ⟨behind, ?_⟩
  rw [run_statement faces opens]
  refine (bind_of_ok parsed).trans ((bind_of_ok ended).trans ?_)
  exact (bind_of_ok marked).trans rfl

/-- A statement that is returned is a body that ends where the statement does. -/
theorem body_of_statement (faces : cursor.Faces kinds) (opens : kindAt kinds 0 ≠ .symbol .semicolon)
    {body : Statement} (parsed : Grammar.statement cursor = .ok body stopped) :
    ∃ between, statementBody cursor = .ok body between ∧
      between.current.kind.isTerminator = true := by
  rw [run_statement faces opens] at parsed
  obtain ⟨found, between, first, parsed⟩ := ok_of_bind_ok parsed
  obtain ⟨_, behind, ended, parsed⟩ := ok_of_bind_ok parsed
  obtain ⟨_, _, _, parsed⟩ := ok_of_bind_ok parsed
  obtain ⟨_, _, _, parsed⟩ := ok_of_bind_ok parsed
  cases parsed
  refine ⟨between, first, ?_⟩
  cases ends : between.current.kind.isTerminator with
  | true => rfl
  | false =>
      have unended : endOfStatement between = (unexpected .endOfStatement : Parser Unit) between :=
        congrFun (if_neg (Bool.eq_false_iff.mp ends)) between
      rw [unended] at ended
      cases ended

/-- A body that fails makes the statement fail for the same reason. -/
theorem statement_of_failure (faces : cursor.Faces kinds)
    (opens : kindAt kinds 0 ≠ .symbol .semicolon) {failure : Failure}
    (failed : statementBody cursor = .error failure stopped) :
    Grammar.statement cursor = .error failure stopped := by
  rw [run_statement faces opens]
  exact bind_of_error failed

end Statement

end SqlTree
