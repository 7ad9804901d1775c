import SqlTree.Proofs.Grammar.Independence

/-!
# Bounded lookahead

A step of a session sees no further than two tokens behind the one where it stops. Streams that start
with the same tokens, as far as that, get the same from it, whatever stands behind.
-/

namespace SqlTree

open SqlTree.Parser

/-- A step goes by the tokens that it takes and the next three. -/
theorem Step.run_near (step : Step) {cursor : Cursor} (closed : cursor.close.kind = .finish) :
    ∃ taken, (step.run cursor).2 = cursor.past taken ∧ cursor.Clear taken ∧
      ∀ other, cursor.Agrees other (taken + 3) →
        step.run other = ((step.run cursor).1, other.past taken) := by
  obtain ⟨outcome, taken, comes, _⟩ := step.parser_steady cursor closed
  have runs (other : Cursor) (agrees : cursor.Agrees other (taken + 3)) :
      step.run other = (outcome, other.past taken) := by
    rw [Step.run, comes.same other agrees]
    cases outcome <;> rfl
  have here := runs cursor (Cursor.Agrees.refl closed _)
  refine ⟨taken, congrArg Prod.snd here, comes.clear, fun other agrees => ?_⟩
  rw [runs other agrees, here]

namespace Cursor

/-- Steps in turn go by the tokens that they take and the next three. By induction on the steps: what
a step looks at lies no further than what the session comes to look at. -/
theorem afterSteps_near {cursor : Cursor} (closed : cursor.close.kind = .finish)
    (steps : List Step) : ∃ taken, cursor.afterSteps steps = cursor.past taken ∧
      cursor.Clear taken ∧ ∀ other, cursor.Agrees other (taken + 3) →
        other.afterSteps steps = other.past taken := by
  induction steps generalizing cursor with
  | nil => exact ⟨0, cursor.past_zero.symm, cursor.clear_zero, fun other _ => other.past_zero.symm⟩
  | cons step steps inductionHypothesis =>
      obtain ⟨front, stopped, clear, near⟩ := step.run_near closed
      have closedBehind : (cursor.past front).close.kind = .finish := closed
      obtain ⟨back, rest, clearBehind, nearBehind⟩ := inductionHypothesis closedBehind
      refine ⟨front + back, ?_, clear.append clearBehind, fun other agrees => ?_⟩
      · rw [← past_past, ← rest, ← stopped]
        rfl
      · have first : step.run other = ((step.run cursor).1, other.past front) :=
          near other (agrees.mono (by omega))
        have behind : (cursor.past front).Agrees (other.past front) (back + 3) :=
          Agrees.past (agrees.mono (by omega)) clear closed
        calc other.afterSteps (step :: steps)
            = (step.run other).2.afterSteps steps := rfl
          _ = (other.past front).afterSteps steps := by rw [first]
          _ = (other.past front).past back := nearBehind _ behind
          _ = other.past (front + back) := past_past ..

/-- Streams that start with the same tokens agree on them. Where one is shorter, they are the
same. -/
theorem atStart_agrees (source : List Char) {tokens others : List Token} {count : Nat}
    (same : tokens.take count = others.take count) :
    (atStart source tokens).Agrees (atStart source others) count := by
  have lengths := congrArg List.length same
  rw [List.length_take, List.length_take] at lengths
  by_cases short : tokens.length < count
  · have equal : tokens = others := by
      rwa [List.take_of_length_le (Nat.le_of_lt short),
        List.take_of_length_le (by omega)] at same
    exact equal ▸ Agrees.refl (atStart_closed source tokens) count
  · refine ⟨rfl, atStart_closed source others, fun places bound => ?_, ?_⟩
    · apply Option.some.inj
      calc some ((atStart source others).peek places)
          = others[places]? := (getElem?_eq_peek_atStart source (by omega)).symm
        _ = (others.take count)[places]? := (List.getElem?_take_of_lt bound).symm
        _ = (tokens.take count)[places]? := by rw [same]
        _ = tokens[places]? := List.getElem?_take_of_lt bound
        _ = some ((atStart source tokens).peek places) :=
          getElem?_eq_peek_atStart source (by omega)
    · intro span known
      rw [atStart_previous] at known
      cases known

end Cursor

/-- After any steps of a session on a stream, a step stops behind a number of tokens, by success or
failure. On every stream that starts with the same tokens, so many of them and three more, the same
steps lead to the same answer of the step, and it stops at the same place. -/
theorem Step.run_lookahead (source : List Char) (tokens others : List Token) (earlier : List Step)
    (step : Step) :
    let run := step.run ((Cursor.atStart source tokens).afterSteps earlier)
    let runToo := step.run ((Cursor.atStart source others).afterSteps earlier)
    tokens.take (run.2.consumed + 3) = others.take (run.2.consumed + 3) →
      runToo.1 = run.1 ∧ runToo.2.consumed = run.2.consumed := by
  intro run runToo same
  have closed : (Cursor.atStart source tokens).close.kind = .finish :=
    Cursor.atStart_closed source tokens
  obtain ⟨front, after, clear, near⟩ := Cursor.afterSteps_near closed earlier
  have closedBehind : ((Cursor.atStart source tokens).past front).close.kind = .finish := closed
  obtain ⟨back, stopped, _, nearBehind⟩ := step.run_near closedBehind
  have stop (stream : List Token) :
      (((Cursor.atStart source stream).past front).past back).consumed = front + back := by
    rw [Cursor.past_past, Cursor.past, Cursor.atStart_consumed, Nat.zero_add]
  have index : run.2.consumed = front + back := by
    simp only [run, after]
    rw [stopped, stop]
  rw [index] at same
  have agrees := Cursor.atStart_agrees source same
  have afterToo := near _ (agrees.mono (by omega))
  have behind := nearBehind _ (Cursor.Agrees.past (agrees.mono (by omega)) clear closed)
  constructor
  · simp only [runToo, run, after, afterToo, behind]
  · simp only [runToo, afterToo]
    rw [behind, index, stop]

/-- An expression with a query behind it, and with one that differs three places behind. -/
theorem Step.run_lookahead_sum :
    let sum : List TokenKind := [.integer 1, .symbol .plus, .integer 2, .symbol .semicolon]
    let kinds : List TokenKind := sum ++ [TokenKind.keyword .SELECT, .integer 3, .finish]
    let others : List TokenKind :=
      sum ++ [TokenKind.keyword .SELECT, .integer 3, .symbol .star, .finish]
    let stream (kinds : List TokenKind) : List Token := kinds.map (⟨·, .point 0⟩)
    let run := Step.expression.run (Cursor.atStart [] (stream kinds))
    let runToo := Step.expression.run (Cursor.atStart [] (stream others))
    run.2.consumed = 3 ∧ stream kinds ≠ stream others ∧
      (stream kinds).take 6 = (stream others).take 6 ∧ runToo.1 = run.1 ∧
      runToo.2.consumed = 3 := by
  intro sum kinds others stream run runToo
  have stops : run.2.consumed = 3 := by decide +kernel
  have same : (stream kinds).take 6 = (stream others).take 6 := by decide
  have result := Step.run_lookahead [] (stream kinds) (stream others) [] .expression
  change (stream kinds).take (run.2.consumed + 3) = _ → _ ∧ runToo.2.consumed = run.2.consumed
    at result
  rw [stops] at result
  obtain ⟨answer, stop⟩ := result same
  exact ⟨stops, by decide, same, answer, stop⟩

end SqlTree
