import SqlTree.Proofs.Grammar.Batches

/-!
# Independence of the history of a session

A step of a session goes by what lies ahead of the cursor alone. Whatever the steps before it took,
answered or refused, it answers as on a fresh cursor over the tokens that are left.
-/

namespace SqlTree

open SqlTree.Parser

namespace Cursor

/-- A cursor at the start of a stream of tokens, which were read from a text. -/
def atStart (source : List Char) (tokens : List Token) : Cursor :=
  { ofTokens tokens with source }

/-- The tokens from the position on, with the one that closes the stream. -/
def stream (cursor : Cursor) : List Token := cursor.ahead ++ [cursor.close]

/-- The cursor that steps of a session leave, one after the other. -/
def afterSteps (cursor : Cursor) (steps : List Step) : Cursor :=
  steps.foldl (fun cursor step => (step.run cursor).2) cursor

theorem ofText_eq_atStart (text : String) : ofText text = atStart text.toList (tokenize text) := rfl

theorem ofTokens_eq_atStart (tokens : List Token) : ofTokens tokens = atStart [] tokens := by
  unfold atStart ofTokens
  split
  · rfl
  · split <;> rfl

/-- A stream is closed by an end of input, whatever its tokens are. -/
theorem atStart_closed (source : List Char) (tokens : List Token) :
    (atStart source tokens).close.kind = .finish := by
  unfold atStart ofTokens
  split
  · rfl
  · split
    · assumption
    · rfl

theorem atStart_consumed (source : List Char) (tokens : List Token) :
    (atStart source tokens).consumed = 0 := by
  unfold atStart ofTokens
  split
  · rfl
  · split <;> rfl

theorem atStart_previous (source : List Char) (tokens : List Token) :
    (atStart source tokens).previous = none := by
  unfold atStart ofTokens
  split
  · rfl
  · split <;> rfl

/-- Tokens that end with an end of input are the stream that they make. -/
theorem atStart_concat (source : List Char) (tokens : List Token) {close : Token}
    (closed : close.kind = .finish) :
    atStart source (tokens ++ [close]) = ⟨source, tokens, close, 0, none⟩ := by
  unfold atStart ofTokens
  simp [closed]

theorem stream_length (cursor : Cursor) : cursor.stream.length = cursor.ahead.length + 1 :=
  List.length_append

/-- A place ahead is a place of the stream, and those behind its end are its last. -/
theorem getElem?_stream (cursor : Cursor) (places : Nat) :
    cursor.stream[min places (cursor.stream.length - 1)]? = some (cursor.peek places) := by
  rw [stream_length, Nat.add_sub_cancel]
  by_cases inside : places < cursor.ahead.length
  · rw [Nat.min_eq_left (Nat.le_of_lt inside), stream, List.getElem?_append_left inside, peek,
      List.getElem?_eq_getElem inside, Option.getD_some]
  · have outside : cursor.ahead.length ≤ places := Nat.le_of_not_lt inside
    rw [Nat.min_eq_right outside, stream, List.getElem?_concat_length, peek,
      List.getElem?_eq_none outside, Option.getD_none]

/-- The tokens that a stream is made of stand at its front, with its closing end behind them if it
does not end with one. -/
theorem prefix_atStart (source : List Char) (tokens : List Token) :
    tokens <+: (atStart source tokens).stream := by
  unfold atStart ofTokens stream
  cases last : tokens.getLast? with
  | none => simp [List.getLast?_eq_none_iff.mp last]
  | some token =>
      obtain ⟨front, rfl⟩ := List.getLast?_eq_some_iff.mp last
      dsimp only
      by_cases ends : token.kind = .finish
      · simp [if_pos ends]
      · simp [if_neg ends]

/-- A token of a stream is what its start shows at that place. -/
theorem getElem?_eq_peek_atStart (source : List Char) {tokens : List Token} {places : Nat}
    (inside : places < tokens.length) :
    tokens[places]? = some ((atStart source tokens).peek places) := by
  have starts := prefix_atStart source tokens
  have shown := (atStart source tokens).getElem?_stream places
  have bound : places ≤ (atStart source tokens).stream.length - 1 :=
    Nat.le_sub_one_of_lt (Nat.lt_of_lt_of_le inside starts.length_le)
  rw [Nat.min_eq_left bound] at shown
  rw [← shown, List.getElem?_eq_getElem inside, starts.getElem inside, List.getElem?_eq_getElem]

section Past

variable {cursor : Cursor} {count : Nat}

/-- The tokens that are left make a fresh cursor, which knows nothing of those that were taken. -/
theorem atStart_drop_stream (closed : cursor.close.kind = .finish)
    (inside : count ≤ cursor.ahead.length) :
    atStart cursor.source (cursor.stream.drop count)
      = { cursor.past count with consumed := 0, previous := none } := by
  rw [stream, List.drop_append_of_le_length inside, atStart_concat _ _ closed]
  rfl

/-- A fresh cursor over the tokens that are left shows what the old one shows. -/
theorem atStart_drop_stream_agrees (closed : cursor.close.kind = .finish)
    (inside : count ≤ cursor.ahead.length) (places : Nat) :
    (atStart cursor.source (cursor.stream.drop count)).Agrees (cursor.past count) places := by
  rw [atStart_drop_stream closed inside]
  exact ⟨rfl, closed, fun _ _ => rfl, nofun⟩

end Past

end Cursor

/-- A step answers what its parser comes to. -/
theorem Step.parser_of_answered {step : Step} {cursor : Cursor} {answer : Answer}
    (answered : (step.run cursor).1 = .ok answer) :
    step.parser cursor = .ok answer (step.run cursor).2 := by
  unfold Step.run at answered ⊢
  cases parsed : step.parser cursor with
  | ok value stopped =>
      rw [parsed] at answered
      cases answered
      rfl
  | error failure stopped =>
      rw [parsed] at answered
      cases answered

/-- A step fails as its parser does. -/
theorem Step.parser_of_failed {step : Step} {cursor : Cursor} {failure : Failure}
    (failed : (step.run cursor).1 = .error failure) :
    step.parser cursor = .error failure (step.run cursor).2 := by
  unfold Step.run at failed ⊢
  cases parsed : step.parser cursor with
  | ok value stopped =>
      rw [parsed] at failed
      cases failed
  | error other stopped =>
      rw [parsed] at failed
      cases failed
      rfl

/-- A step takes tokens that may be taken. -/
theorem Step.run_past (step : Step) {cursor : Cursor} (closed : cursor.close.kind = .finish) :
    ∃ taken, (step.run cursor).2 = cursor.past taken ∧ cursor.Clear taken := by
  obtain ⟨outcome, taken, comes, _⟩ := step.parser_steady cursor closed
  refine ⟨taken, ?_, comes.clear⟩
  rw [Step.run, comes.run closed]
  cases outcome <;> rfl

/-- The steps of a session take tokens that may be taken, also those that fail. -/
theorem Cursor.afterSteps_past {cursor : Cursor} (closed : cursor.close.kind = .finish)
    (steps : List Step) :
    ∃ taken, cursor.afterSteps steps = cursor.past taken ∧ cursor.Clear taken := by
  induction steps generalizing cursor with
  | nil => exact ⟨0, (cursor.past_zero).symm, cursor.clear_zero⟩
  | cons step steps inductionHypothesis =>
      obtain ⟨front, stopped, clear⟩ := step.run_past closed
      have closedBehind : (cursor.past front).close.kind = .finish := closed
      obtain ⟨back, rest, clearBehind⟩ := inductionHypothesis closedBehind
      refine ⟨front + back, ?_, clear.append clearBehind⟩
      rw [← Cursor.past_past, ← rest, ← stopped]
      rfl

/-- The steps of a session leave a stream that is closed by an end of input. -/
theorem Cursor.afterSteps_closed {cursor : Cursor} (closed : cursor.close.kind = .finish)
    (steps : List Step) : (cursor.afterSteps steps).close.kind = .finish := by
  obtain ⟨taken, after, _⟩ := afterSteps_past closed steps
  rwa [after]

/-- Cursors that agree get the same answer from a step, and move by as many tokens. -/
theorem Step.run_of_agrees (step : Step) {cursor other : Cursor}
    (closed : cursor.close.kind = .finish) (agrees : ∀ places, cursor.Agrees other places) :
    (step.run other).1 = (step.run cursor).1 ∧ ∃ taken,
      (step.run cursor).2 = cursor.past taken ∧ (step.run other).2 = other.past taken := by
  obtain ⟨outcome, taken, comes, _⟩ := step.parser_steady cursor closed
  have here := comes.run closed
  have there := comes.same other (agrees _)
  rw [Step.run, Step.run, here, there]
  cases outcome with
  | ok answer => exact ⟨rfl, taken, rfl, rfl⟩
  | error failure => exact ⟨rfl, taken, rfl, rfl⟩

/-- After any steps of a session, failed ones among them, the next step answers as it does on a
fresh cursor over the tokens that are left of the stream, and moves by as many tokens. -/
theorem Step.run_afterSteps (source : List Char) (tokens : List Token) (steps : List Step)
    (step : Step) :
    let start := Cursor.atStart source tokens
    let now := start.afterSteps steps
    let fresh := Cursor.atStart source (start.stream.drop now.consumed)
    (step.run now).1 = (step.run fresh).1 ∧
      (step.run now).2.consumed = now.consumed + (step.run fresh).2.consumed := by
  intro start now fresh
  have closed : start.close.kind = .finish := Cursor.atStart_closed source tokens
  obtain ⟨taken, after, clear⟩ := Cursor.afterSteps_past closed steps
  have inside : taken ≤ start.ahead.length := clear.inside closed
  have index : now.consumed = taken := by
    change (start.afterSteps steps).consumed = taken
    rw [after, Cursor.past, Cursor.atStart_consumed, Nat.zero_add]
  have agrees (places : Nat) : fresh.Agrees now places := by
    have shown := Cursor.atStart_drop_stream_agrees closed inside places
    rwa [← after, ← index] at shown
  have closedFresh : fresh.close.kind = .finish := Cursor.atStart_closed source _
  obtain ⟨same, more, freshStopped, nowStopped⟩ := step.run_of_agrees closedFresh agrees
  refine ⟨same, ?_⟩
  rw [nowStopped, freshStopped, Cursor.past, Cursor.past, Cursor.atStart_consumed, Nat.zero_add]

end SqlTree
