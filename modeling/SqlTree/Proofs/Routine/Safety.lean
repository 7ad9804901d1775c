import SqlTree.Proofs.Routine.Runs

/-!
# Safety of the cursor

Whatever the code of a session looks at lies in the stream: the places ahead, which stop at the
closing end of input, and the last token taken, which is asked for only where the step itself took
one. The cursor goes forward alone, up to the first end of input.
-/

namespace SqlTree

open SqlTree.Parser SqlTree.Grammar

/-- What a run does at a moment of a step is safe, if the step starts where so many tokens of the
stream have been taken: every place ahead is one of the stream, no later than its last, and the last
token is asked for only where the step took it. -/
structure Moment.Safe (stream : List Token) (start : Nat) (moment : Moment) : Prop where
  ahead : ∀ places, stream[min (moment.position.cursor.consumed + places) (stream.length - 1)]?
    = some (moment.position.cursor.peek places)
  behind : moment.action = .lookBehind → start < moment.position.cursor.consumed ∧
    ∃ token, stream[moment.position.cursor.consumed - 1]? = some token ∧
      moment.position.cursor.previousSpan = token.span

namespace Cursor

/-- The index of the first end of input in the stream of a cursor. -/
def firstFinish (cursor : Cursor) : Nat := cursor.stream.findIdx (·.kind = .finish)

variable {cursor : Cursor} {count places : Nat}

/-- The first end of input is one of the tokens. -/
theorem firstFinish_lt (closed : cursor.close.kind = .finish) :
    cursor.firstFinish < cursor.stream.length := by
  apply List.findIdx_lt_length_of_exists
  exact ⟨cursor.close, by simp [stream], by simp [closed]⟩

/-- What a cursor reaches lies no further than the first end of input. -/
theorem le_firstFinish (inside : count ≤ cursor.ahead.length)
    (going : ∀ places < count, (cursor.peek places).kind ≠ .finish) :
    count ≤ cursor.firstFinish := by
  apply Nat.le_of_not_lt
  intro early
  have found : cursor.firstFinish < cursor.stream.length := by
    rw [stream_length]
    omega
  have ends := List.findIdx_getElem (w := found)
  have shown := cursor.getElem?_stream cursor.firstFinish
  rw [Nat.min_eq_left (by omega), List.getElem?_eq_getElem found, Option.some.injEq] at shown
  exact going _ early (shown ▸ of_decide_eq_true ends)

/-- The steps of a session take tokens, and pass no end of input. -/
theorem reaches_afterSteps (closed : cursor.close.kind = .finish) (steps : List Step) :
    cursor.Reaches (cursor.afterSteps steps) := by
  obtain ⟨taken, after, clear⟩ := afterSteps_past closed steps
  refine ⟨taken, clear.inside closed, after, fun places bound ends => ?_⟩
  have plain := clear places bound
  rw [ends] at plain
  cases plain

end Cursor

/-- From the start of a run over its moments to where it stops, the number of tokens taken never
gets less. -/
theorem Ordered.consumed_sorted {start stop : Cursor} {log : List Moment}
    (ordered : Ordered start stop log) :
    (start.consumed :: log.map (·.position.cursor.consumed) ++ [stop.consumed]).Pairwise
      (· ≤ ·) := by
  have moments : (log.map (·.position.cursor.consumed)).Pairwise (· ≤ ·) :=
    List.pairwise_map.mpr (ordered.inTurn.imp Cursor.Reaches.consumed_le)
  have untilStop : (log.map (·.position.cursor.consumed) ++ [stop.consumed]).Pairwise (· ≤ ·) := by
    refine List.pairwise_append.mpr ⟨moments, List.pairwise_singleton _ _, ?_⟩
    rw [List.forall_mem_map]
    intro moment found
    exact List.forall_mem_singleton.mpr (ordered.before moment found).consumed_le
  refine List.pairwise_cons.mpr ⟨List.forall_mem_append.mpr ⟨?_, ?_⟩, untilStop⟩
  · rw [List.forall_mem_map]
    exact fun moment found => (ordered.behind moment found).consumed_le
  · exact List.forall_mem_singleton.mpr ordered.reaches.consumed_le

/-- What a run does where the stream started is safe, if it asks for the last token only where the
step took one. -/
theorem Moment.safe_of_reaches {origin : Cursor} (fresh : origin.consumed = 0) {moment : Moment}
    (reaches : origin.Reaches moment.position.cursor) {start : Nat}
    (secure : moment.Secure start) : moment.Safe origin.stream start := by
  obtain ⟨count, inside, same, _⟩ := reaches
  have index : moment.position.cursor.consumed = count := by
    rw [same, Cursor.past, fresh, Nat.zero_add]
  constructor
  · intro places
    rw [index, same, Cursor.peek_past]
    exact origin.getElem?_stream (count + places)
  · intro asked
    have taken := secure.behind asked
    refine ⟨taken, origin.peek (count - 1), ?_, ?_⟩
    · rw [index, ← origin.getElem?_stream, Cursor.stream_length, Nat.min_eq_left (by omega)]
    · obtain ⟨less, rfl⟩ : ∃ less, count = less + 1 :=
        Nat.exists_eq_succ_of_ne_zero (by omega)
      rw [same, Cursor.previousSpan, Cursor.past_previous inside]
      rfl

/-- A statement that is read takes a token. -/
theorem Step.statement_takes {cursor : Cursor} (closed : cursor.close.kind = .finish)
    {answer : Answer} (read : (Step.statement.run cursor).1 = .ok answer) :
    cursor.consumed < (Step.statement.run cursor).2.consumed := by
  have taking : Taking Step.statement.parser := by
    rw [Step.parser, map_eq_pure_bind]
    exact statement_taking.bind fun _ => Steady.pure _
  obtain ⟨taken, stopped, _, moved⟩ := taking.stopped_of_ok closed (Step.parser_of_answered read)
  rw [stopped]
  exact Nat.lt_add_of_pos_right (moved trivial)

/-- Whatever tokens a stream is made of and whatever the steps before did, all that the code of the
next step does is safe in the stream: it starts where the steps before stopped, goes forward from
moment to moment, and stops no further than the first end of input, which is one of the tokens. A
statement that is read takes a token at least. -/
theorem Step.run_safe : Nonempty Code ∧ ∀ (code : Code) (source : List Char) (tokens : List Token)
    (earlier : List Step) (step : Step),
    let origin := Cursor.atStart source tokens
    let start := origin.afterSteps earlier
    let stop := (step.run start).2
    (∃ log, code.Runs (code.step step) [] ⟨start, 0⟩ (step.run start).1 ⟨stop, 0⟩ log ∧
      (∀ moment ∈ log, moment.Safe origin.stream start.consumed) ∧
      (start.consumed :: log.map (·.position.cursor.consumed) ++ [stop.consumed]).Pairwise
        (· ≤ ·)) ∧
    tokens <+: origin.stream ∧ origin.consumed = 0 ∧ stop.consumed ≤ origin.firstFinish ∧
    origin.firstFinish < origin.stream.length ∧
    ∀ answer, step = .statement → (step.run start).1 = .ok answer →
      start.consumed < stop.consumed := by
  refine ⟨inferInstance, fun code source tokens earlier step => ?_⟩
  intro origin start stop
  have fresh : origin.consumed = 0 := Cursor.atStart_consumed source tokens
  have closed : origin.close.kind = .finish := Cursor.atStart_closed source tokens
  have closedToo : start.close.kind = .finish := Cursor.afterSteps_closed closed earlier
  have reaches : origin.Reaches start := Cursor.reaches_afterSteps closed earlier
  obtain ⟨log, run⟩ := step.exists_run code closedToo
  have ordered : Ordered start stop log := run.ordered
  have secure := run.secure (code.step_sound step) rfl (Nat.zero_le _) closedToo (Nat.le_refl _)
    False.elim
  refine ⟨⟨log, run, fun moment found => ?_, ?_⟩, Cursor.prefix_atStart source tokens, fresh, ?_,
    Cursor.firstFinish_lt closed, ?_⟩
  · exact Moment.safe_of_reaches fresh (reaches.trans (ordered.behind moment found))
      (secure moment found)
  · exact ordered.consumed_sorted
  · obtain ⟨count, inside, same, going⟩ := reaches.trans ordered.reaches
    have index : stop.consumed = count := by
      rw [same, Cursor.past, fresh, Nat.zero_add]
    rw [index]
    exact Cursor.le_firstFinish inside going
  · rintro answer rfl read
    exact Step.statement_takes closedToo read

end SqlTree
