import SqlTree.Proofs.Grammar.Independence
import SqlTree.Proofs.Routine.Statements

/-!
# Runs

A run of a routine goes from position to position, with a counter of the calls that are under way
and without a bound on its loops. What it does at each moment is recorded. Every run leaves the
counter as it was, passes no end of input, and is the only one from where it starts.
-/

namespace SqlTree

open SqlTree.Parser SqlTree.Grammar

/-- Where a run stands. -/
structure Position where
  cursor : Cursor
  /-- How many calls are under way. -/
  depth : Nat

/-- What a run does. -/
inductive Action where
  /-- Looks at what stands a number of places ahead. -/
  | look (places : Nat)
  /-- Looks at the source text of the current token. -/
  | text
  /-- Takes the current token. -/
  | take
  /-- Looks at the span of the last token that was taken. -/
  | lookBehind
  /-- Starts what stands behind the name of a rule. -/
  | enter
  /-- Goes on in a loop, behind a turn that started where so many tokens had been taken. -/
  | again (start : Nat)

/-- What a run does where it stands. -/
structure Moment where
  position : Position
  action : Action

/-- A run of a routine: where it starts and stops, its outcome, and what it does in between. A call
counts itself while it is under way, and fails where too many are. -/
inductive Code.Runs (code : Code) : {α : Type} → Routine α → List Span → (start : Position) →
    Except Failure α → (stop : Position) → List Moment → Prop where
  | pure {α : Type} (value : α) (spans : List Span) (start : Position) :
      code.Runs (.pure value) spans start (.ok value) start []
  | bindOk {α β : Type} {first : Routine α} {next : α → Routine β} {spans : List Span}
      {start between stop : Position} {value : α} {result : Except Failure β}
      {front back : List Moment} (early : code.Runs first spans start (.ok value) between front)
      (late : code.Runs (next value) spans between result stop back) :
      code.Runs (.bind first next) spans start result stop (front ++ back)
  | bindError {α β : Type} {first : Routine α} {next : α → Routine β} {spans : List Span}
      {start stop : Position} {failure : Failure} {log : List Moment}
      (early : code.Runs first spans start (.error failure) stop log) :
      code.Runs (.bind first next) spans start (.error failure) stop log
  | look {α : Type} (places : Nat) (answer : TokenKind → α) (spans : List Span)
      (start : Position) :
      code.Runs (.look places answer) spans start (.ok (answer (start.cursor.peek places).kind))
        start [⟨start, .look places⟩]
  | take {α : Type} (answer : TokenKind → α) (spans : List Span) (start : Position) :
      code.Runs (.take answer) spans start (.ok (answer start.cursor.current.kind))
        { start with cursor := start.cursor.advance } [⟨start, .take⟩]
  | text {α : Type} (answer : Option (List Char) → α) (spans : List Span) (start : Position) :
      code.Runs (.text answer) spans start (.ok (answer start.cursor.currentText?)) start
        [⟨start, .text⟩]
  | markAhead {α : Type} {places : Nat} {body : Routine α} {spans : List Span}
      {start stop : Position} {result : Except Failure α} {log : List Moment}
      (rest : code.Runs body ((start.cursor.peek places).span :: spans) start result stop log) :
      code.Runs (.markAhead places body) spans start result stop (⟨start, .look places⟩ :: log)
  | markBehind {α : Type} {body : Routine α} {spans : List Span} {start stop : Position}
      {result : Except Failure α} {log : List Moment}
      (rest : code.Runs body (start.cursor.previousSpan :: spans) start result stop log) :
      code.Runs (.markBehind body) spans start result stop (⟨start, .lookBehind⟩ :: log)
  | fail {α : Type} (cause : Cause) (place : List Span → Span) (spans : List Span)
      (start : Position) :
      code.Runs (.fail cause place : Routine α) spans start (.error ⟨cause, place spans⟩) start []
  | call {α : Type} {rule : Call α} {spans : List Span} {cursor stop : Cursor} {depth last : Nat}
      {result : Except Failure α} {log : List Moment} (allowed : depth < maximalNesting)
      (rest : code.Runs (code.body rule) [] ⟨cursor, depth + 1⟩ result ⟨stop, last⟩ log) :
      code.Runs (.call rule) spans ⟨cursor, depth⟩ result ⟨stop, last - 1⟩
        (⟨⟨cursor, depth + 1⟩, .enter⟩ :: log)
  | refuse {α : Type} (rule : Call α) (spans : List Span) (start : Position)
      (full : maximalNesting ≤ start.depth) :
      code.Runs (.call rule) spans start
        (.error ⟨.nestedTooDeeply, start.cursor.current.span⟩) start [⟨start, .look 0⟩]
  | loopError {σ : Type} {turn : σ → Routine (Option σ)} {state : σ} {spans : List Span}
      {start stop : Position} {failure : Failure} {log : List Moment}
      (last : code.Runs (turn state) spans start (.error failure) stop log) :
      code.Runs (.loop turn state) spans start (.error failure) stop log
  | loopLeave {σ : Type} {turn : σ → Routine (Option σ)} {state : σ} {spans : List Span}
      {start stop : Position} {log : List Moment}
      (last : code.Runs (turn state) spans start (.ok none) stop log) :
      code.Runs (.loop turn state) spans start (.ok state) stop log
  | loopAgain {σ : Type} {turn : σ → Routine (Option σ)} {state next : σ} {spans : List Span}
      {start between stop : Position} {result : Except Failure σ} {front back : List Moment}
      (early : code.Runs (turn state) spans start (.ok (some next)) between front)
      (late : code.Runs (.loop turn next) spans between result stop back) :
      code.Runs (.loop turn state) spans start result stop
        (front ++ ⟨between, .again start.cursor.consumed⟩ :: back)

namespace Cursor

/-- A cursor comes to another one by taking tokens, none of which ends the input. -/
structure Reaches (cursor other : Cursor) : Prop where
  past : ∃ count ≤ cursor.ahead.length, other = cursor.past count ∧
    ∀ places < count, (cursor.peek places).kind ≠ .finish

namespace Reaches

variable {cursor between other : Cursor}

theorem refl (cursor : Cursor) : cursor.Reaches cursor :=
  ⟨0, Nat.zero_le _, cursor.past_zero.symm, nofun⟩

theorem trans (first : cursor.Reaches between) (second : between.Reaches other) :
    cursor.Reaches other := by
  obtain ⟨count, inside, rfl, going⟩ := first
  obtain ⟨more, insideToo, rfl, goingToo⟩ := second
  have length : (cursor.past count).ahead.length = cursor.ahead.length - count :=
    List.length_drop
  refine ⟨count + more, by omega, cursor.past_past count more, fun places bound => ?_⟩
  by_cases early : places < count
  · exact going places early
  · have late := goingToo (places - count) (by omega)
    rwa [peek_past, Nat.add_sub_cancel' (Nat.le_of_not_lt early)] at late

theorem advance (cursor : Cursor) : cursor.Reaches cursor.advance := by
  obtain ⟨source, ahead, close, consumed, previous⟩ := cursor
  cases ahead with
  | nil => exact refl _
  | cons token ahead =>
      by_cases ends : token.kind = .finish
      · simpa [Cursor.advance, ends] using refl _
      · refine ⟨1, by simp, by simp [Cursor.advance, Cursor.past, ends], fun places bound => ?_⟩
        obtain rfl : places = 0 := Nat.lt_one_iff.mp bound
        exact ends

theorem close_eq (reaches : cursor.Reaches other) : other.close = cursor.close := by
  obtain ⟨count, _, rfl, _⟩ := reaches
  rfl

theorem consumed_le (reaches : cursor.Reaches other) : cursor.consumed ≤ other.consumed := by
  obtain ⟨count, _, rfl, _⟩ := reaches
  exact Nat.le_add_right _ count

/-- What was taken is no longer ahead. -/
theorem remaining (reaches : cursor.Reaches other) :
    other.consumed + other.ahead.length = cursor.consumed + cursor.ahead.length := by
  obtain ⟨count, inside, rfl, _⟩ := reaches
  simp only [Cursor.past, List.length_drop]
  omega

end Reaches

end Cursor

/-- The moments of a run lie between where it starts and where it stops, each behind those before
it. -/
structure Ordered (start stop : Cursor) (log : List Moment) : Prop where
  reaches : start.Reaches stop
  behind : ∀ moment ∈ log, start.Reaches moment.position.cursor
  before : ∀ moment ∈ log, moment.position.cursor.Reaches stop
  inTurn : log.Pairwise fun moment later => moment.position.cursor.Reaches later.position.cursor

namespace Ordered

variable {start between stop : Cursor} {front back log : List Moment} {position : Position}

theorem nil (start : Cursor) : Ordered start start [] :=
  ⟨.refl _, List.forall_mem_nil _, List.forall_mem_nil _, .nil⟩

theorem append (first : Ordered start between front) (second : Ordered between stop back) :
    Ordered start stop (front ++ back) where
  reaches := first.reaches.trans second.reaches
  behind moment found := by
    rcases List.mem_append.mp found with early | late
    · exact first.behind moment early
    · exact first.reaches.trans (second.behind moment late)
  before moment found := by
    rcases List.mem_append.mp found with early | late
    · exact (first.before moment early).trans second.reaches
    · exact second.before moment late
  inTurn := List.pairwise_append.mpr ⟨first.inTurn, second.inTurn, fun moment early later late =>
    (first.before moment early).trans (second.behind later late)⟩

/-- A moment at the start comes before the others. -/
theorem cons (action : Action) (rest : Ordered position.cursor stop log) :
    Ordered position.cursor stop (⟨position, action⟩ :: log) := by
  have first : Ordered position.cursor position.cursor [⟨position, action⟩] :=
    ⟨.refl _, by simp [Cursor.Reaches.refl], by simp [Cursor.Reaches.refl],
      List.pairwise_singleton _ _⟩
  exact first.append rest

end Ordered

namespace Code.Runs

variable {code : Code} {α : Type} {routine : Routine α} {spans : List Span}
  {start stop other : Position} {result outcome : Except Failure α} {log record : List Moment}

/-- A run leaves the counter of calls as it was, whether it succeeds or fails. -/
theorem depth_eq (run : code.Runs routine spans start result stop log) :
    stop.depth = start.depth := by
  induction run with
  | pure | look | take | text | fail | refuse => rfl
  | bindOk early late earlyHypothesis lateHypothesis => exact lateHypothesis.trans earlyHypothesis
  | bindError early inductionHypothesis => exact inductionHypothesis
  | markAhead rest inductionHypothesis => exact inductionHypothesis
  | markBehind rest inductionHypothesis => exact inductionHypothesis
  | call allowed rest inductionHypothesis =>
      exact congrArg (· - 1) inductionHypothesis
  | loopError last inductionHypothesis => exact inductionHypothesis
  | loopLeave last inductionHypothesis => exact inductionHypothesis
  | loopAgain early late earlyHypothesis lateHypothesis =>
      exact lateHypothesis.trans earlyHypothesis

/-- Never are more calls under way than may nest. -/
theorem depth_le (run : code.Runs routine spans start result stop log)
    (bound : start.depth ≤ maximalNesting) :
    ∀ moment ∈ log, moment.position.depth ≤ maximalNesting := by
  induction run with
  | pure | fail => exact List.forall_mem_nil _
  | look | take | text | refuse => simpa using bound
  | bindOk early late earlyHypothesis lateHypothesis =>
      intro moment found
      rcases List.mem_append.mp found with found | found
      · exact earlyHypothesis bound moment found
      · exact lateHypothesis (Nat.le_trans (Nat.le_of_eq early.depth_eq) bound) moment found
  | bindError early inductionHypothesis => exact inductionHypothesis bound
  | markAhead rest inductionHypothesis =>
      exact List.forall_mem_cons.mpr ⟨bound, inductionHypothesis bound⟩
  | markBehind rest inductionHypothesis =>
      exact List.forall_mem_cons.mpr ⟨bound, inductionHypothesis bound⟩
  | call allowed rest inductionHypothesis =>
      exact List.forall_mem_cons.mpr ⟨allowed, inductionHypothesis allowed⟩
  | loopError last inductionHypothesis => exact inductionHypothesis bound
  | loopLeave last inductionHypothesis => exact inductionHypothesis bound
  | loopAgain early late earlyHypothesis lateHypothesis =>
      have boundBetween := Nat.le_trans (Nat.le_of_eq early.depth_eq) bound
      intro moment found
      rcases List.mem_append.mp found with found | found
      · exact earlyHypothesis bound moment found
      · rcases List.mem_cons.mp found with rfl | found
        · exact boundBetween
        · exact lateHypothesis boundBetween moment found

/-- A run moves by taking tokens, and passes no end of input. -/
theorem ordered (run : code.Runs routine spans start result stop log) :
    Ordered start.cursor stop.cursor log := by
  induction run with
  | pure value spans start => exact .nil start.cursor
  | fail cause place spans start => exact .nil start.cursor
  | look places answer spans start => exact .cons _ (.nil start.cursor)
  | text answer spans start => exact .cons _ (.nil start.cursor)
  | refuse rule spans start full => exact .cons _ (.nil start.cursor)
  | take answer spans start =>
      have step : Ordered start.cursor start.cursor.advance [] :=
        ⟨.advance start.cursor, List.forall_mem_nil _, List.forall_mem_nil _, .nil⟩
      exact step.cons _
  | bindOk early late earlyHypothesis lateHypothesis => exact earlyHypothesis.append lateHypothesis
  | bindError early inductionHypothesis => exact inductionHypothesis
  | markAhead rest inductionHypothesis => exact inductionHypothesis.cons _
  | markBehind rest inductionHypothesis => exact inductionHypothesis.cons _
  | call allowed rest inductionHypothesis => exact inductionHypothesis.cons _
  | loopError last inductionHypothesis => exact inductionHypothesis
  | loopLeave last inductionHypothesis => exact inductionHypothesis
  | loopAgain early late earlyHypothesis lateHypothesis =>
      exact earlyHypothesis.append (lateHypothesis.cons _)

/-- There is one run at most from where a routine starts. -/
theorem unique (run : code.Runs routine spans start result stop log)
    (again : code.Runs routine spans start outcome other record) :
    result = outcome ∧ stop = other ∧ log = record := by
  induction run generalizing other record with
  | pure value spans start =>
      cases again
      exact ⟨rfl, rfl, rfl⟩
  | fail cause place spans start =>
      cases again
      exact ⟨rfl, rfl, rfl⟩
  | look places answer spans start =>
      cases again
      exact ⟨rfl, rfl, rfl⟩
  | text answer spans start =>
      cases again
      exact ⟨rfl, rfl, rfl⟩
  | take answer spans start =>
      cases again
      exact ⟨rfl, rfl, rfl⟩
  | refuse rule spans start full =>
      cases again with
      | call allowed rest => exact absurd allowed (Nat.not_lt.mpr full)
      | refuse => exact ⟨rfl, rfl, rfl⟩
  | bindOk early late earlyHypothesis lateHypothesis =>
      cases again with
      | bindOk earlyToo lateToo =>
          obtain ⟨same, rfl, rfl⟩ := earlyHypothesis earlyToo
          cases same
          obtain ⟨rfl, rfl, rfl⟩ := lateHypothesis lateToo
          exact ⟨rfl, rfl, rfl⟩
      | bindError earlyToo =>
          obtain ⟨same, _⟩ := earlyHypothesis earlyToo
          cases same
  | bindError early inductionHypothesis =>
      cases again with
      | bindOk earlyToo lateToo =>
          obtain ⟨same, _⟩ := inductionHypothesis earlyToo
          cases same
      | bindError earlyToo =>
          obtain ⟨same, rfl, rfl⟩ := inductionHypothesis earlyToo
          cases same
          exact ⟨rfl, rfl, rfl⟩
  | markAhead rest inductionHypothesis =>
      cases again with
      | markAhead restToo =>
          obtain ⟨rfl, rfl, rfl⟩ := inductionHypothesis restToo
          exact ⟨rfl, rfl, rfl⟩
  | markBehind rest inductionHypothesis =>
      cases again with
      | markBehind restToo =>
          obtain ⟨rfl, rfl, rfl⟩ := inductionHypothesis restToo
          exact ⟨rfl, rfl, rfl⟩
  | call allowed rest inductionHypothesis =>
      cases again with
      | call _ restToo =>
          obtain ⟨rfl, same, rfl⟩ := inductionHypothesis restToo
          cases same
          exact ⟨rfl, rfl, rfl⟩
      | refuse _ _ _ full => exact absurd allowed (Nat.not_lt.mpr full)
  | loopError last inductionHypothesis =>
      cases again with
      | loopError lastToo =>
          obtain ⟨same, rfl, rfl⟩ := inductionHypothesis lastToo
          cases same
          exact ⟨rfl, rfl, rfl⟩
      | loopLeave lastToo => cases (inductionHypothesis lastToo).1
      | loopAgain earlyToo lateToo => cases (inductionHypothesis earlyToo).1
  | loopLeave last inductionHypothesis =>
      cases again with
      | loopError lastToo => cases (inductionHypothesis lastToo).1
      | loopLeave lastToo =>
          obtain ⟨_, rfl, rfl⟩ := inductionHypothesis lastToo
          exact ⟨rfl, rfl, rfl⟩
      | loopAgain earlyToo lateToo => cases (inductionHypothesis earlyToo).1
  | loopAgain early late earlyHypothesis lateHypothesis =>
      cases again with
      | loopError lastToo => cases (earlyHypothesis lastToo).1
      | loopLeave lastToo => cases (earlyHypothesis lastToo).1
      | loopAgain earlyToo lateToo =>
          obtain ⟨same, rfl, rfl⟩ := earlyHypothesis earlyToo
          cases same
          obtain ⟨rfl, rfl, rfl⟩ := lateHypothesis lateToo
          exact ⟨rfl, rfl, rfl⟩

end Code.Runs

section Settling

variable {code : Code} {α σ : Type} {given : Rules → Prop} {known : Prop} {routine : Routine α}
  {depth : Nat}

/-- From everywhere a routine has a run with so many calls under way, which does what the routine
does by the rules of the levels that are left. -/
def Code.Settles (code : Code) (routine : Routine α) (depth : Nat) : Prop :=
  ∀ (spans : List Span) (cursor : Cursor), cursor.close.kind = .finish →
    ∃ result stop log, code.Runs routine spans ⟨cursor, depth⟩ result ⟨stop, depth⟩ log ∧
      routine.parser (rules (maximalNesting - depth)) spans cursor = settled result stop

/-- A routine moves by the rules of every level, if it does so by all that may be given. -/
theorem Routine.Moves.of_run {moves : α → Prop} (moved : routine.Moves given moves)
    (isGiven : given (rules (maximalNesting - depth))) {spans : List Span} {cursor stop : Cursor}
    {value : α} (closed : cursor.close.kind = .finish)
    (same : routine.parser (rules (maximalNesting - depth)) spans cursor
      = settled (.ok value) stop) (found : moves value) : cursor.consumed < stop.consumed :=
  moved _ isGiven (rules_areSteady _) spans cursor stop value closed same found

/-- A loop settles, because the tokens ahead get fewer with every turn behind which it goes on. The
bound on the turns of the parser has no say. -/
theorem Code.Settles.loop {turn : σ → Routine (Option σ)}
    (turns : ∀ state, code.Settles (turn state) depth)
    (moves : ∀ state, (turn state).Moves given (·.isSome = true))
    (isGiven : given (rules (maximalNesting - depth))) (start : σ) :
    code.Settles (.loop turn start) depth := by
  intro spans cursor closed
  suffices settles : ∃ result stop log,
      code.Runs (.loop turn start) spans ⟨cursor, depth⟩ result ⟨stop, depth⟩ log ∧
        ∀ fuel, cursor.ahead.length < fuel →
          Parser.turns (fun state => (turn state).parser (rules (maximalNesting - depth)) spans)
            fuel start cursor = settled result stop by
    obtain ⟨result, stop, log, run, same⟩ := settles
    exact ⟨result, stop, log, run, same _ (Nat.lt_succ_self _)⟩
  generalize bound : cursor.ahead.length = size
  induction size using Nat.strongRecOn generalizing cursor start with
  | ind size inductionHypothesis =>
      obtain ⟨result, between, front, early, same⟩ := turns start spans cursor closed
      have enough {fuel : Nat} (more : size < fuel) : ∃ less, fuel = less + 1 :=
        Nat.exists_eq_succ_of_ne_zero (Nat.ne_zero_of_lt more)
      cases result with
      | error failure =>
          refine ⟨_, between, front, .loopError early, fun fuel more => ?_⟩
          obtain ⟨fuel, rfl⟩ := enough more
          exact bind_of_error same
      | ok state =>
          cases state with
          | none =>
              refine ⟨_, between, front, .loopLeave early, fun fuel more => ?_⟩
              obtain ⟨fuel, rfl⟩ := enough more
              exact bind_of_ok same
          | some next =>
              have reaches : cursor.Reaches between := early.ordered.reaches
              have moved : cursor.consumed < between.consumed :=
                (moves start).of_run isGiven closed same rfl
              have closedToo : between.close.kind = .finish := by rwa [reaches.close_eq]
              have fewer : between.ahead.length < size := by
                have remaining := reaches.remaining
                omega
              obtain ⟨result, stop, back, late, rest⟩ :=
                inductionHypothesis _ fewer next between closedToo rfl
              refine ⟨result, stop, _, .loopAgain early late, fun fuel more => ?_⟩
              obtain ⟨fuel, rfl⟩ := enough more
              exact (bind_of_ok same).trans (rest fuel (by omega))

/-- A sound routine settles, if the calls of its rules do. -/
theorem Code.Settles.of_calls (calls : ∀ {α : Type} (rule : Call α), code.Settles (.call rule) depth)
    (isGiven : given (rules (maximalNesting - depth))) (sound : routine.Sound given known) :
    code.Settles routine depth := by
  induction routine generalizing known with
  | pure value => exact fun spans cursor _ => ⟨_, _, _, .pure value spans _, rfl⟩
  | look places answer => exact fun spans cursor _ => ⟨_, _, _, .look places answer spans _, rfl⟩
  | take answer => exact fun spans cursor _ => ⟨_, _, _, .take answer spans _, rfl⟩
  | text answer => exact fun spans cursor _ => ⟨_, _, _, .text answer spans _, rfl⟩
  | fail cause place => exact fun spans cursor _ => ⟨_, _, _, .fail cause place spans _, rfl⟩
  | call rule => exact calls rule
  | markAhead places body inductionHypothesis =>
      intro spans cursor closed
      obtain ⟨result, stop, log, run, same⟩ := inductionHypothesis sound _ cursor closed
      exact ⟨result, stop, _, .markAhead run, same⟩
  | markBehind body inductionHypothesis =>
      intro spans cursor closed
      obtain ⟨result, stop, log, run, same⟩ := inductionHypothesis sound.2 _ cursor closed
      exact ⟨result, stop, _, .markBehind run, same⟩
  | bind first next firstHypothesis nextHypothesis =>
      obtain ⟨firstSound, _, _, nextSound⟩ := sound
      intro spans cursor closed
      obtain ⟨result, between, front, early, same⟩ := firstHypothesis firstSound spans cursor closed
      cases result with
      | error failure => exact ⟨_, between, front, .bindError early, bind_of_error same⟩
      | ok value =>
          have closedToo : between.close.kind = .finish := by
            rwa [early.ordered.reaches.close_eq]
          obtain ⟨result, stop, back, late, rest⟩ :=
            nextHypothesis value (nextSound value) spans between closedToo
          exact ⟨result, stop, _, .bindOk early late, (bind_of_ok same).trans rest⟩
  | loop turn start inductionHypothesis =>
      exact .loop (fun state => inductionHypothesis state (sound state).1)
        (fun state => (sound state).2) isGiven start

/-- A rule of a level does what stands behind its name, by the rules of the next level. -/
theorem Call.parser_succ (rule : Call α) (levels : Nat) :
    rule.parser (rules (levels + 1)) = rule.rule (rules levels) := by
  cases rule <;> rfl

/-- Where no level is left, a call fails at the current token. -/
theorem Call.parser_zero (rule : Call α) (cursor : Cursor) : rule.parser (rules 0) cursor
    = settled (.error ⟨.nestedTooDeeply, cursor.current.span⟩) cursor := by
  cases rule <;> rfl

/-- A call settles, by the calls that it makes one level deeper. -/
theorem Code.Settles.call (rule : Call α) (bound : depth ≤ maximalNesting) :
    code.Settles (.call rule) depth := by
  obtain ⟨levels, left⟩ := Nat.exists_eq_add_of_le bound
  induction levels generalizing depth α with
  | zero =>
      intro spans cursor _
      have none : maximalNesting - depth = 0 := by omega
      have full : maximalNesting ≤ depth := by omega
      refine ⟨_, _, _, .refuse rule spans ⟨cursor, depth⟩ full, ?_⟩
      rw [none]
      exact rule.parser_zero cursor
  | succ levels inductionHypothesis =>
      intro spans cursor closed
      have allowed : depth < maximalNesting := by omega
      have more : maximalNesting - depth = maximalNesting - (depth + 1) + 1 := by omega
      have body : code.Settles (code.body rule) (depth + 1) :=
        .of_calls (fun inner => inductionHypothesis inner (by omega) (by omega)) trivial
          (code.body_sound rule)
      obtain ⟨result, stop, log, run, same⟩ := body [] cursor closed
      refine ⟨result, stop, _, .call allowed run, ?_⟩
      rw [code.parser_body] at same
      rw [more]
      exact (congrFun (rule.parser_succ _) cursor).trans same

/-- A sound routine settles, whatever number of calls is under way. -/
theorem Routine.Sound.settles (sound : routine.Sound given known)
    (isGiven : given (rules (maximalNesting - depth))) (bound : depth ≤ maximalNesting) :
    code.Settles routine depth :=
  .of_calls (fun rule => .call rule bound) isGiven sound

end Settling

/-- A moment keeps what a sound routine promises: a loop goes on only behind a token, and the last
token is asked for only where more have been taken than at the base. -/
structure Moment.Secure (base : Nat) (moment : Moment) : Prop where
  again : ∀ start, moment.action = .again start → start < moment.position.cursor.consumed
  behind : moment.action = .lookBehind → base < moment.position.cursor.consumed

namespace Code.Runs

variable {code : Code} {α : Type} {given : Rules → Prop} {known : Prop} {routine : Routine α}
  {spans : List Span} {start stop : Position} {result : Except Failure α} {log : List Moment}

/-- A run of a sound routine does what the routine does by the rules of the levels that are left. -/
theorem agrees (run : code.Runs routine spans start result stop log)
    (sound : routine.Sound given known) (isGiven : given (rules (maximalNesting - start.depth)))
    (bound : start.depth ≤ maximalNesting) (closed : start.cursor.close.kind = .finish) :
    routine.parser (rules (maximalNesting - start.depth)) spans start.cursor
      = settled result stop.cursor := by
  have settles : code.Settles routine start.depth := sound.settles isGiven bound
  obtain ⟨outcome, other, record, again, same⟩ := settles spans start.cursor closed
  obtain ⟨rfl, rfl, rfl⟩ := run.unique again
  exact same

/-- The moments of a run of a sound routine are secure. By induction on the run: what is known of
the tokens that were taken stays known, and a call knows nothing of them. -/
theorem secure (run : code.Runs routine spans start result stop log)
    (sound : routine.Sound given known) (isGiven : given (rules (maximalNesting - start.depth)))
    (bound : start.depth ≤ maximalNesting) (closed : start.cursor.close.kind = .finish) {base : Nat}
    (le : base ≤ start.cursor.consumed) (taken : known → base < start.cursor.consumed) :
    ∀ moment ∈ log, moment.Secure base := by
  induction run generalizing given known with
  | pure | fail => exact List.forall_mem_nil _
  | look | text | take | refuse => exact List.forall_mem_singleton.mpr ⟨nofun, nofun⟩
  | bindError early inductionHypothesis =>
      exact inductionHypothesis sound.1 isGiven bound closed le taken
  | markAhead rest inductionHypothesis =>
      exact List.forall_mem_cons.mpr
        ⟨⟨nofun, nofun⟩, inductionHypothesis sound isGiven bound closed le taken⟩
  | markBehind rest inductionHypothesis =>
      exact List.forall_mem_cons.mpr
        ⟨⟨nofun, fun _ => taken sound.1⟩, inductionHypothesis sound.2 isGiven bound closed le taken⟩
  | call allowed rest inductionHypothesis =>
      exact List.forall_mem_cons.mpr ⟨⟨nofun, nofun⟩,
        inductionHypothesis (code.body_sound _) trivial allowed closed le False.elim⟩
  | loopError last inductionHypothesis =>
      exact inductionHypothesis (sound _).1 isGiven bound closed le taken
  | loopLeave last inductionHypothesis =>
      exact inductionHypothesis (sound _).1 isGiven bound closed le taken
  | bindOk early late earlyHypothesis lateHypothesis =>
      obtain ⟨firstSound, moves, moved, nextSound⟩ := sound
      have same := early.agrees firstSound isGiven bound closed
      have reaches := early.ordered.reaches
      have depth := early.depth_eq
      have first := earlyHypothesis firstSound isGiven bound closed le taken
      refine List.forall_mem_append.mpr ⟨first, lateHypothesis (nextSound _) ?_ ?_ ?_ ?_ ?_⟩
      · rwa [depth]
      · rwa [depth]
      · rwa [reaches.close_eq]
      · exact Nat.le_trans le reaches.consumed_le
      · rintro (before | found)
        · exact Nat.lt_of_lt_of_le (taken before) reaches.consumed_le
        · exact Nat.lt_of_le_of_lt le (moved.of_run isGiven closed same found)
  | loopAgain early late earlyHypothesis lateHypothesis =>
      have same := early.agrees (sound _).1 isGiven bound closed
      have moved := (sound _).2.of_run isGiven closed same rfl
      have reaches := early.ordered.reaches
      have depth := early.depth_eq
      have first := earlyHypothesis (sound _).1 isGiven bound closed le taken
      refine List.forall_mem_append.mpr ⟨first, List.forall_mem_cons.mpr ⟨⟨?_, nofun⟩, ?_⟩⟩
      · rintro _ ⟨⟩
        exact moved
      · refine lateHypothesis sound ?_ ?_ ?_ ?_ ?_
        · rwa [depth]
        · rwa [depth]
        · rwa [reaches.close_eq]
        · exact Nat.le_trans le reaches.consumed_le
        · exact fun before => Nat.lt_of_lt_of_le (taken before) reaches.consumed_le

end Code.Runs

/-- A step of a session is what its run comes to, which starts with no call under way. -/
theorem Step.exists_run (code : Code) (step : Step) {cursor : Cursor}
    (closed : cursor.close.kind = .finish) :
    ∃ log, code.Runs (code.step step) [] ⟨cursor, 0⟩ (step.run cursor).1 ⟨(step.run cursor).2, 0⟩
      log := by
  have settles : code.Settles (code.step step) 0 :=
    (code.step_sound step).settles rfl (Nat.zero_le _)
  obtain ⟨result, stop, log, run, same⟩ := settles [] cursor closed
  have parsed : step.parser cursor = settled result stop := by
    rw [← same, Nat.sub_zero]
    exact congrFun (code.parser_step step []).symm cursor
  have outcome : step.run cursor = (result, stop) := by
    rw [Step.run, parsed]
    cases result <;> rfl
  rw [outcome]
  exact ⟨log, run⟩

end SqlTree
