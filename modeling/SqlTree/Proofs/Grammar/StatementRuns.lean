import Mathlib.Data.List.Forall2
import SqlTree.Proofs.Grammar.EntryPoints
import SqlTree.Proofs.Token.Tiling

/-!
# The tokens of each statement

A stream of tokens is a row of runs with semicolons around them. What the loop over statements reads
is one statement for each run: it starts at the first token of the run and ends at the last one, and
it would be read from the run alone.
-/

namespace SqlTree

open SqlTree.Parser SqlTree.Grammar

/-- The runs of tokens between semicolons, up to the end of the input, without the empty ones. -/
def statementRuns (tokens : List Token) : List (List Token) :=
  (tokens.splitOnP (·.kind.isTerminator)).filter (!·.isEmpty)

section StatementRuns

variable {tokens run : List Token} {token : Token}

/-- An end of a statement at the front belongs to no run. -/
theorem statementRuns_of_ends (ends : token.kind.isTerminator = true) (tokens : List Token) :
    statementRuns (token :: tokens) = statementRuns tokens := by
  rw [statementRuns, List.splitOnP_cons_eq_if_modifyHead, if_pos ends]
  rfl

/-- Ends of statements at the front belong to no run. -/
theorem statementRuns_of_all_end {front : List Token}
    (ends : ∀ token ∈ front, token.kind.isTerminator = true) (tokens : List Token) :
    statementRuns (front ++ tokens) = statementRuns tokens := by
  induction front with
  | nil => rfl
  | cons token front inductionHypothesis =>
      obtain ⟨first, others⟩ := List.forall_mem_cons.mp ends
      rw [List.cons_append, statementRuns_of_ends first, inductionHypothesis others]

/-- Tokens up to an end of a statement are the first run. -/
theorem statementRuns_append (nonempty : run ≠ [])
    (goes : ∀ token ∈ run, token.kind.isTerminator = false)
    (ends : token.kind.isTerminator = true) (tokens : List Token) :
    statementRuns (run ++ token :: tokens) = run :: statementRuns tokens := by
  rw [statementRuns, List.splitOnP_append_cons_of_forall_mem goes token ends, List.filter_cons,
    if_pos (by simpa using nonempty)]
  rfl

/-- The tokens of all runs are those that end no statement. -/
theorem flatten_statementRuns (tokens : List Token) :
    (statementRuns tokens).flatten = tokens.filter (!·.kind.isTerminator) := by
  rw [statementRuns, List.flatten_filter_not_isEmpty]
  induction tokens with
  | nil => rfl
  | cons token tokens inductionHypothesis =>
      rw [List.splitOnP_cons_eq_if_modifyHead]
      by_cases ends : token.kind.isTerminator = true
      · rw [if_pos ends, List.flatten_cons, List.nil_append, inductionHypothesis,
          List.filter_cons_of_neg (by simp [ends])]
      · obtain ⟨first, runs, split⟩ := List.exists_cons_of_ne_nil
          (List.splitOnP_ne_nil (fun token : Token => token.kind.isTerminator) tokens)
        rw [if_neg ends, List.filter_cons_of_pos (by simp [ends]), ← inductionHypothesis, split]
        rfl

/-- The first part of a split list stands at its front, and the others in it. -/
theorem parts_of_splitOnP (test : Token → Bool) (tokens : List Token) :
    ∃ first others, tokens.splitOnP test = first :: others ∧ first <+: tokens ∧
      ∀ part ∈ others, part <:+: tokens := by
  induction tokens with
  | nil => exact ⟨[], [], List.splitOnP_nil, List.prefix_rfl, by simp⟩
  | cons token tokens inductionHypothesis =>
      obtain ⟨first, others, split, front, inside⟩ := inductionHypothesis
      have behind {part : List Token} (within : part <:+: tokens) : part <:+: token :: tokens :=
        within.trans (List.suffix_cons token tokens).isInfix
      rw [List.splitOnP_cons_eq_if_modifyHead, split]
      by_cases found : test token = true
      · rw [if_pos found]
        refine ⟨[], first :: others, rfl, List.nil_prefix, ?_⟩
        rw [List.forall_mem_cons]
        exact ⟨behind front.isInfix, fun part among => behind (inside part among)⟩
      · rw [if_neg found]
        exact ⟨token :: first, others, rfl, (List.prefix_cons_inj token).mpr front,
          fun part among => behind (inside part among)⟩

/-- Every run stands in the stream. -/
theorem infix_of_mem_statementRuns (among : run ∈ statementRuns tokens) : run <:+: tokens := by
  obtain ⟨first, others, split, front, inside⟩ :=
    parts_of_splitOnP (fun token => token.kind.isTerminator) tokens
  have part := (List.mem_filter.mp among).1
  rw [split] at part
  rcases List.mem_cons.mp part with rfl | later
  · exact front.isInfix
  · exact inside run later

theorem ne_nil_of_mem_statementRuns (among : run ∈ statementRuns tokens) : run ≠ [] := by
  simpa using (List.mem_filter.mp among).2

end StatementRuns

/-- A statement was read from a run of tokens of a text, and is read from it alone. -/
structure LocatedStatement.ReadFrom (source : List Char) (close : Token)
    (located : LocatedStatement) (run : List Token) : Prop where
  /-- None of the tokens ends the input or is no token at all. -/
  plain : ∀ token ∈ run, token.kind.isPlain = true
  /-- The statement is located from the first token to the last one. -/
  span : ∃ first last, run.head? = some first ∧ run.getLast? = some last ∧
    located.span = first.span.merge last.span
  /-- Where no other tokens stand before the end of the input, the statement is the only one. -/
  alone : ∃ cursor : Cursor, cursor.source = source ∧ cursor.ahead = run ∧ cursor.close = close ∧
    cursor.Lists [located.statement]

/-- Only the token that closes a stream ends the input. -/
structure Cursor.EndsOnce (cursor : Cursor) : Prop where
  closed : cursor.close.kind = .finish
  going : ∀ token ∈ cursor.ahead, token.kind ≠ .finish

namespace Cursor.EndsOnce

variable {cursor : Cursor}

theorem past (endsOnce : cursor.EndsOnce) (count : Nat) : (cursor.past count).EndsOnce :=
  ⟨endsOnce.closed, fun token among => endsOnce.going token (List.mem_of_mem_drop among)⟩

/-- Where the input ends, nothing is left. -/
theorem stream_of_finish (endsOnce : cursor.EndsOnce) (ends : cursor.current.kind = .finish) :
    cursor.stream = [cursor.current] := by
  rw [stream, current, peek]
  cases ahead : cursor.ahead with
  | nil => rfl
  | cons token others =>
      rw [current, peek, ahead] at ends
      exact absurd ends (endsOnce.going token (by simp [ahead]))

end Cursor.EndsOnce

section Reading

variable {cursor stopped : Cursor} {statement : Statement} {located : LocatedStatement}
  {taken : Nat}

/-- A statement that ends behind some tokens is read from these tokens alone: the stream may be cut
before the semicolon, and has no tokens behind the statement where it ends with the input. -/
theorem statementBody_alone (endsOnce : cursor.EndsOnce)
    (parsed : statementBody cursor = .ok statement (cursor.past taken))
    (ends : (cursor.past taken).current.kind.isTerminator = true) :
    statementBody { cursor with ahead := cursor.ahead.take taken } =
      .ok statement ({ cursor with ahead := cursor.ahead.take taken }.past taken) := by
  by_cases inside : taken < cursor.ahead.length
  · have split : cursor.ahead = cursor.ahead.take taken ++
        cursor.ahead[taken] :: cursor.ahead.drop (taken + 1) := by
      rw [← List.drop_eq_getElem_cons inside, List.take_append_drop]
    have semicolon : cursor.ahead[taken].kind = .symbol .semicolon := by
      rw [Cursor.current_past, Cursor.peek,
        List.getElem?_eq_getElem inside, Option.getD_some] at ends
      exact (TokenKind.eq_of_isTerminator ends).resolve_left
        (endsOnce.going _ (List.getElem_mem inside))
    have cut : Cursor.Cut { cursor with ahead := cursor.ahead.take taken } cursor
        (cursor.ahead.drop (taken + 1)) :=
      ⟨rfl, endsOnce.closed, endsOnce.closed, _, semicolon, split⟩
    have alike := statementBody_blind cut
    generalize ran : statementBody { cursor with ahead := cursor.ahead.take taken } = result
      at alike
    rw [parsed] at alike
    cases alike with
    | ok _ cutBehind =>
        obtain ⟨takenToo, _, _, rfl, stops⟩ := cut.statementBody cutBehind ran parsed
        have consumed := congrArg Cursor.consumed stops
        obtain rfl : taken = takenToo := Nat.add_left_cancel consumed
        rfl
  · rw [List.take_of_length_le (Nat.le_of_not_lt inside)]
    exact parsed

/-- A cursor where a statement starts, or the input ends, skips no semicolon. -/
theorem Cursor.starts_here (closed : cursor.close.kind = .finish)
    (other : cursor.current.kind ≠ .symbol .semicolon) : cursor.Starts cursor :=
  ⟨skipSemicolons_of_ne closed other, skipSemicolons_of_ne closed other, closed⟩

/-- A statement whose body takes all tokens before the end of the input is the only one. -/
theorem lists_of_statementBody (closed : cursor.close.kind = .finish)
    (goes : cursor.current.kind.isTerminator = false)
    (parsed : statementBody cursor = .ok statement stopped)
    (ends : stopped.current.kind = .finish) (closedToo : stopped.close.kind = .finish) :
    cursor.Lists [statement] := by
  obtain ⟨going, other⟩ := TokenKind.ne_of_goes goes
  have otherBehind : stopped.current.kind ≠ .symbol .semicolon := by simp [ends]
  have ended : stopped.current.kind.isTerminator = true := by rw [ends]; rfl
  have eaten : eatSymbol .semicolon stopped = .ok false stopped := if_neg otherBehind
  have read := locatedStatement_of_ok closed goes parsed ended eaten
  have starts := Cursor.starts_here closed other
  have startsBehind := Cursor.starts_here closedToo otherBehind
  rw [starts.lists_of_ok going read]
  exact ⟨[], Cursor.lists_nil.mpr (startsBehind.run_finish.mpr ends), rfl⟩

/-- A stream is what was taken of it and the stream behind. -/
theorem Cursor.stream_eq_append (cursor : Cursor) (count : Nat) :
    cursor.stream = cursor.ahead.take count ++ (cursor.past count).stream := by
  rw [stream, stream, past, ← List.append_assoc, List.take_append_drop]

/-- Tokens that may be taken are plain. -/
theorem Cursor.Clear.plain (clear : cursor.Clear taken) :
    ∀ token ∈ cursor.ahead.take taken, token.kind.isPlain = true := by
  intro token among
  obtain ⟨places, bound, rfl⟩ := List.mem_take_iff_getElem.mp among
  have inside : places < cursor.ahead.length := by omega
  have plain := clear places (by omega)
  rwa [Cursor.peek, List.getElem?_eq_getElem inside, Option.getD_some] at plain

/-- From the current token to the last one behind the cursor where some were taken. -/
theorem Cursor.exists_first_last (positive : 0 < taken) (inside : taken ≤ cursor.ahead.length) :
    ∃ first last, (cursor.ahead.take taken).head? = some first ∧
      (cursor.ahead.take taken).getLast? = some last ∧ cursor.current = first ∧
      (cursor.past taken).previousSpan = last.span := by
  have length : (cursor.ahead.take taken).length = taken := List.length_take_of_le inside
  have nonempty : cursor.ahead.take taken ≠ [] := by
    intro empty
    rw [empty, List.length_nil] at length
    omega
  have last := List.getLast?_eq_some_getLast nonempty
  refine ⟨cursor.current, _, ?_, last, rfl, ?_⟩
  · rw [List.head?_take, if_neg (Nat.ne_of_gt positive), Cursor.current, Cursor.peek,
      List.head?_eq_getElem?, List.getElem?_eq_getElem (Nat.lt_of_lt_of_le positive inside)]
    rfl
  · rw [Cursor.previousSpan, Cursor.past, last]
    rfl

/-- The tokens that a statement takes end no statement. -/
theorem goes_of_statementBody (closed : cursor.close.kind = .finish)
    (parsed : statementBody cursor = .ok statement (cursor.past taken))
    (plain : ∀ token ∈ cursor.ahead.take taken, token.kind.isPlain = true) :
    ∀ token ∈ cursor.ahead.take taken, token.kind.isTerminator = false := by
  obtain ⟨takenToo, stops, others⟩ := statementBody_takes_no_semicolon closed parsed
  obtain rfl : taken = takenToo := Nat.add_left_cancel (congrArg Cursor.consumed stops)
  intro token among
  refine Bool.eq_false_iff.mpr fun ends => ?_
  rcases TokenKind.eq_of_isTerminator ends with finish | semicolon
  · exact (TokenKind.ne_of_isPlain (plain token among)).1 finish
  · exact others token among semicolon

/-- Behind an end of a statement stand the runs of the cursor that passes the semicolon. -/
theorem statementRuns_behind (endsOnce : cursor.EndsOnce)
    (ends : cursor.current.kind.isTerminator = true) {found : Bool}
    (eaten : eatSymbol .semicolon cursor = .ok found stopped) :
    ∃ others, cursor.stream = cursor.current :: others ∧
      statementRuns others = statementRuns stopped.stream := by
  rcases TokenKind.eq_of_isTerminator ends with finish | semicolon
  · have stream := endsOnce.stream_of_finish finish
    have stays : eatSymbol .semicolon cursor = .ok false cursor := if_neg (by simp [finish])
    rw [stays] at eaten
    cases eaten
    refine ⟨[], stream, ?_⟩
    rw [stream, statementRuns_of_ends ends]
  · have plain : cursor.current.kind.isPlain = true := by rw [semicolon]; rfl
    have inside := Cursor.lt_of_isPlain endsOnce.closed plain
    have moves : eatSymbol .semicolon cursor = .ok true cursor.advance := if_pos semicolon
    rw [moves, Cursor.advance_of_isPlain endsOnce.closed plain] at eaten
    cases eaten
    refine ⟨(cursor.past 1).stream, ?_, rfl⟩
    rw [cursor.stream_eq_append 1, List.take_one, List.head?_eq_getElem?,
      List.getElem?_eq_getElem inside, Cursor.current, Cursor.peek, List.getElem?_eq_getElem inside]
    rfl

/-- Where a statement starts, it is located in a run of tokens, behind which the next run starts. -/
theorem locatedStatement_run (endsOnce : cursor.EndsOnce)
    (goes : cursor.current.kind.isTerminator = false)
    (read : locatedStatement cursor = .ok located stopped) :
    ∃ run, located.ReadFrom cursor.source cursor.close run ∧
      statementRuns cursor.stream = run :: statementRuns stopped.stream := by
  have closed := endsOnce.closed
  obtain ⟨behind, found, parsed, ends, span, eaten⟩ := body_of_locatedStatement closed goes read
  obtain ⟨taken, rfl, clear, moved⟩ := statementBody_taking.stopped_of_ok closed parsed
  have inside := clear.inside closed
  have positive : 0 < taken := moved trivial
  obtain ⟨first, last, head, tail, rfl, previous⟩ := Cursor.exists_first_last positive inside
  refine ⟨cursor.ahead.take taken, ⟨clear.plain, ?_, ?_⟩, ?_⟩
  · exact ⟨_, last, head, tail, by rw [span, previous]⟩
  · refine ⟨{ cursor with ahead := cursor.ahead.take taken }, rfl, rfl, rfl, ?_⟩
    refine lists_of_statementBody closed ?_ (statementBody_alone endsOnce parsed ends) ?_ closed
    · rwa [Cursor.current, Cursor.peek, List.getElem?_take_of_lt positive]
    · rw [Cursor.current, Cursor.peek, Cursor.past, List.drop_eq_nil_of_le (List.length_take_le ..)]
      exact closed
  · obtain ⟨others, stream, runs⟩ := statementRuns_behind (endsOnce.past taken) ends eaten
    have nonempty : cursor.ahead.take taken ≠ [] := by
      intro empty
      rw [empty] at head
      cases head
    rw [cursor.stream_eq_append taken, stream, statementRuns_append nonempty
      (goes_of_statementBody closed parsed clear.plain) ends, runs]

end Reading

/-- What the loop over statements reads is a statement for each run of tokens between semicolons. By
induction on the turns: a turn skips the semicolons before a run and reads the run. -/
theorem Grammar.statementsWithin_runs {fuel : Nat} {cursor stopped : Cursor}
    {located : List LocatedStatement} (endsOnce : cursor.EndsOnce)
    (enough : cursor.ahead.length < fuel)
    (read : statementsWithin fuel cursor = .ok located stopped) :
    List.Forall₂ (LocatedStatement.ReadFrom cursor.source cursor.close) located
      (statementRuns cursor.stream) := by
  induction fuel generalizing cursor located with
  | zero => cases enough
  | succ fuel inductionHypothesis =>
      obtain ⟨count, _, skipped, semicolons, other⟩ := exists_skipSemicolons endsOnce.closed
      have endsThere := endsOnce.past count
      have starts : cursor.Starts (cursor.past count) :=
        ⟨skipped, skipSemicolons_of_ne endsThere.closed other, endsThere.closed⟩
      have passed : statementRuns cursor.stream = statementRuns (cursor.past count).stream := by
        rw [cursor.stream_eq_append count]
        refine statementRuns_of_all_end (fun token among => ?_) _
        rw [semicolons token among]
        rfl
      rw [passed]
      by_cases finish : (cursor.past count).current.kind = .finish
      · rw [starts.statementsWithin_of_finish finish] at read
        cases read
        have ends : (cursor.past count).current.kind.isTerminator = true := by rw [finish]; rfl
        rw [endsThere.stream_of_finish finish, statementRuns_of_ends ends]
        exact .nil
      · cases first : locatedStatement (cursor.past count) with
        | error failure behind =>
            rw [starts.statementsWithin_of_error finish first] at read
            cases read
        | ok item behind =>
            obtain ⟨taken, rfl, positive, room⟩ := starts.exists_past first
            rw [starts.statementsWithin_of_ok finish first] at read
            obtain ⟨others, last, rest, done⟩ := ok_of_bind_ok read
            cases done
            have goes : (cursor.past count).current.kind.isTerminator = false := by
              refine Bool.eq_false_iff.mpr fun ended => ?_
              exact other ((TokenKind.eq_of_isTerminator ended).resolve_left finish)
            obtain ⟨run, readFrom, runs⟩ := locatedStatement_run endsThere goes first
            have shorter : ((cursor.past count).past taken).ahead.length < fuel := by
              rw [Cursor.past, List.length_drop] at room ⊢
              rw [Cursor.past, List.length_drop]
              omega
            rw [runs]
            exact .cons readFrom (inductionHypothesis (endsThere.past taken) shorter rest)

end SqlTree
