import SqlTree.Proofs.Grammar.Batches
import SqlTree.Proofs.Grammar.BlindStatements
import SqlTree.Proofs.Grammar.Independence
import SqlTree.Proofs.Grammar.Sessions

/-!
# Batches compose at semicolons

A batch is read statement by statement. Because every statement is read blindly, what stands before
a semicolon is read as if the stream ended there; because every step is steady, what stands behind
it is read as if the stream started there.
-/

namespace SqlTree

open SqlTree.Parser SqlTree.Grammar

/-- The statements of a stream, if all of them are accepted. -/
def Cursor.accepted (cursor : Cursor) : Option (List Statement) :=
  (Grammar.statements.outcome cursor).toOption

/-- The statements that a run of the loop over statements holds, if it succeeded. -/
def LocatedStatement.accepted? : EStateM.Result Failure Cursor (List LocatedStatement) →
    Option (List Statement)
  | .ok located _ => some (located.map LocatedStatement.statement)
  | .error _ _ => none

namespace Grammar

section Skipping

variable {cursor : Cursor}

/-- Where no semicolon comes next, none is skipped. -/
theorem skipSemicolons_of_ne (closed : cursor.close.kind = .finish)
    (other : cursor.current.kind ≠ .symbol .semicolon) :
    skipSemicolons cursor = .ok () cursor := by
  have faces : cursor.Faces (cursor.ahead.map Token.kind) := ⟨closed, rfl⟩
  have skipped := Reads.noSemicolons (faces.current_kind ▸ other) cursor faces
  rwa [List.length_nil, Cursor.past_zero] at skipped

/-- A semicolon that comes next is skipped before the others. -/
theorem skipSemicolons_of_eq (closed : cursor.close.kind = .finish)
    (semicolon : cursor.current.kind = .symbol .semicolon) :
    skipSemicolons cursor = skipSemicolons (cursor.past 1) := by
  have plain : cursor.current.kind.isPlain = true := by rw [semicolon]; rfl
  have inside : 0 < cursor.ahead.length := Cursor.lt_of_isPlain closed plain
  obtain ⟨turns, length⟩ := Nat.exists_eq_succ_of_ne_zero (Nat.ne_of_gt inside)
  have eaten : eatSymbol .semicolon cursor = .ok true (cursor.past 1) := by
    rw [← Cursor.advance_of_isPlain closed plain]
    exact if_pos semicolon
  have lengthBehind : (cursor.past 1).ahead.length = turns := by
    rw [Cursor.past, List.length_drop, length]
    rfl
  unfold skipSemicolons manyAfter collect
  change (collectWithin _ (cursor.ahead.length + 1) >>= fun _ => pure ()) cursor =
    (collectWithin _ ((cursor.past 1).ahead.length + 1) >>= fun _ => pure ()) (cursor.past 1)
  rw [length, lengthBehind, collectWithin, bind_assoc]
  have turn : (do
      if ← eatSymbol .semicolon then return some (← pure ()) else return none : Parser _) cursor =
        .ok (some ()) (cursor.past 1) :=
    bind_of_ok eaten
  refine (bind_of_ok turn).trans ?_
  dsimp only
  rw [bind_assoc]
  rfl

end Skipping

section Starting

variable {cursor : Cursor}

/-- Where a statement starts, no semicolon is skipped. -/
theorem skipSemicolons_of_goes (closed : cursor.close.kind = .finish)
    (goes : cursor.current.kind.isTerminator = false) : skipSemicolons cursor = .ok () cursor :=
  skipSemicolons_of_ne closed (TokenKind.ne_of_goes goes).2

/-- Where a statement starts, the loop reads it and goes on behind it. -/
theorem statementsWithin_of_goes (closed : cursor.close.kind = .finish)
    (goes : cursor.current.kind.isTerminator = false) (fuel : Nat) :
    statementsWithin (fuel + 1) cursor =
      (do return (← locatedStatement) :: (← statementsWithin fuel) : Parser _) cursor := by
  have going : cursor.current.kind ≠ .finish := (TokenKind.ne_of_goes goes).1
  rw [statementsWithin, bind_of_ok (skipSemicolons_of_goes closed goes)]
  change (if cursor.current.kind = .finish then _ else _ : Parser _) cursor = _
  rw [if_neg going]

/-- Where a statement starts, its body is read first. -/
theorem locatedStatement_of_goes (closed : cursor.close.kind = .finish)
    (goes : cursor.current.kind.isTerminator = false) :
    locatedStatement cursor = (do
      let statement ← statementBody
      endOfStatement
      let span := cursor.current.span.merge (← previousSpan)
      let _ ← eatSymbol .semicolon
      return ⟨statement, span⟩ : Parser _) cursor := by
  rw [locatedStatement, bind_of_ok (skipSemicolons_of_goes closed goes)]
  rfl

/-- A statement that ends behind its body is located from its first token to its last. -/
theorem locatedStatement_of_ok (closed : cursor.close.kind = .finish)
    (goes : cursor.current.kind.isTerminator = false) {statement : Statement}
    {stopped next : Cursor} {found : Bool} (parsed : statementBody cursor = .ok statement stopped)
    (ends : stopped.current.kind.isTerminator = true)
    (eaten : eatSymbol .semicolon stopped = .ok found next) :
    locatedStatement cursor =
      .ok ⟨statement, cursor.current.span.merge stopped.previousSpan⟩ next := by
  have ended : endOfStatement stopped = .ok () stopped := by
    change (if stopped.current.kind.isTerminator = true then _ else _ : Parser _) stopped = _
    rw [if_pos ends]
    rfl
  refine (locatedStatement_of_goes closed goes).trans ((bind_of_ok parsed).trans ?_)
  refine (bind_of_ok ended).trans ?_
  change (eatSymbol .semicolon >>= _) stopped = _
  exact bind_of_ok eaten

/-- A located statement is a body with an end of the statement behind it. -/
theorem body_of_locatedStatement (closed : cursor.close.kind = .finish)
    (goes : cursor.current.kind.isTerminator = false) {located : LocatedStatement} {next : Cursor}
    (read : locatedStatement cursor = .ok located next) :
    ∃ stopped found, statementBody cursor = .ok located.statement stopped ∧
      stopped.current.kind.isTerminator = true ∧
      located.span = cursor.current.span.merge stopped.previousSpan ∧
      eatSymbol .semicolon stopped = .ok found next := by
  rw [locatedStatement_of_goes closed goes] at read
  obtain ⟨statement, stopped, parsed, behind⟩ := ok_of_bind_ok read
  obtain ⟨_, between, ended, more⟩ := ok_of_bind_ok behind
  change (if stopped.current.kind.isTerminator = true then _ else _ : Parser _) stopped = _ at ended
  split at ended
  · next ends =>
      cases ended
      change (eatSymbol .semicolon >>= _) stopped = _ at more
      obtain ⟨found, last, eaten, done⟩ := ok_of_bind_ok more
      cases done
      exact ⟨stopped, found, parsed, ends, rfl, eaten⟩
  · cases ended

end Starting

end Grammar

namespace Cursor

variable {cursor stopped : Cursor} {statement : Statement} {failure : Failure}

/-- What a stream holds is read by the loop over statements, with enough turns. -/
theorem accepted_eq (closed : cursor.close.kind = .finish) {fuel : Nat}
    (enough : cursor.ahead.length < fuel) :
    cursor.accepted = LocatedStatement.accepted? (statementsWithin fuel cursor) := by
  have settles : Settles statementsWithin cursor :=
    statementsWithin_settles closed (Nat.lt_succ_self _)
  rw [settles.run_eq closed enough (Nat.lt_succ_self _), accepted, outcome]
  cases read : statementsWithin (cursor.ahead.length + 1) cursor with
  | ok located behind =>
      have run : Grammar.statements cursor =
          .ok (located.map LocatedStatement.statement) behind := by
        rw [statements_eq]
        exact bind_of_ok read
      rw [run]
      rfl
  | error failure behind =>
      have run : Grammar.statements cursor = .error failure behind := by
        rw [statements_eq]
        change (statementsWithin _ >>= _) cursor = _
        exact bind_of_error read
      rw [run]
      rfl

/-- At the end of the input there are no more statements. -/
theorem accepted_of_finish (closed : cursor.close.kind = .finish)
    (ends : cursor.current.kind = .finish) : cursor.accepted = some [] := by
  have skipped : skipSemicolons cursor = .ok () cursor :=
    skipSemicolons_of_ne closed (by rw [ends]; nofun)
  rw [accepted_eq closed (Nat.lt_succ_self _), statementsWithin, bind_of_ok skipped]
  change LocatedStatement.accepted? ((if cursor.current.kind = .finish then _ else _ : Parser _)
    cursor) = _
  rw [if_pos ends]
  rfl

/-- A semicolon that comes next is passed. -/
theorem accepted_of_semicolon (closed : cursor.close.kind = .finish)
    (semicolon : cursor.current.kind = .symbol .semicolon) :
    cursor.accepted = (cursor.past 1).accepted := by
  have closedBehind : (cursor.past 1).close.kind = .finish := closed
  have shorter : (cursor.past 1).ahead.length < cursor.ahead.length + 1 := by
    rw [past, List.length_drop]
    omega
  rw [accepted_eq closed (Nat.lt_succ_self _), accepted_eq closedBehind shorter, statementsWithin]
  exact congrArg _ (bind_congr (skipSemicolons_of_eq closed semicolon))

/-- Where a statement is not accepted, the stream is not. -/
theorem accepted_of_error (closed : cursor.close.kind = .finish)
    (goes : cursor.current.kind.isTerminator = false)
    (failed : statementBody cursor = .error failure stopped) : cursor.accepted = none := by
  have located : locatedStatement cursor = .error failure stopped :=
    (locatedStatement_of_goes closed goes).trans (bind_of_error failed)
  rw [accepted_eq closed (Nat.lt_succ_self _), statementsWithin_of_goes closed goes,
    bind_of_error located]
  rfl

/-- Where a statement does not end behind its body, the stream is not accepted. -/
theorem accepted_of_open (closed : cursor.close.kind = .finish)
    (goes : cursor.current.kind.isTerminator = false)
    (parsed : statementBody cursor = .ok statement stopped)
    (more : stopped.current.kind.isTerminator = false) : cursor.accepted = none := by
  have refused : endOfStatement stopped = .error ⟨.unexpected .endOfStatement stopped.current.kind,
      stopped.current.span⟩ stopped := by
    change (if stopped.current.kind.isTerminator = true then _ else _ : Parser _) stopped = _
    rw [if_neg (Bool.eq_false_iff.mp more)]
    rfl
  have located := (locatedStatement_of_goes closed goes).trans
    ((bind_of_ok parsed).trans (bind_of_error refused))
  rw [accepted_eq closed (Nat.lt_succ_self _), statementsWithin_of_goes closed goes,
    bind_of_error located]
  rfl

/-- The semicolon that ends a statement has no say in what follows. -/
theorem accepted_behind (closed : cursor.close.kind = .finish) :
    ∃ found next, eatSymbol .semicolon cursor = .ok found next ∧ next.close.kind = .finish ∧
      next.ahead.length ≤ cursor.ahead.length ∧ next.accepted = cursor.accepted := by
  by_cases semicolon : cursor.current.kind = .symbol .semicolon
  · have plain : cursor.current.kind.isPlain = true := by rw [semicolon]; rfl
    refine ⟨true, cursor.past 1, ?_, closed, ?_, (accepted_of_semicolon closed semicolon).symm⟩
    · rw [← advance_of_isPlain closed plain]
      exact if_pos semicolon
    · rw [past, List.length_drop]
      exact Nat.sub_le _ _
  · exact ⟨false, cursor, if_neg semicolon, closed, Nat.le_refl _, rfl⟩

/-- Behind a statement that ends, the stream goes on as if it started there. -/
theorem accepted_of_ok (closed : cursor.close.kind = .finish)
    (goes : cursor.current.kind.isTerminator = false)
    (parsed : statementBody cursor = .ok statement stopped)
    (ends : stopped.current.kind.isTerminator = true) :
    cursor.accepted = stopped.accepted.map (statement :: ·) := by
  obtain ⟨taken, rfl, clear, moved⟩ := statementBody_taking.stopped_of_ok closed parsed
  have closedBehind : (cursor.past taken).close.kind = .finish := closed
  obtain ⟨found, next, eaten, closedNext, shorter, same⟩ := accepted_behind closedBehind
  have located := locatedStatement_of_ok closed goes parsed ends eaten
  have enough : next.ahead.length < cursor.ahead.length := by
    have inside : taken ≤ cursor.ahead.length := clear.inside closed
    have positive : 0 < taken := moved trivial
    rw [past, List.length_drop] at shorter
    omega
  rw [← same, accepted_eq closedNext enough, accepted_eq closed (Nat.lt_succ_self _),
    statementsWithin_of_goes closed goes, bind_of_ok located]
  cases rest : statementsWithin cursor.ahead.length next with
  | ok others behind =>
      rw [bind_of_ok rest]
      rfl
  | error failure behind =>
      rw [bind_of_error rest]
      rfl

/-- A success of a statement on both sides of a cut takes the same tokens, all of them ahead of the
cut. -/
theorem Cut.statementBody {short long shortStopped longStopped : Cursor} {behind : List Token}
    (cut : short.Cut long behind) (cutBehind : shortStopped.Cut longStopped behind)
    (parsed : Grammar.statementBody short = .ok statement shortStopped)
    (parsedToo : Grammar.statementBody long = .ok statement longStopped) :
    ∃ taken, 0 < taken ∧ taken ≤ short.ahead.length ∧ shortStopped = short.past taken ∧
      longStopped = long.past taken := by
  obtain ⟨taken, rfl, clear, moved⟩ := statementBody_taking.stopped_of_ok cut.closed parsed
  obtain ⟨takenToo, rfl, clearToo, _⟩ := statementBody_taking.stopped_of_ok cut.closedToo parsedToo
  have inside := clear.inside cut.closed
  have insideToo := clearToo.inside cut.closedToo
  have lengths := cut.length_ahead
  have lengthsBehind := cutBehind.length_ahead
  rw [Cursor.past, Cursor.past, List.length_drop, List.length_drop] at lengthsBehind
  obtain rfl : takenToo = taken := by omega
  exact ⟨takenToo, moved trivial, inside, rfl, rfl⟩

/-- What stands before a semicolon is read as if the stream ended there, and what stands behind it
follows. -/
theorem accepted_of_cut {size : Nat} {short long : Cursor} {behind : List Token}
    (bound : short.ahead.length < size) (cut : short.Cut long behind)
    (going : ∀ token ∈ short.ahead, token.kind ≠ .finish) :
    long.accepted = short.accepted.bind fun front =>
      (long.past (short.ahead.length + 1)).accepted.map (front ++ ·) := by
  induction size generalizing short long with
  | zero => cases bound
  | succ size inductionHypothesis =>
      -- Behind tokens that were taken on both sides, what follows the cut is the same.
      have follows (taken : Nat) (positive : 0 < taken) (inside : taken ≤ short.ahead.length) :
          (long.past taken).accepted = (short.past taken).accepted.bind fun front =>
            (long.past (short.ahead.length + 1)).accepted.map (front ++ ·) := by
        have length : (short.past taken).ahead.length = short.ahead.length - taken := by
          rw [past, List.length_drop]
        have shorter : (short.past taken).ahead.length < size := by omega
        have goingBehind : ∀ token ∈ (short.past taken).ahead, token.kind ≠ .finish :=
          fun token among => going token (List.mem_of_mem_drop among)
        have reach : taken + ((short.past taken).ahead.length + 1) = short.ahead.length + 1 := by
          omega
        rw [inductionHypothesis shorter (cut.past inside) goingBehind, past_past, reach]
      by_cases ends : short.current.kind.isTerminator = true
      · by_cases empty : short.ahead.length = 0
        · obtain ⟨finish, semicolon⟩ := cut.peek_end
          rw [empty] at finish semicolon
          rw [accepted_of_finish cut.closed finish, accepted_of_semicolon cut.closedToo semicolon,
            empty]
          simp
        · have inside : 0 < short.ahead.length := Nat.pos_of_ne_zero empty
          have same : long.current = short.current := cut.peek_inside inside
          have semicolon : short.current.kind = .symbol .semicolon := by
            have among : short.current ∈ short.ahead := by
              rw [current, peek, List.getElem?_eq_getElem inside, Option.getD_some]
              exact List.getElem_mem inside
            exact (TokenKind.eq_of_isTerminator ends).resolve_left (going _ among)
          rw [accepted_of_semicolon cut.closed semicolon,
            accepted_of_semicolon cut.closedToo (same ▸ semicolon)]
          exact follows 1 Nat.one_pos inside
      · have goes : short.current.kind.isTerminator = false := Bool.eq_false_iff.mpr ends
        have goesToo : long.current.kind.isTerminator = false := by
          rw [cut.isTerminator_current, goes]
        have alike := statementBody_blind cut
        generalize ran : statementBody short = result, ranToo : statementBody long = resultToo
          at alike
        cases alike with
        | error failure failureToo stopped stoppedToo =>
            rw [accepted_of_error cut.closed goes ran,
              accepted_of_error cut.closedToo goesToo ranToo]
            rfl
        | ok statement cutBehind =>
            obtain ⟨taken, positive, inside, rfl, rfl⟩ := cut.statementBody cutBehind ran ranToo
            by_cases ended : (short.past taken).current.kind.isTerminator = true
            · have endedToo : (long.past taken).current.kind.isTerminator = true := by
                rw [cutBehind.isTerminator_current, ended]
              rw [accepted_of_ok cut.closed goes ran ended,
                accepted_of_ok cut.closedToo goesToo ranToo endedToo, follows taken positive inside]
              cases (short.past taken).accepted with
              | none => rfl
              | some front => cases (long.past (short.ahead.length + 1)).accepted <;> rfl
            · have more : (short.past taken).current.kind.isTerminator = false :=
                Bool.eq_false_iff.mpr ended
              have moreToo : (long.past taken).current.kind.isTerminator = false := by
                rw [cutBehind.isTerminator_current, more]
              rw [accepted_of_open cut.closed goes ran more,
                accepted_of_open cut.closedToo goesToo ranToo moreToo]
              rfl

/-- Cursors that agree accept the same statements. -/
theorem accepted_of_agrees {other : Cursor} (closed : cursor.close.kind = .finish)
    (agrees : ∀ count, cursor.Agrees other count) : other.accepted = cursor.accepted := by
  obtain ⟨outcome, taken, comes, _⟩ := statements_steady cursor closed
  rw [accepted, accepted, Parser.outcome, Parser.outcome, comes.run closed,
    comes.same other (agrees _)]
  cases outcome <;> rfl

theorem accepted_eq_some_iff {statements : List Statement} :
    cursor.accepted = some statements ↔ Grammar.statements.outcome cursor = .ok statements := by
  rw [accepted]
  cases Grammar.statements.outcome cursor with
  | ok value => exact Option.some_inj.trans (Except.ok.injEq value statements).to_iff.symm
  | error failure => exact ⟨nofun, nofun⟩

end Cursor

section Streams

variable {tokens front back : List Token}

namespace Cursor

theorem ofTokens_concat (tokens : List Token) (last : Token) :
    ofTokens (tokens ++ [last]) =
      if last.kind = .finish then ⟨[], tokens, last, 0, none⟩
      else ⟨[], tokens ++ [last], ⟨.finish, .point last.span.stop⟩, 0, none⟩ := by
  simp [ofTokens]

theorem ofTokens_source (tokens : List Token) : (ofTokens tokens).source = [] := by
  rw [ofTokens_eq_atStart]
  rfl

theorem ofTokens_closed (tokens : List Token) : (ofTokens tokens).close.kind = .finish := by
  rw [ofTokens_eq_atStart]
  exact atStart_closed [] tokens

theorem ofTokens_previous (tokens : List Token) : (ofTokens tokens).previous = none := by
  rcases List.eq_nil_or_concat tokens with rfl | ⟨tokens, last, rfl⟩
  · rfl
  · rw [List.concat_eq_append, ofTokens_concat]
    split <;> rfl

/-- Tokens none of which is an end of input are all ahead at the start. -/
theorem ofTokens_ahead (going : ∀ token ∈ tokens, token.kind ≠ .finish) :
    (ofTokens tokens).ahead = tokens := by
  rcases List.eq_nil_or_concat tokens with rfl | ⟨tokens, last, rfl⟩
  · rfl
  · rw [List.concat_eq_append] at going ⊢
    rw [ofTokens_concat, if_neg (going last (by simp))]

/-- More tokens at the front of a stream are ahead of the others. -/
theorem ofTokens_append (front : List Token) (nonempty : back ≠ []) :
    ofTokens (front ++ back) =
      { ofTokens back with ahead := front ++ (ofTokens back).ahead } := by
  rcases List.eq_nil_or_concat back with rfl | ⟨tokens, last, rfl⟩
  · exact absurd rfl nonempty
  · rw [List.concat_eq_append, ← List.append_assoc, ofTokens_concat, ofTokens_concat]
    split
    · rfl
    · rw [List.append_assoc]

section Parts

variable {first second : List Token} {semicolon : Token}

/-- In the stream of two parts with a semicolon between them, the second part is ahead as on its
own, behind the first one. -/
theorem ofTokens_parts_ahead (kind : semicolon.kind = .symbol .semicolon) :
    (ofTokens (first ++ semicolon :: second)).ahead =
      first ++ semicolon :: (ofTokens second).ahead := by
  by_cases empty : second = []
  · have apart : semicolon.kind ≠ .finish := by rw [kind]; nofun
    subst empty
    rw [ofTokens_concat, if_neg apart]
    rfl
  · rw [List.append_cons, ofTokens_append _ empty, List.append_assoc, List.singleton_append]

/-- Cut before the semicolon, the stream of two parts is the stream of the first part. -/
theorem ofTokens_cut (kind : semicolon.kind = .symbol .semicolon)
    (going : ∀ token ∈ first, token.kind ≠ .finish) :
    (ofTokens first).Cut (ofTokens (first ++ semicolon :: second)) (ofTokens second).ahead where
  source := by rw [ofTokens_source, ofTokens_source]
  closed := ofTokens_closed first
  closedToo := ofTokens_closed _
  ahead := ⟨semicolon, kind, by rw [ofTokens_parts_ahead kind, ofTokens_ahead going]⟩

/-- Behind the semicolon, the stream of two parts is read as the stream of the second part. -/
theorem accepted_past_semicolon (kind : semicolon.kind = .symbol .semicolon) :
    ((ofTokens (first ++ semicolon :: second)).past (first.length + 1)).accepted =
      (ofTokens second).accepted := by
  have ahead : ((ofTokens (first ++ semicolon :: second)).past (first.length + 1)).ahead =
      (ofTokens second).ahead := by
    simp only [past, ofTokens_parts_ahead kind]
    rw [List.append_cons]
    exact List.drop_left' (List.length_append ..)
  by_cases empty : second = []
  · -- The two ends of the input lie at different places, where they are read.
    subst empty
    have closed : ((ofTokens (first ++ [semicolon])).past (first.length + 1)).close.kind =
        .finish :=
      ofTokens_closed _
    have ends : ((ofTokens (first ++ [semicolon])).past (first.length + 1)).current.kind =
        .finish := by
      rw [current, peek, ahead]
      exact closed
    rw [accepted_of_finish closed ends, accepted_of_finish (ofTokens_closed _) rfl]
  · refine accepted_of_agrees (ofTokens_closed second) fun count => ?_
    have close : (ofTokens (first ++ semicolon :: second)).close = (ofTokens second).close := by
      rw [List.append_cons, ofTokens_append _ empty]
    refine ⟨?_, ofTokens_closed _, fun places _ => ?_, ?_⟩
    · rw [ofTokens_source]
      exact ofTokens_source _
    · rw [peek, peek, ahead]
      exact congrArg _ close
    · intro span known
      rw [ofTokens_previous] at known
      cases known

end Parts

end Cursor

end Streams

section Statements

variable {cursor stopped : Cursor} {statement : Statement}

/-- A statement takes no semicolon. -/
theorem statementBody_takes_no_semicolon (closed : cursor.close.kind = .finish)
    (parsed : statementBody cursor = .ok statement stopped) :
    ∃ taken, stopped = cursor.past taken ∧
      ∀ token ∈ cursor.ahead.take taken, token.kind ≠ .symbol .semicolon := by
  cases found : cursor.ahead.find? fun token => token.kind = .symbol .semicolon with
  | none =>
      obtain ⟨taken, stops, _⟩ := statementBody_taking.stopped_of_ok closed parsed
      refine ⟨taken, stops, fun token among => ?_⟩
      have other := List.find?_eq_none.mp found token (List.mem_of_mem_take among)
      exact fun semicolon => other (decide_eq_true semicolon)
  | some semicolon =>
      obtain ⟨kind, front, behind, ahead, before⟩ := List.find?_eq_some_iff_append.mp found
      -- The stream is cut before its first semicolon, so that the statement is taken ahead of it.
      have cut : Cursor.Cut { cursor with ahead := front } cursor behind :=
        ⟨rfl, closed, closed, semicolon, of_decide_eq_true kind, ahead⟩
      have alike := statementBody_blind cut
      generalize ran : statementBody { cursor with ahead := front } = result at alike
      rw [parsed] at alike
      cases alike with
      | ok _ cutBehind =>
          obtain ⟨taken, _, inside, _, stops⟩ := cut.statementBody cutBehind ran parsed
          refine ⟨taken, stops, fun token among => ?_⟩
          rw [ahead, List.take_append_of_le_length inside] at among
          simpa using before token (List.mem_of_mem_take among)

/-- Statements are accepted on both sides of a cut or on none, and are the same. -/
theorem statementBody_iff_of_cut {short long : Cursor} {behind : List Token}
    (cut : short.Cut long behind) :
    (∃ stopped, statementBody long = .ok statement stopped) ↔
      ∃ stopped, statementBody short = .ok statement stopped := by
  have alike := statementBody_blind cut
  generalize ran : statementBody short = result, ranToo : statementBody long = resultToo at alike
  cases alike with
  | ok value cut =>
      constructor <;>
      · rintro ⟨stopped, ⟨⟩⟩
        exact ⟨_, rfl⟩
  | error failure other stopped stoppedToo => exact ⟨nofun, nofun⟩

end Statements

/-- Every statement of a stream of tokens. -/
def statementsOf (tokens : List Token) : Except Failure (List Statement) :=
  Grammar.statements.outcome (.ofTokens tokens)

/-- Batches compose at semicolons: a stream of two parts is accepted just where both parts are, and
then its statements are those of the one part and those of the other. No statement takes a
semicolon, and a statement is read as if the stream ended before the semicolon, whatever was read
before and whatever is behind. -/
theorem statementsOf_append {first second : List Token} {semicolon : Token}
    (kind : semicolon.kind = .symbol .semicolon) (going : ∀ token ∈ first, token.kind ≠ .finish) :
    (∀ statements, statementsOf (first ++ semicolon :: second) = .ok statements ↔
      ∃ front back, statementsOf first = .ok front ∧ statementsOf second = .ok back ∧
        statements = front ++ back) ∧
    (∀ (cursor stopped : Cursor) (statement : Statement), cursor.close.kind = .finish →
      statementBody cursor = .ok statement stopped →
        ∃ taken, stopped = cursor.past taken ∧
          ∀ token ∈ cursor.ahead.take taken, token.kind ≠ .symbol .semicolon) ∧
    ∀ cursor : Cursor, cursor.source = [] → cursor.close.kind = .finish →
      cursor.ahead = first ++ semicolon :: second → ∀ statement,
        (∃ stopped, statementBody cursor = .ok statement stopped) ↔
          ∃ stopped, statementBody (.ofTokens first) = .ok statement stopped := by
  refine ⟨fun statements => ?_, fun _ _ _ => statementBody_takes_no_semicolon,
    fun cursor source closed ahead statement => ?_⟩
  · have composed : (Cursor.ofTokens (first ++ semicolon :: second)).accepted =
        (Cursor.ofTokens first).accepted.bind fun front =>
          (Cursor.ofTokens second).accepted.map (front ++ ·) := by
      rw [Cursor.accepted_of_cut (Nat.lt_succ_self _) (Cursor.ofTokens_cut kind going)
        (by rwa [Cursor.ofTokens_ahead going]), Cursor.ofTokens_ahead going,
        Cursor.accepted_past_semicolon kind]
    simp only [statementsOf, ← Cursor.accepted_eq_some_iff, composed, Option.bind_eq_some_iff,
      Option.map_eq_some_iff]
    constructor
    · rintro ⟨front, accepted, back, acceptedToo, rfl⟩
      exact ⟨front, back, accepted, acceptedToo, rfl⟩
    · rintro ⟨front, back, accepted, acceptedToo, rfl⟩
      exact ⟨front, accepted, back, acceptedToo, rfl⟩
  · have cut : (Cursor.ofTokens first).Cut cursor second := by
      refine ⟨?_, Cursor.ofTokens_closed first, closed, semicolon, kind, ?_⟩
      · rw [source, Cursor.ofTokens_source]
      · rw [ahead, Cursor.ofTokens_ahead going]
    exact statementBody_iff_of_cut cut

/-- The tokens of a statement that drops a sequence. -/
def dropTokens (name : String) : List Token :=
  [⟨.keyword .DROP, .point 0⟩, ⟨.keyword .SEQUENCE, .point 0⟩, ⟨.identifier name, .point 0⟩]

theorem statementsOf_append_drops :
    statementsOf (dropTokens "a" ++ ⟨.symbol .semicolon, .point 0⟩ :: dropTokens "b") =
        .ok [.dropSequence ⟨[.plain "a"], false, none⟩, .dropSequence ⟨[.plain "b"], false, none⟩] ∧
      ∃ stopped, statementBody
          (.ofTokens (dropTokens "a" ++ ⟨.symbol .semicolon, .point 0⟩ :: dropTokens "b")) =
        .ok (.dropSequence ⟨[.plain "a"], false, none⟩) stopped := by
  have going : ∀ token ∈ dropTokens "a", token.kind ≠ .finish := by
    intro token among
    simp only [dropTokens, List.mem_cons, List.not_mem_nil, or_false] at among
    rcases among with rfl | rfl | rfl <;> nofun
  obtain ⟨composes, _, independent⟩ :=
    @statementsOf_append (dropTokens "a") (dropTokens "b") ⟨.symbol .semicolon, .point 0⟩ rfl going
  refine ⟨(composes _).mpr ⟨[_], [_], rfl, rfl, rfl⟩, ?_⟩
  exact (independent (.ofTokens _) rfl rfl rfl _).mpr ⟨_, rfl⟩

end SqlTree
