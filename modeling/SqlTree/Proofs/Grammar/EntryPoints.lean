import SqlTree.Proofs.Grammar.Concatenation

/-!
# Entry points

The statements of a text can be read at once, or one by one with a check that nothing is left. The
two ways agree: they accept the same texts with the same statements, and what is refused at once is
refused one by one, at the same statement and with the same failure. Semicolons are passed at
different places in the two ways, so that a turn of the loop is compared with a step behind the
semicolons that both pass.
-/

namespace SqlTree

open SqlTree.Parser SqlTree.Grammar

namespace Grammar

section Skipping

variable {cursor : Cursor}

/-- Semicolons are skipped up to a token that is none. -/
theorem exists_skipSemicolons (closed : cursor.close.kind = .finish) :
    ∃ count ≤ cursor.ahead.length, skipSemicolons cursor = .ok () (cursor.past count) ∧
      (∀ token ∈ cursor.ahead.take count, token.kind = .symbol .semicolon) ∧
      (cursor.past count).current.kind ≠ .symbol .semicolon := by
  generalize size : cursor.ahead.length = length
  induction length generalizing cursor with
  | zero =>
      have empty : cursor.ahead = [] := List.length_eq_zero_iff.mp size
      have ends : cursor.current.kind = .finish := by
        rw [Cursor.current, Cursor.peek, empty]
        exact closed
      have other : cursor.current.kind ≠ .symbol .semicolon := by simp [ends]
      refine ⟨0, Nat.le_refl 0, ?_, by simp, ?_⟩
      · rw [Cursor.past_zero, skipSemicolons_of_ne closed other]
      · rwa [Cursor.past_zero]
  | succ length inductionHypothesis =>
      by_cases semicolon : cursor.current.kind = .symbol .semicolon
      · obtain ⟨token, ahead, split⟩ := List.exists_cons_of_length_eq_add_one size
        have behind : (cursor.past 1).ahead = ahead := by rw [Cursor.past, split]; rfl
        have sizeBehind : (cursor.past 1).ahead.length = length := by
          rw [split, List.length_cons] at size
          rw [behind]
          exact Nat.succ.inj size
        have closedBehind : (cursor.past 1).close.kind = .finish := closed
        obtain ⟨count, inside, skipped, all, other⟩ := inductionHypothesis closedBehind sizeBehind
        rw [Cursor.past_past] at skipped other
        refine ⟨1 + count, by omega, ?_, ?_, other⟩
        · rw [skipSemicolons_of_eq closed semicolon, skipped]
        · rw [split, Nat.add_comm, List.take_succ_cons, List.forall_mem_cons, ← behind]
          rw [Cursor.current, Cursor.peek, split] at semicolon
          exact ⟨semicolon, all⟩
      · refine ⟨0, Nat.zero_le _, ?_, by simp, ?_⟩
        · rw [Cursor.past_zero, skipSemicolons_of_ne closed semicolon]
        · rwa [Cursor.past_zero]

end Skipping

end Grammar

/-- The outcomes of steps in turn. -/
def outcomes (steps : List Step) (cursor : Cursor) : List (Except Failure Answer) :=
  (runSteps steps cursor).map Prod.fst

/-- The outcomes of steps that read certain statements. -/
def answers (statements : List Statement) : List (Except Failure Answer) :=
  statements.map fun statement => .ok (.statement statement)

/-- Certain statements are read one by one, and nothing is left behind them. -/
def Cursor.Lists (cursor : Cursor) (statements : List Statement) : Prop :=
  outcomes (List.replicate statements.length .statement ++ [.finish]) cursor =
    answers statements ++ [.ok .nothing]

/-- Statements are read one by one up to one that fails. -/
def Cursor.FailsBehind (cursor : Cursor) (statements : List Statement) (failure : Failure) : Prop :=
  outcomes (List.replicate (statements.length + 1) .statement) cursor =
    answers statements ++ [.error failure]

namespace Cursor

variable {cursor behind stopped : Cursor} {statements : List Statement} {failure : Failure}
  {located : LocatedStatement}

/-- To list no statements is to find nothing but semicolons. -/
theorem lists_nil : cursor.Lists [] ↔ (Step.finish.run cursor).1 = .ok .nothing := by
  change [(Step.finish.run cursor).1] = [.ok .nothing] ↔ _
  rw [List.cons.injEq]
  exact and_iff_left rfl

/-- To list a statement before others is to read it first. -/
theorem lists_cons {statement : Statement} :
    cursor.Lists (statement :: statements) ↔
      (Step.statement.run cursor).1 = .ok (.statement statement) ∧
        (Step.statement.run cursor).2.Lists statements := by
  change _ :: outcomes (List.replicate _ _ ++ _) _ = _ :: (answers statements ++ _) ↔ _
  rw [List.cons.injEq]
  rfl

theorem failsBehind_nil : cursor.FailsBehind [] failure ↔
    (Step.statement.run cursor).1 = .error failure := by
  change [(Step.statement.run cursor).1] = [.error failure] ↔ _
  rw [List.cons.injEq]
  exact and_iff_left rfl

theorem failsBehind_cons {statement : Statement} :
    cursor.FailsBehind (statement :: statements) failure ↔
      (Step.statement.run cursor).1 = .ok (.statement statement) ∧
        (Step.statement.run cursor).2.FailsBehind statements failure := by
  change _ :: outcomes (List.replicate _ _) _ = _ :: (answers statements ++ _) ↔ _
  rw [List.cons.injEq]
  rfl

end Cursor

/-- Where a statement of a stream starts: behind the semicolons before it, if there are any. -/
structure Cursor.Starts (cursor behind : Cursor) : Prop where
  skipped : skipSemicolons cursor = .ok () behind
  again : skipSemicolons behind = .ok () behind
  closed : behind.close.kind = .finish

theorem Cursor.exists_starts {cursor : Cursor} (closed : cursor.close.kind = .finish) :
    ∃ count ≤ cursor.ahead.length, cursor.Starts (cursor.past count) := by
  obtain ⟨count, inside, skipped, _, other⟩ := exists_skipSemicolons closed
  have closedBehind : (cursor.past count).close.kind = .finish := closed
  exact ⟨count, inside, skipped, skipSemicolons_of_ne closedBehind other, closedBehind⟩

namespace Cursor.Starts

variable {cursor behind stopped : Cursor} {failure : Failure} {located : LocatedStatement}
  {statements : List Statement}

/-- Semicolons that the loop skips are skipped by the statement itself as well. -/
theorem locatedStatement_eq (starts : cursor.Starts behind) :
    locatedStatement cursor = locatedStatement behind := by
  rw [locatedStatement, bind_of_ok starts.skipped, bind_of_ok starts.again]

section Steps

/-- Where a statement is read, a step reads it. -/
theorem run_statement_of_ok (starts : cursor.Starts behind)
    (read : locatedStatement behind = .ok located stopped) :
    Step.statement.run cursor = (.ok (.statement located.statement), stopped) := by
  rw [← starts.locatedStatement_eq] at read
  have parsed : Grammar.statement cursor = .ok located.statement stopped := bind_of_ok read
  have answered : Step.statement.parser cursor = .ok (.statement located.statement) stopped :=
    bind_of_ok parsed
  rw [Step.run, answered]

theorem run_statement_of_error (starts : cursor.Starts behind)
    (failed : locatedStatement behind = .error failure stopped) :
    Step.statement.run cursor = (.error failure, stopped) := by
  rw [← starts.locatedStatement_eq] at failed
  have refused : Grammar.statement cursor = .error failure stopped := bind_of_error failed
  have answered : Step.statement.parser cursor = .error failure stopped := bind_of_error refused
  rw [Step.run, answered]

/-- No statement is read at the end of the input. -/
theorem not_read_of_finish (starts : cursor.Starts behind) (ends : behind.current.kind = .finish) :
    locatedStatement behind ≠ .ok located stopped := by
  intro read
  obtain ⟨taken, _, clear, moved⟩ := locatedStatement_taking.stopped_of_ok starts.closed read
  have plain : behind.current.kind.isPlain = true := clear 0 (moved trivial)
  rw [ends] at plain
  cases plain

/-- Nothing is left where the input ends. -/
theorem run_finish (starts : cursor.Starts behind) :
    (Step.finish.run cursor).1 = .ok .nothing ↔ behind.current.kind = .finish := by
  have checked : Grammar.finish cursor =
      (if behind.current.kind = .finish then pure () else unexpected .endOfInput : Parser _)
        behind := by
    rw [Grammar.finish, bind_of_ok starts.skipped]
    rfl
  by_cases ends : behind.current.kind = .finish
  · rw [if_pos ends] at checked
    have answered : Step.finish.parser cursor = .ok .nothing behind := bind_of_ok checked
    rw [Step.run, answered]
    exact iff_of_true rfl ends
  · rw [if_neg ends] at checked
    have refused : Step.finish.parser cursor = .error _ behind := bind_of_error checked
    rw [Step.run, refused]
    exact iff_of_false (fun answered => by cases answered) ends

end Steps

section Lists

theorem lists_of_finish (starts : cursor.Starts behind) (ends : behind.current.kind = .finish) :
    cursor.Lists statements ↔ statements = [] := by
  cases statements with
  | nil => exact iff_of_true (lists_nil.mpr (starts.run_finish.mpr ends)) rfl
  | cons statement statements =>
      refine iff_of_false (fun listed => ?_) (List.cons_ne_nil _ _)
      have answered := (lists_cons.mp listed).1
      cases read : locatedStatement behind with
      | ok located stopped => exact starts.not_read_of_finish ends read
      | error failure stopped =>
          rw [starts.run_statement_of_error read] at answered
          cases answered

theorem lists_of_error (starts : cursor.Starts behind) (goes : behind.current.kind ≠ .finish)
    (failed : locatedStatement behind = .error failure stopped) : ¬ cursor.Lists statements := by
  intro listed
  cases statements with
  | nil => exact goes (starts.run_finish.mp (lists_nil.mp listed))
  | cons statement statements =>
      have answered := (lists_cons.mp listed).1
      rw [starts.run_statement_of_error failed] at answered
      cases answered

theorem lists_of_ok (starts : cursor.Starts behind) (goes : behind.current.kind ≠ .finish)
    (read : locatedStatement behind = .ok located stopped) :
    cursor.Lists statements ↔
      ∃ others, stopped.Lists others ∧ located.statement :: others = statements := by
  cases statements with
  | nil =>
      refine iff_of_false (fun listed => ?_) ?_
      · exact goes (starts.run_finish.mp (lists_nil.mp listed))
      · rintro ⟨_, _, ⟨⟩⟩
  | cons statement statements =>
      rw [lists_cons, starts.run_statement_of_ok read]
      constructor
      · rintro ⟨⟨⟩, listed⟩
        exact ⟨statements, listed, rfl⟩
      · rintro ⟨_, listed, ⟨⟩⟩
        exact ⟨rfl, listed⟩

end Lists

section Turns

/-- A turn of the loop goes by what stands behind the semicolons. -/
theorem statementsWithin_eq (starts : cursor.Starts behind) (fuel : Nat) :
    statementsWithin (fuel + 1) cursor =
      (if behind.current.kind = .finish then return []
        else return (← locatedStatement) :: (← statementsWithin fuel) : Parser _) behind := by
  rw [statementsWithin, bind_of_ok starts.skipped]
  rfl

theorem statementsWithin_of_finish (starts : cursor.Starts behind)
    (ends : behind.current.kind = .finish) (fuel : Nat) :
    statementsWithin (fuel + 1) cursor = .ok [] behind := by
  rw [starts.statementsWithin_eq, if_pos ends]
  rfl

theorem statementsWithin_of_error (starts : cursor.Starts behind)
    (goes : behind.current.kind ≠ .finish)
    (failed : locatedStatement behind = .error failure stopped) (fuel : Nat) :
    statementsWithin (fuel + 1) cursor = .error failure stopped := by
  rw [starts.statementsWithin_eq, if_neg goes]
  exact bind_of_error failed

theorem statementsWithin_of_ok (starts : cursor.Starts behind)
    (goes : behind.current.kind ≠ .finish)
    (read : locatedStatement behind = .ok located stopped) (fuel : Nat) :
    statementsWithin (fuel + 1) cursor =
      (do return located :: (← statementsWithin fuel) : Parser _) stopped := by
  rw [starts.statementsWithin_eq, if_neg goes]
  exact bind_of_ok read

/-- What is ahead gets shorter with a statement. -/
theorem exists_past (starts : cursor.Starts behind)
    (read : locatedStatement behind = .ok located stopped) :
    ∃ taken, stopped = behind.past taken ∧ 0 < taken ∧ taken ≤ behind.ahead.length := by
  obtain ⟨taken, stops, clear, moved⟩ := locatedStatement_taking.stopped_of_ok starts.closed read
  exact ⟨taken, stops, moved trivial, clear.inside starts.closed⟩

end Turns

end Cursor.Starts

/-- What the loop over statements reads is read one by one, and what it refuses is refused one by
one, with the same failure. -/
theorem Grammar.statementsWithin_agrees {fuel : Nat} {cursor : Cursor}
    (closed : cursor.close.kind = .finish) (enough : cursor.ahead.length < fuel) :
    (∀ statements, LocatedStatement.accepted? (statementsWithin fuel cursor) = some statements ↔
      cursor.Lists statements) ∧
    ∀ failure stopped, statementsWithin fuel cursor = .error failure stopped →
      ∃ statements, cursor.FailsBehind statements failure := by
  induction fuel generalizing cursor with
  | zero => cases enough
  | succ fuel inductionHypothesis =>
      obtain ⟨count, inside, starts⟩ := Cursor.exists_starts closed
      by_cases ends : (cursor.past count).current.kind = .finish
      · rw [starts.statementsWithin_of_finish ends]
        refine ⟨fun statements => ?_, fun _ _ failed => by cases failed⟩
        rw [starts.lists_of_finish ends]
        exact Option.some_inj.trans eq_comm
      · cases read : locatedStatement (cursor.past count) with
        | error failure stopped =>
            rw [starts.statementsWithin_of_error ends read]
            constructor
            · exact fun statements =>
                iff_of_false (fun found => by cases found) (starts.lists_of_error ends read)
            · rintro _ _ ⟨⟩
              have answered := congrArg Prod.fst (starts.run_statement_of_error read)
              exact ⟨[], Cursor.failsBehind_nil.mpr answered⟩
        | ok located stopped =>
            obtain ⟨taken, rfl, positive, room⟩ := starts.exists_past read
            have closedBehind : ((cursor.past count).past taken).close.kind = .finish := closed
            have shorter : ((cursor.past count).past taken).ahead.length < fuel := by
              rw [Cursor.past, List.length_drop] at room ⊢
              rw [Cursor.past, List.length_drop]
              omega
            obtain ⟨accepts, fails⟩ := inductionHypothesis closedBehind shorter
            rw [starts.statementsWithin_of_ok ends read]
            simp only [starts.lists_of_ok ends read, ← accepts]
            cases rest : statementsWithin fuel ((cursor.past count).past taken) with
            | error failure stopped =>
                rw [bind_of_error rest]
                constructor
                · refine fun statements => iff_of_false (fun found => by cases found) ?_
                  rintro ⟨_, found, _⟩
                  cases found
                · rintro _ _ ⟨⟩
                  obtain ⟨statements, failing⟩ := fails failure stopped rest
                  have step := starts.run_statement_of_ok read
                  refine ⟨located.statement :: statements, Cursor.failsBehind_cons.mpr ?_⟩
                  rw [step]
                  exact ⟨rfl, failing⟩
            | ok others stopped =>
                rw [bind_of_ok rest]
                refine ⟨fun statements => ?_, fun _ _ failed => by cases failed⟩
                constructor
                · rintro ⟨⟩
                  exact ⟨_, rfl, rfl⟩
                · rintro ⟨_, ⟨⟩, rfl⟩
                  rfl

/-- A stream that is refused is refused by the loop over statements. -/
theorem Cursor.exists_of_outcome_error {cursor : Cursor} {failure : Failure}
    (refused : Grammar.statements.outcome cursor = .error failure) :
    ∃ stopped, statementsWithin (cursor.ahead.length + 1) cursor = .error failure stopped := by
  rw [Parser.outcome] at refused
  cases read : statementsWithin (cursor.ahead.length + 1) cursor with
  | ok located stopped =>
      have run : Grammar.statements cursor =
          .ok (located.map LocatedStatement.statement) stopped := by
        rw [statements_eq]
        exact bind_of_ok read
      rw [run] at refused
      cases refused
  | error other stopped =>
      have run : Grammar.statements cursor = .error other stopped := by
        rw [statements_eq]
        change (statementsWithin _ >>= _) cursor = _
        exact bind_of_error read
      rw [run] at refused
      cases refused
      exact ⟨stopped, rfl⟩

/-- A statement with nothing left behind it is read just where it is the only one listed. -/
theorem Cursor.outcome_eq_ok_iff_lists (cursor : Cursor) (statement : Statement) :
    Parser.outcome (do let statement ← Grammar.statement; Grammar.finish; return statement)
      cursor = .ok statement ↔ cursor.Lists [statement] := by
  rw [lists_cons, lists_nil, Step.run, Step.run, Parser.outcome]
  cases read : Grammar.statement cursor with
  | error failure stopped =>
      have answered : Step.statement.parser cursor = .error failure stopped := bind_of_error read
      rw [bind_of_error read, answered]
      exact iff_of_false (fun found => by cases found) fun both => by cases both.1
  | ok value stopped =>
      have answered : Step.statement.parser cursor = .ok (.statement value) stopped :=
        bind_of_ok read
      rw [bind_of_ok read, answered]
      cases checked : Grammar.finish stopped with
      | error failure behind =>
          have refused : Step.finish.parser stopped = .error failure behind :=
            bind_of_error checked
          rw [bind_of_error checked, refused]
          exact iff_of_false (fun found => by cases found) fun both => by cases both.2
      | ok done behind =>
          have finished : Step.finish.parser stopped = .ok .nothing behind := bind_of_ok checked
          rw [bind_of_ok checked, finished]
          constructor
          · rintro ⟨⟩
            exact ⟨rfl, rfl⟩
          · rintro ⟨⟨⟩, _⟩
            rfl

/-- A stream is accepted with the statements that are read from it one by one. -/
theorem Cursor.outcome_statements_eq_ok_iff_lists {cursor : Cursor}
    (closed : cursor.close.kind = .finish) (statements : List Statement) :
    Grammar.statements.outcome cursor = .ok statements ↔ cursor.Lists statements := by
  rw [← accepted_eq_some_iff, accepted_eq closed (Nat.lt_succ_self _)]
  exact (statementsWithin_agrees closed (Nat.lt_succ_self _)).1 statements

/-- A text is accepted with the statements that are read from it one by one. -/
theorem parseStatements_eq_ok_iff_lists (text : String) (statements : List Statement) :
    parseStatements text = .ok statements ↔ (Cursor.ofText text).Lists statements :=
  Cursor.outcome_statements_eq_ok_iff_lists (Cursor.atStart_closed _ _) statements

/-- What is refused at once is refused one by one. -/
theorem exists_failsBehind_of_parseStatements_error {text : String} {failure : Failure}
    (refused : parseStatements text = .error failure) :
    ∃ statements, (Cursor.ofText text).FailsBehind statements failure := by
  have closed : (Cursor.ofText text).close.kind = .finish := Cursor.atStart_closed _ _
  obtain ⟨stopped, failed⟩ := Cursor.exists_of_outcome_error refused
  exact (statementsWithin_agrees closed (Nat.lt_succ_self _)).2 failure stopped failed

/-- Where statements are listed, a step fails only behind the last of them. -/
theorem Cursor.Lists.eq_of_failsBehind {cursor : Cursor} {statements before : List Statement}
    {failure : Failure} (closed : cursor.close.kind = .finish) (listed : cursor.Lists statements)
    (fails : cursor.FailsBehind before failure) : before = statements := by
  induction before generalizing cursor statements with
  | nil =>
      cases statements with
      | nil => rfl
      | cons statement statements =>
          have read := (lists_cons.mp listed).1
          rw [failsBehind_nil.mp fails] at read
          cases read
  | cons first before inductionHypothesis =>
      obtain ⟨read, failsNext⟩ := failsBehind_cons.mp fails
      obtain ⟨count, _, starts⟩ := exists_starts closed
      cases located : locatedStatement (cursor.past count) with
      | error other stopped =>
          rw [starts.run_statement_of_error located] at read
          cases read
      | ok value stopped =>
          obtain ⟨taken, rfl, _⟩ := starts.exists_past located
          rw [starts.run_statement_of_ok located] at read failsNext
          cases read
          cases statements with
          | nil =>
              have ends := starts.run_finish.mp (lists_nil.mp listed)
              exact absurd located (starts.not_read_of_finish ends)
          | cons statement statements =>
              obtain ⟨readToo, listedNext⟩ := lists_cons.mp listed
              rw [starts.run_statement_of_ok located] at readToo listedNext
              cases readToo
              have closedNext : ((cursor.past count).past taken).close.kind = .finish := closed
              rw [inductionHypothesis closedNext listedNext failsNext]

/-- The entry points agree: the statements of a text are those that are read one by one before
nothing is left; where a text is refused, its statements are read one by one up to one that is
refused with the same failure; and a text is one statement just where it is a list of one. -/
theorem parseStatements_agrees (text : String) :
    (∀ statements, parseStatements text = .ok statements ↔ (Cursor.ofText text).Lists statements) ∧
    (∀ failure, parseStatements text = .error failure →
      ∃ statements, (Cursor.ofText text).FailsBehind statements failure) ∧
    ∀ statement, parseStatement text = .ok statement ↔ parseStatements text = .ok [statement] := by
  refine ⟨parseStatements_eq_ok_iff_lists text, fun failure refused => ?_, fun statement => ?_⟩
  · exact exists_failsBehind_of_parseStatements_error refused
  · rw [parseStatements_eq_ok_iff_lists]
    exact Cursor.outcome_eq_ok_iff_lists _ statement

/-- A statement behind a semicolon, and behind two more one that is refused. -/
theorem parseStatements_agrees_drops :
    let text := ";DROP SEQUENCE a;;DROP b"
    let failure : Failure := ⟨.unsupportedStatement ["DROP", "B"], ⟨18, 24⟩⟩
    parseStatements text = .error failure ∧
      ∃ statements, (Cursor.ofText text).FailsBehind statements failure := by
  have refused : parseStatements ";DROP SEQUENCE a;;DROP b" =
      .error ⟨.unsupportedStatement ["DROP", "B"], ⟨18, 24⟩⟩ := by
    rfl
  exact ⟨refused, (parseStatements_agrees _).2.1 _ refused⟩

end SqlTree
