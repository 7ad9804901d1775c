import SqlTree.CommandLine
import SqlTree.Proofs.Grammar.StatementRuns
import SqlTree.Proofs.Routine.Placement
import SqlTree.Proofs.Token.Slices

/-!
# Spans of statements

The command line logs where each statement stands. The spans delimit the statements: each goes from
the first to the last token between two semicolons, no two of them overlap, and the text under a
span is read as the same statement.
-/

namespace SqlTree

open SqlTree.Parser SqlTree.Grammar

section Runs

variable {tokens run : List Token} {first last : Token}

/-- The span of a run in which no token starts before an earlier one stops. -/
theorem merge_eq_runSpan
    (ordered : run.Pairwise fun earlier later => earlier.span.stop ≤ later.span.start)
    (positive : ∀ token ∈ run, token.span.start < token.span.stop)
    (head : run.head? = some first) (tail : run.getLast? = some last) :
    first.span.merge last.span = runSpan run ∧ (runSpan run).start < (runSpan run).stop := by
  obtain ⟨more, rfl⟩ := List.head?_eq_some_iff.mp head
  have firstPositive := positive first List.mem_cons_self
  have lastPositive := positive last (List.mem_of_getLast? tail)
  have within : first.span.start ≤ last.span.start ∧ first.span.stop ≤ last.span.stop := by
    rcases List.mem_cons.mp (List.mem_of_getLast? tail) with rfl | behind
    · exact ⟨Nat.le_refl _, Nat.le_refl _⟩
    · have apart := (List.pairwise_cons.mp ordered).1 last behind
      omega
  rw [runSpan_eq head tail, Span.merge, Nat.min_eq_left within.1, Nat.max_eq_right within.2]
  exact ⟨rfl, Nat.lt_of_le_of_lt within.1 lastPositive⟩

/-- The tokens of a statement are in order, and no statement starts before an earlier one stops. -/
theorem statementRuns_ordered
    (ordered : tokens.Pairwise fun earlier later => earlier.span.stop ≤ later.span.start) :
    (∀ run ∈ statementRuns tokens,
      run.Pairwise fun earlier later => earlier.span.stop ≤ later.span.start) ∧
    ((statementRuns tokens).map runSpan).Pairwise fun earlier later =>
      earlier.stop ≤ later.start := by
  have listed := ordered.filter (!·.kind.isTerminator)
  rw [← flatten_statementRuns, List.pairwise_flatten] at listed
  obtain ⟨within, between⟩ := listed
  refine ⟨within, List.pairwise_map.mpr (between.imp_of_mem ?_)⟩
  intro earlier later found foundToo apart
  have nonempty := ne_nil_of_mem_statementRuns found
  have nonemptyToo := ne_nil_of_mem_statementRuns foundToo
  have bound := apart _ (List.getLast_mem nonempty) _ (List.head_mem nonemptyToo)
  rw [runSpan_eq (List.head?_eq_some_head nonempty) (List.getLast?_eq_some_getLast nonempty),
    runSpan_eq (List.head?_eq_some_head nonemptyToo) (List.getLast?_eq_some_getLast nonemptyToo)]
  exact bound

end Runs

section Texts

variable {text : String} {run : List Token} {located : LocatedStatement}

/-- Every token of a text but the end of the input takes a byte at least. -/
theorem lt_of_mem_tokenize {token : Token} (among : token ∈ tokenize text)
    (going : token.kind ≠ .finish) : token.span.start < token.span.stop := by
  have tiled := tokenize_tiled text
  have positive := tiled.nonempty
  obtain ⟨tokens, split⟩ := List.getLast?_eq_some_iff.mp tiled.last
  rw [split, List.dropLast_concat] at positive
  rw [split, List.mem_append, List.mem_singleton] at among
  rcases among with among | rfl
  · exact (positive token among).2
  · exact absurd rfl going

/-- The end of the input is an empty piece of a text. -/
theorem Cursor.shown_close_ofText (text : String) :
    (ofText text).close.shown text.toList = (.finish, some []) := by
  have last := (tokenize_tiled text).last
  rw [← (ofText_spec text).1, stream, List.getLast?_concat, Option.some.injEq] at last
  have ends := textUnder?_utf8Length text.toList [] []
  rw [List.append_nil, List.append_nil] at ends
  rw [last, Token.shown]
  exact congrArg _ ends

/-- A statement that is read from a run of tokens is the one statement of a text that shows the
same tokens. -/
theorem LocatedStatement.ReadFrom.reads_slice {slice : List Char}
    (readFrom : located.ReadFrom text.toList (Cursor.ofText text).close run)
    (shown : (tokenize (String.ofList slice)).map (Token.shown slice)
      = shownRun text.toList run) :
    parseStatement (String.ofList slice) = .ok located.statement := by
  obtain ⟨cursor, source, ahead, close, lists⟩ := readFrom.alone
  have alone := (Cursor.outcome_eq_ok_iff_lists cursor located.statement).mpr lists
  have like : cursor.Like (Cursor.ofText (String.ofList slice)) := by
    apply Cursor.like_of_stream
    have stream : cursor.stream.map (Token.shown cursor.source) = shownRun text.toList run := by
      rw [Cursor.stream, List.map_append, source, ahead, close, List.map_singleton,
        Cursor.shown_close_ofText]
      rfl
    rw [stream, (Cursor.ofText_spec _).1, Cursor.ofText, String.toList_ofList]
    exact shown
  have same := finishedStatement_unplaced.outcome like
  rw [alone] at same
  change (parseStatement (String.ofList slice)).mapError Failure.cause = _ at same
  cases parsed : parseStatement (String.ofList slice) with
  | ok statement =>
      rw [parsed] at same
      cases same
      rfl
  | error failure =>
      rw [parsed] at same
      cases same

/-- A statement that is read from one of the runs of a text stands where the run does, and is read
from the text under its span. -/
theorem LocatedStatement.ReadFrom.delimits
    (readFrom : located.ReadFrom text.toList (Cursor.ofText text).close run)
    (among : run ∈ statementRuns (tokenize text)) :
    located.span = runSpan run ∧ located.span.start < located.span.stop ∧
      ∃ slice, textUnder? text.toList located.span = some slice ∧
        parseStatement (String.ofList slice) = .ok located.statement := by
  obtain ⟨front, back, split⟩ := infix_of_mem_statementRuns among
  have going : ∀ token ∈ run, token.kind ≠ .finish :=
    fun token found => (TokenKind.ne_of_isPlain (readFrom.plain token found)).1
  have valid : ∀ token ∈ run, ∀ message, token.kind ≠ .invalid message :=
    fun token found => (TokenKind.ne_of_isPlain (readFrom.plain token found)).2
  have positive : ∀ token ∈ run, token.span.start < token.span.stop := by
    intro token found
    have listed : token ∈ tokenize text := by
      rw [← split]
      exact List.mem_append_left _ (List.mem_append_right _ found)
    exact lt_of_mem_tokenize listed (going token found)
  have ordered := (statementRuns_ordered (tokenize_tiled text).ordered).1 run among
  obtain ⟨first, last, head, tail, span⟩ := readFrom.span
  obtain ⟨same, positiveSpan⟩ := merge_eq_runSpan ordered positive head tail
  rw [span, same]
  rw [List.append_assoc] at split
  obtain ⟨slice, under, shown⟩ :=
    tokenize_slice (ne_nil_of_mem_statementRuns among) split.symm going valid
  exact ⟨rfl, positiveSpan, slice, under, readFrom.reads_slice shown⟩

end Texts

/-- A batch without a failure has a statement for each run of tokens of the text. -/
theorem Batch.readFrom_runs {text : String}
    (succeeds : (Batch.parse (.ofText text)).failure = none) :
    List.Forall₂ (LocatedStatement.ReadFrom text.toList (Cursor.ofText text).close)
      (Batch.parse (.ofText text)).statements (statementRuns (tokenize text)) := by
  obtain ⟨stream, closed, going⟩ := Cursor.ofText_spec text
  have endsOnce : (Cursor.ofText text).EndsOnce := ⟨closed, going⟩
  have read := Batch.settled_parseWithin ((Cursor.ofText text).ahead.length + 1) (.ofText text)
  rw [← Batch.parse, Batch.settled, succeeds] at read
  have runs := statementsWithin_runs endsOnce (Nat.lt_succ_self _) read.symm
  rw [stream] at runs
  exact runs

/-- The statements of a text that is accepted are those of its batch, none of which failed. -/
theorem Batch.of_accepted {text : String} {statements : List Statement}
    (accepted : parseStatements text = .ok statements) :
    (Batch.parse (.ofText text)).failure = none ∧
      (Batch.parse (.ofText text)).statements.map LocatedStatement.statement = statements := by
  unfold parseStatements Parser.outcome Grammar.statements Batch.result at accepted
  cases failed : (Batch.parse (.ofText text)).failure with
  | none =>
      simp only [failed] at accepted
      exact ⟨rfl, Except.ok.inj accepted⟩
  | some failure =>
      simp only [failed] at accepted
      cases accepted

/-- The spans that are logged for the statements of a text delimit them. There is one for each
statement, in order, and no other line is logged for the batch; none starts before an earlier one
stops. Each goes from the first to the last token of a run between semicolons, and the text under it
is read as the same statement. -/
theorem parseStatements_spans {text : String} {statements : List Statement}
    (accepted : parseStatements text = .ok statements) :
    let batch := Batch.parse (.ofText text)
    batch.statements.map LocatedStatement.statement = statements ∧
    (∀ settings, CommandLine.batchLines settings batch = batch.statements.flatMap fun located =>
      CommandLine.debugLine settings (CommandLine.statementLine located)) ∧
    (batch.statements.map LocatedStatement.span).Pairwise (fun earlier later =>
      earlier.stop ≤ later.start) ∧
    List.Forall₂ (fun located run => located.span = runSpan run ∧
        located.span.start < located.span.stop ∧
        ∃ slice, textUnder? text.toList located.span = some slice ∧
          parseStatement (String.ofList slice) = .ok located.statement)
      batch.statements (statementRuns (tokenize text)) := by
  intro batch
  obtain ⟨succeeds, same⟩ := Batch.of_accepted accepted
  have among := (List.forall₂_and_left _ _).mpr
    ⟨fun run (listed : run ∈ statementRuns (tokenize text)) => listed,
      (Batch.readFrom_runs succeeds).flip⟩
  have delimits := among.flip.imp fun located run (both : run ∈ _ ∧ _) => both.2.delimits both.1
  have spans : batch.statements.map LocatedStatement.span =
      (statementRuns (tokenize text)).map runSpan := by
    rw [← List.forall₂_eq_eq_eq, List.forall₂_map_left_iff, List.forall₂_map_right_iff]
    exact delimits.imp fun located run facts => facts.1
  refine ⟨same, fun settings => ?_, ?_, delimits⟩
  · rw [CommandLine.batchLines, succeeds]
    exact List.append_nil _
  · rw [spans]
    exact (statementRuns_ordered (tokenize_tiled text).ordered).2

/-- Two statements between semicolons and white space. -/
theorem parseStatements_spans_drops :
    let text := ";DROP SEQUENCE a ;; DROP SEQUENCE b"
    parseStatements text = .ok
        [.dropSequence ⟨[.plain "a"], false, none⟩, .dropSequence ⟨[.plain "b"], false, none⟩] ∧
      (statementRuns (tokenize text)).map runSpan = [⟨1, 16⟩, ⟨20, 35⟩] ∧
      List.Forall₂ (fun located run => located.span = runSpan run)
        (Batch.parse (.ofText text)).statements (statementRuns (tokenize text)) := by
  have accepted : parseStatements ";DROP SEQUENCE a ;; DROP SEQUENCE b" = .ok
      [.dropSequence ⟨[.plain "a"], false, none⟩, .dropSequence ⟨[.plain "b"], false, none⟩] := by
    rfl
  have delimited := (parseStatements_spans accepted).2.2.2
  exact ⟨accepted, by decide, delimited.imp fun located run facts => facts.1⟩

end SqlTree
