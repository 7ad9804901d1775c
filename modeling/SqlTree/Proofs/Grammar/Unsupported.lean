import SqlTree.Proofs.Grammar.CandidStatements
import SqlTree.Proofs.Grammar.EntryPoints

/-!
# Constructs that are not modelled

A statement is refused as not modelled at three places only: at its first token, where that is a
verb that starts no modelled statement; at a set operation right behind a query, at any depth; and
where a change of a sequence sets something else than a schema. Wherever one of these is met the
statement is refused so, and every other refusal is one of syntax.
-/

namespace SqlTree.Grammar

open SqlTree.Parser

section Refusals

variable {start stop : Cursor}

/-- A verb that starts no modelled statement is refused where it stands. -/
theorem statementBody_of_startsUnmodelled (starts : start.StartsUnmodelled) :
    ∃ failure, statementBody start = .error failure start ∧
      failure.cause.isUnsupported = true := by
  have looked (places : Nat) : look places start = .ok (start.peek places).kind start := rfl
  rw [statementBody, bind_of_ok (looked 0)]
  cases starts with
  | truncate verb =>
      change (start.peek 0).kind = _ at verb
      rw [verb]
      exact ⟨_, rfl, rfl⟩
  | «with» verb =>
      change (start.peek 0).kind = _ at verb
      rw [verb]
      exact ⟨_, rfl, rfl⟩
  | create verb other =>
      change (start.peek 0).kind = _ at verb
      rw [verb]
      dsimp only
      rw [bind_of_ok (looked 1), bind_of_ok (looked 2), other]
      exact ⟨_, rfl, rfl⟩
  | alter verb other =>
      change (start.peek 0).kind = _ at verb
      rw [verb]
      dsimp only
      rw [bind_of_ok (looked 1), if_neg other]
      exact ⟨_, rfl, rfl⟩
  | drop verb other =>
      change (start.peek 0).kind = _ at verb
      rw [verb]
      dsimp only
      rw [bind_of_ok (looked 1), if_neg other]
      exact ⟨_, rfl, rfl⟩

/-- A statement that changes a sequence starts with its words. -/
theorem statementBody_of_alter (verb : start.current.kind = .keyword .ALTER)
    (object : (start.peek 1).kind = .keyword .SEQUENCE) :
    statementBody start = (do return .alterSequence (← alterSequence) : Parser _) start := by
  have looked (places : Nat) : look places start = .ok (start.peek places).kind start := rfl
  change (start.peek 0).kind = _ at verb
  rw [statementBody, bind_of_ok (looked 0), verb]
  dsimp only
  rw [bind_of_ok (looked 1), if_pos object]

theorem words_of_sequenceTarget {target : Bool × ObjectName}
    (closed : start.close.kind = .finish) (read : sequenceTarget start = .ok target stop) :
    start.current.kind = .keyword .ALTER ∧ (start.peek 1).kind = .keyword .SEQUENCE := by
  by_cases verb : start.current.kind = .keyword .ALTER
  · refine ⟨verb, Decidable.byContradiction fun other => ?_⟩
    rw [← Cursor.current_past] at other
    rw [sequenceTarget, bind_of_ok (expectKeyword_of_eq closed verb),
      bind_of_error (expectKeyword_of_ne other)] at read
    cases read
  · rw [sequenceTarget, bind_of_error (expectKeyword_of_ne verb)] at read
    cases read

theorem not_startsUnmodelled_of_sequenceTarget {target : Bool × ObjectName}
    (closed : start.close.kind = .finish) (read : sequenceTarget start = .ok target stop) :
    ¬ start.StartsUnmodelled := by
  obtain ⟨verb, object⟩ := words_of_sequenceTarget closed read
  intro starts
  cases starts with
  | alter _ other => exact other object
  | truncate other | «with» other | create other | drop other =>
      rw [verb] at other
      cases other

/-- Every `SELECT` in what names a sequence would start a query that is read. -/
theorem exists_past_of_sequenceTarget {target : Bool × ObjectName}
    (closed : start.close.kind = .finish) (read : sequenceTarget start = .ok target stop) :
    ∃ taken, stop = start.past taken ∧
      ∀ places < taken, (start.peek places).kind = .keyword .SELECT →
        ∃ levels body behind, query (rules levels) (start.past places) = .ok body behind := by
  obtain ⟨outcome, taken, confesses⟩ := sequenceTarget_candid start closed
  have run := confesses.run
  rw [read] at run
  cases outcome with
  | error failure => cases run
  | ok found =>
      cases run
      refine ⟨taken, rfl, fun places bound starts => ?_⟩
      obtain ⟨levels, done | ⟨_, failed, _⟩⟩ := confesses.queries places bound starts
      · exact ⟨levels, done⟩
      · cases failed

/-- A setting that is no schema is refused where it stands. -/
theorem statementBody_of_changesSetting (closed : start.close.kind = .finish)
    (changes : start.ChangesSetting stop) :
    ∃ failure, statementBody start = .error failure stop ∧
      failure.cause.isUnsupported = true := by
  obtain ⟨⟨target, read⟩, sets⟩ := changes
  obtain ⟨verb, object⟩ := words_of_sequenceTarget closed read
  refine ⟨⟨.unsupportedSequenceSetting, stop.current.span.merge (stop.peek 1).span⟩, ?_, rfl⟩
  have change : (do
      return ({ name := target.2, ifExists := target.1, change := ← sequenceChange } :
        AlterSequence) : Parser _) stop = .error _ stop :=
    bind_of_error (sequenceChange_of_setsNoSchema sets)
  rw [statementBody_of_alter verb object, alterSequence_eq]
  exact bind_of_error ((bind_of_ok read).trans change)

/-- Any other change of a sequence hides no query. -/
theorem alterSequence_candidAt (modelled : ∀ stop, ¬ start.ChangesSetting stop) :
    CandidAt alterSequence start := by
  rw [alterSequence_eq]
  intro closed
  obtain ⟨outcome, taken, confesses⟩ := sequenceTarget_candid start closed
  cases outcome with
  | error failure => exact ⟨_, taken, confesses.bind_error⟩
  | ok target =>
      have noSetting : ¬ (start.past taken).SetsNoSchema := fun sets =>
        modelled _ ⟨⟨target, confesses.run⟩, sets⟩
      have change : CandidAt (do
          return ({ name := target.2, ifExists := target.1, change := ← sequenceChange } :
            AlterSequence)) (start.past taken) :=
        (sequenceChange_candidAt noSetting).bind fun _ _ => Candid.pure _ _
      obtain ⟨result, more, behind⟩ := change closed
      exact ⟨result, taken + more, confesses.bind behind⟩

/-- A statement that none of its first words refuses hides no query. -/
theorem statementBody_candidAt (modelled : ¬ start.StartsUnmodelled)
    (settings : ∀ stop, ¬ start.ChangesSetting stop) : CandidAt statementBody start := by
  by_cases verb : start.current.kind = .keyword .ALTER
  · have object : (start.peek 1).kind = .keyword .SEQUENCE :=
      Decidable.byContradiction fun other => modelled (.alter verb other)
    refine CandidAt.of_run ?_ (statementBody_of_alter verb object)
    exact (alterSequence_candidAt settings).bind fun _ _ => Candid.pure _ _
  · exact otherStatement_candidAt modelled verb

end Refusals

section Ends

variable {cursor start : Cursor}

/-- A statement behind the semicolons before it. -/
def statementBehind : Parser Statement := do
  let statement ← statementBody
  endOfStatement
  let _ ← eatSymbol .semicolon
  return statement

theorem statement_eq (skipped : skipSemicolons cursor = .ok () start) :
    statement cursor = statementBehind start := by
  simp only [statement, locatedStatement, bind_assoc, pure_bind]
  exact bind_of_ok skipped

theorem statementBehind_candidAt (modelled : ¬ start.StartsUnmodelled)
    (settings : ∀ stop, ¬ start.ChangesSetting stop) : CandidAt statementBehind start :=
  (statementBody_candidAt modelled settings).bind fun _ _ =>
    (endOfStatement_candid.bind fun _ => (Candid.eatSymbol .semicolon).bind fun _ =>
      Candid.pure _) _

/-- Where a query that is met ends before a set operation, the run that met it fails there. -/
theorem eq_of_queryMet {α : Type} {levels : Nat} {outcome : Except Failure α} {body : Select}
    {stop behind : Cursor} {word : Keyword} (met : QueryMet start levels outcome stop)
    (read : selectBody (rules levels) start = .ok body behind)
    (found : behind.current.kind = .keyword word) (operation : isSetOperation word = true) :
    outcome = .error ⟨.unsupportedSetOperation word, behind.current.span⟩ ∧ behind = stop := by
  have refused : query (rules levels) start
      = .error ⟨.unsupportedSetOperation word, behind.current.span⟩ behind := by
    rw [query_eq, bind_of_ok read,
      bind_of_error (noSetOperation_of_isSetOperation found operation)]
  rcases met with ⟨_, _, done⟩ | ⟨failure, failed, same⟩
  · rw [refused] at done
    cases done
  · rw [refused] at same
    cases same
    exact ⟨failed, rfl⟩

end Ends

/-- What a statement that starts at a cursor, takes some tokens and comes to an outcome has to do
with constructs that are not modelled. -/
structure RefusesUnmodelled (start : Cursor) (outcome : Except Failure Statement) (taken : Nat) :
    Prop where
  /-- It is refused as not modelled only where it stops at a verb that starts no modelled statement,
  at a set operation right behind a query, or at a setting that is no schema. -/
  only : ∀ failure, outcome = .error failure → failure.cause.isUnsupported = true →
    (start.StartsUnmodelled ∧ taken = 0) ∨ IsSetOperation start failure (start.past taken) ∨
      start.ChangesSetting (start.past taken)
  /-- The verbs are always refused so. -/
  verbs : start.StartsUnmodelled → taken = 0 ∧
    ∃ failure, outcome = .error failure ∧ failure.cause.isUnsupported = true
  /-- The settings are always refused so. -/
  settings : ∀ stop, start.ChangesSetting stop → stop = start.past taken ∧
    ∃ failure, outcome = .error failure ∧ failure.cause.isUnsupported = true
  /-- Every `SELECT` that is passed starts a query, which is read to its end or fails as the
  statement does; and where it is read up to a set operation, the statement fails there. -/
  queries : ∀ places < taken, (start.peek places).kind = .keyword .SELECT →
    ∃ levels, QueryMet (start.past places) levels outcome (start.past taken) ∧
      ∀ body stop word, selectBody (rules levels) (start.past places) = .ok body stop →
        stop.current.kind = .keyword word → isSetOperation word = true →
          outcome = .error ⟨.unsupportedSetOperation word, stop.current.span⟩ ∧
            stop = start.past taken

namespace RefusesUnmodelled

variable {start : Cursor} {outcome : Except Failure Statement} {taken : Nat}

theorem of_verb (starts : start.StartsUnmodelled) (closed : start.close.kind = .finish)
    {failure : Failure} (unsupported : failure.cause.isUnsupported = true) :
    RefusesUnmodelled start (.error failure) 0 where
  only _ _ _ := .inl ⟨starts, rfl⟩
  verbs _ := ⟨rfl, failure, rfl, unsupported⟩
  settings stop changes := by
    obtain ⟨⟨target, read⟩, _⟩ := changes
    exact absurd starts (not_startsUnmodelled_of_sequenceTarget closed read)
  queries := nofun

theorem of_setting (changes : start.ChangesSetting (start.past taken))
    (closed : start.close.kind = .finish)
    (queries : ∀ places < taken, (start.peek places).kind = .keyword .SELECT →
      ∃ levels body behind, query (rules levels) (start.past places) = .ok body behind)
    {failure : Failure} (unsupported : failure.cause.isUnsupported = true) :
    RefusesUnmodelled start (.error failure) taken := by
  obtain ⟨target, read⟩ := changes.1
  refine ⟨fun _ _ _ => .inr (.inr changes), ?_, ?_, ?_⟩
  · exact fun starts => absurd starts (not_startsUnmodelled_of_sequenceTarget closed read)
  · rintro stop ⟨⟨other, readToo⟩, _⟩
    rw [read] at readToo
    cases readToo
    exact ⟨rfl, failure, rfl, unsupported⟩
  · intro places bound starts
    obtain ⟨levels, done⟩ := queries places bound starts
    have met : QueryMet (start.past places) levels (.error failure : Except Failure Statement)
        (start.past taken) := .inl done
    exact ⟨levels, met, fun body stop word => eq_of_queryMet met⟩

/-- Where no query is hidden and neither a verb nor a setting is refused, only set operations are. -/
theorem of_confesses {parser : Parser Statement} (confesses : parser.Confesses start outcome taken)
    (verbs : ¬ start.StartsUnmodelled) (settings : ∀ stop, ¬ start.ChangesSetting stop) :
    RefusesUnmodelled start outcome taken where
  only failure failed unsupported := .inr (.inl (confesses.refused failure failed unsupported))
  verbs starts := absurd starts verbs
  settings stop changes := absurd changes (settings stop)
  queries places bound starts := by
    obtain ⟨levels, met⟩ := confesses.queries places bound starts
    exact ⟨levels, met, fun body stop word => eq_of_queryMet met⟩

end RefusesUnmodelled

/-- A statement is refused as not modelled at three places only, and always there: at its first
token, which stands behind the semicolons before it, if that is a verb that starts no modelled
statement; at a set operation right behind a query, at any depth; and where a change of a sequence
sets something else than a schema. Every other failure is one of syntax. -/
theorem statement_refusesUnmodelled {cursor : Cursor} (closed : cursor.close.kind = .finish) :
    ∃ count outcome taken,
      (∀ token ∈ cursor.ahead.take count, token.kind = .symbol .semicolon) ∧
      (cursor.past count).current.kind ≠ .symbol .semicolon ∧
      statement cursor = settled outcome ((cursor.past count).past taken) ∧
      RefusesUnmodelled (cursor.past count) outcome taken := by
  obtain ⟨count, _, skipped, semicolons, first⟩ := exists_skipSemicolons closed
  rw [statement_eq skipped]
  have closedHere : (cursor.past count).close.kind = .finish := closed
  by_cases verbs : (cursor.past count).StartsUnmodelled
  · obtain ⟨failure, refused, unsupported⟩ := statementBody_of_startsUnmodelled verbs
    refine ⟨count, .error failure, 0, semicolons, first, ?_, .of_verb verbs closedHere unsupported⟩
    rw [Cursor.past_zero]
    exact bind_of_error refused
  · by_cases settings : ∃ stop, (cursor.past count).ChangesSetting stop
    · obtain ⟨stop, changes⟩ := settings
      obtain ⟨target, read⟩ := changes.1
      obtain ⟨failure, refused, unsupported⟩ := statementBody_of_changesSetting closedHere changes
      obtain ⟨taken, rfl, queries⟩ := exists_past_of_sequenceTarget closedHere read
      exact ⟨count, .error failure, taken, semicolons, first, bind_of_error refused,
        .of_setting changes closedHere queries unsupported⟩
    · have none := not_exists.mp settings
      obtain ⟨outcome, taken, confesses⟩ := statementBehind_candidAt verbs none closedHere
      exact ⟨count, outcome, taken, semicolons, first, confesses.run,
        .of_confesses confesses verbs none⟩

/-- A set operation behind a query in parentheses, behind a semicolon. -/
theorem statement_refusesUnmodelled_union :
    let cursor := Cursor.ofText ";SELECT (SELECT a UNION SELECT b)"
    let failure : Failure := ⟨.unsupportedSetOperation .UNION, ⟨18, 23⟩⟩
    cursor.close.kind = .finish ∧
      ∃ count taken, RefusesUnmodelled (cursor.past count) (.error failure) taken ∧
        statement cursor = .error failure ((cursor.past count).past taken) := by
  intro cursor failure
  have closed : cursor.close.kind = .finish := Cursor.atStart_closed _ _
  obtain ⟨count, outcome, taken, _, _, run, refuses⟩ := statement_refusesUnmodelled closed
  have failed : statement.outcome cursor = .error failure := by rfl
  rw [Parser.outcome, run] at failed
  cases outcome with
  | ok value => cases failed
  | error other =>
      cases failed
      exact ⟨closed, count, taken, refuses, run⟩

end SqlTree.Grammar
