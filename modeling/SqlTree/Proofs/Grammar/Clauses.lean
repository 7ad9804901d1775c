import SqlTree.Proofs.Grammar.Alternatives
import SqlTree.Proofs.Grammar.Locality

/-!
# Clauses of statements on sequences

The parsers of single clauses are local: a group of tokens that is one clause in front of the end of
a statement is the same clause in front of another.
-/

namespace SqlTree

open SqlTree.Parser SqlTree.Grammar

/-- A test for one kind of token. -/
def isKind (kind other : TokenKind) : Bool := other = kind

@[simp] theorem isKind_iff {kind other : TokenKind} : isKind kind other = true ↔ other = kind :=
  decide_eq_true_iff

theorem isKind_plain {kind : TokenKind} (plain : endsClause kind = false) :
    ∀ other, endsClause other = true → isKind kind other = false :=
  fun _ ends => decide_eq_false (ne_of_endsClause ends plain)

/-- A test that what stands ahead passes is no end of the statement, and both cursors advance. -/
theorem Aligned.advance_of_test {group : List Token} {alone within : Cursor}
    (aligned : Aligned group alone within) {test : TokenKind → Bool}
    (plain : ∀ kind, endsClause kind = true → test kind = false)
    (passes : test alone.current.kind = true) :
    1 ≤ group.length ∧ alone.advance = alone.past 1 ∧ within.advance = within.past 1 := by
  have going : alone.current.kind.isTerminator = false := by
    cases ends : alone.current.kind.isTerminator with
    | false => rfl
    | true =>
        rw [plain _ (endsClause_of_isTerminator ends)] at passes
        cases passes
  exact ⟨aligned.inside going, (aligned.advance going).2⟩

/-- The tokens ahead pass tests one by one. -/
def passes : List (TokenKind → Bool) → Cursor → Bool
  | [], _ => true
  | test :: tests, cursor => test cursor.current.kind && passes tests (cursor.past 1)

/-- The cursor behind a number of tokens, if no end of input stands among them. -/
def Cursor.advanceBy (cursor : Cursor) : Nat → Cursor
  | 0 => cursor
  | count + 1 => cursor.advance.advanceBy count

/-- Tests that what ends a clause fails are passed at both cursors or at none, and only inside the
group. -/
theorem Aligned.passes {tests : List (TokenKind → Bool)}
    (plain : ∀ test ∈ tests, ∀ kind, endsClause kind = true → test kind = false)
    {group : List Token} {alone within : Cursor} (aligned : Aligned group alone within) :
    SqlTree.passes tests alone = SqlTree.passes tests within ∧
      (SqlTree.passes tests alone = true → tests.length ≤ group.length ∧
        alone.advanceBy tests.length = alone.past tests.length ∧
        within.advanceBy tests.length = within.past tests.length) := by
  induction tests generalizing group alone within with
  | nil =>
      refine ⟨rfl, fun _ => ⟨Nat.zero_le _, ?_, ?_⟩⟩
      · exact (Cursor.past_zero _).symm
      · exact (Cursor.past_zero _).symm
  | cons test tests inductionHypothesis =>
      obtain ⟨first, others⟩ := List.forall_mem_cons.mp plain
      have same := aligned.test test first (Nat.zero_le _)
      cases found : test alone.current.kind with
      | false =>
          have missed : test within.current.kind = false := same ▸ found
          simp [SqlTree.passes, found, missed]
      | true =>
          have foundWithin : test within.current.kind = true := same ▸ found
          obtain ⟨inside, aloneAdvance, withinAdvance⟩ := aligned.advance_of_test first found
          obtain ⟨agree, bound⟩ := inductionHypothesis others (aligned.past inside)
          simp only [SqlTree.passes, found, foundWithin, Bool.true_and]
          refine ⟨agree, fun passed => ?_⟩
          obtain ⟨le, aloneBehind, withinBehind⟩ := bound passed
          rw [List.length_drop] at le
          refine ⟨Nat.add_le_of_le_sub inside le, ?_, ?_⟩
          · rw [List.length_cons, Cursor.advanceBy, aloneAdvance, aloneBehind, Cursor.past_past,
              Nat.add_comm 1]
          · rw [List.length_cons, Cursor.advanceBy, withinAdvance, withinBehind, Cursor.past_past,
              Nat.add_comm 1]

namespace Parser.Local

variable {α : Type}

/-- A parser that takes some tokens if they pass tests, and none otherwise, is local if what ends a
clause fails each test. -/
theorem of_passes {parser : Parser α} (tests : List (TokenKind → Bool))
    (plain : ∀ test ∈ tests, ∀ kind, endsClause kind = true → test kind = false)
    (nonempty : tests ≠ []) (value : TokenKind → α) (other : α)
    (spec : ∀ cursor, parser cursor = if passes tests cursor = true
      then .ok (value cursor.current.kind) (cursor.advanceBy tests.length)
      else .ok other cursor) : Local parser := by
  intro group alone within aligned result stopped parsed
  obtain ⟨agree, bound⟩ := aligned.passes plain
  rw [spec] at parsed
  split at parsed
  · next passed =>
      obtain ⟨le, aloneBehind, withinBehind⟩ := bound passed
      cases parsed
      refine ⟨tests.length, le, aloneBehind, ?_⟩
      have same : alone.current = within.current :=
        aligned.peek (Nat.lt_of_lt_of_le (List.length_pos_iff.mpr nonempty) le)
      rw [spec, ← agree, if_pos passed, same, withinBehind]
  · next missed =>
      cases parsed
      refine ⟨0, Nat.zero_le _, (Cursor.past_zero _).symm, ?_⟩
      rw [spec, ← agree, if_neg missed, Cursor.past_zero]

/-- The tests for a pair of brackets. -/
private def bracketTests : List (TokenKind → Bool) :=
  [isKind (.symbol .leftBracket), isKind (.symbol .rightBracket)]

private theorem bracketTests_plain :
    ∀ test ∈ bracketTests, ∀ kind, endsClause kind = true → test kind = false := by
  simp only [bracketTests, List.forall_mem_cons]
  exact ⟨isKind_plain rfl, isKind_plain rfl, nofun⟩

private theorem arrayMark_eq (cursor : Cursor) :
    Grammar.arrayMark cursor = if passes bracketTests cursor = true
      then .ok (some "[]") (cursor.advanceBy bracketTests.length) else .ok none cursor := by
  have same : passes bracketTests cursor = true ↔ (cursor.peek 0).kind = .symbol .leftBracket
      ∧ (cursor.peek 1).kind = .symbol .rightBracket := by
    simp [bracketTests, passes, Cursor.current, Cursor.peek_past]
  by_cases both : (cursor.peek 0).kind = .symbol .leftBracket
      ∧ (cursor.peek 1).kind = .symbol .rightBracket
  · exact (congrFun (if_pos both) cursor).trans (if_pos (same.mpr both)).symm
  · exact (congrFun (if_neg both) cursor).trans (if_neg (mt same.mp both)).symm

theorem arrayMark : Local arrayMark :=
  of_passes bracketTests bracketTests_plain nofun (fun _ => some "[]") none arrayMark_eq

/-- An array mark takes its two brackets. -/
theorem advances_arrayMark : Advances Grammar.arrayMark := by
  intro group alone within aligned value stopped parsed
  rw [arrayMark_eq] at parsed
  split at parsed
  · next both =>
      cases parsed
      rw [((aligned.passes bracketTests_plain).2 both).2.1]
      exact Nat.lt_add_of_pos_right Nat.two_pos
  · cases parsed

/-- Whether a token starts what a time type says about time zones. -/
def startsTimeZone (kind : TokenKind) : Bool := kind = .keyword .WITH ∨ kind = .identifier "without"

@[simp] theorem startsTimeZone_iff {kind : TokenKind} :
    startsTimeZone kind = true ↔ kind = .keyword .WITH ∨ kind = .identifier "without" :=
  decide_eq_true_iff

theorem timeZoneMark : Local timeZoneMark := by
  refine of_passes
    [startsTimeZone, isKind (.identifier "time"), isKind (.identifier "zone")] ?_ nofun
    (fun kind => if kind = .keyword .WITH then " with time zone" else " without time zone") ""
    fun cursor => ?_
  · simp only [List.forall_mem_cons]
    refine ⟨fun kind ends => decide_eq_false ?_, isKind_plain rfl, isKind_plain rfl, nofun⟩
    exact not_or.mpr ⟨ne_of_endsClause ends rfl, ne_of_endsClause ends rfl⟩
  · have same : passes [startsTimeZone, isKind (.identifier "time"), isKind (.identifier "zone")]
        cursor = true ↔ ((cursor.peek 0).kind = .keyword .WITH
          ∨ (cursor.peek 0).kind = .identifier "without")
          ∧ (cursor.peek 1).kind = .identifier "time"
          ∧ (cursor.peek 2).kind = .identifier "zone" := by
      simp [passes, Cursor.current, Cursor.peek_past]
    by_cases words : (cursor.peek 1).kind = .identifier "time"
        ∧ (cursor.peek 2).kind = .identifier "zone"
    · refine (congrFun (if_pos words) cursor).trans ?_
      by_cases mark : (cursor.peek 0).kind = .keyword .WITH
          ∨ (cursor.peek 0).kind = .identifier "without"
      · exact (congrFun (if_pos mark) cursor).trans (if_pos (same.mpr ⟨mark, words⟩)).symm
      · exact (congrFun (if_neg mark) cursor).trans (if_neg fun all => mark (same.mp all).1).symm
    · exact (congrFun (if_neg words) cursor).trans (if_neg fun all => words (same.mp all).2).symm

theorem typeWord : Local typeWord := by
  refine of_choice (fun kind _ => kind.name?) (fun _ _ ends => name?_of_isTerminator ends) ?_
  intro cursor value stopped
  unfold Grammar.typeWord
  split
  · next found => simp only [found, EStateM.Result.ok.injEq, Option.some.injEq, eq_comm]
  · next missed =>
      rw [missed]
      exact ⟨nofun, nofun⟩

theorem plainInteger : Local plainInteger := by
  refine of_choice (fun kind _ => plainInteger? kind) ?_ ?_
  · intro kind _ ends
    cases kind with
    | integer => cases ends
    | _ => rfl
  · intro cursor value stopped
    unfold Grammar.plainInteger plainInteger?
    cases cursor.current.kind with
    | integer =>
        simp only [EStateM.Result.ok.injEq, Option.some.injEq, @eq_comm _ stopped]
    | _ => exact ⟨nofun, nofun⟩

theorem eatName (name : String) : Local (eatName name) := eat rfl

/-- A choice that was already made is local if both ways are. -/
theorem ite {condition : Prop} [Decidable condition] {yes no : Parser α} (first : Local yes)
    (second : Local no) : Local (if condition then yes else no) := by
  split
  · exact first
  · exact second

theorem typeName : Local typeName := by
  have varying (word : String) : Local (do
      if word = "character" ∨ word = "char" then
        if ← Parser.eatName "varying" then return "character varying"
      return word) :=
    ite (bind (eatName _) fun _ => ite (pure _) (pure _)) (pure _)
  exact bind typeWord fun word =>
    ite (bind (eatName _) fun _ => ite (pure _) (varying word)) (varying word)

theorem typeModifiers : Local typeModifiers :=
  bind (eat rfl) fun _ => ite
    (bind (separated plainInteger) fun _ => bind (expectSymbol rfl) fun _ => pure _) (pure _)

theorem dataType : Local dataType := by
  have brackets (name zone : String) (modifiers : List Int64) : Local (do
      let brackets ← Parser.collect Grammar.arrayMark
      return (⟨name ++ zone ++ String.join brackets, modifiers⟩ : DataType)) :=
    bind (collect arrayMark advances_arrayMark) fun _ => pure _
  exact bind typeName fun _ => bind typeModifiers fun _ =>
    ite (bind timeZoneMark fun _ => brackets _ _ _) (bind (pure _) fun _ => brackets _ _ _)

/-- The integer that a token stands for behind a sign. -/
private def signedInteger? (negative : Bool) : TokenKind → Option (List Char) → Option Int64
  | .integer value, _ => some (if negative then -value else value)
  | .numeric _, text? =>
    if negative && text? == some leastMagnitude then some Int64.minValue else none
  | _, _ => none

/-- A parser behind an optional sign is local. -/
private theorem behindSign (read : Local parser) (negative : Bool) :
    Local (do
      if negative then parser
      else
        let _ ← Parser.eat (.symbol .plus)
        parser) :=
  ite read (bind (eat rfl) fun _ => read)

theorem signedInteger : Local signedInteger := by
  refine bind (eat rfl) fun negative => behindSign ?_ negative
  refine of_choice (signedInteger? negative) ?_ fun cursor value stopped => ?_
  · intro kind _ ends
    cases kind with
    | integer | numeric => cases ends
    | _ => rfl
  · refine (iff_of_eq (congrArg (· = _) (run_get _ cursor))).trans ?_
    unfold signedInteger?
    cases cursor.current.kind with
    | integer number =>
        change EStateM.Result.ok _ _ = _ ↔ _
        simp only [EStateM.Result.ok.injEq, Option.some.injEq, @eq_comm _ stopped]
    | numeric number =>
        refine (iff_of_eq (congrArg (· = _) (run_ite _ _ cursor))).trans ?_
        dsimp only
        split
        · change EStateM.Result.ok _ _ = _ ↔ _
          simp only [EStateM.Result.ok.injEq, Option.some.injEq, @eq_comm _ stopped]
        · refine (iff_of_eq (congrArg (· = _) (run_ite _ _ cursor))).trans ?_
          split <;> exact ⟨nofun, nofun⟩
    | _ => exact ⟨nofun, nofun⟩

/-- A column with its table, behind the token that starts it. -/
private def ownerColumn (start : Token) : Parser Ownership := do
  let first ← Parser.expectName
  match first :: (← Parser.manyAfter (eatSymbol .dot) Parser.expectName) with
  | [table, column] => return .column ⟨none, table, column⟩
  | [schema, table, column] => return .column ⟨some schema, table, column⟩
  | _ => Parser.fail .ownerNotAColumn (start.span.merge (← previousSpan))

private theorem ownership_eq (cursor : Cursor) : Grammar.ownership cursor =
    if (cursor.peek 0).kind = .keyword .NONE ∧ (cursor.peek 1).kind ≠ .symbol .dot then
      .ok .nothing cursor.advance
    else ownerColumn cursor.current cursor :=
  run_ite _ _ cursor

private theorem ownerColumn_local (start : Token) : Local (ownerColumn start) := by
  refine bind expectName fun first => bind (manyAfter rfl expectName) fun others => ?_
  obtain _ | ⟨second, _ | ⟨third, _ | ⟨fourth, more⟩⟩⟩ := others
  · exact of_error fun _ _ _ parsed => by cases parsed
  · exact pure _
  · exact pure _
  · exact of_error fun _ _ _ parsed => by cases parsed

/-- Only failures show the token that a column starts with. -/
private theorem ownerColumn_start {start other : Token} {cursor stopped : Cursor}
    {value : Ownership} (parsed : ownerColumn start cursor = .ok value stopped) :
    ownerColumn other cursor = .ok value stopped := by
  obtain ⟨first, between, firstParsed, parsed⟩ := ok_of_bind_ok parsed
  obtain ⟨others, behind, othersParsed, parsed⟩ := ok_of_bind_ok parsed
  refine (bind_of_ok firstParsed).trans ((bind_of_ok othersParsed).trans ?_)
  obtain _ | ⟨second, _ | ⟨third, _ | ⟨fourth, more⟩⟩⟩ := others
  · cases parsed
  · exact parsed
  · exact parsed
  · cases parsed

theorem ownership : Local ownership := by
  intro group alone within aligned value stopped parsed
  have first := aligned.test (isKind (.keyword .NONE)) (isKind_plain rfl) (Nat.zero_le _)
  rw [Bool.eq_iff_iff, isKind_iff, isKind_iff] at first
  have second (none : (alone.peek 0).kind = .keyword .NONE) :
      (alone.peek 1).kind = .symbol .dot ↔ (within.peek 1).kind = .symbol .dot := by
    have inside := aligned.inside (going_of_plain rfl none)
    have same := aligned.test (isKind (.symbol .dot)) (isKind_plain rfl) inside
    rwa [Bool.eq_iff_iff, isKind_iff, isKind_iff] at same
  rw [ownership_eq] at parsed
  split at parsed
  · next nothing =>
      have going := going_of_plain rfl nothing.1
      cases parsed
      refine ⟨1, aligned.inside going, (aligned.advance going).2.1, ?_⟩
      rw [ownership_eq, if_pos ⟨first.mp nothing.1, mt (second nothing.1).mpr nothing.2⟩,
        (aligned.advance going).2.2]
  · next other =>
      obtain ⟨taken, le, stop, parsedWithin⟩ := ownerColumn_local _ aligned parsed
      refine ⟨taken, le, stop, ?_⟩
      rw [ownership_eq, if_neg fun nothing => other ?_]
      · exact ownerColumn_start parsedWithin
      · have none := first.mpr nothing.1
        exact ⟨none, mt (second none).mp nothing.2⟩

/-- The clause whose negative form a keyword stands for behind `NO`. -/
private def negated? : TokenKind → Option SequenceClause
  | .keyword .MINVALUE => some (.minimum .unbounded)
  | .keyword .MAXVALUE => some (.maximum .unbounded)
  | .keyword .CYCLE => some (.cycling .noCycle)
  | _ => none

private theorem negatedClause_eq (cursor : Cursor) :
    Grammar.negatedClause cursor = match negated? cursor.current.kind with
      | some clause => .ok clause cursor.advance
      | none => Parser.unexpected .negatedOption cursor := by
  unfold Grammar.negatedClause eatKeyword
  simp only [run_eat]
  generalize cursor.current.kind = kind
  cases kind with
  | keyword word => cases word <;> rfl
  | _ => rfl

theorem negatedClause : Local negatedClause := by
  refine of_choice (fun kind _ => negated? kind) ?_ fun cursor value stopped => ?_
  · intro kind _ ends
    cases kind with
    | keyword => cases ends
    | _ => rfl
  · rw [negatedClause_eq]
    split
    · next found => simp only [found, EStateM.Result.ok.injEq, Option.some.injEq, eq_comm]
    · next missed =>
        rw [missed]
        exact ⟨nofun, nofun⟩

/-- A choice by what stands ahead is local if what ends a clause fails the test. -/
theorem look {test : TokenKind → Bool} {yes no : Parser α}
    (plain : ∀ kind, endsClause kind = true → test kind = false) (first : Local yes)
    (second : Local no) : Local (do if test (← Parser.look 0) then yes else no) := by
  intro group alone within aligned value stopped parsed
  have same := aligned.test test plain (Nat.zero_le _)
  have choice (cursor : Cursor) : (do if test (← Parser.look 0) then yes else no : Parser α) cursor
      = if test (cursor.peek 0).kind = true then yes cursor else no cursor := run_ite yes no cursor
  rw [choice] at parsed
  rw [choice, ← same]
  split at parsed
  · next passed =>
      rw [if_pos passed]
      exact first aligned parsed
  · next failed =>
      rw [if_neg failed]
      exact second aligned parsed

end Parser.Local

/-- What stands behind the keyword that starts a clause. -/
def clauseBody? : TokenKind → Option (Parser (Option SequenceClause))
  | .keyword .AS => some do return some (.dataType (← dataType))
  | .keyword .START => some do
    let _ ← eatKeyword .WITH
    return some (.start (← signedInteger))
  | .keyword .INCREMENT => some do
    let _ ← eatKeyword .BY
    return some (.increment (← signedInteger))
  | .keyword .MINVALUE => some do return some (.minimum (.value (← signedInteger)))
  | .keyword .MAXVALUE => some do return some (.maximum (.value (← signedInteger)))
  | .keyword .CACHE => some do return some (.cache (← signedInteger))
  | .keyword .CYCLE => some do return some (.cycling .cycle)
  | .keyword .NO => some do return some (← negatedClause)
  | .keyword .OWNED => some do
    expectKeyword .BY
    return some (.ownership (← ownership))
  | _ => none

/-- What stands behind the keyword that starts a clause of a change. -/
def changeBody? : TokenKind → Option (Parser (Option SequenceClause))
  | .keyword .RESTART => some do
    if ← eatKeyword .WITH then return some (.restart (.value (← signedInteger)))
    if startsSignedNumber (← look 0) then return some (.restart (.value (← signedInteger)))
    return some (.restart .atStart)
  | kind => clauseBody? kind

theorem sequenceClause_eq (cursor : Cursor) :
    sequenceClause cursor = match clauseBody? cursor.current.kind with
      | some body => body cursor.advance
      | none => .ok none cursor := by
  unfold sequenceClause eatKeyword
  simp only [run_eat]
  generalize cursor.current.kind = kind
  cases kind with
  | keyword word => cases word <;> rfl
  | _ => rfl

theorem changeClause_eq (cursor : Cursor) :
    changeClause cursor = match changeBody? cursor.current.kind with
      | some body => body cursor.advance
      | none => .ok none cursor := by
  unfold changeClause
  refine (run_eat _ _ _ cursor).trans ?_
  split
  · next restart =>
      rw [restart]
      rfl
  · next other =>
      have same : changeBody? cursor.current.kind = clauseBody? cursor.current.kind := by
        unfold changeBody?
        split
        · next restart => exact absurd restart other
        · rfl
      rw [same]
      exact sequenceClause_eq cursor

/-- A parser of clauses goes by the keyword that a clause starts with, and is local behind it. -/
structure ClauseParser (clause : Parser (Option SequenceClause))
    (body? : TokenKind → Option (Parser (Option SequenceClause))) : Prop where
  run : ∀ cursor, clause cursor = match body? cursor.current.kind with
    | some body => body cursor.advance
    | none => .ok none cursor
  starts : ∀ {kind body}, body? kind = some body → startsClause kind = true
  read : ∀ {kind body}, body? kind = some body → Local body

theorem clauseParser_sequenceClause : ClauseParser sequenceClause clauseBody? where
  run := sequenceClause_eq
  starts := by
    intro kind body found
    unfold clauseBody? at found
    split at found <;> cases found <;> rfl
  read := by
    intro kind body found
    unfold clauseBody? at found
    split at found <;> cases found
    · exact .bind .dataType fun _ => .pure _
    · exact .bind (.eat rfl) fun _ => .bind .signedInteger fun _ => .pure _
    · exact .bind (.eat rfl) fun _ => .bind .signedInteger fun _ => .pure _
    · exact .bind .signedInteger fun _ => .pure _
    · exact .bind .signedInteger fun _ => .pure _
    · exact .bind .signedInteger fun _ => .pure _
    · exact .pure _
    · exact .bind .negatedClause fun _ => .pure _
    · exact .bind (.expectKeyword rfl) fun _ => .bind .ownership fun _ => .pure _

theorem clauseParser_changeClause : ClauseParser changeClause changeBody? where
  run := changeClause_eq
  starts := by
    intro kind body found
    unfold changeBody? at found
    split at found
    · rfl
    · exact clauseParser_sequenceClause.starts found
  read := by
    intro kind body found
    unfold changeBody? at found
    split at found
    · cases found
      have number : Local (do
          return some (SequenceClause.restart (.value (← signedInteger)))) :=
        .bind .signedInteger fun _ => .pure _
      have plain : ∀ kind, endsClause kind = true → startsSignedNumber kind = false := by
        intro kind ends
        cases kind with
        | integer | numeric => exact absurd rfl (ne_of_endsClause ends rfl)
        | symbol mark =>
            cases mark with
            | minus | plus => exact absurd rfl (ne_of_endsClause ends rfl)
            | _ => rfl
        | _ => rfl
      exact .bind (.eat rfl) fun _ => .ite number (.look plain number (.pure _))
    · exact clauseParser_sequenceClause.read found

/-- A group of tokens that a parser of clauses reads as one clause at the end of a statement is the
same clause where another clause follows. -/
theorem ClauseParser.within {clause : Parser (Option SequenceClause)}
    {body? : TokenKind → Option (Parser (Option SequenceClause))}
    (parser : ClauseParser clause body?) {group : List Token} {alone within : Cursor}
    (aligned : Aligned group alone within) {found : SequenceClause}
    (parsed : clause alone = .ok (some found) (alone.past group.length)) :
    clause within = .ok (some found) (within.past group.length)
      ∧ startsClause within.current.kind = true := by
  rw [parser.run] at parsed ⊢
  split at parsed
  · next body here =>
      have starts := parser.starts here
      have going := going_of_startsClause starts
      have inside := aligned.inside going
      obtain ⟨same, aloneAdvance, withinAdvance⟩ := aligned.advance going
      rw [aloneAdvance] at parsed
      obtain ⟨taken, _, stop, read⟩ := parser.read here (aligned.past inside) parsed
      have count : group.length = 1 + taken := by
        rw [Cursor.past_past] at stop
        have consumed := congrArg Cursor.consumed stop
        simp only [Cursor.past] at consumed
        omega
      rw [← same, here, withinAdvance, count, ← Cursor.past_past]
      exact ⟨read, starts⟩
  · cases parsed

end SqlTree
