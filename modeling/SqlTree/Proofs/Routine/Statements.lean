import SqlTree.Proofs.Grammar.Batches
import SqlTree.Proofs.Routine.Rules

/-!
# The rules of statements, written out

The rules of statements and sequences, the loops over clauses and over statements, and the steps of
a session can be written out. A statement calls the rules that nest from the top.
-/

namespace SqlTree.Grammar

open SqlTree.Parser

section Sequences

variable {given : Rules → Prop} {known : Prop}

/-- What refuses a token that is no integer. -/
def integerRefused : Routine Int64 :=
  .bind (.look 0 id) fun found => .fail (.unexpected .integer found) lastMark

/-- What a number behind a sign is read as by its text, where it is not a bigint. -/
def wideInteger (negative : Bool) (text : Option (List Char)) : Routine Int64 :=
  if negative && text == some leastMagnitude then .take fun _ => Int64.minValue
  else if text.any Decimal.isNumeral then .fail .integerOutOfRange lastMark
  else integerRefused

/-- What an integer is read as behind its sign, by its first token, whose span is marked. -/
def integerBy (negative : Bool) : TokenKind → Routine Int64
  | .integer value => .take fun _ => if negative then -value else value
  | .numeric _ => .bind (.text id) (wideInteger negative)
  | _ => integerRefused

theorem integerRefused_sound : integerRefused.Sound given known :=
  ⟨trivial, _, Routine.moves_nothing _, fun _ => Cause.noConfusion⟩

theorem wideInteger_sound (negative : Bool) (text : Option (List Char)) :
    (wideInteger negative text).Sound given known := by
  unfold wideInteger
  split
  · trivial
  · split
    · exact Cause.noConfusion
    · exact integerRefused_sound

theorem integerBy_sound (negative : Bool) (kind : TokenKind) :
    (integerBy negative kind).Sound given known := by
  cases kind with
  | integer value => trivial
  | numeric value =>
      exact ⟨trivial, _, Routine.moves_nothing _, fun text => wideInteger_sound negative text⟩
  | _ => exact integerRefused_sound

theorem parser_wideInteger (negative : Bool) (inner : Rules) (spans : List Span)
    (cursor : Cursor) :
    (wideInteger negative cursor.currentText?).parser inner (cursor.current.span :: spans) cursor
      = (if negative && cursor.currentText? == some leastMagnitude then do
          let _ ← advance
          return Int64.minValue
        else if cursor.currentText?.any Decimal.isNumeral then
          fail .integerOutOfRange cursor.current.span
        else unexpected .integer : Parser Int64) cursor := by
  unfold wideInteger
  by_cases least : (negative && cursor.currentText? == some leastMagnitude) = true
  · rw [if_pos least, if_pos least]
    rfl
  · rw [if_neg least, if_neg least]
    by_cases numeral : cursor.currentText?.any Decimal.isNumeral = true
    · rw [if_pos numeral, if_pos numeral]
      rfl
    · rw [if_neg numeral, if_neg numeral]
      rfl

theorem integerBehind_written (negative : Bool) :
    Written given known fun _ _ => integerBehind negative := by
  have reads (inner : Rules) (spans : List Span) :
      (Routine.markAhead 0 (.bind (.look 0 id) (integerBy negative))).parser inner spans
        = integerBehind negative := by
    funext cursor
    refine Eq.trans ?_ (run_get _ cursor).symm
    change (integerBy negative cursor.current.kind).parser inner (cursor.current.span :: spans) cursor
      = _
    cases cursor.current.kind with
    | numeric value => exact parser_wideInteger negative inner spans cursor
    | _ => rfl
  have sound : (Routine.markAhead 0 (.bind (.look 0 id) (integerBy negative))).Sound given known :=
    ⟨trivial, _, Routine.moves_nothing _, fun kind => integerBy_sound negative kind⟩
  exact ⟨_, sound, .integer negative fun inner _ => reads inner, fun inner _ => reads inner⟩

theorem signedInteger_written : Written given known fun _ _ => signedInteger := by
  refine (Written.eatSymbol .minus).bind fun negative => ?_
  cases negative with
  | true => exact integerBehind_written true
  | false => exact (Written.eatSymbol .plus).bind fun _ => integerBehind_written false

theorem ownership_written : Written given known fun _ _ => ownership := by
  refine (Written.look 0).bind fun _ => (Written.look 1).bind fun _ => ?_
  refine Written.ite (fun _ => Written.advance_bind fun _ => Written.pure _) fun _ => ?_
  refine Written.current_bind fun _ => ?_
  refine Written.expectName.bind_taking (fun _ _ _ => Taking.expectName) fun first => ?_
  have others : Written given True fun _ _ => manyAfter (eatSymbol .dot) expectName :=
    (Written.eatSymbol .dot).manyAfter (Moving.eatSymbol .dot) Written.expectName fun _ _ _ =>
      Taking.expectName.steady
  have fails : Written given True fun _ spans => (do
      fail .ownerNotAColumn ((lastMark spans).merge (← previousSpan)) : Parser Ownership) :=
    Written.previousSpan_bind trivial (Written.fail _ IsPlace.lastMarks nofun)
  refine others.bind fun names => ?_
  rcases names with _ | ⟨second, _ | ⟨third, _ | ⟨fourth, more⟩⟩⟩
  · exact fails
  · exact Written.pure _
  · exact Written.pure _
  · exact fails

theorem negatedClause_written : Written given known fun _ _ => negatedClause :=
  Written.choice (Written.pure _)
    (Written.choice (Written.pure _) (Written.choice (Written.pure _) (Written.unexpected _)))

theorem sequenceClause_written : Written given known fun _ _ => sequenceClause := by
  have valued {α : Type} (make : Int64 → α) : Written given known fun _ _ => (do
      return make (← signedInteger) : Parser α) :=
    Written.bind signedInteger_written fun _ => Written.pure _
  refine Written.choice (Written.bind dataType_written fun _ => Written.pure _) ?_
  refine Written.choice ((Written.eatKeyword .WITH).bind fun _ => valued _) ?_
  refine Written.choice ((Written.eatKeyword .BY).bind fun _ => valued _) ?_
  refine Written.choice (valued _) ?_
  refine Written.choice (valued _) ?_
  refine Written.choice (valued _) ?_
  refine Written.choice (Written.pure _) ?_
  refine Written.choice (Written.bind negatedClause_written fun _ => Written.pure _) ?_
  refine Written.choice ?_ (Written.pure none)
  exact (Written.expectKeyword .BY).bind fun _ => Written.bind ownership_written fun _ => Written.pure _

theorem changeClause_written : Written given known fun _ _ => changeClause := by
  have valued : Written given known fun _ _ => (do
      return some (SequenceClause.restart (.value (← signedInteger))) : Parser _) :=
    Written.bind signedInteger_written fun _ => Written.pure _
  refine Written.choice (Written.choice valued ((Written.look 0).bind fun _ => ?_))
    sequenceClause_written
  exact Written.ite (fun _ => valued) fun _ => Written.pure _

/-- What is made of a clause that stands behind others: it may not come again. -/
def addClause (start : Span) (behind : List SequenceClause) :
    Option SequenceClause → Parser (Option (List SequenceClause))
  | none => unexpected .sequenceOptionOrEnd
  | some found => do
    if behind.any fun other => other.name == found.name then
      fail (.duplicateClause found.name) (start.merge (← previousSpan))
    return some (found :: behind)

/-- A turn of the loop over clauses, which leaves at the end of the statement. -/
def clauseTurn (clause : Parser (Option SequenceClause)) (behind : List SequenceClause) :
    Parser (Option (List SequenceClause)) := do
  let start ← current
  if start.kind.isTerminator then return none
  addClause start.span behind (← clause)

theorem turns_clauseTurn (clause : Parser (Option SequenceClause)) (fuel : Nat)
    (behind : List SequenceClause) : clausesWithin clause fuel behind
      = (do return (← turns (clauseTurn clause) fuel behind).reverse) := by
  induction fuel generalizing behind with
  | zero => simp [turns, clausesWithin]
  | succ fuel inductionHypothesis =>
      simp only [turns, clausesWithin, clauseTurn, bind_assoc]
      congr 1
      funext start
      by_cases ends : start.kind.isTerminator = true
      · simp [if_pos ends]
      · simp only [if_neg ends, bind_assoc]
        congr 1
        funext found
        cases found with
        | none => rfl
        | some found =>
            by_cases again : (behind.any fun other => other.name == found.name) = true
            · simp only [addClause, if_pos again, bind_assoc]
              rfl
            · simp only [addClause, if_neg again, inductionHypothesis, pure_bind]

theorem clauseTurn_moving {clause : Parser (Option SequenceClause)}
    (moving : Moving clause (·.isSome = true)) (behind : List SequenceClause) :
    Moving (clauseTurn clause behind) (·.isSome = true) := by
  intro cursor
  refine SteadyAt.current_bind ?_
  split
  · exact SteadyAt.pure nofun
  · refine (moving cursor).bind fun found _ known => ?_
    cases found with
    | none => exact SteadyAt.unexpected (by simp)
    | some found =>
        have moved {result : Option (List SequenceClause)} :
            ¬ (result.isSome = true ∧ ¬ (some found).isSome = true) := fun moved => moved.2 rfl
        unfold addClause
        dsimp only
        split
        · refine SteadyAt.previousSpan_bind (known rfl) ?_
          have fails (span : Span) : Moving (fail (.duplicateClause found.name) span : Parser Unit)
              fun _ => False :=
            Moving.fail rfl
          exact (fails _ _).bind fun _ _ _ => SteadyAt.pure fun found => moved found.1
        · exact SteadyAt.pure moved

theorem clauseTurn_written {clause : Parser (Option SequenceClause)}
    (written : Written given known fun _ _ => clause) (moving : Moving clause (·.isSome = true))
    (behind : List SequenceClause) : Written given known fun _ _ => clauseTurn clause behind := by
  have added (found : Option SequenceClause) : Written given (known ∨ found.isSome = true)
      fun _ spans => addClause (lastMark spans) behind found := by
    cases found with
    | none => exact Written.unexpected _
    | some found =>
        have fails : Written given (known ∨ (some found).isSome = true) fun _ spans =>
            (fail (.duplicateClause found.name) ((lastMark spans.tail).merge (lastMark spans)) :
              Parser Unit) :=
          Written.fail _ IsPlace.lastMarks nofun
        refine Written.ite (fun _ => ?_) fun _ => Written.pure _
        exact Written.previousSpan_bind (.inr rfl) (fails.bind fun _ => Written.pure _)
  have rest : Written given known fun _ spans => (do
      addClause (lastMark spans) behind (← clause) : Parser _) :=
    written.bind_moving _ (fun _ _ _ => moving) added
  refine Written.current_bind fun kind => ?_
  by_cases ends : kind.isTerminator = true
  · simp only [if_pos ends]
    exact Written.pure none
  · simp only [if_neg ends]
    exact rest

theorem clauses_written {clause : Parser (Option SequenceClause)}
    (written : Written given known fun _ _ => clause) (moving : Moving clause (·.isSome = true)) :
    Written given known fun _ _ => clauses clause := by
  unfold clauses
  simp only [turns_clauseTurn]
  have loop := Written.loop (clauseTurn_written written moving)
    (fun _ _ _ => clauseTurn_moving moving) []
  have reversed := loop.map List.reverse
  simp only [map_eq_pure_bind, bind_assoc] at reversed
  exact reversed

theorem persistence_written : Written given known fun _ _ => persistence :=
  Written.choice (Written.pure _)
    (Written.choice (Written.pure _) (Written.choice (Written.pure _) (Written.pure _)))

theorem createSequence_written : Written given known fun _ _ => createSequence := by
  refine (Written.expectKeyword .CREATE).bind fun _ => Written.bind persistence_written fun _ => ?_
  refine (Written.expectKeyword .SEQUENCE).bind fun _ => Written.bind ifNotExists_written fun _ => ?_
  exact Written.bind objectName_written fun _ =>
    (clauses_written sequenceClause_written sequenceClause_moving).bind fun _ => Written.pure _

theorem sequenceChangeBy_written (kind : TokenKind) {place : List Span → Span}
    (isPlace : IsPlace place) :
    Written given known fun _ spans => sequenceChangeBy kind (place spans) := by
  have named (make : String → SequenceChange) : Written given known fun _ _ => (do
      let _ ← advance
      expectKeyword .TO
      return make (← expectName) : Parser SequenceChange) :=
    Written.advance_bind fun _ => (Written.expectKeyword .TO).bind fun _ =>
      Written.expectName.bind fun _ => Written.pure _
  have setting : Written given known fun _ spans => (do
      if (← look 1) = .keyword .SCHEMA then
        let _ ← advance
        let _ ← advance
        return .schema (← expectName)
      else fail .unsupportedSequenceSetting (place spans) : Parser SequenceChange) :=
    (Written.look 1).bind fun _ => Written.ite
      (fun _ => Written.advance_bind fun _ => Written.advance_bind fun _ =>
        Written.expectName.bind fun _ => Written.pure _)
      fun _ => Written.fail _ isPlace nofun
  have optioned : Written given known fun _ _ => (do
      let clauses ← clauses changeClause
      return SequenceChange.options (optionsOf clauses) (restartOf clauses) : Parser _) :=
    (clauses_written changeClause_written changeClause_moving).bind fun _ => Written.pure _
  have others (kind : TokenKind) : Written given known fun _ _ => (do
      if kind.isTerminator then unexpected .sequenceOption
      let clauses ← clauses changeClause
      return SequenceChange.options (optionsOf clauses) (restartOf clauses) : Parser _) :=
    Written.ite (fun _ => (Written.unexpected _).bind fun _ => optioned) fun _ => optioned
  have other := others kind
  cases kind with
  | keyword word => cases word <;> first | exact other | exact setting | exact named _
  | _ => exact other

theorem sequenceChange_written : Written given known fun _ _ => sequenceChange := by
  have read (kind : TokenKind) : Written given known fun _ spans =>
      sequenceChangeBy kind ((lastMark spans.tail).merge (lastMark spans)) :=
    sequenceChangeBy_written kind IsPlace.lastMarks
  exact Written.markAhead 0 (Written.markAhead 1 ((Written.look 0).bind read))

theorem alterSequence_written : Written given known fun _ _ => alterSequence :=
  (Written.expectKeyword .ALTER).bind fun _ => (Written.expectKeyword .SEQUENCE).bind fun _ =>
    Written.bind ifExists_written fun _ => Written.bind objectName_written fun _ =>
      Written.bind sequenceChange_written fun _ => Written.pure _

theorem dropSequence_written : Written given known fun _ _ => dropSequence := by
  have names : Written given known fun _ _ => separated objectName :=
    objectName_written.separated fun _ _ _ => objectName_taking.steady
  have dropBehavior : Written given known fun _ _ => dropBehavior :=
    Written.choice (Written.pure _) (Written.choice (Written.pure _) (Written.pure _))
  exact (Written.expectKeyword .DROP).bind fun _ => (Written.expectKeyword .SEQUENCE).bind fun _ =>
    Written.bind ifExists_written fun _ => names.bind fun _ => dropBehavior.bind fun _ => Written.pure _

end Sequences

section Statements

variable {known : Prop}

/-- What is written out for any rules is written out for those of a statement. -/
theorem written_atTop {α : Type} {parser : Rules → List Span → Parser α}
    (written : Written (· = topRules) known parser) :
    Written (· = topRules) known fun _ spans => parser topRules spans := by
  obtain ⟨routine, sound, regular, same⟩ := written
  refine ⟨routine, sound, regular, fun inner top spans => ?_⟩
  rw [same inner top, top]

theorem topExpression_written : Written (· = topRules) known fun _ _ => topRules.expression 0 :=
  written_atTop (inner_written 0)

theorem returning_written : Written (· = topRules) known fun _ _ => returning :=
  ((written_atTop outputColumns_written).optionalAfter .RETURNING).bind fun _ => Written.pure _

theorem rowFilter_written : Written (· = topRules) known fun _ _ => rowFilter :=
  topExpression_written.optionalAfter .WHERE

theorem targetColumns_written : Written (· = topRules) known fun _ _ => targetColumns :=
  Written.choice
    (Written.bind nameList_written fun _ => (Written.expectSymbol .rightParen).bind fun _ => Written.pure _)
    (Written.pure [])

theorem insertSource_written : Written (· = topRules) known fun _ _ => insertSource := by
  have rows : Written (· = topRules) known fun _ _ =>
      separated (parenthesized (expressionList topRules)) :=
    (written_atTop expressionList_written).parenthesized.separated fun _ _ _ =>
      (Taking.parenthesized (expressionList_steady topRules_areSteady)).steady
  have query : Written (· = topRules) known fun _ _ => (do
      return .query (← topRules.query) : Parser InsertSource) :=
    (written_atTop innerQuery_written).bind fun _ => Written.pure _
  refine Written.choice (rows.bind fun _ => Written.pure _) ?_
  refine (Written.atKeyword .SELECT).bind fun _ => Written.ite (fun _ => query) fun _ => ?_
  exact Written.choice ((Written.expectKeyword .VALUES).bind fun _ => Written.pure _)
    (Written.unexpected _)

theorem insert_written : Written (· = topRules) known fun _ _ => insert :=
  (Written.expectKeyword .INSERT).bind fun _ => (Written.expectKeyword .INTO).bind fun _ =>
    Written.bind objectName_written fun _ => Written.bind targetColumns_written fun _ =>
      Written.bind insertSource_written fun _ => Written.bind returning_written fun _ => Written.pure _

theorem assignment_written : Written (· = topRules) known fun _ _ => assignment :=
  Written.expectName.bind fun _ => (Written.expectSymbol .equal).bind fun _ =>
    Written.bind topExpression_written fun _ => Written.pure _

theorem update_written : Written (· = topRules) known fun _ _ => update := by
  have assignments : Written (· = topRules) known fun _ _ => separated assignment :=
    assignment_written.separated fun _ _ _ => assignment_steady
  refine (Written.expectKeyword .UPDATE).bind fun _ => Written.bind objectName_written fun _ => ?_
  refine Written.bind optionalAlias_written fun _ => (Written.expectKeyword .SET).bind fun _ => ?_
  refine assignments.bind fun _ => ?_
  refine ((written_atTop tableList_written).optionalAfter .FROM).bind fun _ => ?_
  exact Written.bind rowFilter_written fun _ => Written.bind returning_written fun _ => Written.pure _

theorem delete_written : Written (· = topRules) known fun _ _ => delete :=
  (Written.expectKeyword .DELETE).bind fun _ => (Written.expectKeyword .FROM).bind fun _ =>
    Written.bind objectName_written fun _ => Written.bind optionalAlias_written fun _ =>
      Written.bind rowFilter_written fun _ => Written.bind returning_written fun _ => Written.pure _

/-- The words that name an object do not go by where they stand. -/
theorem objectWords_words (second third : Token) (span : Span) :
    (objectWords second third).map Prod.fst
      = (objectWords ⟨second.kind, span⟩ ⟨third.kind, span⟩).map Prod.fst := by
  unfold objectWords
  dsimp only
  cases upperWord? second.kind with
  | none => rfl
  | some word =>
      dsimp only
      by_cases temporary : isPersistence second.kind = true
      · simp only [if_pos temporary]
        cases upperWord? third.kind <;> rfl
      · simp only [if_neg temporary]
        rfl

/-- What reaches from a place over the words that name an object is a place. -/
theorem isPlace_objectWords (second third : TokenKind) : IsPlace fun spans =>
    (objectWords ⟨second, lastMark spans.tail⟩ ⟨third, lastMark spans⟩).foldl
      (fun span object => span.merge object.2) (lastMark spans.tail.tail) := by
  have first := IsPlace.lastMark.tail.tail
  have middle := first.merge IsPlace.lastMark.tail
  unfold objectWords
  dsimp only
  cases upperWord? second with
  | none => exact first
  | some word =>
      by_cases temporary : isPersistence second = true
      · simp only [if_pos temporary]
        cases upperWord? third with
        | none => exact middle
        | some object => exact middle.merge IsPlace.lastMark
      · simp only [if_neg temporary]
        exact middle

/-- A statement that takes an object is refused by the two words behind its verb. -/
theorem unsupportedObject_written {given : Rules → Prop} {α : Type} (verb : Keyword) :
    Written given known fun _ _ => (unsupportedStatement verb true : Parser α) := by
  have fails (second third : TokenKind) : Written given known fun _ spans =>
      let objects := objectWords ⟨second, lastMark spans.tail⟩ ⟨third, lastMark spans⟩
      (fail (.unsupportedStatement (verb.spelling :: objects.map Prod.fst))
        (objects.foldl (fun span object => span.merge object.2) (lastMark spans.tail.tail)) :
          Parser α) := by
    simp only [objectWords_words ⟨second, _⟩ ⟨third, _⟩ (.point 0)]
    exact Written.fail _ (isPlace_objectWords second third) nofun
  exact Written.markAhead 0 (Written.markAhead 1 (Written.markAhead 2
    ((Written.look 1).bind fun second => (Written.look 2).bind (fails second))))

/-- A statement that takes no object is refused by its verb alone. -/
theorem unsupportedVerb_written {given : Rules → Prop} {α : Type} (verb : Keyword) :
    Written given known fun _ _ => (unsupportedStatement verb false : Parser α) := by
  have fails : Written given known fun _ spans =>
      (fail (.unsupportedStatement [verb.spelling]) (lastMark spans) : Parser α) :=
    Written.fail _ IsPlace.lastMark nofun
  exact Written.markAhead 0 fails

theorem statementBody_written : Written (· = topRules) known fun _ _ => statementBody := by
  have select : Written (· = topRules) known fun _ _ => (do
      return .select (← topRules.query) : Parser Statement) :=
    (written_atTop innerQuery_written).bind fun _ => Written.pure _
  have insert : Written (· = topRules) known fun _ _ => (do
      return .insert (← insert) : Parser Statement) :=
    Written.bind insert_written fun _ => Written.pure _
  have update : Written (· = topRules) known fun _ _ => (do
      return .update (← update) : Parser Statement) :=
    Written.bind update_written fun _ => Written.pure _
  have delete : Written (· = topRules) known fun _ _ => (do
      return .delete (← delete) : Parser Statement) :=
    Written.bind delete_written fun _ => Written.pure _
  have create : Written (· = topRules) known fun _ _ => (do
      if startsSequence (← look 1) (← look 2) then return .createSequence (← createSequence)
      else unsupportedStatement .CREATE true : Parser Statement) :=
    (Written.look 1).bind fun _ => (Written.look 2).bind fun _ =>
      Written.ite (fun _ => Written.bind createSequence_written fun _ => Written.pure _) fun _ =>
        unsupportedObject_written _
  have alter : Written (· = topRules) known fun _ _ => (do
      if (← look 1) = .keyword .SEQUENCE then return .alterSequence (← alterSequence)
      else unsupportedStatement .ALTER true : Parser Statement) :=
    (Written.look 1).bind fun _ =>
      Written.ite (fun _ => Written.bind alterSequence_written fun _ => Written.pure _) fun _ =>
        unsupportedObject_written _
  have drop : Written (· = topRules) known fun _ _ => (do
      if (← look 1) = .keyword .SEQUENCE then return .dropSequence (← dropSequence)
      else unsupportedStatement .DROP true : Parser Statement) :=
    (Written.look 1).bind fun _ =>
      Written.ite (fun _ => Written.bind dropSequence_written fun _ => Written.pure _) fun _ =>
        unsupportedObject_written _
  have fails : Written (· = topRules) known fun _ _ =>
      (unexpected .statement : Parser Statement) :=
    Written.unexpected _
  refine (Written.look 0).bind fun kind => ?_
  cases kind with
  | keyword word =>
      cases word <;>
        first
        | exact fails
        | exact select
        | exact insert
        | exact update
        | exact delete
        | exact create
        | exact alter
        | exact drop
        | exact unsupportedVerb_written _
  | _ => exact fails

theorem endOfStatement_written {given : Rules → Prop} :
    Written given known fun _ _ => endOfStatement :=
  (Written.look 0).bind fun _ => Written.ite (fun _ => Written.pure ()) fun _ => Written.unexpected _

end Statements

section Steps

variable {known : Prop}

theorem skipSemicolons_written {given : Rules → Prop} :
    Written given known fun _ _ => skipSemicolons :=
  ((Written.eatSymbol .semicolon).manyAfter (Moving.eatSymbol .semicolon) (Written.pure ())
    fun _ _ _ => Steady.pure ()).bind fun _ => Written.pure ()

/-- A statement is written out without its span, for which the last token is asked for all the
same. -/
theorem statement_written : Written (· = topRules) known fun _ _ => statement := by
  have read : statement = (do
      skipSemicolons
      let _ ← current
      let statement ← statementBody
      endOfStatement
      let _ ← previousSpan
      let _ ← eatSymbol .semicolon
      return statement) := by
    simp only [statement, locatedStatement, bind_assoc, pure_bind]
  simp only [read]
  refine Written.bind skipSemicolons_written fun _ => Written.current_bind fun _ => ?_
  refine statementBody_written.bind_taking (fun _ _ _ => statementBody_taking) fun statement => ?_
  refine Written.bind endOfStatement_written fun _ => Written.previousSpan_bind trivial ?_
  exact (Written.eatSymbol .semicolon).bind fun _ => Written.pure _

theorem finish_written {given : Rules → Prop} : Written given known fun _ _ => finish :=
  Written.bind skipSemicolons_written fun _ => (Written.look 0).bind fun _ =>
    Written.ite (fun _ => Written.pure ()) fun _ => Written.unexpected _

/-- A turn of the loop over statements, which leaves at the end of the input. -/
def nextStatement : Parser (Option Statement) := do
  skipSemicolons
  if (← look 0) = .finish then return none
  return some (← statement)

theorem collectWithin_nextStatement (fuel : Nat) : collectWithin nextStatement fuel
    = (do return (← statementsWithin fuel).map LocatedStatement.statement) := by
  induction fuel with
  | zero => simp [collectWithin, statementsWithin]
  | succ fuel inductionHypothesis =>
      rw [collectWithin, inductionHypothesis]
      simp only [nextStatement, statementsWithin, bind_assoc]
      congr 1
      funext _
      congr 1
      funext kind
      by_cases ends : kind = .finish
      · simp only [if_pos ends, pure_bind, List.map_nil]
      · simp only [if_neg ends, statement, bind_assoc, pure_bind, List.map_cons]

theorem nextStatement_moving : Moving nextStatement (·.isSome = true) := by
  refine Moving.bind skipSemicolons_steady fun _ cursor => SteadyAt.look_bind (by decide) ?_
  split
  · exact SteadyAt.pure nofun
  · exact (statement_taking.bind fun _ => Steady.pure _) cursor

theorem statements_written : Written (· = topRules) known fun _ _ => statements := by
  have turn : Written (· = topRules) known fun _ _ => nextStatement :=
    Written.bind skipSemicolons_written fun _ => (Written.look 0).bind fun _ =>
      Written.ite (fun _ => Written.pure none) fun _ => Written.bind statement_written fun _ =>
        Written.pure _
  have read : statements = collect nextStatement := by
    rw [statements_eq]
    unfold collect
    simp only [collectWithin_nextStatement]
  rw [read]
  exact turn.collect fun _ _ _ => nextStatement_moving

theorem step_written (step : Step) : Written (· = topRules) known fun _ _ => step.parser := by
  cases step with
  | statement => exact statement_written.map _
  | statements => exact statements_written.map _
  | expression => exact topExpression_written.map _
  | finish => exact finish_written.map _

end Steps

end SqlTree.Grammar

namespace SqlTree

open SqlTree.Grammar

/-- The grammar, written out. Every step of a session is a routine, and so is what stands behind the
name of every rule that nests. A rule can come back to itself only by a call, because routines are
finite; what a routine does is what the rule does, whatever the rules are that it calls. -/
structure Code where
  /-- What stands behind the name of a rule. -/
  body : {α : Type} → Call α → Routine α
  /-- What a step of a session does. -/
  step : Step → Routine Answer
  parser_body : ∀ {α : Type} (rule : Call α) (inner : Rules) (spans : List Span),
    (body rule).parser inner spans = rule.rule inner
  parser_step : ∀ (asked : Step) (spans : List Span),
    (step asked).parser topRules spans = asked.parser
  body_sound : ∀ {α : Type} (rule : Call α), (body rule).Sound (fun _ => True) False
  step_sound : ∀ asked, (step asked).Sound (· = topRules) False

instance : Nonempty Code := by
  have bodies (α : Type) (rule : Call α) :
      Written (fun _ => True) False fun inner _ => rule.rule inner :=
    rule_written rule
  have steps (step : Step) : Written (· = topRules) False fun _ _ => step.parser :=
    step_written step
  choose body bodySound _ bodySame using bodies
  choose step stepSound _ stepSame using steps
  exact ⟨⟨body _, step, fun rule inner => bodySame _ rule inner trivial,
    fun step => stepSame step topRules rfl, bodySound _, stepSound⟩⟩

end SqlTree
