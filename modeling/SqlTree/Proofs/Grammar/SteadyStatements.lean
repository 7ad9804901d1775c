import SqlTree.Grammar.Session
import SqlTree.Proofs.Grammar.SteadyRules

/-!
# Steadiness of the grammar of statements

The rules of statements and of sequences, the loop over clauses, and the steps of a session are
steady. A clause takes a token, so that the span of a clause that comes again is known from the
clause alone; and so does a statement, so that the span of a statement is known from it alone.
-/

namespace SqlTree.Grammar

open SqlTree.Parser

section Sequences

theorem integerBehind_steady (negative : Bool) : Steady (integerBehind negative) := by
  intro cursor
  refine SteadyAt.get_bind ?_ ?_
  · intro other agrees
    have current : other.current = cursor.current := agrees.current (by omega)
    have text : other.currentText? = cursor.currentText? := by
      rw [Cursor.currentText?, Cursor.currentText?, current, agrees.source]
    simp only [current, text]
  · split
    · next value known => exact SteadyAt.advance_bind (isPlain_of_eq known rfl) (Steady.pure _ _)
    · next value known =>
        split
        · exact SteadyAt.advance_bind (isPlain_of_eq known rfl) (Steady.pure _ _)
        · split
          · exact SteadyAt.fail rfl
          · exact SteadyAt.unexpected (by simp)
    · exact SteadyAt.unexpected (by simp)

theorem signedInteger_steady : Steady signedInteger := by
  rw [signedInteger_eq]
  refine (Moving.eatSymbol .minus).steady.bind fun negative => ?_
  cases negative with
  | true => exact integerBehind_steady true
  | false => exact (Moving.eatSymbol .plus).steady.bind fun _ => integerBehind_steady false

theorem ownership_steady : Steady ownership := by
  intro cursor
  refine SteadyAt.look_bind (by decide) (SteadyAt.look_bind (by decide) ?_)
  split
  · next known => exact SteadyAt.advance_bind (isPlain_of_eq known.1 rfl) (Steady.pure _ _)
  · refine SteadyAt.current_bind ?_
    refine (Taking.expectName cursor).bind_known fun first behind known => ?_
    have others : Steady (manyAfter (eatSymbol .dot) expectName) :=
      Steady.manyAfter (Moving.eatSymbol .dot) Taking.expectName.steady
    refine (others behind).bind_still known fun names behind known => ?_
    split
    · exact Steady.pure _ _
    · exact Steady.pure _ _
    · exact SteadyAt.previousSpan_bind known (SteadyAt.fail rfl)

theorem negatedClause_steady : Steady negatedClause :=
  (Moving.eatKeyword .MINVALUE).choice (Steady.pure _)
    ((Moving.eatKeyword .MAXVALUE).choice (Steady.pure _)
      ((Moving.eatKeyword .CYCLE).choice (Steady.pure _) (Moving.unexpected (by simp))))

theorem sequenceClause_moving : Moving sequenceClause (·.isSome = true) := by
  have valued {α : Type} (make : Int64 → α) : Steady (do return make (← signedInteger)) :=
    signedInteger_steady.bind fun _ => Steady.pure _
  refine (Moving.eatKeyword .AS).choice (dataType_taking.bind fun _ => Steady.pure _) ?_
  refine (Moving.eatKeyword .START).choice
    ((Moving.eatKeyword .WITH).steady.bind fun _ => valued _) ?_
  refine (Moving.eatKeyword .INCREMENT).choice
    ((Moving.eatKeyword .BY).steady.bind fun _ => valued _) ?_
  refine (Moving.eatKeyword .MINVALUE).choice (valued _) ?_
  refine (Moving.eatKeyword .MAXVALUE).choice (valued _) ?_
  refine (Moving.eatKeyword .CACHE).choice (valued _) ?_
  refine (Moving.eatKeyword .CYCLE).choice (Steady.pure _) ?_
  refine (Moving.eatKeyword .NO).choice (negatedClause_steady.bind fun _ => Steady.pure _) ?_
  refine (Moving.eatKeyword .OWNED).choice ?_ fun _ => SteadyAt.pure nofun
  exact (Taking.expectKeyword .BY).bind fun _ => ownership_steady.bind fun _ => Steady.pure _

theorem changeClause_moving : Moving changeClause (·.isSome = true) := by
  have valued : Steady (do return some (SequenceClause.restart (.value (← signedInteger)))) :=
    signedInteger_steady.bind fun _ => Steady.pure _
  refine (Moving.eatKeyword .RESTART).choice ?_ sequenceClause_moving
  refine (Moving.eatKeyword .WITH).choice valued ((Steady.look (by decide)).bind fun kind => ?_)
  split
  · exact valued
  · exact Steady.pure _

theorem clausesWithin_settles {clause : Parser (Option SequenceClause)}
    (moving : Moving clause (·.isSome = true)) {size : Nat} {cursor : Cursor}
    (closed : cursor.close.kind = .finish) (bound : cursor.ahead.length < size)
    (behind : List SequenceClause) :
    Settles (fun fuel => clausesWithin clause fuel behind) cursor := by
  induction size generalizing cursor behind with
  | zero => cases bound
  | succ size inductionHypothesis =>
      by_cases ends : cursor.current.kind.isTerminator = true
      · apply Settles.of_last
        intro fuel
        apply Comes.current_bind
        rw [if_pos ends]
        exact Comes.pure _ _
      · obtain ⟨found, front, comes, moved⟩ := moving cursor closed
        match found with
        | .error failure =>
            apply Settles.of_last
            intro fuel
            apply Comes.current_bind
            rw [if_neg ends]
            exact comes.bind_error
        | .ok none =>
            apply Settles.of_last
            intro fuel
            apply Comes.current_bind
            rw [if_neg ends]
            exact comes.bind closed (Comes.unexpected (by simp) _)
        | .ok (some value) =>
            have positive : 0 < front := moved _ rfl rfl
            by_cases again : (behind.any fun other => other.name == value.name) = true
            · have known := comes.clear.isSome_previous closed positive
              apply Settles.of_last
              intro fuel
              apply Comes.current_bind
              rw [if_neg ends]
              apply comes.bind closed
              dsimp only
              rw [if_pos again]
              exact Comes.previousSpan_bind known (Comes.fail rfl _).bind_error
            · have inside : front ≤ cursor.ahead.length := comes.clear.inside closed
              have shorter : (cursor.past front).ahead.length < size := by
                rw [Cursor.past, List.length_drop]
                omega
              have closedBehind : (cursor.past front).close.kind = .finish := closed
              have rest := inductionHypothesis closedBehind shorter (value :: behind)
              refine Settles.of_turn positive rest id fun fuel outcome back others => ?_
              apply Comes.current_bind
              rw [if_neg ends]
              refine comes.bind closed ?_
              dsimp only
              rw [if_neg again]
              exact others

theorem clauses_steady {clause : Parser (Option SequenceClause)}
    (moving : Moving clause (·.isSome = true)) : Steady (clauses clause) :=
  Settles.steady fun _ closed => clausesWithin_settles moving closed (Nat.lt_succ_self _) []

theorem persistence_steady : Steady persistence :=
  (Moving.eatKeyword .TEMP).choice (Steady.pure _)
    ((Moving.eatKeyword .TEMPORARY).choice (Steady.pure _)
      ((Moving.eatKeyword .UNLOGGED).choice (Steady.pure _) (Steady.pure _)))

theorem createSequence_taking : Taking createSequence :=
  (Taking.expectKeyword .CREATE).bind fun _ => persistence_steady.bind fun _ =>
    (Taking.expectKeyword .SEQUENCE).bind fun _ => ifNotExists_steady.bind fun _ =>
      objectName_taking.bind fun _ => (clauses_steady sequenceClause_moving).bind fun _ =>
        Steady.pure _

theorem sequenceChange_steady : Steady sequenceChange := by
  intro cursor
  have named (make : String → SequenceChange) : Steady (do return make (← expectName)) :=
    Taking.expectName.bind fun _ => Steady.pure _
  have optioned : Steady (do
      let clauses ← clauses changeClause
      return SequenceChange.options (optionsOf clauses) (restartOf clauses)) :=
    (clauses_steady changeClause_moving).bind fun _ => Steady.pure _
  refine SteadyAt.get_bind ?_ ?_
  · intro other agrees
    have current : other.current = cursor.current := agrees.current (by omega)
    have next : other.peek 1 = cursor.peek 1 := agrees.peek 1 (by omega)
    simp only [current, next]
  · split
    · next known =>
        refine SteadyAt.advance_bind (isPlain_of_eq known rfl) ?_
        exact ((Taking.expectKeyword .TO).bind fun _ => named _) _
    · next known =>
        refine SteadyAt.advance_bind (isPlain_of_eq known rfl) ?_
        exact ((Taking.expectKeyword .TO).bind fun _ => named _) _
    · next known =>
        refine SteadyAt.look_bind (by decide) ?_
        split
        · next schema =>
            refine SteadyAt.advance_bind (isPlain_of_eq known rfl) (SteadyAt.advance_bind ?_ ?_)
            · rw [Cursor.current_past]
              exact isPlain_of_eq schema rfl
            · exact named _ _
        · exact SteadyAt.fail rfl
    · dsimp only
      split
      · exact (Steady.bind (Moving.unexpected (by simp)) fun _ => optioned) _
      · exact optioned _

theorem alterSequence_taking : Taking alterSequence :=
  (Taking.expectKeyword .ALTER).bind fun _ => (Taking.expectKeyword .SEQUENCE).bind fun _ =>
    ifExists_steady.bind fun _ => objectName_taking.bind fun _ =>
      sequenceChange_steady.bind fun _ => Steady.pure _

theorem dropSequence_taking : Taking dropSequence := by
  have dropBehavior : Steady dropBehavior :=
    (Moving.eatKeyword .CASCADE).choice (Steady.pure _)
      ((Moving.eatKeyword .RESTRICT).choice (Steady.pure _) (Steady.pure _))
  exact (Taking.expectKeyword .DROP).bind fun _ => (Taking.expectKeyword .SEQUENCE).bind fun _ =>
    ifExists_steady.bind fun _ => objectName_taking.steady.separated.bind fun _ =>
      dropBehavior.bind fun _ => Steady.pure _

end Sequences

section Statements

theorem topRules_areSteady : topRules.AreSteady := rules_areSteady maximalNesting

theorem returning_steady : Steady returning :=
  (Steady.optionalAfter .RETURNING (outputColumns_steady topRules_areSteady)).bind fun _ =>
    Steady.pure _

theorem rowFilter_steady : Steady rowFilter :=
  Steady.optionalAfter .WHERE (topRules_areSteady.expression 0)

theorem targetColumns_steady : Steady targetColumns :=
  (Moving.eatSymbol .leftParen).choice
    (nameList_steady.bind fun _ => (Taking.expectSymbol .rightParen).bind fun _ => Steady.pure _)
    (Steady.pure [])

theorem insertSource_steady : Steady insertSource := by
  have rows : Steady (separated (parenthesized (expressionList topRules))) :=
    (Taking.parenthesized (expressionList_steady topRules_areSteady)).steady.separated
  refine (Moving.eatKeyword .VALUES).choice (rows.bind fun _ => Steady.pure _) ?_
  refine (Steady.atKeyword .SELECT).bind fun selects => ?_
  split
  · exact topRules_areSteady.query.bind fun _ => Steady.pure _
  · exact (Moving.eatKeyword .DEFAULT).choice
      ((Taking.expectKeyword .VALUES).bind fun _ => Steady.pure _) (Moving.unexpected (by simp))

theorem insert_taking : Taking insert :=
  (Taking.expectKeyword .INSERT).bind fun _ => (Taking.expectKeyword .INTO).bind fun _ =>
    objectName_taking.bind fun _ => targetColumns_steady.bind fun _ =>
      insertSource_steady.bind fun _ => returning_steady.bind fun _ => Steady.pure _

theorem assignment_steady : Steady assignment :=
  Taking.expectName.bind fun _ => (Taking.expectSymbol .equal).bind fun _ =>
    (topRules_areSteady.expression 0).bind fun _ => Steady.pure _

theorem update_taking : Taking update := by
  refine (Taking.expectKeyword .UPDATE).bind fun _ => objectName_taking.bind fun _ => ?_
  refine optionalAlias_steady.bind fun _ => (Taking.expectKeyword .SET).bind fun _ => ?_
  refine assignment_steady.separated.bind fun _ => ?_
  refine (Steady.optionalAfter .FROM (tableList_steady topRules_areSteady)).bind fun _ => ?_
  exact rowFilter_steady.bind fun _ => returning_steady.bind fun _ => Steady.pure _

theorem delete_taking : Taking delete :=
  (Taking.expectKeyword .DELETE).bind fun _ => (Taking.expectKeyword .FROM).bind fun _ =>
    objectName_taking.bind fun _ => optionalAlias_steady.bind fun _ =>
      rowFilter_steady.bind fun _ => returning_steady.bind fun _ => Steady.pure _

theorem unsupportedStatement_taking {α : Type} (verb : Keyword) (takesObject : Bool) :
    Taking (unsupportedStatement verb takesObject : Parser α) := by
  intro cursor
  refine SteadyAt.get_bind ?_ (SteadyAt.fail rfl)
  intro other agrees
  have current : other.current = cursor.current := agrees.current (by omega)
  have second : other.peek 1 = cursor.peek 1 := agrees.peek 1 (by omega)
  have third : other.peek 2 = cursor.peek 2 := agrees.peek 2 (by omega)
  simp only [current, second, third]

theorem statementBody_taking : Taking statementBody := by
  intro cursor
  refine SteadyAt.look_bind (by decide) ?_
  split
  · exact (topRules_areSteady.query.bind fun _ => Steady.pure _) cursor
  · exact (insert_taking.bind fun _ => Steady.pure _) cursor
  · exact (update_taking.bind fun _ => Steady.pure _) cursor
  · exact (delete_taking.bind fun _ => Steady.pure _) cursor
  · refine SteadyAt.look_bind (by decide) (SteadyAt.look_bind (by decide) ?_)
    split
    · exact (createSequence_taking.bind fun _ => Steady.pure _) cursor
    · exact unsupportedStatement_taking .CREATE true cursor
  · refine SteadyAt.look_bind (by decide) ?_
    split
    · exact (alterSequence_taking.bind fun _ => Steady.pure _) cursor
    · exact unsupportedStatement_taking .ALTER true cursor
  · refine SteadyAt.look_bind (by decide) ?_
    split
    · exact (dropSequence_taking.bind fun _ => Steady.pure _) cursor
    · exact unsupportedStatement_taking .DROP true cursor
  · exact unsupportedStatement_taking .TRUNCATE false cursor
  · exact unsupportedStatement_taking .WITH false cursor
  · exact SteadyAt.unexpected (by simp)

theorem endOfStatement_steady : Steady endOfStatement := by
  refine (Steady.look (by decide)).bind fun kind => ?_
  split
  · exact Steady.pure ()
  · exact Moving.unexpected (by simp)

end Statements

section Session

theorem skipSemicolons_steady : Steady skipSemicolons :=
  (Steady.manyAfter (Moving.eatSymbol .semicolon) (Steady.pure ())).bind fun _ => Steady.pure ()

theorem locatedStatement_taking : Taking locatedStatement := by
  refine Moving.bind skipSemicolons_steady fun _ cursor => SteadyAt.current_bind ?_
  refine (statementBody_taking cursor).bind_known fun body behind known => ?_
  refine (endOfStatement_steady behind).bind_still known fun _ behind known => ?_
  refine SteadyAt.previousSpan_bind known ?_
  exact ((Moving.eatSymbol .semicolon).steady.bind fun _ => Steady.pure _) behind

theorem statement_taking : Taking statement :=
  locatedStatement_taking.bind fun _ => Steady.pure _

theorem expression_steady : Steady expression := topRules_areSteady.expression 0

theorem finish_steady : Steady finish := by
  refine skipSemicolons_steady.bind fun _ => (Steady.look (by decide)).bind fun kind => ?_
  split
  · exact Steady.pure ()
  · exact Moving.unexpected (by simp)

end Session

end SqlTree.Grammar
