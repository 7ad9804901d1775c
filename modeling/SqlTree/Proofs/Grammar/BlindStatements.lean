import SqlTree.Proofs.Grammar.BlindRules
import SqlTree.Proofs.Grammar.SteadyStatements

/-!
# Blindness of the grammar of statements

The rules of statements and of sequences and the loop over clauses are blind. The loop stops where
the statement ends, be it at a semicolon or at the end of the input.
-/

namespace SqlTree.Grammar

open SqlTree.Parser

section Sequences

variable {behind : List Token} {short long : Cursor}

theorem integerBehind_blind (negative : Bool) : Blind (integerBehind negative) := by
  intro behind short long cut
  refine Alike.get_bind ?_
  rcases cut.current with same | ⟨ends, endsToo⟩
  · have text : long.currentText? = short.currentText? := by
      rw [Cursor.currentText?, Cursor.currentText?, same, cut.source]
    simp only [same, text]
    change BlindAt behind short long _
    split
    · next value known =>
        exact Alike.advance_bind cut (isTerminator_of_eq known rfl) fun cut => Blind.pure _ cut
    · next value known =>
        split
        · exact Alike.advance_bind cut (isTerminator_of_eq known rfl) fun cut => Blind.pure _ cut
        · split
          · exact Alike.fail
          · exact Blind.unexpected _ cut
    · exact Blind.unexpected _ cut
  · simp only [ends, endsToo]
    exact Blind.unexpected _ cut

theorem signedInteger_blind : Blind signedInteger := by
  rw [signedInteger_eq]
  refine (Blind.eatSymbol .minus rfl).bind fun negative => ?_
  cases negative with
  | true => exact integerBehind_blind true
  | false => exact (Blind.eatSymbol .plus rfl).bind fun _ => integerBehind_blind false

theorem ownership_blind : Blind ownership := by
  have others : Blind (manyAfter (eatSymbol .dot) expectName) :=
    Blind.manyAfter (Moving.eatSymbol .dot) Taking.expectName.steady (Blind.eatSymbol .dot rfl)
      Blind.expectName
  intro behind short long cut
  refine Alike.first_two_bind cut (fun _ => rfl) (fun _ => rfl) (fun _ => by simp) ?_
  split
  · next known =>
      exact Alike.advance_bind cut (isTerminator_of_eq known.1 rfl) fun cut => Blind.pure _ cut
  · refine Alike.start_bind fun start startToo => ?_
    refine (Blind.expectName cut).bind fun first short long cut => ?_
    refine (others cut).bind fun names short long cut => ?_
    rcases names with _ | ⟨second, _ | ⟨third, _ | ⟨fourth, names⟩⟩⟩
    · exact Alike.previousSpan_bind fun _ _ => Alike.fail
    · exact Blind.pure _ cut
    · exact Blind.pure _ cut
    · exact Alike.previousSpan_bind fun _ _ => Alike.fail

theorem negatedClause_blind : Blind negatedClause :=
  Blind.choice rfl (Blind.pure _)
    (Blind.choice rfl (Blind.pure _) (Blind.choice rfl (Blind.pure _) (Blind.unexpected _)))

theorem sequenceClause_blind : Blind sequenceClause := by
  have valued {α : Type} (make : Int64 → α) : Blind (do return make (← signedInteger)) :=
    signedInteger_blind.bind fun _ => Blind.pure _
  refine Blind.choice rfl (dataType_blind.bind fun _ => Blind.pure _) ?_
  refine Blind.choice rfl ((Blind.eatKeyword .WITH).bind fun _ => valued _) ?_
  refine Blind.choice rfl ((Blind.eatKeyword .BY).bind fun _ => valued _) ?_
  refine Blind.choice rfl (valued _) ?_
  refine Blind.choice rfl (valued _) ?_
  refine Blind.choice rfl (valued _) ?_
  refine Blind.choice rfl (Blind.pure _) ?_
  refine Blind.choice rfl (negatedClause_blind.bind fun _ => Blind.pure _) ?_
  refine Blind.choice rfl ?_ (Blind.pure none)
  exact (Blind.expectKeyword .BY).bind fun _ => ownership_blind.bind fun _ => Blind.pure _

theorem changeClause_blind : Blind changeClause := by
  have valued : Blind (do return some (SequenceClause.restart (.value (← signedInteger)))) :=
    signedInteger_blind.bind fun _ => Blind.pure _
  refine Blind.choice rfl ?_ sequenceClause_blind
  refine Blind.choice rfl valued (Blind.look_bind rfl fun kind => ?_)
  split
  · exact valued
  · exact Blind.pure _

/-- The loop over clauses is blind, for any number of turns. -/
theorem clausesWithin_blind {clause : Parser (Option SequenceClause)} (blind : Blind clause)
    (fuel : Nat) (earlier : List SequenceClause) : Blind (clausesWithin clause fuel earlier) := by
  induction fuel generalizing earlier with
  | zero => exact Blind.pure _
  | succ fuel inductionHypothesis =>
      intro behind short long cut
      refine Alike.current_bind cut ?_ ?_
      · split
        · exact Blind.pure _ cut
        · refine (blind cut).bind fun found short long cut => ?_
          cases found with
          | none => exact Blind.unexpected _ cut
          | some value =>
              dsimp only
              split
              · exact Alike.previousSpan_bind fun _ _ => Alike.fail.bind fun _ _ _ cut =>
                  inductionHypothesis _ cut
              · exact inductionHypothesis _ cut
      · intro token tokenToo ends endsToo
        rw [if_pos (by rw [ends]; rfl), if_pos (by rw [endsToo]; rfl)]
        exact Blind.pure _ cut

theorem clauses_blind {clause : Parser (Option SequenceClause)}
    (moving : Moving clause (·.isSome = true)) (blind : Blind clause) : Blind (clauses clause) :=
  Settles.blind (fun _ closed => clausesWithin_settles moving closed (Nat.lt_succ_self _) [])
    fun fuel => clausesWithin_blind blind fuel []

theorem persistence_blind : Blind persistence :=
  Blind.choice rfl (Blind.pure _)
    (Blind.choice rfl (Blind.pure _) (Blind.choice rfl (Blind.pure _) (Blind.pure _)))

theorem createSequence_blind : Blind createSequence :=
  (Blind.expectKeyword .CREATE).bind fun _ => persistence_blind.bind fun _ =>
    (Blind.expectKeyword .SEQUENCE).bind fun _ => ifNotExists_blind.bind fun _ =>
      objectName_blind.bind fun _ =>
        (clauses_blind sequenceClause_moving sequenceClause_blind).bind fun _ => Blind.pure _

/-- A setting is taken or refused in the same way, wherever the refusal is said to lie. -/
theorem setting_alike (cut : short.Cut long behind) (set : short.current.kind = .keyword .SET) :
    AlikeUpTo behind short long (fun setting => do
      if (← look 1) = .keyword .SCHEMA then
        let _ ← advance
        let _ ← advance
        return SequenceChange.schema (← expectName)
      else fail .unsupportedSequenceSetting setting) := by
  intro span spanToo
  have goes : short.current.kind.isTerminator = false := isTerminator_of_eq set rfl
  have same : (long.peek 1).kind = .keyword .SCHEMA ↔ (short.peek 1).kind = .keyword .SCHEMA :=
    cut.peek_kind_iff (Cursor.goes_one goes) rfl
  change Alike behind
    ((if (short.peek 1).kind = .keyword .SCHEMA then _ else _ : Parser SequenceChange) short)
    ((if (long.peek 1).kind = .keyword .SCHEMA then _ else _ : Parser SequenceChange) long)
  by_cases schema : (short.peek 1).kind = .keyword .SCHEMA
  · rw [if_pos schema, if_pos (same.mpr schema)]
    refine Alike.advance_bind cut goes fun cutBehind => ?_
    refine Alike.advance_bind cutBehind ?_ fun cut =>
      (Blind.expectName.bind fun _ => Blind.pure _) cut
    rw [Cursor.current_advance cut.closed goes]
    exact isTerminator_of_eq schema rfl
  · rw [if_neg schema, if_neg fun schemaToo => schema (same.mp schemaToo)]
    exact Alike.fail

theorem sequenceChange_blind : Blind sequenceChange := by
  have named (make : String → SequenceChange) : Blind (do return make (← expectName)) :=
    Blind.expectName.bind fun _ => Blind.pure _
  have optioned : Blind (do
      let clauses ← clauses changeClause
      return SequenceChange.options (optionsOf clauses) (restartOf clauses)) :=
    (clauses_blind changeClause_moving changeClause_blind).bind fun _ => Blind.pure _
  intro behind short long cut
  have alike : AlikeUpTo behind short long (sequenceChangeBy short.current.kind) := by
    unfold sequenceChangeBy
    split
    · next known =>
        refine fun _ _ => Alike.advance_bind cut (isTerminator_of_eq known rfl) fun cut => ?_
        exact ((Blind.expectKeyword .TO).bind fun _ => named _) cut
    · next known =>
        refine fun _ _ => Alike.advance_bind cut (isTerminator_of_eq known rfl) fun cut => ?_
        exact ((Blind.expectKeyword .TO).bind fun _ => named _) cut
    · next known => exact setting_alike cut known
    · refine fun _ _ => ?_
      change BlindAt behind short long _
      dsimp only
      split
      · exact (Blind.unexpected _).bind (fun _ => optioned) cut
      · exact optioned cut
  rw [sequenceChange_eq]
  refine Alike.get_bind ?_
  rcases cut.current with same | ⟨ends, endsToo⟩
  · rw [same]
    exact alike _ _
  · rw [ends, endsToo]
    exact (Blind.unexpected _ cut).bind fun _ _ _ cut => optioned cut

theorem alterSequence_blind : Blind alterSequence :=
  (Blind.expectKeyword .ALTER).bind fun _ => (Blind.expectKeyword .SEQUENCE).bind fun _ =>
    ifExists_blind.bind fun _ => objectName_blind.bind fun _ =>
      sequenceChange_blind.bind fun _ => Blind.pure _

theorem dropSequence_blind : Blind dropSequence := by
  have dropBehavior : Blind dropBehavior :=
    Blind.choice rfl (Blind.pure _) (Blind.choice rfl (Blind.pure _) (Blind.pure _))
  exact (Blind.expectKeyword .DROP).bind fun _ => (Blind.expectKeyword .SEQUENCE).bind fun _ =>
    ifExists_blind.bind fun _ =>
      (Blind.separated objectName_taking.steady objectName_blind).bind fun _ =>
        dropBehavior.bind fun _ => Blind.pure _

end Sequences

section Statements

theorem topRules_areBlind : topRules.AreBlind := rules_areBlind maximalNesting

theorem returning_blind : Blind returning :=
  (Blind.optionalAfter .RETURNING (outputColumns_blind topRules_areBlind)).bind fun _ =>
    Blind.pure _

theorem rowFilter_blind : Blind rowFilter :=
  Blind.optionalAfter .WHERE (topRules_areBlind.expression 0)

theorem targetColumns_blind : Blind targetColumns :=
  Blind.choice rfl
    (nameList_blind.bind fun _ => (Blind.expectSymbol .rightParen rfl).bind fun _ => Blind.pure _)
    (Blind.pure [])

theorem insertSource_blind : Blind insertSource := by
  have rows : Blind (separated (parenthesized (expressionList topRules))) :=
    Blind.separated (Taking.parenthesized (expressionList_steady topRules_areSteady)).steady
      (Blind.parenthesized (expressionList_blind topRules_areBlind))
  refine Blind.choice rfl (rows.bind fun _ => Blind.pure _) ?_
  refine (Blind.atKeyword .SELECT).bind fun selects => ?_
  split
  · exact topRules_areBlind.query.bind fun _ => Blind.pure _
  · exact Blind.choice rfl ((Blind.expectKeyword .VALUES).bind fun _ => Blind.pure _)
      (Blind.unexpected _)

theorem insert_blind : Blind insert :=
  (Blind.expectKeyword .INSERT).bind fun _ => (Blind.expectKeyword .INTO).bind fun _ =>
    objectName_blind.bind fun _ => targetColumns_blind.bind fun _ =>
      insertSource_blind.bind fun _ => returning_blind.bind fun _ => Blind.pure _

theorem assignment_blind : Blind assignment :=
  Blind.expectName.bind fun _ => (Blind.expectSymbol .equal rfl).bind fun _ =>
    (topRules_areBlind.expression 0).bind fun _ => Blind.pure _

theorem update_blind : Blind update := by
  refine (Blind.expectKeyword .UPDATE).bind fun _ => objectName_blind.bind fun _ => ?_
  refine optionalAlias_blind.bind fun _ => (Blind.expectKeyword .SET).bind fun _ => ?_
  refine (Blind.separated assignment_steady assignment_blind).bind fun _ => ?_
  refine (Blind.optionalAfter .FROM (tableList_blind topRules_areBlind)).bind fun _ => ?_
  exact rowFilter_blind.bind fun _ => returning_blind.bind fun _ => Blind.pure _

theorem delete_blind : Blind delete :=
  (Blind.expectKeyword .DELETE).bind fun _ => (Blind.expectKeyword .FROM).bind fun _ =>
    objectName_blind.bind fun _ => optionalAlias_blind.bind fun _ =>
      rowFilter_blind.bind fun _ => returning_blind.bind fun _ => Blind.pure _

theorem unsupportedStatement_blind {α : Type} (verb : Keyword) (takesObject : Bool) :
    Blind (unsupportedStatement verb takesObject : Parser α) :=
  fun _ _ _ _ => Alike.get_bind Alike.fail

theorem statementBody_blind : Blind statementBody := by
  intro behind short long cut
  refine Alike.look_bind cut short.goes_zero rfl ?_
  -- What stands behind a verb is looked at where the verb is, which ends no statement.
  have verb {word : Keyword} (found : (short.peek 0).kind = .keyword word) : short.Goes 1 :=
    Cursor.goes_one (isTerminator_of_eq found rfl)
  split
  · exact (topRules_areBlind.query.bind fun _ => Blind.pure _) cut
  · exact (insert_blind.bind fun _ => Blind.pure _) cut
  · exact (update_blind.bind fun _ => Blind.pure _) cut
  · exact (delete_blind.bind fun _ => Blind.pure _) cut
  · next found =>
      refine Alike.look_look_bind cut (verb found) (fun _ => rfl) (fun _ => rfl) (fun _ => rfl) ?_
      split
      · exact (createSequence_blind.bind fun _ => Blind.pure _) cut
      · exact unsupportedStatement_blind .CREATE true cut
  · next found =>
      refine Alike.look_bind cut (verb found) rfl ?_
      split
      · exact (alterSequence_blind.bind fun _ => Blind.pure _) cut
      · exact unsupportedStatement_blind .ALTER true cut
  · next found =>
      refine Alike.look_bind cut (verb found) rfl ?_
      split
      · exact (dropSequence_blind.bind fun _ => Blind.pure _) cut
      · exact unsupportedStatement_blind .DROP true cut
  · exact unsupportedStatement_blind .TRUNCATE false cut
  · exact unsupportedStatement_blind .WITH false cut
  · exact Blind.unexpected _ cut

end Statements

end SqlTree.Grammar
