import SqlTree.Proofs.Grammar.CandidRules
import SqlTree.Proofs.Grammar.SteadyStatements

/-!
# Candour of the grammar of statements

The rules of statements and of sequences are candid, but for two places where a statement is
refused as not modelled: a verb that starts no modelled statement, and a change of a sequence that
sets something else than a schema.
-/

namespace SqlTree

open SqlTree.Parser SqlTree.Grammar

namespace Cursor

/-- A statement starts with a verb that starts no modelled statement: `TRUNCATE` or `WITH`, or
`CREATE`, `ALTER` or `DROP` where no sequence is made, changed or dropped. -/
inductive StartsUnmodelled (cursor : Cursor) : Prop
  | truncate (verb : cursor.current.kind = .keyword .TRUNCATE)
  | with (verb : cursor.current.kind = .keyword .WITH)
  | create (verb : cursor.current.kind = .keyword .CREATE)
    (other : startsSequence (cursor.peek 1).kind (cursor.peek 2).kind = false)
  | alter (verb : cursor.current.kind = .keyword .ALTER)
    (other : (cursor.peek 1).kind ≠ .keyword .SEQUENCE)
  | drop (verb : cursor.current.kind = .keyword .DROP)
    (other : (cursor.peek 1).kind ≠ .keyword .SEQUENCE)

/-- Something else than a schema is set. -/
structure SetsNoSchema (cursor : Cursor) : Prop where
  set : cursor.current.kind = .keyword .SET
  other : (cursor.peek 1).kind ≠ .keyword .SCHEMA

end Cursor

namespace Grammar

/-- What names the sequence that a statement changes. -/
def sequenceTarget : Parser (Bool × ObjectName) := do
  expectKeyword .ALTER
  expectKeyword .SEQUENCE
  let ifExists ← ifExists
  return (ifExists, ← objectName)

end Grammar

/-- A statement names a sequence to be changed, and sets something else than a schema. -/
def Cursor.ChangesSetting (start stop : Cursor) : Prop :=
  (∃ target, sequenceTarget start = .ok target stop) ∧ stop.SetsNoSchema

namespace Grammar

section Sequences

theorem integerBehind_candid (negative : Bool) : Candid (integerBehind negative) := by
  intro cursor
  refine CandidAt.read_bind ?_
  split
  · next value known => exact advance_candidAt known rfl nofun (Candid.pure _ _)
  · next value known =>
      split
      · exact advance_candidAt known rfl nofun (Candid.pure _ _)
      · split
        · exact Candid.fail rfl _
        · exact Candid.unexpected _
  · exact Candid.unexpected _

theorem signedInteger_candid : Candid signedInteger := by
  rw [signedInteger_eq]
  refine (Candid.eatSymbol .minus).bind fun negative => ?_
  cases negative with
  | true => exact integerBehind_candid true
  | false => exact (Candid.eatSymbol .plus).bind fun _ => integerBehind_candid false

theorem ownership_candid : Candid ownership := by
  intro cursor
  refine CandidAt.read_bind (CandidAt.read_bind ?_)
  split
  · next known => exact advance_candidAt known.1 rfl nofun (Candid.pure _ _)
  · have names : Candid (manyAfter (eatSymbol .dot) expectName) :=
      (Candid.eatSymbol .dot).manyAfter Candid.expectName
    refine CandidAt.read_bind ((Candid.expectName cursor).bind fun first _ => ?_)
    refine (names _).bind fun names _ => ?_
    split
    · exact Candid.pure _ _
    · exact Candid.pure _ _
    · exact CandidAt.read_bind (Candid.fail rfl _)

theorem negatedClause_candid : Candid negatedClause :=
  (Candid.eatKeyword .MINVALUE nofun).choice (Candid.pure _)
    ((Candid.eatKeyword .MAXVALUE nofun).choice (Candid.pure _)
      ((Candid.eatKeyword .CYCLE nofun).choice (Candid.pure _) Candid.unexpected))

theorem sequenceClause_candid : Candid sequenceClause := by
  have valued {α : Type} (make : Int64 → α) : Candid (do return make (← signedInteger)) :=
    signedInteger_candid.bind fun _ => Candid.pure _
  refine (Candid.eatKeyword .AS nofun).choice (dataType_candid.bind fun _ => Candid.pure _) ?_
  refine (Candid.eatKeyword .START nofun).choice
    ((Candid.eatKeyword .WITH nofun).bind fun _ => valued _) ?_
  refine (Candid.eatKeyword .INCREMENT nofun).choice
    ((Candid.eatKeyword .BY nofun).bind fun _ => valued _) ?_
  refine (Candid.eatKeyword .MINVALUE nofun).choice (valued _) ?_
  refine (Candid.eatKeyword .MAXVALUE nofun).choice (valued _) ?_
  refine (Candid.eatKeyword .CACHE nofun).choice (valued _) ?_
  refine (Candid.eatKeyword .CYCLE nofun).choice (Candid.pure _) ?_
  refine (Candid.eatKeyword .NO nofun).choice (negatedClause_candid.bind fun _ => Candid.pure _) ?_
  refine (Candid.eatKeyword .OWNED nofun).choice ?_ (Candid.pure _)
  exact (Candid.expectKeyword .BY nofun).bind fun _ => ownership_candid.bind fun _ => Candid.pure _

theorem changeClause_candid : Candid changeClause := by
  have valued : Candid (do return some (SequenceClause.restart (.value (← signedInteger)))) :=
    signedInteger_candid.bind fun _ => Candid.pure _
  refine (Candid.eatKeyword .RESTART nofun).choice ?_ sequenceClause_candid
  refine (Candid.eatKeyword .WITH nofun).choice valued (Candid.read_bind fun kind => ?_)
  split
  · exact valued
  · exact Candid.pure _

theorem clausesWithin_candid {clause : Parser (Option SequenceClause)} (candid : Candid clause)
    (fuel : Nat) (behind : List SequenceClause) : Candid (clausesWithin clause fuel behind) := by
  induction fuel generalizing behind with
  | zero => exact Candid.pure _
  | succ fuel inductionHypothesis =>
      refine Candid.read_bind fun start => ?_
      dsimp only
      split
      · exact Candid.pure _
      · refine candid.bind fun found => ?_
        cases found with
        | none => exact Candid.unexpected
        | some value =>
            dsimp only
            split
            · exact Candid.read_bind fun _ => (Candid.fail rfl).bind fun _ =>
                inductionHypothesis _
            · exact inductionHypothesis _

theorem clauses_candid {clause : Parser (Option SequenceClause)} (candid : Candid clause) :
    Candid (clauses clause) :=
  Candid.read_bind fun _ => clausesWithin_candid candid _ _

theorem createSequence_candid : Candid createSequence := by
  have persistence : Candid persistence :=
    (Candid.eatKeyword .TEMP nofun).choice (Candid.pure _)
      ((Candid.eatKeyword .TEMPORARY nofun).choice (Candid.pure _)
        ((Candid.eatKeyword .UNLOGGED nofun).choice (Candid.pure _) (Candid.pure _)))
  exact (Candid.expectKeyword .CREATE nofun).bind fun _ => persistence.bind fun _ =>
    (Candid.expectKeyword .SEQUENCE nofun).bind fun _ => ifNotExists_candid.bind fun _ =>
      objectName_candid.bind fun _ => (clauses_candid sequenceClause_candid).bind fun _ =>
        Candid.pure _

theorem alterSequence_eq : alterSequence = (do
    let target ← sequenceTarget
    return { name := target.2, ifExists := target.1, change := ← sequenceChange }) := by
  simp only [alterSequence, sequenceTarget, bind_assoc, pure_bind]

theorem sequenceTarget_candid : Candid sequenceTarget :=
  (Candid.expectKeyword .ALTER nofun).bind fun _ =>
    (Candid.expectKeyword .SEQUENCE nofun).bind fun _ =>
    ifExists_candid.bind fun _ => objectName_candid.bind fun _ => Candid.pure _

section Changes

variable {cursor : Cursor}

/-- Any other change than one that sets something else than a schema hides no query. -/
theorem sequenceChange_candidAt (modelled : ¬ cursor.SetsNoSchema) :
    CandidAt sequenceChange cursor := by
  have named (make : String → SequenceChange) : Candid (do return make (← expectName)) :=
    Candid.expectName.bind fun _ => Candid.pure _
  have optioned : Candid (do
      let clauses ← clauses changeClause
      return SequenceChange.options (optionsOf clauses) (restartOf clauses)) :=
    (clauses_candid changeClause_candid).bind fun _ => Candid.pure _
  refine CandidAt.read_bind ?_
  split
  · next known =>
      exact advance_candidAt known rfl nofun
        (((Candid.expectKeyword .TO nofun).bind fun _ => named _) _)
  · next known =>
      exact advance_candidAt known rfl nofun
        (((Candid.expectKeyword .TO nofun).bind fun _ => named _) _)
  · next known =>
      refine CandidAt.read_bind ?_
      split
      · next schema =>
          have second : (cursor.past 1).current.kind = .keyword .SCHEMA := by
            rwa [Cursor.current_past]
          exact advance_candidAt known rfl nofun (advance_candidAt second rfl nofun (named _ _))
      · next other => exact absurd ⟨known, other⟩ modelled
  · dsimp only
    split
    · exact (Candid.unexpected.bind fun _ => optioned) _
    · exact optioned _

theorem sequenceChange_of_setsNoSchema (sets : cursor.SetsNoSchema) :
    sequenceChange cursor =
      .error ⟨.unsupportedSequenceSetting, cursor.current.span.merge (cursor.peek 1).span⟩
        cursor := by
  obtain ⟨known, other⟩ := sets
  rw [sequenceChange_eq, run_get, known, sequenceChangeBy]
  have looked : look 1 cursor = .ok (cursor.peek 1).kind cursor := rfl
  rw [bind_of_ok looked, if_neg other]
  rfl

end Changes

theorem dropSequence_candid : Candid dropSequence := by
  have dropBehavior : Candid dropBehavior :=
    (Candid.eatKeyword .CASCADE nofun).choice (Candid.pure _)
      ((Candid.eatKeyword .RESTRICT nofun).choice (Candid.pure _) (Candid.pure _))
  exact (Candid.expectKeyword .DROP nofun).bind fun _ =>
    (Candid.expectKeyword .SEQUENCE nofun).bind fun _ =>
    ifExists_candid.bind fun _ => objectName_candid.separated.bind fun _ =>
      dropBehavior.bind fun _ => Candid.pure _

end Sequences

section Statements

theorem topRules_areCandid : topRules.AreCandid := rules_areCandid maximalNesting

theorem returning_candid : Candid returning :=
  ((outputColumns_candid topRules_areCandid).optionalAfter .RETURNING nofun).bind fun _ =>
    Candid.pure _

theorem rowFilter_candid : Candid rowFilter :=
  (topRules_areCandid.expression 0).optionalAfter .WHERE nofun

theorem insert_candid : Candid insert := by
  have columns : Candid targetColumns :=
    (Candid.eatSymbol .leftParen).choice
      (nameList_candid.bind fun _ => (Candid.expectSymbol .rightParen).bind fun _ =>
        Candid.pure _)
      (Candid.pure [])
  have source : Candid insertSource := by
    have rows : Candid (separated (parenthesized (expressionList topRules))) :=
      (expressionList_candid topRules_areCandid).parenthesized.separated
    refine (Candid.eatKeyword .VALUES nofun).choice (rows.bind fun _ => Candid.pure _) ?_
    refine Candid.read_bind fun selects => ?_
    split
    · exact topRules_areCandid.query.bind fun _ => Candid.pure _
    · exact (Candid.eatKeyword .DEFAULT nofun).choice
        ((Candid.expectKeyword .VALUES nofun).bind fun _ => Candid.pure _) Candid.unexpected
  exact (Candid.expectKeyword .INSERT nofun).bind fun _ =>
    (Candid.expectKeyword .INTO nofun).bind fun _ =>
    objectName_candid.bind fun _ => columns.bind fun _ => source.bind fun _ =>
      returning_candid.bind fun _ => Candid.pure _

theorem update_candid : Candid update := by
  have assignment : Candid assignment :=
    Candid.expectName.bind fun _ => (Candid.expectSymbol .equal).bind fun _ =>
      (topRules_areCandid.expression 0).bind fun _ => Candid.pure _
  refine (Candid.expectKeyword .UPDATE nofun).bind fun _ => objectName_candid.bind fun _ => ?_
  refine optionalAlias_candid.bind fun _ => (Candid.expectKeyword .SET nofun).bind fun _ => ?_
  refine assignment.separated.bind fun _ => ?_
  refine ((tableList_candid topRules_areCandid).optionalAfter .FROM nofun).bind fun _ => ?_
  exact rowFilter_candid.bind fun _ => returning_candid.bind fun _ => Candid.pure _

theorem delete_candid : Candid delete :=
  (Candid.expectKeyword .DELETE nofun).bind fun _ =>
    (Candid.expectKeyword .FROM nofun).bind fun _ =>
    objectName_candid.bind fun _ => optionalAlias_candid.bind fun _ =>
      rowFilter_candid.bind fun _ => returning_candid.bind fun _ => Candid.pure _

theorem endOfStatement_candid : Candid endOfStatement := by
  refine Candid.read_bind fun kind => ?_
  split
  · exact Candid.pure ()
  · exact Candid.unexpected

/-- A statement of one of the modelled kinds hides no query, unless it changes a sequence. -/
theorem otherStatement_candidAt {cursor : Cursor} (modelled : ¬ cursor.StartsUnmodelled)
    (other : cursor.current.kind ≠ .keyword .ALTER) : CandidAt statementBody cursor := by
  refine CandidAt.read_bind ?_
  split
  · exact (topRules_areCandid.query.bind fun _ => Candid.pure _) cursor
  · exact (insert_candid.bind fun _ => Candid.pure _) cursor
  · exact (update_candid.bind fun _ => Candid.pure _) cursor
  · exact (delete_candid.bind fun _ => Candid.pure _) cursor
  · next known =>
      refine CandidAt.read_bind (CandidAt.read_bind ?_)
      split
      · exact (createSequence_candid.bind fun _ => Candid.pure _) cursor
      · next starts => exact absurd (.create known (Bool.eq_false_iff.mpr starts)) modelled
  · next known => exact absurd known other
  · next known =>
      refine CandidAt.read_bind ?_
      split
      · exact (dropSequence_candid.bind fun _ => Candid.pure _) cursor
      · next starts => exact absurd (.drop known starts) modelled
  · next known => exact absurd (.truncate known) modelled
  · next known => exact absurd (.with known) modelled
  · exact Candid.unexpected cursor

end Statements

end Grammar

end SqlTree
