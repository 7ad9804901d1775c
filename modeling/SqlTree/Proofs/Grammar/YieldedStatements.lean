import SqlTree.Proofs.Grammar.OptionBag
import SqlTree.Proofs.Grammar.Rejection
import SqlTree.Proofs.Grammar.YieldedRules

/-!
# Well-formed statements

Every statement and every expression that is parsed from a text is well formed, at every place below
it. The options that change a sequence are never all left out, because the loop over clauses is
entered only where a clause stands.
-/

namespace SqlTree

open SqlTree.Parser SqlTree.Grammar

namespace Grammar

section Sequences

/-- What a clause names is not empty. -/
def SequenceClause.WellFormed : SequenceClause → Prop
  | .dataType type => type.WellFormed
  | .ownership owner => owner.WellFormed
  | _ => True

theorem integerBehind_yields (negative : Bool) :
    Yields (integerBehind negative) fun _ => True := by
  refine Yields.get.bind fun cursor _ => ?_
  split
  · exact Yields.advance.bind fun _ _ => Yields.pure trivial
  · split
    · exact Yields.advance.bind fun _ _ => Yields.pure trivial
    · split
      · exact Yields.fail
      · exact Yields.unexpected
  · exact Yields.unexpected

theorem signedInteger_yields : Yields signedInteger fun _ => True := by
  rw [signedInteger_eq]
  refine (Yields.eat _).bind fun negative _ => ?_
  cases negative with
  | true => exact integerBehind_yields true
  | false => exact (Yields.eat _).bind fun _ _ => integerBehind_yields false

theorem ownership_yields : Yields ownership Ownership.WellFormed := by
  refine (Yields.look 0).bind fun _ _ => (Yields.look 1).bind fun _ _ => ?_
  split
  · exact Yields.advance.bind fun _ _ => Yields.pure trivial
  · refine Yields.current.bind fun start _ => Yields.expectName.bind fun first firstNamed => ?_
    refine (Yields.manyAfter (Yields.eat _) Yields.expectName).bind fun others othersNamed => ?_
    have named : ∀ part ∈ first :: others, part ≠ "" :=
      List.forall_mem_cons.mpr ⟨firstNamed, othersNamed⟩
    split
    · next table column parts =>
        rw [parts] at named
        simp only [List.forall_mem_cons] at named
        exact Yields.pure ⟨nofun, named.1, named.2.1⟩
    · next schema table column parts =>
        rw [parts] at named
        simp only [List.forall_mem_cons] at named
        refine Yields.pure ⟨?_, named.2.1, named.2.2.1⟩
        rintro _ ⟨⟩
        exact named.1
    · exact Yields.previousSpan.bind fun _ _ => Yields.fail

theorem sequenceClause_yields :
    Yields sequenceClause fun found => ∀ clause ∈ found, clause.WellFormed := by
  have valued (make : Int64 → SequenceClause) (plain : ∀ value, (make value).WellFormed) :
      Yields (do return some (make (← signedInteger))) fun found =>
        ∀ clause ∈ found, clause.WellFormed :=
    Yields.bind signedInteger_yields fun value _ => Yields.pureSome (plain value)
  have bounded (make : SequenceBound → SequenceClause) (plain : ∀ bound, (make bound).WellFormed) :
      Yields (do return some (make (.value (← signedInteger)))) fun found =>
        ∀ clause ∈ found, clause.WellFormed :=
    valued (fun value => make (.value value)) fun value => plain (.value value)
  have negated : Yields negatedClause SequenceClause.WellFormed :=
    Yields.choice (Yields.pure trivial) (Yields.choice (Yields.pure trivial)
      (Yields.choice (Yields.pure trivial) Yields.unexpected))
  refine Yields.choice (Yields.bind dataType_yields fun _ named => Yields.pureSome named) ?_
  refine Yields.choice ((Yields.eat _).bind fun _ _ => valued .start fun _ => trivial) ?_
  refine Yields.choice ((Yields.eat _).bind fun _ _ => valued .increment fun _ => trivial) ?_
  refine Yields.choice (bounded .minimum fun _ => trivial) ?_
  refine Yields.choice (bounded .maximum fun _ => trivial) ?_
  refine Yields.choice (valued .cache fun _ => trivial) ?_
  refine Yields.choice (Yields.pureSome trivial) ?_
  refine Yields.choice (negated.bind fun _ holds => Yields.pureSome holds) ?_
  refine Yields.choice ?_ Yields.pureNone
  exact (Yields.expectKeyword .BY).bind fun _ _ => Yields.bind ownership_yields fun _ holds =>
    Yields.pureSome holds

theorem changeClause_yields :
    Yields changeClause fun found => ∀ clause ∈ found, clause.WellFormed := by
  have valued : Yields (do return some (SequenceClause.restart (.value (← signedInteger))))
      fun found => ∀ clause ∈ found, clause.WellFormed :=
    Yields.bind signedInteger_yields fun _ _ => Yields.pureSome trivial
  refine Yields.choice (Yields.choice valued ((Yields.look 0).bind fun kind _ => ?_))
    sequenceClause_yields
  split
  · exact valued
  · exact Yields.pureSome trivial

variable {clause : Parser (Option SequenceClause)}

/-- The loop over clauses keeps those that were read. -/
theorem clausesWithin_yields (each : Yields clause fun found => ∀ clause ∈ found, clause.WellFormed)
    (fuel : Nat) {behind : List SequenceClause} (holds : ∀ clause ∈ behind, clause.WellFormed) :
    Yields (clausesWithin clause fuel behind) fun clauses =>
      (∀ clause ∈ clauses, clause.WellFormed) ∧ (behind ≠ [] → clauses ≠ []) := by
  have reversed {behind : List SequenceClause} (holds : ∀ clause ∈ behind, clause.WellFormed) :
      (∀ clause ∈ behind.reverse, clause.WellFormed) ∧ (behind ≠ [] → behind.reverse ≠ []) :=
    ⟨fun clause among => holds clause (List.mem_reverse.mp among), mt List.reverse_eq_nil_iff.mp⟩
  induction fuel generalizing behind with
  | zero => exact Yields.pure (reversed holds)
  | succ fuel inductionHypothesis =>
      refine Yields.current.bind fun start _ => ?_
      split
      · exact Yields.pure (reversed holds)
      · refine each.bind fun found foundHolds => ?_
        split
        · exact Yields.unexpected
        · next value =>
            have more : ∀ clause ∈ value :: behind, clause.WellFormed :=
              List.forall_mem_cons.mpr ⟨foundHolds value rfl, holds⟩
            dsimp only
            split
            · exact Yields.previousSpan.bind fun _ _ => Yields.fail_bind
            · exact (inductionHypothesis more).weaken fun _ rest =>
                ⟨rest.1, fun _ => rest.2 (List.cons_ne_nil _ _)⟩

theorem clauses_yields (each : Yields clause fun found => ∀ clause ∈ found, clause.WellFormed) :
    Yields (clauses clause) fun clauses => ∀ clause ∈ clauses, clause.WellFormed :=
  Yields.get.bind fun _ _ =>
    (clausesWithin_yields each _ (List.forall_mem_nil _)).weaken fun _ rest => rest.1

/-- Where the statement does not end, a clause is read at least. -/
theorem clauses_yieldsAt (each : Yields clause fun found => ∀ clause ∈ found, clause.WellFormed)
    {cursor : Cursor} (going : ¬ cursor.current.kind.isTerminator = true) :
    YieldsAt (clauses clause) cursor fun clauses =>
      clauses ≠ [] ∧ ∀ clause ∈ clauses, clause.WellFormed := by
  intro lexical found stopped parsed
  obtain ⟨lexicalBehind, holds⟩ := clauses_yields each cursor lexical parsed
  refine ⟨lexicalBehind, ?_, holds⟩
  change clausesWithin clause (cursor.ahead.length + 1) [] cursor = _ at parsed
  unfold clausesWithin at parsed
  change (if cursor.current.kind.isTerminator = true then _ else _ : Parser _) cursor = _ at parsed
  rw [if_neg going] at parsed
  obtain ⟨first, between, firstParsed, rest⟩ := ok_of_bind_ok parsed
  obtain ⟨lexicalBetween, firstHolds⟩ := each cursor lexical firstParsed
  cases first with
  | none => cases rest
  | some value =>
      have single : ∀ clause ∈ [value], clause.WellFormed :=
        List.forall_mem_singleton.mpr (firstHolds value rfl)
      have kept := clausesWithin_yields each _ single between lexicalBetween rest
      exact kept.2.2 (List.cons_ne_nil _ _)

/-- What clauses set is well formed. -/
theorem optionsOf_wellFormed {clauses : List SequenceClause}
    (holds : ∀ clause ∈ clauses, clause.WellFormed) : (optionsOf clauses).WellFormed := by
  have empty : ({} : SequenceOptions).WellFormed := ⟨nofun, nofun⟩
  unfold optionsOf
  generalize ({} : SequenceOptions) = options at empty
  induction clauses generalizing options with
  | nil => exact empty
  | cons first clauses inductionHypothesis =>
      rw [List.forall_mem_cons] at holds
      apply inductionHypothesis holds.2
      obtain ⟨types, owners⟩ := empty
      cases first with
      | dataType type =>
          refine ⟨?_, owners⟩
          rintro _ ⟨⟩
          exact holds.1
      | ownership owner =>
          refine ⟨types, ?_⟩
          rintro _ ⟨⟩
          exact holds.1
      | _ => exact ⟨types, owners⟩

/-- Clauses change an option at least, if there are any. -/
theorem optionsOf_ne_default {clauses : List SequenceClause} (nonempty : clauses ≠ []) :
    optionsOf clauses ≠ {} ∨ restartOf clauses ≠ none := by
  rcases List.eq_nil_or_concat clauses with rfl | ⟨init, last, rfl⟩
  · exact absurd rfl nonempty
  · rw [List.concat_eq_append]
    cases option : last.restart? with
    | some target =>
        right
        intro unset
        have among : last ∈ init ++ [last] := List.mem_append_right _ List.mem_cons_self
        have none := List.findSome?_eq_none_iff.mp unset last among
        rw [option] at none
        cases none
    | none =>
        left
        intro unset
        have held : last.HeldBy (optionsOf (init ++ [last])) none := by
          rw [optionsOf, List.foldl_append, List.foldl_cons, List.foldl_nil,
            SequenceClause.heldBy_setIn option]
          exact .inl rfl
        rw [unset] at held
        cases last with
        | restart => cases option
        | _ => simp [SequenceClause.HeldBy] at held

theorem persistence_yields :
    Yields persistence fun lifetime => ¬ (lifetime.1 = true ∧ lifetime.2 = true) :=
  Yields.choice (Yields.pure (by decide)) (Yields.choice (Yields.pure (by decide))
    (Yields.choice (Yields.pure (by decide)) (Yields.pure (by decide))))

theorem createSequence_yields : Yields createSequence fun create =>
    create.WellFormed ∧ create.options.WellFormed := by
  refine (Yields.expectKeyword .CREATE).bind fun _ _ => ?_
  refine Yields.bind persistence_yields fun lifetime apart => ?_
  refine (Yields.expectKeyword .SEQUENCE).bind fun _ _ => Yields.bind ifNotExists_yields fun _ _ => ?_
  refine Yields.bind objectName_yields fun name named => ?_
  refine (clauses_yields sequenceClause_yields).bind fun clauses holds => Yields.pure ?_
  exact ⟨⟨named, apart, (optionsOf_wellFormed holds).ownership⟩, optionsOf_wellFormed holds⟩

/-- A change of a sequence is well formed, and so is the data type that it sets. -/
def ChangeWellFormed (change : SequenceChange) : Prop :=
  change.WellFormed ∧ ∀ type ∈ change.dataType?, type.WellFormed

theorem sequenceChange_yields : Yields sequenceChange ChangeWellFormed := by
  have named (make : String → SequenceChange)
      (plain : ∀ name, name ≠ "" → ChangeWellFormed (make name)) :
      Yields (do return make (← expectName)) ChangeWellFormed :=
    Yields.expectName.bind fun name nonempty => Yields.pure (plain name nonempty)
  have renamed := named .rename fun _ nonempty => ⟨nonempty, nofun⟩
  have owned := named .owner fun _ nonempty => ⟨nonempty, nofun⟩
  have moved := named .schema fun _ nonempty => ⟨nonempty, nofun⟩
  refine Yields.get_bind fun cursor => ?_
  split
  · exact (Yields.advance.bind fun _ _ => (Yields.expectKeyword .TO).bind fun _ _ => renamed) cursor
  · exact (Yields.advance.bind fun _ _ => (Yields.expectKeyword .TO).bind fun _ _ => owned) cursor
  · refine ((Yields.look 1).bind fun second _ => ?_) cursor
    split
    · exact Yields.advance.bind fun _ _ => Yields.advance.bind fun _ _ => moved
    · exact Yields.fail
  · dsimp only
    split
    · exact Yields.unexpected_bind cursor
    · next going =>
        intro lexical change stopped parsed
        obtain ⟨clauses, between, read, done⟩ := ok_of_bind_ok parsed
        cases done
        obtain ⟨lexicalBehind, nonempty, holds⟩ :=
          clauses_yieldsAt changeClause_yields going lexical read
        have wellFormed := optionsOf_wellFormed holds
        exact ⟨lexicalBehind, ⟨optionsOf_ne_default nonempty, wellFormed.ownership⟩,
          wellFormed.dataType⟩

theorem alterSequence_yields : Yields alterSequence fun alter =>
    alter.WellFormed ∧ ∀ type ∈ alter.change.dataType?, type.WellFormed := by
  refine (Yields.expectKeyword .ALTER).bind fun _ _ => ?_
  refine (Yields.expectKeyword .SEQUENCE).bind fun _ _ => ?_
  refine Yields.bind ifExists_yields fun _ _ => Yields.bind objectName_yields fun name named => ?_
  exact Yields.bind sequenceChange_yields fun change holds => Yields.pure ⟨⟨named, holds.1⟩, holds.2⟩

theorem dropSequence_yields : Yields dropSequence DropSequence.WellFormed := by
  have dropBehavior : Yields dropBehavior fun _ => True :=
    Yields.choice (Yields.pure trivial) (Yields.choice (Yields.pure trivial) (Yields.pure trivial))
  refine (Yields.expectKeyword .DROP).bind fun _ _ => ?_
  refine (Yields.expectKeyword .SEQUENCE).bind fun _ _ => ?_
  refine Yields.bind ifExists_yields fun _ _ => objectName_yields.separated.bind fun names list => ?_
  exact dropBehavior.bind fun _ _ => Yields.pure ⟨list.1, list.2⟩

end Sequences

section Statements

theorem topRules_yieldWellFormed : topRules.YieldWellFormed := rules_yieldWellFormed maximalNesting

theorem returning_yields : Yields returning ColumnsWellFormed := by
  have columns := outputColumns_yields topRules_yieldWellFormed
  refine (Yields.optionalAfter .RETURNING columns).bind fun found holds => Yields.pure ?_
  cases found with
  | none => exact ⟨List.forall_mem_nil _, List.forall_mem_nil _⟩
  | some columns => exact (holds columns rfl).2

theorem rowFilter_yields : Yields rowFilter fun filter =>
    ∀ expression ∈ filter, AllWellFormed expression.nodes :=
  Yields.optionalAfter .WHERE (topRules_yieldWellFormed.expression 0)

theorem targetColumns_yields :
    Yields targetColumns fun columns => ∀ column ∈ columns, column ≠ "" :=
  Yields.choice
    (Yields.bind nameList_yields fun _ list => (Yields.expectSymbol .rightParen).bind fun _ _ =>
      Yields.pure list.2)
    (Yields.pure (List.forall_mem_nil _))

theorem insertSource_yields : Yields insertSource fun source =>
    source.WellFormed ∧ AllWellFormed source.nodes := by
  have row : Yields (parenthesized (expressionList topRules)) _ :=
    (expressionList_yields topRules_yieldWellFormed).parenthesized
  refine Yields.choice (row.separated.bind fun cells list => Yields.pure ?_) ?_
  · refine ⟨⟨list.1, fun row among => (list.2 row among).1⟩, ?_⟩
    simp only [InsertSource.nodes, AllWellFormed.flatMap, allWellFormed_expressionNodes]
    exact fun row among => (list.2 row among).2
  · refine (Yields.atKeyword .SELECT).bind fun selects _ => ?_
    split
    · exact topRules_yieldWellFormed.query.bind fun query holds => Yields.pure ⟨trivial, holds⟩
    · refine Yields.choice ((Yields.expectKeyword .VALUES).bind fun _ _ => Yields.pure ?_)
        Yields.unexpected
      exact ⟨trivial, AllWellFormed.nil⟩

theorem insert_yields : Yields insert fun insert => AllWellFormed insert.nodes := by
  refine (Yields.expectKeyword .INSERT).bind fun _ _ => ?_
  refine (Yields.expectKeyword .INTO).bind fun _ _ => Yields.bind objectName_yields fun target named => ?_
  refine Yields.bind targetColumns_yields fun columns filled => ?_
  refine Yields.bind insertSource_yields fun source sourceHolds => ?_
  refine Yields.bind returning_yields fun returning returningHolds => Yields.pure ?_
  simp only [Insert.nodes, AllWellFormed.cons, AllWellFormed.append, Node.WellFormed,
    allWellFormed_columnNodes]
  exact ⟨⟨named, filled, sourceHolds.1, returningHolds.1⟩, sourceHolds.2, returningHolds.2⟩

theorem assignment_yields : Yields assignment fun assignment =>
    assignment.column ≠ "" ∧ AllWellFormed assignment.value.nodes :=
  Yields.expectName.bind fun _ named => (Yields.expectSymbol .equal).bind fun _ _ =>
    (topRules_yieldWellFormed.expression 0).bind fun _ holds => Yields.pure ⟨named, holds⟩

theorem update_yields : Yields update fun update => AllWellFormed update.nodes := by
  refine (Yields.expectKeyword .UPDATE).bind fun _ _ => ?_
  refine Yields.bind objectName_yields fun target named => ?_
  refine Yields.bind optionalAlias_yields fun aliasName aliasNamed => ?_
  refine (Yields.expectKeyword .SET).bind fun _ _ => ?_
  refine assignment_yields.separated.bind fun assignments list => ?_
  have tables := tableList_yields topRules_yieldWellFormed
  refine (Yields.optionalAfter .FROM tables).bind fun source sourceHolds => ?_
  refine Yields.bind rowFilter_yields fun filter filterHolds => ?_
  refine Yields.bind returning_yields fun returning returningHolds => Yields.pure ?_
  simp only [Update.nodes, AllWellFormed.cons, AllWellFormed.append, AllWellFormed.flatMap,
    Node.WellFormed, allWellFormed_tableNodes?, allWellFormed_expressionNodes?,
    allWellFormed_columnNodes]
  have columns : ∀ assignment ∈ assignments, assignment.column ≠ "" := fun assignment among =>
    (list.2 assignment among).1
  exact ⟨⟨named, aliasNamed, list.1, columns, returningHolds.1⟩,
    ⟨⟨fun assignment among => (list.2 assignment among).2, sourceHolds⟩, filterHolds⟩,
    returningHolds.2⟩

theorem delete_yields : Yields delete fun delete => AllWellFormed delete.nodes := by
  refine (Yields.expectKeyword .DELETE).bind fun _ _ => ?_
  refine (Yields.expectKeyword .FROM).bind fun _ _ => Yields.bind objectName_yields fun target named => ?_
  refine Yields.bind optionalAlias_yields fun aliasName aliasNamed => ?_
  refine Yields.bind rowFilter_yields fun filter filterHolds => ?_
  refine Yields.bind returning_yields fun returning returningHolds => Yields.pure ?_
  simp only [Delete.nodes, AllWellFormed.cons, AllWellFormed.append, Node.WellFormed,
    allWellFormed_expressionNodes?, allWellFormed_columnNodes]
  exact ⟨⟨named, aliasNamed, returningHolds.1⟩, filterHolds, returningHolds.2⟩

theorem unsupportedStatement_yields {α : Type} {sort : α → Prop} (verb : Keyword)
    (takesObject : Bool) : Yields (unsupportedStatement verb takesObject) sort :=
  Yields.get.bind fun _ _ => Yields.fail

theorem statementBody_yields :
    Yields statementBody fun statement => AllWellFormed statement.nodes := by
  have plain {nodes : List Node} (body : Statement) (holds : AllWellFormed nodes) :
      AllWellFormed (.statement body :: nodes) :=
    AllWellFormed.cons.mpr ⟨trivial, holds⟩
  refine (Yields.look 0).bind fun kind _ => ?_
  split
  · exact topRules_yieldWellFormed.query.bind fun _ holds => Yields.pure (plain _ holds)
  · exact Yields.bind insert_yields fun _ holds => Yields.pure (plain _ holds)
  · exact Yields.bind update_yields fun _ holds => Yields.pure (plain _ holds)
  · exact Yields.bind delete_yields fun _ holds => Yields.pure (plain _ holds)
  · refine (Yields.look 1).bind fun _ _ => (Yields.look 2).bind fun _ _ => ?_
    split
    · refine Yields.bind createSequence_yields fun create holds => Yields.pure (plain _ ?_)
      simp only [AllWellFormed.cons, allWellFormed_dataTypeNodes?, Node.WellFormed]
      exact ⟨holds.1, holds.2.dataType⟩
    · exact unsupportedStatement_yields .CREATE true
  · refine (Yields.look 1).bind fun _ _ => ?_
    split
    · refine Yields.bind alterSequence_yields fun alter holds => Yields.pure (plain _ ?_)
      simpa only [AllWellFormed.cons, allWellFormed_dataTypeNodes?, Node.WellFormed] using holds
    · exact unsupportedStatement_yields .ALTER true
  · refine (Yields.look 1).bind fun _ _ => ?_
    split
    · refine Yields.bind dropSequence_yields fun drop holds => Yields.pure (plain _ ?_)
      exact AllWellFormed.cons.mpr ⟨holds, AllWellFormed.nil⟩
    · exact unsupportedStatement_yields .DROP true
  · exact unsupportedStatement_yields .TRUNCATE false
  · exact unsupportedStatement_yields .WITH false
  · exact Yields.unexpected

end Statements

section Session

theorem skipSemicolons_yields : Yields skipSemicolons fun _ => True := by
  have nothing : Yields (pure ()) fun _ => True := Yields.pure trivial
  exact (Yields.manyAfter (Yields.eat _) nothing).bind fun _ _ => nothing

theorem endOfStatement_yields : Yields endOfStatement fun _ => True := by
  refine (Yields.look 0).bind fun kind _ => ?_
  split
  · exact Yields.pure trivial
  · exact Yields.unexpected

section Any

variable {sort : Statement → Prop}

/-- A located statement is of the sort that statements without their ends are of. -/
theorem yields_locatedStatement (each : Yields statementBody sort) :
    Yields locatedStatement fun located => sort located.statement := by
  refine Yields.bind skipSemicolons_yields fun _ _ => Yields.current.bind fun start _ => ?_
  refine each.bind fun body holds => Yields.bind endOfStatement_yields fun _ _ => ?_
  exact Yields.previousSpan.bind fun _ _ => (Yields.eat _).bind fun _ _ => Yields.pure holds

theorem yields_statement (each : Yields statementBody sort) : Yields statement sort :=
  (yields_locatedStatement each).bind fun _ holds => Yields.pure holds

theorem yields_statementsWithin (each : Yields statementBody sort) (fuel : Nat) :
    Yields (statementsWithin fuel) fun batch => ∀ located ∈ batch, sort located.statement := by
  induction fuel with
  | zero => exact Yields.pure (List.forall_mem_nil _)
  | succ fuel inductionHypothesis =>
      refine Yields.bind skipSemicolons_yields fun _ _ => (Yields.look 0).bind fun kind _ => ?_
      split
      · exact Yields.pure (List.forall_mem_nil _)
      · refine (yields_locatedStatement each).bind fun _ holds => ?_
        exact inductionHypothesis.bind fun _ others =>
          Yields.pure (List.forall_mem_cons.mpr ⟨holds, others⟩)

theorem yields_statements (each : Yields statementBody sort) :
    Yields statements fun statements => ∀ statement ∈ statements, sort statement := by
  rw [statements_eq]
  refine Yields.get.bind fun cursor _ => (yields_statementsWithin each _).bind fun batch holds => ?_
  exact Yields.pure (List.forall_mem_map.mpr holds)

end Any

theorem statement_yields : Yields statement fun statement => AllWellFormed statement.nodes :=
  yields_statement statementBody_yields

theorem expression_yields : Yields expression fun expression => AllWellFormed expression.nodes :=
  topRules_yieldWellFormed.expression 0

theorem statements_yields : Yields statements fun statements =>
    ∀ statement ∈ statements, AllWellFormed statement.nodes :=
  yields_statements statementBody_yields

end Session

end Grammar

/-- The tokens of a text are such as a text can be read as. -/
theorem Cursor.ofText_isLexical (text : String) : (ofText text).IsLexical := by
  intro places
  apply tokenize_isLexical text
  rw [← (ofText_spec text).1]
  exact (ofText text).peek_mem_stream places

/-- What is parsed from a text is of the sort that the parser yields. -/
theorem Parser.Yields.of_outcome {α : Type} {parser : Parser α} {sort : α → Prop}
    (yields : Yields parser sort) {text : String} {value : α}
    (parsed : parser.outcome (.ofText text) = .ok value) : sort value := by
  unfold Parser.outcome at parsed
  split at parsed
  · next run =>
      cases parsed
      exact (yields _ (Cursor.ofText_isLexical text) run).2
  · cases parsed

/-- What is parsed up to the end of a text is what the parser yields. -/
theorem Parser.Yields.finished {α : Type} {parser : Parser α} {sort : α → Prop}
    (yields : Yields parser sort) : Yields (do let value ← parser; finish; return value) sort := by
  have finish : Yields finish fun _ => True := by
    refine Yields.bind skipSemicolons_yields fun _ _ => (Yields.look 0).bind fun kind _ => ?_
    split
    · exact Yields.pure trivial
    · exact Yields.unexpected
  exact yields.bind fun _ holds => finish.bind fun _ _ => Yields.pure holds

/-- Whatever is parsed from a text is well formed at every place below it. -/
theorem parse_allWellFormed (text : String) :
    (∀ statements, parseStatements text = .ok statements →
      ∀ statement ∈ statements, AllWellFormed statement.nodes) ∧
    (∀ statement, parseStatement text = .ok statement → AllWellFormed statement.nodes) ∧
    ∀ expression, parseExpression text = .ok expression → AllWellFormed expression.nodes :=
  ⟨fun _ parsed => statements_yields.of_outcome parsed,
    fun _ parsed => statement_yields.finished.of_outcome parsed,
    fun _ parsed => expression_yields.finished.of_outcome parsed⟩

/-- A parameter in a list in a statement is well formed. -/
theorem parse_allWellFormed_delete : ∃ statement,
    parseStatement "DELETE FROM t WHERE x IN ($1)" = .ok statement ∧
      AllWellFormed statement.nodes := by
  have parsed : parseStatement "DELETE FROM t WHERE x IN ($1)" = .ok (.delete
      ⟨.plain "t", none, some (.inList (.column "x") [.parameter "$1"] false), []⟩) := rfl
  exact ⟨_, parsed, (parse_allWellFormed _).2.1 _ parsed⟩

end SqlTree
