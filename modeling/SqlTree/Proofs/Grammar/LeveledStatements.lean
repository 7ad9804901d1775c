import SqlTree.Proofs.Grammar.LeveledRules
import SqlTree.Proofs.Grammar.YieldedStatements

/-!
# Levels of accepted texts

On every way down a tree that a text is accepted as, the expressions, queries and tables that nest
are no more than the levels of the grammar. What operators gather to the left is not bounded: a sum
has as many levels of nodes as it has terms.
-/

namespace SqlTree

namespace Grammar

open SqlTree.Parser

section Statements

/-- The rules at the start of a statement make trees that take one of all levels. -/
theorem topRules_yieldNested : topRules.YieldNested maximalNesting := rules_yieldNested maximalNesting

/-- All that lies below a node stays within the levels of the grammar. -/
def Accommodates (node : Node) : Prop := (Branch.part node).Within maximalNesting

theorem returning_within : Yields returning fun columns =>
    ∀ column ∈ columns, PartWithin maximalNesting column.value := by
  have columns := outputColumns_within topRules_yieldNested
  refine (Yields.optionalAfter .RETURNING columns).bind fun found holds => Yields.pure ?_
  cases found with
  | none => exact List.forall_mem_nil _
  | some columns => exact holds columns rfl

theorem rowFilter_within : Yields rowFilter fun filter =>
    ∀ body ∈ filter, PartWithin maximalNesting body :=
  Yields.optionalAfter .WHERE (topRules_yieldNested.part 0)

theorem insertSource_within : Yields insertSource fun source =>
    ∀ next ∈ (Node.ofInsertSource source).map Branch.part, next.Within maximalNesting := by
  have row : Yields (parenthesized (expressionList topRules)) _ :=
    (expressionList_within topRules_yieldNested).parenthesized
  refine Yields.choice (row.separated.bind fun cells list => Yields.pure ?_) ?_
  · rw [List.forall_mem_map, Node.ofInsertSource, List.forall_mem_flatMap]
    exact fun row among => List.forall_mem_map.mp (partsWithin_expressions (list.2 row among))
  · refine (Yields.atKeyword .SELECT).bind fun selects _ => ?_
    split
    · exact topRules_yieldNested.query.bind fun query holds =>
        Yields.pure (List.forall_mem_singleton.mpr holds.nested)
    · exact Yields.choice ((Yields.expectKeyword .VALUES).bind fun _ _ =>
        Yields.pure (List.forall_mem_nil _)) Yields.unexpected

theorem insert_within : Yields insert fun insert => Accommodates (.insert insert) := by
  refine (Yields.expectKeyword .INSERT).bind fun _ _ => ?_
  refine (Yields.expectKeyword .INTO).bind fun _ _ => Yields.bind objectName_yields fun target _ => ?_
  refine Yields.bind targetColumns_yields fun columns _ => ?_
  refine insertSource_within.bind fun source sourceHolds => ?_
  refine returning_within.bind fun returning returningHolds => Yields.pure (.of_none rfl ?_)
  change ∀ next ∈ (_ ++ _ : List Node).map Branch.part, Branch.Within next maximalNesting
  rw [List.map_append]
  exact List.forall_mem_append.mpr ⟨sourceHolds, partsWithin_columns returningHolds⟩

theorem assignment_within : Yields assignment fun assignment =>
    PartWithin maximalNesting assignment.value :=
  Yields.expectName.bind fun _ _ => (Yields.expectSymbol .equal).bind fun _ _ =>
    (topRules_yieldNested.part 0).bind fun _ holds => Yields.pure holds

theorem partsWithin_assignments {assignments : List Assignment} {levels : Nat}
    (parts : ∀ assignment ∈ assignments, PartWithin levels assignment.value) :
    ∀ next ∈ (Node.ofAssignments assignments).map Branch.part, next.Within levels := by
  rw [List.forall_mem_map, Node.ofAssignments, List.forall_mem_map]
  exact parts

theorem update_within : Yields update fun update => Accommodates (.update update) := by
  refine (Yields.expectKeyword .UPDATE).bind fun _ _ => Yields.bind objectName_yields fun target _ => ?_
  refine Yields.bind optionalAlias_yields fun aliasName _ => (Yields.expectKeyword .SET).bind fun _ _ => ?_
  refine assignment_within.separated.bind fun assignments list => ?_
  have tables := tableList_within topRules_yieldNested
  refine (Yields.optionalAfter .FROM tables).bind fun source sourceHolds => ?_
  refine rowFilter_within.bind fun filter filterHolds => ?_
  refine returning_within.bind fun returning returningHolds => Yields.pure (.of_none rfl ?_)
  change ∀ next ∈ (_ ++ _ ++ _ ++ _ : List Node).map Branch.part,
    Branch.Within next maximalNesting
  simp only [List.map_append, List.forall_mem_append]
  exact ⟨⟨⟨partsWithin_assignments list.2, partsWithin_tables? sourceHolds⟩,
    partsWithin_expression? filterHolds⟩, partsWithin_columns returningHolds⟩

theorem delete_within : Yields delete fun delete => Accommodates (.delete delete) := by
  refine (Yields.expectKeyword .DELETE).bind fun _ _ => ?_
  refine (Yields.expectKeyword .FROM).bind fun _ _ => Yields.bind objectName_yields fun target _ => ?_
  refine Yields.bind optionalAlias_yields fun aliasName _ => ?_
  refine rowFilter_within.bind fun filter filterHolds => ?_
  refine returning_within.bind fun returning returningHolds => Yields.pure (.of_none rfl ?_)
  change ∀ next ∈ (_ ++ _ : List Node).map Branch.part, Branch.Within next maximalNesting
  rw [List.map_append]
  exact List.forall_mem_append.mpr ⟨partsWithin_expression? filterHolds,
    partsWithin_columns returningHolds⟩

/-- Data types have nothing below them that nests. -/
theorem dataTypes_within (type : Option DataType) :
    ∀ next ∈ (Node.ofDataType? type).map Branch.part, next.Within maximalNesting := by
  rw [List.forall_mem_map, Node.ofDataType?, List.forall_mem_map]
  exact fun type _ => dataTypePart_within type

theorem accommodates_createSequence (create : CreateSequence) :
    Accommodates (.createSequence create) :=
  .of_none rfl (dataTypes_within create.options.dataType)

theorem accommodates_alterSequence : (alter : AlterSequence) → Accommodates (.alterSequence alter)
  | ⟨_, _, .options chosen _⟩ => .of_none rfl (dataTypes_within chosen.dataType)
  | ⟨_, _, .rename _⟩ | ⟨_, _, .owner _⟩ | ⟨_, _, .schema _⟩ =>
      .of_none rfl (List.forall_mem_nil _)

theorem accommodates_dropSequence (drop : DropSequence) : Accommodates (.dropSequence drop) :=
  .of_none rfl (List.forall_mem_nil _)

/-- A statement is nothing but what it is. -/
theorem accommodates_statement {body : Statement} (holds : Accommodates body.node) :
    Accommodates (.statement body) :=
  .of_none rfl (List.forall_mem_singleton.mpr holds)

theorem statementBody_within : Yields statementBody fun body => Accommodates (.statement body) := by
  refine (Yields.look 0).bind fun kind _ => ?_
  split
  · exact topRules_yieldNested.query.bind fun _ holds =>
      Yields.pure (accommodates_statement holds.nested)
  · exact insert_within.bind fun _ holds => Yields.pure (accommodates_statement holds)
  · exact update_within.bind fun _ holds => Yields.pure (accommodates_statement holds)
  · exact delete_within.bind fun _ holds => Yields.pure (accommodates_statement holds)
  · refine (Yields.look 1).bind fun _ _ => (Yields.look 2).bind fun _ _ => ?_
    split
    · exact Yields.bind createSequence_yields fun create _ =>
        Yields.pure (accommodates_statement (accommodates_createSequence create))
    · exact unsupportedStatement_yields .CREATE true
  · refine (Yields.look 1).bind fun _ _ => ?_
    split
    · exact Yields.bind alterSequence_yields fun alter _ =>
        Yields.pure (accommodates_statement (accommodates_alterSequence alter))
    · exact unsupportedStatement_yields .ALTER true
  · refine (Yields.look 1).bind fun _ _ => ?_
    split
    · exact Yields.bind dropSequence_yields fun drop _ =>
        Yields.pure (accommodates_statement (accommodates_dropSequence drop))
    · exact unsupportedStatement_yields .DROP true
  · exact unsupportedStatement_yields .TRUNCATE false
  · exact unsupportedStatement_yields .WITH false
  · exact Yields.unexpected

end Statements

theorem statement_within : Yields statement fun body => Accommodates (.statement body) :=
  yields_statement statementBody_within

theorem statements_within : Yields statements fun statements =>
    ∀ body ∈ statements, Accommodates (.statement body) :=
  yields_statements statementBody_within

theorem expression_within : Yields expression fun body => Accommodates (.expression body) :=
  topRules_yieldNested.part 0

end Grammar

end SqlTree
