import SqlTree.Proofs.Grammar.Alternatives
import SqlTree.Proofs.Grammar.Gathering

/-!
# Calls throughout expressions and queries

Every call below an expression, a query or a table was read by the rule of names or by the test of
existence. So what holds of all calls that these two rules read in a stream holds of all calls
throughout the trees that are read there. The rules that nest gather it level by level.
-/

namespace SqlTree.Grammar

open SqlTree.Parser

variable {origin : Cursor} {property : ObjectName → List Expr → Bool → Prop} {inner : Rules}

/-- What the two rules for calls read in a stream has a property, if it is a call. -/
structure Rules.ReadCalls (inner : Rules) (origin : Cursor)
    (property : ObjectName → List Expr → Bool → Prop) : Prop where
  named : YieldsFrom origin (nameExpression inner) fun body => body.node.IfCall property
  test : YieldsFrom origin (existsTest inner) fun body => body.node.IfCall property

/-- The rules that nest make trees throughout which the calls have a property. -/
structure Rules.Gather (inner : Rules) (origin : Cursor)
    (property : ObjectName → List Expr → Bool → Prop) : Prop where
  expression : ∀ power, YieldsFrom origin (inner.expression power) fun body =>
    CallsHold property body.nodes
  query : YieldsFrom origin inner.query fun query => CallsHold property query.nodes
  tables : YieldsFrom origin inner.tables fun table => CallsHold property table.nodes

section Calls

variable (calls : inner.ReadCalls origin property) (gather : inner.Gather origin property)

include gather

theorem expressionList_gathers : YieldsFrom origin (expressionList inner) fun list =>
    ∀ body ∈ list, CallsHold property body.nodes :=
  (gather.expression 0).separated

theorem callArguments_gathers (distinct : Bool) :
    YieldsFrom origin (callArguments inner distinct) fun arguments =>
      ∀ body ∈ arguments, CallsHold property body.nodes := by
  refine YieldsFrom.read_bind fun closes => ?_
  split
  · exact YieldsFrom.pure (List.forall_mem_nil _)
  · refine YieldsFrom.read_bind fun starred => ?_
    split
    · refine YieldsFrom.advance_bind fun _ => YieldsFrom.pure (List.forall_mem_singleton.mpr ?_)
      simp [Expr.star, Expr.column, Expr.nodes, Node.IfCall]
    · exact expressionList_gathers gather

include calls

/-- A call that has the property has it throughout, because its arguments do. -/
theorem nameExpression_gathers : YieldsFrom origin (nameExpression inner) fun body =>
    CallsHold property body.nodes := by
  have called (function : ObjectName) : YieldsFrom origin (functionCall inner function) fun body =>
      body.node.IfCall property → CallsHold property body.nodes := by
    refine YieldsFrom.parenthesized (YieldsFrom.eat_bind fun distinct => ?_)
    refine (callArguments_gathers gather distinct).bind fun arguments holds => YieldsFrom.pure ?_
    intro here
    simpa [Expr.nodes, Node.IfCall] using ⟨here, holds⟩
  have column (table : Option ObjectName) (name : String) :
      YieldsFrom origin (pure (Expr.reference table name)) fun body =>
        body.node.IfCall property → CallsHold property body.nodes := by
    apply YieldsFrom.pure
    simp [Expr.nodes, Node.IfCall]
  have below : YieldsFrom origin (nameExpression inner) fun body =>
      body.node.IfCall property → CallsHold property body.nodes := by
    refine YieldsFrom.read_bind fun start => ?_
    refine YieldsFrom.steady_bind Taking.expectName.steady fun first => ?_
    refine YieldsFrom.steady_bind (Steady.manyAfter eatInnerDot_moving Taking.expectName.steady)
      fun others => ?_
    have parted (parts : List String) (span : Span) {next : ObjectName → Parser Expr}
        (made : ∀ name, YieldsFrom origin (next name) fun body =>
          body.node.IfCall property → CallsHold property body.nodes) :
        YieldsFrom origin (nameOfParts parts span >>= next) fun body =>
          body.node.IfCall property → CallsHold property body.nodes :=
      YieldsFrom.steady_bind (nameOfParts_steady parts span) made
    refine YieldsFrom.choice ?_ (YieldsFrom.read_bind fun stop => YieldsFrom.read_bind fun _ => ?_)
    · exact YieldsFrom.symbol_bind (YieldsFrom.read_bind fun stop =>
        parted _ _ fun table => column (some table) "*")
    · split
      · exact parted _ _ called
      · split
        · exact column none _
        · exact parted _ _ fun table => column (some table) _
  exact (below.and calls.named).weaken fun _ holds => holds.1 holds.2

theorem existsTest_gathers : YieldsFrom origin (existsTest inner) fun body =>
    CallsHold property body.nodes := by
  have below : YieldsFrom origin (existsTest inner) fun body =>
      body.node.IfCall property → CallsHold property body.nodes := by
    refine YieldsFrom.keyword_bind (gather.query.parenthesized.bind fun query holds => ?_)
    refine YieldsFrom.pure fun here => ?_
    simpa [Expr.nodes, Node.IfCall] using ⟨here, holds⟩
  exact (below.and calls.test).weaken fun _ holds => holds.1 holds.2

end Calls

section Operands

variable (calls : inner.ReadCalls origin property) (gather : inner.Gather origin property)

include gather

theorem parenthesizedExpression_gathers :
    YieldsFrom origin (parenthesizedExpression inner) fun body =>
      CallsHold property body.nodes := by
  refine YieldsFrom.parenthesized (YieldsFrom.read_bind fun selects => ?_)
  split
  · refine gather.query.bind fun query holds => YieldsFrom.pure ?_
    simpa [Expr.nodes, Node.IfCall] using holds
  · exact gather.expression 0

theorem castExpression_gathers : YieldsFrom origin (castExpression inner) fun body =>
    CallsHold property body.nodes := by
  refine YieldsFrom.keyword_bind (YieldsFrom.parenthesized ?_)
  refine (gather.expression 0).bind fun operand holds => YieldsFrom.keyword_bind ?_
  refine YieldsFrom.steady_bind dataType_taking.steady fun target => YieldsFrom.pure ?_
  simpa [Expr.nodes, Node.IfCall] using holds

theorem caseArm_gathers : YieldsFrom origin (caseArm inner) fun arm =>
    CallsHold property arm.nodes := by
  refine (gather.expression 0).bind fun condition holds => YieldsFrom.keyword_bind ?_
  refine (gather.expression 0).bind fun result holdsToo => YieldsFrom.pure ?_
  simpa [CaseArm.nodes] using ⟨holds, holdsToo⟩

theorem caseBehind_gathers (subject : Option Expr)
    (subjectHolds : ∀ body ∈ subject, CallsHold property body.nodes) :
    YieldsFrom origin (caseBehind inner subject) fun body => CallsHold property body.nodes := by
  refine (YieldsFrom.manyAfter (caseArm_gathers gather)).bind fun arms armsHold => ?_
  have ended : YieldsFrom origin (caseEnd inner subject arms) fun body =>
      CallsHold property body.nodes := by
    refine (YieldsFrom.optionalAfter .ELSE (gather.expression 0)).bind fun otherwise holds => ?_
    refine YieldsFrom.keyword_bind (YieldsFrom.pure ?_)
    simp only [Expr.nodes, Node.All.cons_iff, Node.All.append_iff, Node.IfCall, true_and,
      Node.All.expressionNodes?_iff, Node.All.armNodes_iff]
    exact ⟨⟨subjectHolds, armsHold⟩, holds⟩
  dsimp only
  split
  · exact YieldsFrom.unexpected_bind
  · exact ended

theorem caseExpression_gathers : YieldsFrom origin (caseExpression inner) fun body =>
    CallsHold property body.nodes := by
  rw [caseExpression_eq]
  refine YieldsFrom.keyword_bind (YieldsFrom.read_bind fun direct => ?_)
  split
  · exact YieldsFrom.pureNone.bind (caseBehind_gathers gather)
  · have compared : YieldsFrom origin (some <$> inner.expression 0) fun subject =>
        ∀ body ∈ subject, CallsHold property body.nodes := by
      rw [map_eq_pure_bind]
      exact (gather.expression 0).bind fun _ holds => YieldsFrom.pureSome holds
    exact compared.bind (caseBehind_gathers gather)

include calls

theorem primary_gathers : YieldsFrom origin (primary inner) fun body =>
    CallsHold property body.nodes := by
  rw [primary_eq]
  refine YieldsFrom.read_bind fun cursor => ?_
  refine primaryBy_cases (fun parser => YieldsFrom origin parser fun body =>
      CallsHold property body.nodes) _ (fun value _ => ?_) (fun number _ => ?_) (fun _ => ?_)
    (parenthesizedExpression_gathers gather) (caseExpression_gathers gather)
    (castExpression_gathers gather) (fun _ => YieldsFrom.read_bind fun _ => ?_)
    (nameExpression_gathers calls gather) YieldsFrom.unexpected
  · refine YieldsFrom.advance_bind fun _ => YieldsFrom.pure ?_
    simp [Expr.nodes, Node.IfCall]
  · refine YieldsFrom.advance_bind fun _ => YieldsFrom.pure ?_
    simp [Expr.nodes, Node.IfCall]
  · refine YieldsFrom.advance_bind fun _ => YieldsFrom.pure ?_
    simp [Expr.star, Expr.column, Expr.nodes, Node.IfCall]
  · split
    · exact existsTest_gathers calls gather
    · exact nameExpression_gathers calls gather

theorem operand_gathers : YieldsFrom origin (operand inner) fun body =>
    CallsHold property body.nodes := by
  refine YieldsFrom.read_bind fun kind => ?_
  split
  · refine YieldsFrom.advance_bind fun _ => (gather.expression _).bind fun operand holds => ?_
    apply YieldsFrom.pure
    simpa [Expr.nodes, Node.IfCall] using holds
  · exact primary_gathers calls gather

end Operands

section Suffixes

/-- With a suffix behind it, an expression keeps the property of its calls. -/
def Suffix.KeepsCalls (property : ObjectName → List Expr → Bool → Prop) (suffix : Suffix) : Prop :=
  ∀ operand : Expr, CallsHold property operand.nodes →
    CallsHold property (suffix.applyTo operand).nodes

/-- With suffixes behind it one after the other, an expression keeps the property of its calls. -/
theorem callsHold_foldl {suffixes : List Suffix}
    (keeps : ∀ suffix ∈ suffixes, suffix.KeepsCalls property) {operand : Expr}
    (holds : CallsHold property operand.nodes) :
    CallsHold property (suffixes.foldl (fun left suffix => suffix.applyTo left) operand).nodes := by
  induction suffixes generalizing operand with
  | nil => exact holds
  | cons suffix suffixes inductionHypothesis =>
      rw [List.forall_mem_cons] at keeps
      exact inductionHypothesis keeps.2 (keeps.1 operand holds)

theorem truthSuffix_gathers : YieldsFrom origin truthSuffix (Suffix.KeepsCalls property) := by
  refine YieldsFrom.eat_bind fun negated => YieldsFrom.read_bind fun kind => ?_
  split
  · refine YieldsFrom.advance_bind fun _ => YieldsFrom.pure fun operand holds => ?_
    simpa [Suffix.applyTo, Expr.nodes, Node.IfCall] using holds
  · exact YieldsFrom.unexpected

variable (gather : inner.Gather origin property)

include gather

theorem listSuffix_gathers (negated : Bool) :
    YieldsFrom origin (listSuffix inner negated) (Suffix.KeepsCalls property) := by
  have list {list : List Expr} (listHolds : ∀ body ∈ list, CallsHold property body.nodes) :
      (Suffix.inList list negated).KeepsCalls property := by
    intro operand holds
    simpa [Suffix.applyTo, Expr.nodes, Node.IfCall] using ⟨holds, listHolds⟩
  refine YieldsFrom.parenthesized (YieldsFrom.read_bind fun selects => ?_)
  split
  · refine gather.query.bind fun query holds => YieldsFrom.pure (list ?_)
    rw [List.forall_mem_singleton]
    simpa [Expr.nodes, Node.IfCall] using holds
  · exact (expressionList_gathers gather).bind fun _ holds => YieldsFrom.pure (list holds)

theorem rangeSuffix_gathers (power : Nat) (negated : Bool) :
    YieldsFrom origin (rangeSuffix inner power negated) (Suffix.KeepsCalls property) := by
  refine (gather.expression power).bind fun low lowHolds => YieldsFrom.keyword_bind ?_
  refine (gather.expression power).bind fun high highHolds => YieldsFrom.pure ?_
  intro operand holds
  simpa [Suffix.applyTo, Expr.nodes, Node.IfCall] using ⟨holds, lowHolds, highHolds⟩

theorem suffix_gathers (power : Nat) :
    YieldsFrom origin (suffix inner power) (Suffix.KeepsCalls property) := by
  have binary (operator : BinaryOperator) :
      YieldsFrom origin (do return Suffix.binary operator (← inner.expression power))
        (Suffix.KeepsCalls property) := by
    refine (gather.expression power).bind fun right rightHolds => YieldsFrom.pure ?_
    intro operand holds
    simpa [Suffix.applyTo, Expr.nodes, Node.IfCall] using ⟨holds, rightHolds⟩
  have behind (negated : Prop) [Decidable negated] (token : Token) :
      YieldsFrom origin (suffixBehind inner power negated token) (Suffix.KeepsCalls property) := by
    unfold suffixBehind
    split
    · exact truthSuffix_gathers
    · refine YieldsFrom.steady_bind dataType_taking.steady fun target => YieldsFrom.pure ?_
      intro operand holds
      simpa [Suffix.applyTo, Expr.nodes, Node.IfCall] using holds
    · exact rangeSuffix_gathers gather power negated
    · exact listSuffix_gathers gather negated
    · exact binary _
    · exact binary _
    · split
      · exact binary _
      · exact YieldsFrom.fail
  rw [suffix_eq]
  refine YieldsFrom.advance_bind fun first => ?_
  dsimp only
  split
  · exact YieldsFrom.advance_bind (behind _)
  · exact YieldsFrom.steady_bind (Steady.pure first) (behind _)

theorem nextSuffix_gathers (power : Nat) : YieldsFrom origin (nextSuffix inner power) fun found =>
    ∀ suffix ∈ found, suffix.KeepsCalls property := by
  refine YieldsFrom.read_bind fun _ => YieldsFrom.read_bind fun _ => ?_
  split
  · exact YieldsFrom.pureNone
  · split
    · exact (suffix_gathers gather _).bind fun _ keeps => YieldsFrom.pureSome keeps
    · exact YieldsFrom.pureNone

theorem operators_gathers (calls : inner.ReadCalls origin property) (power : Nat) :
    YieldsFrom origin (operators inner power) fun body => CallsHold property body.nodes :=
  (operand_gathers calls gather).bind fun _ holds =>
    (YieldsFrom.collect (nextSuffix_gathers gather power)).bind fun _ keeps =>
      YieldsFrom.pure (callsHold_foldl keeps holds)

end Suffixes

section Queries

theorem callsHold_joins {clauses : List JoinClause}
    (joins : ∀ clause ∈ clauses, CallsHold property clause.nodes) {table : TableRef}
    (holds : CallsHold property table.nodes) :
    CallsHold property (clauses.foldl .join table).nodes := by
  induction clauses generalizing table with
  | nil => exact holds
  | cons clause clauses inductionHypothesis =>
      rw [List.forall_mem_cons] at joins
      apply inductionHypothesis joins.2
      simpa [TableRef.nodes, Node.IfCall] using ⟨holds, joins.1⟩

theorem listBy_gathers {α : Type} (word : Keyword) {item : Parser α} {sort : α → Prop}
    (each : YieldsFrom origin item sort) :
    YieldsFrom origin (listBy word item) fun values => ∀ value ∈ values, sort value :=
  YieldsFrom.choice (YieldsFrom.keyword_bind each.separated)
    (YieldsFrom.pure (List.forall_mem_nil _))

variable (gather : inner.Gather origin property)

include gather

theorem outputColumns_gathers : YieldsFrom origin (outputColumns inner) fun columns =>
    ∀ column ∈ columns, CallsHold property column.nodes := by
  refine YieldsFrom.separated ((gather.expression 0).bind fun value holds => ?_)
  refine YieldsFrom.steady_bind optionalAlias_steady fun aliasName => YieldsFrom.pure ?_
  simpa [OutputColumn.nodes] using holds

theorem tableFactor_gathers : YieldsFrom origin (tableFactor inner) fun table =>
    CallsHold property table.nodes := by
  refine YieldsFrom.choice (YieldsFrom.read_bind fun selects => ?_) ?_
  · split
    · refine gather.query.bind fun query holds => YieldsFrom.symbol_bind ?_
      refine YieldsFrom.steady_bind optionalAlias_steady fun found => ?_
      split
      · apply YieldsFrom.pure
        simpa [TableRef.nodes, Node.IfCall] using holds
      · exact YieldsFrom.read_bind fun _ => YieldsFrom.fail
    · exact gather.tables.bind fun tables holds => YieldsFrom.symbol_bind (YieldsFrom.pure holds)
  · refine YieldsFrom.steady_bind objectName_taking.steady fun name => ?_
    refine YieldsFrom.steady_bind optionalAlias_steady fun aliasName => YieldsFrom.pure ?_
    simp [TableRef.nodes, Node.IfCall]

theorem joinCondition_gathers (kind : JoinKind) :
    YieldsFrom origin (joinCondition inner kind) fun matched =>
      ∀ body ∈ matched.1, CallsHold property body.nodes := by
  unfold joinCondition
  split
  · exact YieldsFrom.pure nofun
  · refine YieldsFrom.choice ((gather.expression 0).bind fun condition holds => ?_) ?_
    · refine YieldsFrom.pure ?_
      rintro _ ⟨⟩
      exact holds
    · exact YieldsFrom.choice
        (YieldsFrom.steady_bind (Taking.parenthesized nameList_steady).steady fun _ =>
          YieldsFrom.pure nofun)
        YieldsFrom.unexpected

theorem nextJoin_gathers : YieldsFrom origin (nextJoin inner) fun found =>
    ∀ clause ∈ found, CallsHold property clause.nodes := by
  refine YieldsFrom.read_bind fun token => ?_
  split
  · exact YieldsFrom.pureNone
  · next kind _ =>
      refine YieldsFrom.advance_bind fun first => ?_
      refine YieldsFrom.steady_bind (joinWords_steady _ kind) fun _ => ?_
      refine (tableFactor_gathers gather).bind fun table holds => ?_
      refine (joinCondition_gathers gather kind).bind fun matched matchedHolds => ?_
      apply YieldsFrom.pureSome
      simpa [JoinClause.nodes] using ⟨holds, matchedHolds⟩

theorem joinedTables_gathers : YieldsFrom origin (joinedTables inner) fun table =>
    CallsHold property table.nodes :=
  (tableFactor_gathers gather).bind fun _ holds =>
    (YieldsFrom.collect (nextJoin_gathers gather)).bind fun _ joins =>
      YieldsFrom.pure (callsHold_joins joins holds)

theorem tableList_gathers : YieldsFrom origin (tableList inner) fun table =>
    CallsHold property table.nodes := by
  refine (joinedTables_gathers gather).bind fun first holds => ?_
  refine (YieldsFrom.manyAfter (joinedTables_gathers gather)).bind fun others listed => ?_
  apply YieldsFrom.pure
  rw [← List.foldl_map (f := fun table => JoinClause.mk .cross table none []) (g := TableRef.join)]
  apply callsHold_joins _ holds
  rw [List.forall_mem_map]
  intro table among
  simpa [JoinClause.nodes] using listed table among

theorem sortKey_gathers : YieldsFrom origin (sortKey inner) fun key =>
    CallsHold property key.nodes := by
  have direction : Steady direction :=
    (Moving.eatKeyword .DESC).choice (Steady.pure _)
      ((Moving.eatKeyword .ASC).steady.bind fun _ => Steady.pure _)
  have nullPlacement : Steady nullPlacement :=
    (Moving.eatKeyword .FIRST).choice (Steady.pure _)
      ((Taking.expectKeyword .LAST).bind fun _ => Steady.pure _)
  refine (gather.expression 0).bind fun key holds => YieldsFrom.steady_bind direction fun _ => ?_
  refine YieldsFrom.steady_bind (Steady.optionalAfter .NULLS nullPlacement) fun _ => ?_
  apply YieldsFrom.pure
  simpa [SortKey.nodes] using holds

theorem query_gathers : YieldsFrom origin (query inner) fun query =>
    CallsHold property query.nodes := by
  have expression := gather.expression 0
  refine YieldsFrom.keyword_bind (YieldsFrom.steady_bind distinctness_steady fun distinct => ?_)
  refine (outputColumns_gathers gather).bind fun columns columnsHold => ?_
  refine (YieldsFrom.optionalAfter .FROM (tableList_gathers gather)).bind fun _ sourceHolds => ?_
  refine (YieldsFrom.optionalAfter .WHERE expression).bind fun filter filterHolds => ?_
  refine (listBy_gathers .GROUP expression).bind fun groupBy groupByHolds => ?_
  refine (YieldsFrom.optionalAfter .HAVING expression).bind fun having havingHolds => ?_
  refine (listBy_gathers .ORDER (sortKey_gathers gather)).bind fun orderBy orderByHolds => ?_
  refine (YieldsFrom.optionalAfter .LIMIT expression).bind fun limit limitHolds => ?_
  refine (YieldsFrom.optionalAfter .OFFSET expression).bind fun offset offsetHolds => ?_
  refine YieldsFrom.steady_bind noSetOperation_steady fun _ => YieldsFrom.pure ?_
  simp only [Select.nodes, Node.All.cons_iff, Node.All.append_iff, Node.IfCall, true_and,
    Node.All.columnNodes_iff, Node.All.tableNodes?_iff, Node.All.expressionNodes?_iff,
    Node.All.expressionNodes_iff, Node.All.sortKeyNodes_iff]
  exact ⟨⟨⟨⟨⟨⟨⟨columnsHold, sourceHolds⟩, filterHolds⟩, groupByHolds⟩, havingHolds⟩,
    orderByHolds⟩, limitHolds⟩, offsetHolds⟩

end Queries

/-- The rules that nest gather on every level what holds of the calls that are read on all. -/
theorem rules_gather (calls : ∀ levels, (rules levels).ReadCalls origin property) (levels : Nat) :
    (rules levels).Gather origin property := by
  induction levels with
  | zero =>
      have tooDeep {α : Type} {sort : α → Prop} : YieldsFrom origin rules.tooDeep sort :=
        YieldsFrom.read_bind fun _ => YieldsFrom.fail
      exact ⟨fun _ => tooDeep, tooDeep, tooDeep⟩
  | succ levels inductionHypothesis =>
      exact ⟨operators_gathers inductionHypothesis (calls levels),
        query_gathers inductionHypothesis, joinedTables_gathers inductionHypothesis⟩

end SqlTree.Grammar
