import SqlTree.Proofs.Grammar.YieldedRules
import SqlTree.Proofs.Traversal.Branches

/-!
# Levels of expressions and queries

Every rule of the grammar makes trees whose nesting stays within the levels that the rule is given.
What is gathered behind an operand or a table without a rule that nests stands on the level of the
rule that gathers it.
-/

namespace SqlTree.Grammar

open SqlTree.Parser

/-- The rules that nest make trees that take one of so many levels. -/
structure Rules.YieldNested (inner : Rules) (levels : Nat) : Prop where
  expression : ∀ power, Yields (inner.expression power) fun expression =>
    (Node.expression expression).NestsWithin levels
  query : Yields inner.query fun query => (Node.select query).NestsWithin levels
  tables : Yields inner.tables fun table => (Node.table table).NestsWithin levels

section Expressions

variable {inner : Rules} {levels : Nat}

/-- An expression stays within some levels, on the level where it stands. -/
def ExpressionWithin (levels : Nat) (body : Expr) : Prop :=
  Branch.Within ⟨.expression body, .beside⟩ levels

/-- An expression that is a part stays within some levels. -/
def PartWithin (levels : Nat) (body : Expr) : Prop :=
  Branch.Within ⟨.expression body, .nested⟩ levels

/-- An expression stays within the levels that its parts are within. -/
theorem expressionWithin_of_below {body : Expr}
    (below : ∀ next ∈ (Branch.part body.node).below, next.Within levels) :
    ExpressionWithin levels body := by
  refine Branch.Within.of_none rfl (List.forall_mem_singleton.mpr (.of_none ?_ below))
  cases body <;> rfl

theorem partsWithin_expressions {list : List Expr} (parts : ∀ body ∈ list, PartWithin levels body) :
    ∀ next ∈ (Node.ofExpressions list).map Branch.part, next.Within levels := by
  rw [List.forall_mem_map, Node.ofExpressions, List.forall_mem_map]
  exact parts

theorem partsWithin_expression? {found : Option Expr}
    (parts : ∀ body ∈ found, PartWithin levels body) :
    ∀ next ∈ (Node.ofExpression? found).map Branch.part, next.Within levels := by
  rw [List.forall_mem_map, Node.ofExpression?, List.forall_mem_map]
  exact fun body among => parts body (Option.mem_toList.mp among)

theorem Rules.YieldNested.part (nests : inner.YieldNested levels) (power : Nat) :
    Yields (inner.expression power) (PartWithin levels) :=
  (nests.expression power).weaken fun _ holds => holds.nested

theorem expressionList_within (nests : inner.YieldNested levels) :
    Yields (expressionList inner) fun list => ∀ body ∈ list, PartWithin levels body :=
  (nests.part 0).separated.weaken fun _ list => list.2

theorem parenthesizedExpression_within (nests : inner.YieldNested levels) :
    Yields (parenthesizedExpression inner) (ExpressionWithin levels) := by
  refine Yields.parenthesized ((Yields.atKeyword .SELECT).bind fun selects _ => ?_)
  split
  · exact nests.query.bind fun query holds => Yields.pure holds.expression.beside
  · exact (nests.expression 0).weaken fun _ holds => holds.beside

theorem existsTest_within (nests : inner.YieldNested levels) :
    Yields (existsTest inner) (ExpressionWithin levels) := by
  refine (Yields.expectKeyword .EXISTS).bind fun _ _ => ?_
  refine nests.query.parenthesized.bind fun query holds => Yields.pure ?_
  exact expressionWithin_of_below (List.forall_mem_singleton.mpr holds.expression.nested)

theorem expressionWithin_reference (table : Option ObjectName) (column : String) :
    ExpressionWithin levels (.reference table column) :=
  expressionWithin_of_below (List.forall_mem_nil _)

/-- The arguments of a call stay within the levels of the call: on levels of their own, or as a star
on the level of the call. -/
theorem callArguments_within (nests : inner.YieldNested levels) (function : ObjectName)
    (distinct : Bool) : Yields (callArguments inner distinct) fun arguments =>
      ExpressionWithin levels (.call function arguments distinct) := by
  refine (Yields.atSymbol .rightParen).bind fun closes _ => ?_
  split
  · exact Yields.pure (expressionWithin_of_below (List.forall_mem_nil _))
  · refine (Yields.atSymbol .star).bind fun starred _ => ?_
    split
    · next plain =>
        have unique : distinct = false := by simpa using (Bool.and_eq_true_iff.mp plain).1
        subst unique
        refine Yields.advance.bind fun _ _ => Yields.pure (expressionWithin_of_below ?_)
        exact List.forall_mem_singleton.mpr (expressionWithin_reference none "*")
    · refine (expressionList_within nests).weaken fun arguments parts => ?_
      apply expressionWithin_of_below
      change ∀ next ∈ (Node.ofExpressions arguments).map _, Branch.Within next levels
      rw [List.forall_mem_map, Node.ofExpressions, List.forall_mem_map]
      intro body among
      cases loneStar arguments distinct with
      | true => exact (parts body among).beside
      | false => exact parts body among

theorem functionCall_within (nests : inner.YieldNested levels) (function : ObjectName) :
    Yields (functionCall inner function) (ExpressionWithin levels) :=
  Yields.parenthesized ((Yields.eat _).bind fun distinct _ =>
    (callArguments_within nests function distinct).bind fun _ holds => Yields.pure holds)

theorem nameExpression_within (nests : inner.YieldNested levels) :
    Yields (nameExpression inner) (ExpressionWithin levels) := by
  have named : Yields expectName fun _ => True := Yields.expectName.weaken fun _ _ => trivial
  have object (parts : List String) (span : Span) : Yields (nameOfParts parts span) fun _ => True := by
    unfold nameOfParts
    split
    · exact Yields.pure trivial
    · exact Yields.pure trivial
    · exact Yields.fail
  refine Yields.current.bind fun start _ => named.bind fun first _ => ?_
  refine (Yields.manyAfter eatInnerDot_yields named).bind fun others _ => ?_
  refine Yields.choice ?_ (Yields.previousSpan.bind fun stop _ => ?_)
  · refine (Yields.expectSymbol .star).bind fun _ _ => Yields.previousSpan.bind fun stop _ => ?_
    exact (object _ _).bind fun _ _ => Yields.pure (expressionWithin_reference _ _)
  · refine (Yields.atSymbol .leftParen).bind fun called _ => ?_
    split
    · exact (object _ _).bind fun function _ => functionCall_within nests function
    · split
      · exact Yields.pure (expressionWithin_reference _ _)
      · exact (object _ _).bind fun _ _ => Yields.pure (expressionWithin_reference _ _)

theorem dataTypePart_within (type : DataType) : (Branch.part (.dataType type)).Within levels :=
  .of_none rfl (List.forall_mem_nil _)

theorem expressionWithin_cast {operand : Expr} (holds : ExpressionWithin levels operand)
    (target : DataType) : ExpressionWithin levels (.cast operand target) :=
  expressionWithin_of_below (List.forall_mem_cons.mpr ⟨holds,
    List.forall_mem_singleton.mpr (dataTypePart_within target)⟩)

theorem castExpression_within (nests : inner.YieldNested levels) :
    Yields (castExpression inner) (ExpressionWithin levels) := by
  refine (Yields.expectKeyword .CAST).bind fun _ _ => Yields.parenthesized ?_
  refine (nests.expression 0).bind fun operand holds => ?_
  refine (Yields.expectKeyword .AS).bind fun _ _ => Yields.bind dataType_yields fun target _ => ?_
  exact Yields.pure (expressionWithin_cast holds.beside target)

/-- Both sides of an arm stay within some levels. -/
def ArmWithin (levels : Nat) (arm : CaseArm) : Prop :=
  PartWithin levels arm.condition ∧ PartWithin levels arm.result

theorem caseArm_within (nests : inner.YieldNested levels) :
    Yields (caseArm inner) (ArmWithin levels) :=
  (nests.part 0).bind fun _ holds => (Yields.expectKeyword .THEN).bind fun _ _ =>
    (nests.part 0).bind fun _ holdsToo => Yields.pure ⟨holds, holdsToo⟩

theorem partsWithin_arms {arms : List CaseArm} (holds : ∀ arm ∈ arms, ArmWithin levels arm) :
    ∀ next ∈ (Node.ofArms arms).map Branch.part, next.Within levels := by
  rw [List.forall_mem_map, Node.ofArms, List.forall_mem_flatMap]
  intro arm among
  exact List.forall_mem_cons.mpr ⟨(holds arm among).1,
    List.forall_mem_singleton.mpr (holds arm among).2⟩

theorem caseEnd_within (nests : inner.YieldNested levels) {subject : Option Expr}
    {arms : List CaseArm} (subjectHolds : ∀ body ∈ subject, PartWithin levels body)
    (armsHold : ∀ arm ∈ arms, ArmWithin levels arm) :
    Yields (caseEnd inner subject arms) (ExpressionWithin levels) := by
  refine (Yields.optionalAfter .ELSE (nests.part 0)).bind fun otherwise holds => ?_
  refine (Yields.expectKeyword .END).bind fun _ _ => Yields.pure (expressionWithin_of_below ?_)
  change ∀ next ∈ (_ ++ _ ++ _ : List Node).map Branch.part, next.Within levels
  rw [List.map_append, List.map_append]
  exact List.forall_mem_append.mpr ⟨List.forall_mem_append.mpr
    ⟨partsWithin_expression? subjectHolds, partsWithin_arms armsHold⟩, partsWithin_expression? holds⟩

theorem caseBehind_within (nests : inner.YieldNested levels) (subject : Option Expr)
    (subjectHolds : ∀ body ∈ subject, PartWithin levels body) :
    Yields (caseBehind inner subject) (ExpressionWithin levels) := by
  refine (Yields.manyAfter (Yields.eat _) (caseArm_within nests)).bind fun arms holds => ?_
  dsimp only
  split
  · exact Yields.unexpected_bind
  · exact caseEnd_within nests subjectHolds holds

theorem caseExpression_within (nests : inner.YieldNested levels) :
    Yields (caseExpression inner) (ExpressionWithin levels) := by
  rw [caseExpression_eq]
  refine (Yields.expectKeyword .CASE).bind fun _ _ => ?_
  refine (Yields.atKeyword .WHEN).bind fun direct _ => ?_
  cases direct with
  | true => exact Yields.pureNone.bind (caseBehind_within nests)
  | false =>
      have compared : Yields (some <$> inner.expression 0) fun subject =>
          ∀ body ∈ subject, PartWithin levels body := by
        rw [map_eq_pure_bind]
        exact (nests.part 0).bind fun _ holds => Yields.pureSome holds
      exact compared.bind (caseBehind_within nests)

theorem primary_within (nests : inner.YieldNested levels) :
    Yields (primary inner) (ExpressionWithin levels) := by
  rw [primary_eq]
  refine (Yields.look 0).bind fun kind _ => ?_
  refine primaryBy_cases (Yields · (ExpressionWithin levels)) kind (fun value _ => ?_)
    (fun number _ => ?_) (fun _ => ?_) (parenthesizedExpression_within nests)
    (caseExpression_within nests) (castExpression_within nests) (fun _ => ?_)
    (nameExpression_within nests) Yields.unexpected
  · exact Yields.advance.bind fun _ _ =>
      Yields.pure (expressionWithin_of_below (List.forall_mem_nil _))
  · exact Yields.advance.bind fun _ _ =>
      Yields.pure (expressionWithin_of_below (List.forall_mem_nil _))
  · exact Yields.advance.bind fun _ _ => Yields.pure (expressionWithin_reference none "*")
  · refine (Yields.look 1).bind fun _ _ => ?_
    split
    · exact existsTest_within nests
    · exact nameExpression_within nests

theorem operand_within (nests : inner.YieldNested levels) :
    Yields (operand inner) (ExpressionWithin levels) := by
  refine (Yields.look 0).bind fun kind _ => ?_
  split
  · next operator _ _ =>
      refine Yields.advance.bind fun _ _ => (nests.part _).bind fun operand holds => ?_
      refine Yields.pure (expressionWithin_of_below (List.forall_mem_singleton.mpr ?_))
      cases operator.followsOperand with
      | true => exact holds.beside
      | false => exact holds
  · exact primary_within nests

/-- A suffix stays on the level of its operand. -/
def Suffix.StaysWithin (levels : Nat) (suffix : Suffix) : Prop :=
  ∀ operand : Expr, ExpressionWithin levels operand →
    ExpressionWithin levels (suffix.applyTo operand)

theorem Suffix.staysWithin_unary {operator : UnaryOperator}
    (follows : operator.followsOperand = true) : (Suffix.unary operator).StaysWithin levels := by
  intro operand holds
  refine expressionWithin_of_below (List.forall_mem_singleton.mpr ?_)
  rw [if_pos follows]
  exact holds

theorem Suffix.staysWithin_binary (operator : BinaryOperator) {right : Expr}
    (rightHolds : PartWithin levels right) : (Suffix.binary operator right).StaysWithin levels :=
  fun _ holds => expressionWithin_of_below (List.forall_mem_cons.mpr ⟨holds,
    List.forall_mem_singleton.mpr rightHolds⟩)

theorem Suffix.staysWithin_ternary (operator : TernaryOperator) {low high : Expr}
    (lowHolds : PartWithin levels low) (highHolds : PartWithin levels high) :
    (Suffix.ternary operator low high).StaysWithin levels :=
  fun _ holds => expressionWithin_of_below (List.forall_mem_cons.mpr ⟨holds,
    List.forall_mem_cons.mpr ⟨lowHolds, List.forall_mem_singleton.mpr highHolds⟩⟩)

theorem Suffix.staysWithin_inList {list : List Expr} (negated : Bool)
    (parts : ∀ body ∈ list, PartWithin levels body) :
    (Suffix.inList list negated).StaysWithin levels :=
  fun _ holds => expressionWithin_of_below (List.forall_mem_cons.mpr ⟨holds,
    partsWithin_expressions parts⟩)

/-- The tests behind an operand are operators that follow it. -/
theorem followsOperand_of_truthTest? {negated : Bool} {kind : TokenKind} {operator : UnaryOperator}
    (test : truthTest? negated kind = some operator) : operator.followsOperand = true := by
  unfold truthTest? at test
  split at test <;> cases test <;> cases negated <;> rfl

theorem truthSuffix_within : Yields truthSuffix (Suffix.StaysWithin levels) := by
  refine (Yields.eat _).bind fun negated _ => (Yields.look 0).bind fun kind _ => ?_
  split
  · next operator test =>
      exact Yields.advance.bind fun _ _ =>
        Yields.pure (Suffix.staysWithin_unary (followsOperand_of_truthTest? test))
  · exact Yields.unexpected

theorem listSuffix_within (nests : inner.YieldNested levels) (negated : Bool) :
    Yields (listSuffix inner negated) (Suffix.StaysWithin levels) := by
  refine Yields.parenthesized ((Yields.atKeyword .SELECT).bind fun selects _ => ?_)
  split
  · refine nests.query.bind fun query holds => Yields.pure (Suffix.staysWithin_inList negated ?_)
    exact List.forall_mem_singleton.mpr holds.expression.nested
  · exact (expressionList_within nests).bind fun list parts =>
      Yields.pure (Suffix.staysWithin_inList negated parts)

theorem rangeSuffix_within (nests : inner.YieldNested levels) (power : Nat) (negated : Bool) :
    Yields (rangeSuffix inner power negated) (Suffix.StaysWithin levels) :=
  (nests.part power).bind fun _ lowHolds => (Yields.expectKeyword .AND).bind fun _ _ =>
    (nests.part power).bind fun _ highHolds =>
      Yields.pure (Suffix.staysWithin_ternary _ lowHolds highHolds)

theorem suffix_within (nests : inner.YieldNested levels) (power : Nat) :
    Yields (suffix inner power) (Suffix.StaysWithin levels) := by
  have operator (made : BinaryOperator) :
      Yields (do return .binary made (← inner.expression power)) (Suffix.StaysWithin levels) :=
    (nests.part power).bind fun _ holds => Yields.pure (Suffix.staysWithin_binary made holds)
  have behind (negated : Prop) [Decidable negated] (token : Token) (_ : token.kind.IsLexical) :
      Yields (suffixBehind inner power negated token) (Suffix.StaysWithin levels) := by
    unfold suffixBehind
    split
    · exact truthSuffix_within
    · exact Yields.bind dataType_yields fun target _ =>
        Yields.pure fun _ holds => expressionWithin_cast holds target
    · exact rangeSuffix_within nests power negated
    · exact listSuffix_within nests negated
    · exact operator _
    · exact operator _
    · split
      · exact operator _
      · exact Yields.fail
  rw [suffix_eq]
  refine Yields.advance.bind fun first lexical => ?_
  dsimp only
  split
  · exact Yields.advance.bind (behind _)
  · have token : Yields (pure first) fun token => token.kind.IsLexical := Yields.pure lexical
    exact token.bind (behind _)

theorem nextSuffix_within (nests : inner.YieldNested levels) (power : Nat) :
    Yields (nextSuffix inner power) fun found => ∀ suffix ∈ found, suffix.StaysWithin levels := by
  refine (Yields.look 0).bind fun _ _ => (Yields.look 1).bind fun _ _ => ?_
  split
  · exact Yields.pureNone
  · split
    · exact (suffix_within nests _).bind fun _ stays => Yields.pureSome stays
    · exact Yields.pureNone

/-- However many suffixes follow an operand, they stay on its level. -/
theorem expressionWithin_foldl {suffixes : List Suffix}
    (stay : ∀ suffix ∈ suffixes, suffix.StaysWithin levels) {operand : Expr}
    (holds : ExpressionWithin levels operand) :
    ExpressionWithin levels (suffixes.foldl (fun left suffix => suffix.applyTo left) operand) := by
  induction suffixes generalizing operand with
  | nil => exact holds
  | cons suffix suffixes inductionHypothesis =>
      rw [List.forall_mem_cons] at stay
      exact inductionHypothesis stay.2 (stay.1 operand holds)

theorem operators_within (nests : inner.YieldNested levels) (power : Nat) :
    Yields (operators inner power) (ExpressionWithin levels) :=
  (operand_within nests).bind fun _ holds =>
    (Yields.collect (nextSuffix_within nests power)).bind fun _ stay =>
      Yields.pure (expressionWithin_foldl stay holds)

end Expressions

section Queries

variable {inner : Rules} {levels : Nat}

/-- Tables stay within some levels, on the level where they stand. -/
def TablesWithin (levels : Nat) (body : TableRef) : Prop :=
  Branch.Within ⟨.table body, .beside⟩ levels

theorem partsWithin_tables? {found : Option TableRef}
    (parts : ∀ body ∈ found, Branch.Within ⟨.table body, .listed⟩ levels) :
    ∀ next ∈ (Node.ofTable? found).map Branch.part, next.Within levels := by
  rw [List.forall_mem_map, Node.ofTable?, List.forall_mem_map]
  exact fun body among => parts body (Option.mem_toList.mp among)

theorem partsWithin_columns {columns : List OutputColumn}
    (parts : ∀ column ∈ columns, PartWithin levels column.value) :
    ∀ next ∈ (Node.ofColumns columns).map Branch.part, next.Within levels := by
  rw [List.forall_mem_map, Node.ofColumns, List.forall_mem_map]
  exact parts

theorem partsWithin_sortKeys {keys : List SortKey}
    (parts : ∀ key ∈ keys, PartWithin levels key.key) :
    ∀ next ∈ (Node.ofSortKeys keys).map Branch.part, next.Within levels := by
  rw [List.forall_mem_map, Node.ofSortKeys, List.forall_mem_map]
  exact parts

theorem outputColumns_within (nests : inner.YieldNested levels) :
    Yields (outputColumns inner) fun columns =>
      ∀ column ∈ columns, PartWithin levels column.value := by
  have column : Yields (outputColumn inner) fun column => PartWithin levels column.value :=
    (nests.part 0).bind fun _ holds => Yields.bind optionalAlias_yields fun _ _ => Yields.pure holds
  exact column.separated.weaken fun _ list => list.2

/-- A table that is one side of a join takes a level where it is a query or a join itself. -/
theorem tableFactor_within (nests : inner.YieldNested levels) :
    Yields (tableFactor inner) fun table => Branch.Within ⟨.table table, .nested⟩ levels := by
  refine Yields.choice ?_ ?_
  · refine (Yields.atKeyword .SELECT).bind fun selects _ => ?_
    split
    · refine nests.query.bind fun query holds => ?_
      refine (Yields.expectSymbol .rightParen).bind fun _ _ => ?_
      refine Yields.bind optionalAlias_yields fun found named => ?_
      split
      · next aliasName => exact Yields.pure (holds.subquery aliasName .nested)
      · exact Yields.current.bind fun _ _ => Yields.fail
    · exact nests.tables.bind fun _ holds =>
        (Yields.expectSymbol .rightParen).bind fun _ _ => Yields.pure holds.nested
  · exact Yields.bind objectName_yields fun _ _ => Yields.bind optionalAlias_yields fun _ _ =>
      Yields.pure (.of_none rfl (List.forall_mem_nil _))

theorem joinCondition_within (nests : inner.YieldNested levels) (kind : JoinKind) :
    Yields (joinCondition inner kind) fun matched =>
      ∀ body ∈ matched.1, PartWithin levels body := by
  unfold joinCondition
  split
  · exact Yields.pure nofun
  · refine Yields.choice ?_ (Yields.choice ?_ Yields.unexpected)
    · refine (nests.part 0).bind fun condition holds => Yields.pure ?_
      rintro _ ⟨⟩
      exact holds
    · exact nameList_yields.parenthesized.bind fun _ _ => Yields.pure nofun

/-- What a join adds to the tables before it stays within some levels: its right side on a level of
its own, and its condition. -/
def JoinWithin (levels : Nat) (clause : JoinClause) : Prop :=
  Branch.Within ⟨.table clause.table, .nested⟩ levels ∧
    ∀ body ∈ clause.condition, PartWithin levels body

theorem nextJoin_within (nests : inner.YieldNested levels) :
    Yields (nextJoin inner) fun found => ∀ clause ∈ found, JoinWithin levels clause := by
  refine (Yields.look 0).bind fun token _ => ?_
  split
  · exact Yields.pureNone
  · next kind _ =>
      refine Yields.advance.bind fun first _ => (joinWords_yields _ kind).bind fun _ _ => ?_
      refine (tableFactor_within nests).bind fun table holds => ?_
      exact (joinCondition_within nests kind).bind fun _ matched =>
        Yields.pureSome ⟨holds, matched⟩

/-- However many joins follow a table, they stay on its level. -/
theorem tablesWithin_joins {clauses : List JoinClause}
    (joins : ∀ clause ∈ clauses, JoinWithin levels clause) {table : TableRef}
    (holds : TablesWithin levels table) : TablesWithin levels (clauses.foldl .join table) := by
  induction clauses generalizing table with
  | nil => exact holds
  | cons clause clauses inductionHypothesis =>
      rw [List.forall_mem_cons] at joins
      obtain ⟨⟨rightHolds, conditionHolds⟩, others⟩ := joins
      obtain ⟨kind, right, condition, columns⟩ := clause
      apply inductionHypothesis others
      exact .of_none rfl (List.forall_mem_cons.mpr ⟨holds, List.forall_mem_cons.mpr
        ⟨rightHolds, partsWithin_expression? conditionHolds⟩⟩)

theorem joinedTables_within (nests : inner.YieldNested levels) :
    Yields (joinedTables inner) (TablesWithin levels) :=
  (tableFactor_within nests).bind fun _ holds =>
    (Yields.collect (nextJoin_within nests)).bind fun _ joins =>
      Yields.pure (tablesWithin_joins joins holds.beside)

/-- However many tables are listed, they stay on the level of the list. -/
theorem listedWithin_foldl {others : List TableRef}
    (listed : ∀ table ∈ others, TablesWithin levels table) {first : TableRef}
    (holds : Branch.Within ⟨.table first, .listed⟩ levels) :
    Branch.Within ⟨.table (others.foldl
      (fun left table => .join left ⟨.cross, table, none, []⟩) first), .listed⟩ levels := by
  induction others generalizing first with
  | nil => exact holds
  | cons table others inductionHypothesis =>
      rw [List.forall_mem_cons] at listed
      apply inductionHypothesis listed.2
      exact .of_none rfl (List.forall_mem_cons.mpr ⟨holds, List.forall_mem_singleton.mpr listed.1⟩)

theorem tableList_within (nests : inner.YieldNested levels) :
    Yields (tableList inner) fun table => Branch.Within ⟨.table table, .listed⟩ levels := by
  refine (joinedTables_within nests).bind fun first holds => ?_
  refine (Yields.manyAfter (Yields.eat _) (joinedTables_within nests)).bind fun others listed => ?_
  exact Yields.pure (listedWithin_foldl listed (Branch.Within.listed holds))

theorem sortKey_within (nests : inner.YieldNested levels) :
    Yields (sortKey inner) fun key => PartWithin levels key.key :=
  (nests.part 0).bind fun _ holds => Yields.bind direction_yields fun _ _ =>
    (Yields.optionalAfter .NULLS nullPlacement_yields).bind fun _ _ => Yields.pure holds

theorem query_within (nests : inner.YieldNested levels) :
    Yields (query inner) fun query => (Node.select query).NestsWithin (levels + 1) := by
  have expression := nests.part 0
  refine (Yields.expectKeyword .SELECT).bind fun _ _ => Yields.bind distinctness_yields fun _ _ => ?_
  refine (outputColumns_within nests).bind fun columns columnsHold => ?_
  refine (Yields.optionalAfter .FROM (tableList_within nests)).bind fun source sourceHolds => ?_
  refine (Yields.optionalAfter .WHERE expression).bind fun filter filterHolds => ?_
  refine (listBy_yields .GROUP expression).bind fun groupBy groupByHolds => ?_
  refine (Yields.optionalAfter .HAVING expression).bind fun having havingHolds => ?_
  refine (listBy_yields .ORDER (sortKey_within nests)).bind fun orderBy orderByHolds => ?_
  refine (Yields.optionalAfter .LIMIT expression).bind fun limit limitHolds => ?_
  refine (Yields.optionalAfter .OFFSET expression).bind fun offset offsetHolds => ?_
  refine Yields.bind noSetOperation_yields fun _ _ => Yields.pure (.of_within (.of_none rfl ?_))
  change ∀ next ∈ (_ ++ _ ++ _ ++ _ ++ _ ++ _ ++ _ ++ _ : List Node).map Branch.part,
    Branch.Within next levels
  simp only [List.map_append, List.forall_mem_append]
  exact ⟨⟨⟨⟨⟨⟨⟨partsWithin_columns columnsHold, partsWithin_tables? sourceHolds⟩,
    partsWithin_expression? filterHolds⟩, partsWithin_expressions groupByHolds⟩,
    partsWithin_expression? havingHolds⟩, partsWithin_sortKeys orderByHolds⟩,
    partsWithin_expression? limitHolds⟩, partsWithin_expression? offsetHolds⟩

/-- The rules for a text that may nest so many levels deeper make trees that take one of them. -/
theorem rules_yieldNested (levels : Nat) : (rules levels).YieldNested levels := by
  induction levels with
  | zero =>
      have tooDeep {α : Type} {sort : α → Prop} : Yields rules.tooDeep sort :=
        Yields.current.bind fun _ _ => Yields.fail
      exact ⟨fun _ => tooDeep, tooDeep, tooDeep⟩
  | succ levels inductionHypothesis =>
      refine ⟨fun power => ?_, query_within inductionHypothesis, ?_⟩
      · exact (operators_within inductionHypothesis power).weaken fun _ within => .of_within within
      · exact (joinedTables_within inductionHypothesis).weaken fun _ within => .of_within within

end Queries

end SqlTree.Grammar
