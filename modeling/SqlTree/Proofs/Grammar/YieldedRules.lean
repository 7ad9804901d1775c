import SqlTree.Proofs.Grammar.Alternatives
import SqlTree.Proofs.Grammar.Yielding
import SqlTree.Proofs.Tree.WellFormed

/-!
# Well-formed names, expressions and queries

Every rule of the grammar makes well-formed trees of the tokens of a text. The rules that nest do so
level by level: what is well formed inside stays so in what is made of it.
-/

namespace SqlTree.Grammar

open SqlTree.Parser

section Names

theorem nameOfParts_yields {parts : List String} (named : ∀ part ∈ parts, part ≠ "") (span : Span) :
    Yields (nameOfParts parts span) ObjectName.WellFormed := by
  unfold nameOfParts
  split
  · exact Yields.pure ⟨named _ List.mem_cons_self, nofun⟩
  · next schema name =>
      refine Yields.pure ⟨named _ (List.mem_cons_of_mem _ List.mem_cons_self), ?_⟩
      rintro _ ⟨⟩
      exact named _ List.mem_cons_self
  · exact Yields.fail

theorem objectName_yields : Yields objectName ObjectName.WellFormed := by
  refine Yields.expectName.bind fun first named => Yields.choice ?_ (Yields.pure ⟨named, nofun⟩)
  refine Yields.expectName.bind fun second namedToo => Yields.pure ⟨namedToo, ?_⟩
  rintro _ ⟨⟩
  exact named

theorem nameList_yields : Yields nameList fun names => names ≠ [] ∧ ∀ name ∈ names, name ≠ "" :=
  Yields.expectName.separated

theorem optionalAlias_yields :
    Yields optionalAlias fun aliasName => ∀ name ∈ aliasName, name ≠ "" := by
  have name : Yields (do return some (← expectName)) fun found => ∀ name ∈ found, name ≠ "" :=
    Yields.expectName.bind fun _ named => Yields.pureSome named
  refine Yields.choice name ((Yields.look 0).bind fun kind _ => ?_)
  split
  · exact name
  · exact Yields.pureNone

theorem ifExists_yields : Yields ifExists fun _ => True := by
  refine (Yields.look 0).bind fun _ _ => (Yields.look 1).bind fun _ _ => ?_
  split
  · exact (Yields.expectKeyword .IF).bind fun _ _ => (Yields.expectKeyword .EXISTS).bind fun _ _ =>
      Yields.pure trivial
  · exact Yields.pure trivial

theorem ifNotExists_yields : Yields ifNotExists fun _ => True := by
  refine (Yields.look 0).bind fun _ _ => (Yields.look 1).bind fun _ _ => ?_
  split
  · exact (Yields.expectKeyword .IF).bind fun _ _ => (Yields.expectKeyword .NOT).bind fun _ _ =>
      (Yields.expectKeyword .EXISTS).bind fun _ _ => Yields.pure trivial
  · exact Yields.pure trivial

theorem typeWord_yields : Yields typeWord (· ≠ "") := by
  refine Yields.of_choice TokenKind.name? .dataType
    (fun _ _ lexical named => lexical.name_ne_empty named) fun cursor => ?_
  unfold typeWord
  cases cursor.current.kind.name? <;> rfl

theorem typeName_yields : Yields typeName (· ≠ "") := by
  refine Yields.bind typeWord_yields fun word named => ?_
  have varying : Yields (if word = "character" ∨ word = "char" then do
      if ← eatName "varying" then return "character varying" else return word
      else return word) (· ≠ "") := by
    split
    · exact Yields.choice (Yields.pure (by decide)) (Yields.pure named)
    · exact Yields.pure named
  dsimp only
  split
  · exact Yields.choice (Yields.pure (by decide)) varying
  · exact varying

theorem plainInteger_yields : Yields plainInteger fun value => 0 ≤ value.toInt := by
  refine Yields.of_choice plainInteger? .integer (fun kind value lexical chosen => ?_) fun cursor => ?_
  · cases kind with
    | integer =>
        cases chosen
        exact lexical
    | _ => cases chosen
  · unfold plainInteger plainInteger?
    cases cursor.current.kind <;> rfl

theorem typeModifiers_yields :
    Yields typeModifiers fun modifiers => ∀ modifier ∈ modifiers, 0 ≤ modifier.toInt :=
  Yields.choice
    (plainInteger_yields.separated.bind fun _ each => (Yields.expectSymbol .rightParen).bind fun _ _ =>
      Yields.pure each.2)
    (Yields.pure nofun)

theorem timeZoneMark_yields :
    Yields timeZoneMark fun zone => zone ∈ ["", " with time zone", " without time zone"] := by
  refine (Yields.look 1).bind fun _ _ => (Yields.look 2).bind fun _ _ => ?_
  split
  · refine (Yields.look 0).bind fun mark _ => ?_
    split
    · refine Yields.advance.bind fun _ _ => Yields.advance.bind fun _ _ =>
        Yields.advance.bind fun _ _ => Yields.pure ?_
      split <;> decide
    · exact Yields.pure (by decide)
  · exact Yields.pure (by decide)

theorem arrayMark_yields : Yields arrayMark fun found => ∀ mark ∈ found, mark = "[]" := by
  refine (Yields.look 0).bind fun _ _ => (Yields.look 1).bind fun _ _ => ?_
  split
  · exact Yields.advance.bind fun _ _ => Yields.advance.bind fun _ _ => Yields.pureSome rfl
  · exact Yields.pureNone

theorem dataType_yields : Yields dataType DataType.WellFormed := by
  refine Yields.bind typeName_yields fun name named => Yields.bind typeModifiers_yields fun modifiers _ => ?_
  have zoned (zone : String) (_ : True) : Yields (do
      let brackets ← collect arrayMark
      return (⟨name ++ zone ++ String.join brackets, modifiers⟩ : DataType))
      DataType.WellFormed := by
    refine arrayMark_yields.collect.bind fun brackets _ => Yields.pure ?_
    intro empty
    exact named (String.append_eq_empty_iff.mp (String.append_eq_empty_iff.mp empty).1).1
  dsimp only
  split
  · exact timeZoneMark_yields.bind fun zone _ => zoned zone trivial
  · exact (Yields.pure trivial).bind zoned

end Names

/-- The rules that nest make well-formed trees. -/
structure Rules.YieldWellFormed (inner : Rules) : Prop where
  expression : ∀ power, Yields (inner.expression power) fun expression =>
    AllWellFormed expression.nodes
  query : Yields inner.query fun query => AllWellFormed query.nodes
  tables : Yields inner.tables fun table => AllWellFormed table.nodes

section Expressions

variable {inner : Rules}

theorem expressionList_yields (wellFormed : inner.YieldWellFormed) :
    Yields (expressionList inner) fun list => list ≠ [] ∧
      ∀ expression ∈ list, AllWellFormed expression.nodes :=
  (wellFormed.expression 0).separated

theorem parenthesizedExpression_yields (wellFormed : inner.YieldWellFormed) :
    Yields (parenthesizedExpression inner) fun expression => AllWellFormed expression.nodes := by
  refine Yields.parenthesized ((Yields.atKeyword .SELECT).bind fun selects _ => ?_)
  split
  · refine wellFormed.query.bind fun query holds => Yields.pure ?_
    simpa [Expr.nodes, Node.WellFormed] using holds
  · exact wellFormed.expression 0

theorem existsTest_yields (wellFormed : inner.YieldWellFormed) :
    Yields (existsTest inner) fun expression => AllWellFormed expression.nodes := by
  refine (Yields.expectKeyword .EXISTS).bind fun _ _ => ?_
  refine wellFormed.query.parenthesized.bind fun query holds => Yields.pure ?_
  have named : (ObjectName.plain "exists").WellFormed := ⟨by decide, nofun⟩
  simpa [Expr.nodes, Node.WellFormed, named] using holds

theorem star_allWellFormed : AllWellFormed Expr.star.nodes := by
  simp [Expr.star, Expr.column, Expr.nodes, Node.WellFormed]

theorem callArguments_yields (wellFormed : inner.YieldWellFormed) (distinct : Bool) :
    Yields (callArguments inner distinct) fun arguments =>
      ∀ expression ∈ arguments, AllWellFormed expression.nodes := by
  refine (Yields.atSymbol .rightParen).bind fun closes _ => ?_
  split
  · exact Yields.pure (List.forall_mem_nil _)
  · refine (Yields.atSymbol .star).bind fun starred _ => ?_
    split
    · refine Yields.advance.bind fun _ _ => Yields.pure ?_
      exact List.forall_mem_singleton.mpr star_allWellFormed
    · exact (expressionList_yields wellFormed).weaken fun _ list => list.2

theorem functionCall_yields (wellFormed : inner.YieldWellFormed) {function : ObjectName}
    (named : function.WellFormed) :
    Yields (functionCall inner function) fun expression => AllWellFormed expression.nodes := by
  refine Yields.parenthesized ((Yields.eat _).bind fun distinct _ => ?_)
  refine (callArguments_yields wellFormed distinct).bind fun arguments holds => Yields.pure ?_
  simpa [Expr.nodes, Node.WellFormed, named] using holds

theorem eatInnerDot_yields : Yields eatInnerDot fun _ => True := by
  refine (Yields.look 0).bind fun _ _ => (Yields.look 1).bind fun _ _ => ?_
  split
  · exact Yields.eat _
  · exact Yields.pure trivial

/-- A reference is well formed, if its table and its column are named. -/
theorem reference_allWellFormed {table : Option ObjectName} {column : String}
    (tables : ∀ name ∈ table, name.WellFormed) (named : column ≠ "") :
    AllWellFormed (Expr.reference table column).nodes := by
  simp only [Expr.nodes, AllWellFormed.cons, AllWellFormed.nil, Node.WellFormed]
  exact ⟨trivial, ⟨tables, named⟩, trivial⟩

theorem nameExpression_yields (wellFormed : inner.YieldWellFormed) :
    Yields (nameExpression inner) fun expression => AllWellFormed expression.nodes := by
  refine Yields.current.bind fun start _ => Yields.expectName.bind fun first firstNamed => ?_
  refine (Yields.manyAfter eatInnerDot_yields Yields.expectName).bind fun others othersNamed => ?_
  have named : ∀ part ∈ first :: others, part ≠ "" :=
    List.forall_mem_cons.mpr ⟨firstNamed, othersNamed⟩
  have qualified (column : String) (columnNamed : column ≠ "") (table : ObjectName)
      (holds : table.WellFormed) : Yields (pure (Expr.reference (some table) column))
        fun expression => AllWellFormed expression.nodes := by
    apply Yields.pure
    apply reference_allWellFormed _ columnNamed
    rintro _ ⟨⟩
    exact holds
  refine Yields.choice ?_ (Yields.previousSpan.bind fun stop _ => ?_)
  · refine (Yields.expectSymbol .star).bind fun _ _ => Yields.previousSpan.bind fun stop _ => ?_
    exact (nameOfParts_yields named _).bind (qualified "*" (by decide))
  · refine (Yields.atSymbol .leftParen).bind fun called _ => ?_
    split
    · exact (nameOfParts_yields named _).bind fun _ holds => functionCall_yields wellFormed holds
    · split
      · next column single =>
          have columnNamed : column ≠ "" := named column (single ▸ List.mem_cons_self)
          exact Yields.pure (reference_allWellFormed nofun columnNamed)
      · have dropped : ∀ part ∈ (first :: others).dropLast, part ≠ "" := fun part among =>
          named part ((List.dropLast_sublist _).subset among)
        have last : (first :: others).getLastD first ≠ "" := by
          rw [List.getLastD_eq_getLast?, List.getLast?_eq_some_getLast (List.cons_ne_nil _ _)]
          exact named _ (List.getLast_mem _)
        exact (nameOfParts_yields dropped _).bind (qualified _ last)

theorem castExpression_yields (wellFormed : inner.YieldWellFormed) :
    Yields (castExpression inner) fun expression => AllWellFormed expression.nodes := by
  refine (Yields.expectKeyword .CAST).bind fun _ _ => Yields.parenthesized ?_
  refine (wellFormed.expression 0).bind fun operand holds => ?_
  refine (Yields.expectKeyword .AS).bind fun _ _ => Yields.bind dataType_yields fun target named => ?_
  apply Yields.pure
  simpa [Expr.nodes, Node.WellFormed, named] using holds

theorem caseArm_yields (wellFormed : inner.YieldWellFormed) :
    Yields (caseArm inner) fun arm => AllWellFormed arm.nodes := by
  refine (wellFormed.expression 0).bind fun condition holds => ?_
  refine (Yields.expectKeyword .THEN).bind fun _ _ => ?_
  refine (wellFormed.expression 0).bind fun result holdsToo => Yields.pure ?_
  simpa [CaseArm.nodes] using ⟨holds, holdsToo⟩

theorem caseEnd_yields (wellFormed : inner.YieldWellFormed) {subject : Option Expr}
    {arms : List CaseArm} (subjectHolds : ∀ expression ∈ subject, AllWellFormed expression.nodes)
    (armsHold : ∀ arm ∈ arms, AllWellFormed arm.nodes) (nonempty : arms ≠ []) :
    Yields (caseEnd inner subject arms) fun expression => AllWellFormed expression.nodes := by
  refine (Yields.optionalAfter .ELSE (wellFormed.expression 0)).bind fun otherwise holds => ?_
  refine (Yields.expectKeyword .END).bind fun _ _ => Yields.pure ?_
  simp only [Expr.nodes, AllWellFormed.cons, AllWellFormed.append, Node.WellFormed,
    allWellFormed_expressionNodes?, allWellFormed_armNodes]
  exact ⟨trivial, nonempty, ⟨subjectHolds, armsHold⟩, holds⟩

theorem caseBehind_yields (wellFormed : inner.YieldWellFormed) (subject : Option Expr)
    (subjectHolds : ∀ expression ∈ subject, AllWellFormed expression.nodes) :
    Yields (caseBehind inner subject) fun expression => AllWellFormed expression.nodes := by
  refine (Yields.manyAfter (Yields.eat _) (caseArm_yields wellFormed)).bind fun arms holds => ?_
  dsimp only
  split
  · exact Yields.unexpected_bind
  · next nonempty =>
      exact caseEnd_yields wellFormed subjectHolds holds (mt List.isEmpty_iff.mpr nonempty)

theorem caseExpression_yields (wellFormed : inner.YieldWellFormed) :
    Yields (caseExpression inner) fun expression => AllWellFormed expression.nodes := by
  rw [caseExpression_eq]
  refine (Yields.expectKeyword .CASE).bind fun _ _ => ?_
  refine (Yields.atKeyword .WHEN).bind fun direct _ => ?_
  cases direct with
  | true => exact Yields.pureNone.bind (caseBehind_yields wellFormed)
  | false =>
      have compared : Yields (some <$> inner.expression 0) fun subject =>
          ∀ expression ∈ subject, AllWellFormed expression.nodes := by
        rw [map_eq_pure_bind]
        exact (wellFormed.expression 0).bind fun _ holds => Yields.pureSome holds
      exact compared.bind (caseBehind_yields wellFormed)

/-- A literal that a text can be read as has no sign. -/
theorem literal_wellFormed {kind : TokenKind} {value : Literal} (lexical : kind.IsLexical)
    (literal : literalOf? kind = some value) : value.WellFormed := by
  cases kind with
  | integer written =>
      cases literal
      exact lexical
  | keyword word =>
      cases word <;> cases literal <;> trivial
  | numeric written =>
      cases literal
      trivial
  | string written =>
      cases literal
      trivial
  | _ => cases literal

theorem primary_yields (wellFormed : inner.YieldWellFormed) :
    Yields (primary inner) fun expression => AllWellFormed expression.nodes := by
  rw [primary_eq]
  refine (Yields.look 0).bind fun kind lexical => ?_
  refine primaryBy_cases (fun parser => Yields parser fun expression =>
      AllWellFormed expression.nodes) kind (fun value literal => ?_) (fun number _ => ?_)
    (fun _ => ?_) (parenthesizedExpression_yields wellFormed)
    (caseExpression_yields wellFormed) (castExpression_yields wellFormed) (fun _ => ?_)
    (nameExpression_yields wellFormed) Yields.unexpected
  · refine Yields.advance.bind fun _ _ => Yields.pure ?_
    have holds : value.WellFormed := literal_wellFormed lexical literal
    simpa [Expr.nodes, Node.WellFormed] using holds
  · refine Yields.advance.bind fun _ _ => Yields.pure ?_
    simp only [Expr.nodes, AllWellFormed.cons, AllWellFormed.nil, Node.WellFormed]
    exact ⟨trivial, ⟨number, rfl⟩, trivial⟩
  · exact Yields.advance.bind fun _ _ => Yields.pure star_allWellFormed
  · refine (Yields.look 1).bind fun _ _ => ?_
    split
    · exact existsTest_yields wellFormed
    · exact nameExpression_yields wellFormed

theorem operand_yields (wellFormed : inner.YieldWellFormed) :
    Yields (operand inner) fun expression => AllWellFormed expression.nodes := by
  refine (Yields.look 0).bind fun kind _ => ?_
  split
  · refine Yields.advance.bind fun _ _ => (wellFormed.expression _).bind fun operand holds => ?_
    apply Yields.pure
    simpa [Expr.nodes, Node.WellFormed] using holds
  · exact primary_yields wellFormed

/-- A suffix makes a well-formed expression of a well-formed operand. -/
def Suffix.Keeps (suffix : Suffix) : Prop :=
  ∀ operand : Expr, AllWellFormed operand.nodes → AllWellFormed (suffix.applyTo operand).nodes

theorem Suffix.keeps_unary (operator : UnaryOperator) : (Suffix.unary operator).Keeps := by
  intro operand holds
  simpa [Suffix.applyTo, Expr.nodes, Node.WellFormed] using holds

theorem Suffix.keeps_cast {target : DataType} (named : target.WellFormed) :
    (Suffix.cast target).Keeps := by
  intro operand holds
  simpa [Suffix.applyTo, Expr.nodes, Node.WellFormed, named] using holds

theorem Suffix.keeps_binary (operator : BinaryOperator) {right : Expr}
    (rightHolds : AllWellFormed right.nodes) : (Suffix.binary operator right).Keeps := by
  intro operand holds
  simpa [Suffix.applyTo, Expr.nodes, Node.WellFormed, rightHolds] using holds

theorem Suffix.keeps_ternary (operator : TernaryOperator) {low high : Expr}
    (lowHolds : AllWellFormed low.nodes) (highHolds : AllWellFormed high.nodes) :
    (Suffix.ternary operator low high).Keeps := by
  intro operand holds
  simpa [Suffix.applyTo, Expr.nodes, Node.WellFormed, lowHolds, highHolds] using holds

theorem Suffix.keeps_inList {list : List Expr} (negated : Bool) (nonempty : list ≠ [])
    (listHolds : ∀ expression ∈ list, AllWellFormed expression.nodes) :
    (Suffix.inList list negated).Keeps := by
  intro operand holds
  simpa [Suffix.applyTo, Expr.nodes, Node.WellFormed, nonempty] using ⟨holds, listHolds⟩

theorem truthSuffix_yields : Yields truthSuffix Suffix.Keeps := by
  refine (Yields.eat _).bind fun negated _ => (Yields.look 0).bind fun kind _ => ?_
  split
  · exact Yields.advance.bind fun _ _ => Yields.pure (Suffix.keeps_unary _)
  · exact Yields.unexpected

theorem listSuffix_yields (wellFormed : inner.YieldWellFormed) (negated : Bool) :
    Yields (listSuffix inner negated) Suffix.Keeps := by
  refine Yields.parenthesized ((Yields.atKeyword .SELECT).bind fun selects _ => ?_)
  split
  · refine wellFormed.query.bind fun query holds => Yields.pure ?_
    apply Suffix.keeps_inList negated (List.cons_ne_nil _ _)
    rw [List.forall_mem_singleton]
    simpa [Expr.nodes, Node.WellFormed] using holds
  · exact (expressionList_yields wellFormed).bind fun list holds =>
      Yields.pure (Suffix.keeps_inList negated holds.1 holds.2)

theorem rangeSuffix_yields (wellFormed : inner.YieldWellFormed) (power : Nat) (negated : Bool) :
    Yields (rangeSuffix inner power negated) Suffix.Keeps :=
  (wellFormed.expression power).bind fun _ lowHolds => (Yields.expectKeyword .AND).bind fun _ _ =>
    (wellFormed.expression power).bind fun _ highHolds =>
      Yields.pure (Suffix.keeps_ternary _ lowHolds highHolds)

theorem suffix_yields (wellFormed : inner.YieldWellFormed) (power : Nat) :
    Yields (suffix inner power) Suffix.Keeps := by
  have behind (negated : Prop) [Decidable negated] (token : Token) (_ : token.kind.IsLexical) :
      Yields (suffixBehind inner power negated token) Suffix.Keeps := by
    unfold suffixBehind
    split
    · exact truthSuffix_yields
    · exact Yields.bind dataType_yields fun _ named => Yields.pure (Suffix.keeps_cast named)
    · exact rangeSuffix_yields wellFormed power negated
    · exact listSuffix_yields wellFormed negated
    · exact (wellFormed.expression power).bind fun _ holds =>
        Yields.pure (Suffix.keeps_binary _ holds)
    · exact (wellFormed.expression power).bind fun _ holds =>
        Yields.pure (Suffix.keeps_binary _ holds)
    · split
      · exact (wellFormed.expression power).bind fun _ holds =>
          Yields.pure (Suffix.keeps_binary _ holds)
      · exact Yields.fail
  rw [suffix_eq]
  refine Yields.advance.bind fun first lexical => ?_
  dsimp only
  split
  · exact Yields.advance.bind (behind _)
  · have token : Yields (pure first) fun token => token.kind.IsLexical := Yields.pure lexical
    exact token.bind (behind _)

theorem nextSuffix_yields (wellFormed : inner.YieldWellFormed) (power : Nat) :
    Yields (nextSuffix inner power) fun found => ∀ suffix ∈ found, suffix.Keeps := by
  refine (Yields.look 0).bind fun _ _ => (Yields.look 1).bind fun _ _ => ?_
  split
  · exact Yields.pureNone
  · split
    · exact (suffix_yields wellFormed _).bind fun _ keeps => Yields.pureSome keeps
    · exact Yields.pureNone

/-- Suffixes one after the other make a well-formed expression of a well-formed operand. -/
theorem allWellFormed_foldl {suffixes : List Suffix} (keeps : ∀ suffix ∈ suffixes, suffix.Keeps)
    {operand : Expr} (holds : AllWellFormed operand.nodes) :
    AllWellFormed (suffixes.foldl (fun left suffix => suffix.applyTo left) operand).nodes := by
  induction suffixes generalizing operand with
  | nil => exact holds
  | cons suffix suffixes inductionHypothesis =>
      rw [List.forall_mem_cons] at keeps
      exact inductionHypothesis keeps.2 (keeps.1 operand holds)

theorem operators_yields (wellFormed : inner.YieldWellFormed) (power : Nat) :
    Yields (operators inner power) fun expression => AllWellFormed expression.nodes :=
  (operand_yields wellFormed).bind fun _ holds =>
    (Yields.collect (nextSuffix_yields wellFormed power)).bind fun _ keeps =>
      Yields.pure (allWellFormed_foldl keeps holds)

end Expressions

section Queries

variable {inner : Rules}

/-- Returned columns are well formed, each with what lies below it, and none has an empty alias. -/
def ColumnsWellFormed (columns : List OutputColumn) : Prop :=
  aliasesWellFormed columns ∧ ∀ column ∈ columns, AllWellFormed column.nodes

theorem outputColumns_yields (wellFormed : inner.YieldWellFormed) :
    Yields (outputColumns inner) fun columns => columns ≠ [] ∧ ColumnsWellFormed columns := by
  have column : Yields (outputColumn inner) fun column =>
      (∀ aliasName ∈ column.aliasName, aliasName ≠ "") ∧ AllWellFormed column.nodes :=
    (wellFormed.expression 0).bind fun _ holds => Yields.bind optionalAlias_yields fun _ named =>
      Yields.pure ⟨named, by simpa [OutputColumn.nodes] using holds⟩
  refine column.separated.weaken fun columns holds => ⟨holds.1, ?_, ?_⟩
  · exact fun column among => (holds.2 column among).1
  · exact fun column among => (holds.2 column among).2

theorem joinWords_yields (first : TokenKind) (kind : JoinKind) :
    Yields (joinWords first kind) fun _ => True := by
  unfold joinWords
  split
  · dsimp only
    split
    · exact (Yields.eat _).bind fun _ _ => Yields.expectKeyword .JOIN
    · exact Yields.expectKeyword .JOIN
  · exact Yields.pure trivial

theorem tableFactor_yields (wellFormed : inner.YieldWellFormed) :
    Yields (tableFactor inner) fun table => AllWellFormed table.nodes := by
  refine Yields.choice ?_ ?_
  · refine (Yields.atKeyword .SELECT).bind fun selects _ => ?_
    split
    · refine wellFormed.query.bind fun query holds => ?_
      refine (Yields.expectSymbol .rightParen).bind fun _ _ => ?_
      refine Yields.bind optionalAlias_yields fun found named => ?_
      split
      · next aliasName =>
          apply Yields.pure
          have nonempty : aliasName ≠ "" := named aliasName rfl
          simpa [TableRef.nodes, Node.WellFormed, TableRef.WellFormed, nonempty] using holds
      · exact Yields.current.bind fun _ _ => Yields.fail
    · exact wellFormed.tables.bind fun tables holds =>
        (Yields.expectSymbol .rightParen).bind fun _ _ => Yields.pure holds
  · refine Yields.bind objectName_yields fun name holds => ?_
    refine Yields.bind optionalAlias_yields fun aliasName named => ?_
    apply Yields.pure
    simp only [TableRef.nodes, AllWellFormed.cons, AllWellFormed.nil, Node.WellFormed,
      TableRef.WellFormed]
    exact ⟨⟨holds, named⟩, trivial⟩

/-- What a join is matched by is well formed, and there is just as much of it as the kind of the
join asks for. -/
theorem joinCondition_yields (wellFormed : inner.YieldWellFormed) (kind : JoinKind)
    (table : TableRef) : Yields (joinCondition inner kind) fun matched =>
      (JoinClause.mk kind table matched.1 matched.2).WellFormed ∧
        ∀ expression ∈ matched.1, AllWellFormed expression.nodes := by
  unfold joinCondition
  split
  · next cross =>
      refine Yields.pure ⟨?_, nofun⟩
      exact ⟨fun _ => ⟨rfl, rfl⟩, fun other => absurd cross other, nofun⟩
  · next other =>
      refine Yields.choice ?_ (Yields.choice ?_ Yields.unexpected)
      · refine (wellFormed.expression 0).bind fun condition holds => Yields.pure ⟨?_, ?_⟩
        · exact ⟨fun cross => absurd cross other, fun _ => .inl ⟨rfl, rfl⟩, nofun⟩
        · rintro _ ⟨⟩
          exact holds
      · refine nameList_yields.parenthesized.bind fun columns list => Yields.pure ⟨?_, nofun⟩
        exact ⟨fun cross => absurd cross other, fun _ => .inr ⟨rfl, list.1⟩, list.2⟩

theorem nextJoin_yields (wellFormed : inner.YieldWellFormed) :
    Yields (nextJoin inner) fun found =>
      ∀ clause ∈ found, clause.WellFormed ∧ AllWellFormed clause.nodes := by
  refine (Yields.look 0).bind fun token _ => ?_
  split
  · exact Yields.pureNone
  · next kind _ =>
      refine Yields.advance.bind fun first _ => (joinWords_yields _ kind).bind fun _ _ => ?_
      refine (tableFactor_yields wellFormed).bind fun table holds => ?_
      refine (joinCondition_yields wellFormed kind table).bind fun matched matchedHolds => ?_
      apply Yields.pureSome
      simpa [JoinClause.nodes, holds] using matchedHolds

/-- Well-formed joins behind a well-formed table make a well-formed table. -/
theorem allWellFormed_joins {clauses : List JoinClause}
    (joins : ∀ clause ∈ clauses, clause.WellFormed ∧ AllWellFormed clause.nodes) {table : TableRef}
    (holds : AllWellFormed table.nodes) : AllWellFormed (clauses.foldl .join table).nodes := by
  induction clauses generalizing table with
  | nil => exact holds
  | cons clause clauses inductionHypothesis =>
      rw [List.forall_mem_cons] at joins
      apply inductionHypothesis joins.2
      simpa [TableRef.nodes, Node.WellFormed, TableRef.WellFormed, holds] using joins.1

theorem joinedTables_yields (wellFormed : inner.YieldWellFormed) :
    Yields (joinedTables inner) fun table => AllWellFormed table.nodes :=
  (tableFactor_yields wellFormed).bind fun _ holds =>
    (Yields.collect (nextJoin_yields wellFormed)).bind fun _ joins =>
      Yields.pure (allWellFormed_joins joins holds)

/-- Tables in a list are crossed, which asks for nothing that matches them. -/
theorem tableList_yields (wellFormed : inner.YieldWellFormed) :
    Yields (tableList inner) fun table => AllWellFormed table.nodes := by
  refine (joinedTables_yields wellFormed).bind fun first holds => ?_
  have more := Yields.manyAfter (Yields.eat (.symbol .comma)) (joinedTables_yields wellFormed)
  refine more.bind fun others listed => ?_
  apply Yields.pure
  rw [← List.foldl_map (f := fun table => JoinClause.mk .cross table none []) (g := TableRef.join)]
  apply allWellFormed_joins _ holds
  intro clause among
  obtain ⟨table, listedToo, rfl⟩ := List.mem_map.mp among
  refine ⟨⟨fun _ => ⟨rfl, rfl⟩, fun other => absurd rfl other, nofun⟩, ?_⟩
  simpa [JoinClause.nodes] using listed table listedToo

theorem direction_yields : Yields direction fun _ => True :=
  Yields.choice (Yields.pure trivial) ((Yields.eat _).bind fun _ _ => Yields.pure trivial)

theorem nullPlacement_yields : Yields nullPlacement fun _ => True :=
  Yields.choice (Yields.pure trivial)
    ((Yields.expectKeyword .LAST).bind fun _ _ => Yields.pure trivial)

theorem sortKey_yields (wellFormed : inner.YieldWellFormed) :
    Yields (sortKey inner) fun key => AllWellFormed key.nodes := by
  refine (wellFormed.expression 0).bind fun key holds => Yields.bind direction_yields fun _ _ => ?_
  refine (Yields.optionalAfter .NULLS nullPlacement_yields).bind fun _ _ => Yields.pure ?_
  simpa [SortKey.nodes] using holds

theorem listBy_yields {α : Type} (word : Keyword) {item : Parser α} {sort : α → Prop}
    (each : Yields item sort) :
    Yields (listBy word item) fun values => ∀ value ∈ values, sort value :=
  Yields.choice
    ((Yields.expectKeyword .BY).bind fun _ _ => each.separated.weaken fun _ list => list.2)
    (Yields.pure (List.forall_mem_nil _))

theorem distinctness_yields : Yields distinctness fun _ => True :=
  Yields.choice (Yields.pure trivial) ((Yields.eat _).bind fun _ _ => Yields.pure trivial)

theorem noSetOperation_yields : Yields noSetOperation fun _ => True := by
  refine Yields.current.bind fun token _ => ?_
  split
  · exact Yields.fail
  · exact Yields.fail
  · exact Yields.fail
  · exact Yields.pure trivial

theorem query_yields (wellFormed : inner.YieldWellFormed) :
    Yields (query inner) fun query => AllWellFormed query.nodes := by
  have expression := wellFormed.expression 0
  refine (Yields.expectKeyword .SELECT).bind fun _ _ => Yields.bind distinctness_yields fun _ _ => ?_
  refine (outputColumns_yields wellFormed).bind fun columns ⟨nonempty, aliases, columnsHold⟩ => ?_
  have tables := tableList_yields wellFormed
  refine (Yields.optionalAfter .FROM tables).bind fun source sourceHolds => ?_
  refine (Yields.optionalAfter .WHERE expression).bind fun filter filterHolds => ?_
  refine (listBy_yields .GROUP expression).bind fun groupBy groupByHolds => ?_
  refine (Yields.optionalAfter .HAVING expression).bind fun having havingHolds => ?_
  refine (listBy_yields .ORDER (sortKey_yields wellFormed)).bind fun orderBy orderByHolds => ?_
  refine (Yields.optionalAfter .LIMIT expression).bind fun limit limitHolds => ?_
  refine (Yields.optionalAfter .OFFSET expression).bind fun offset offsetHolds => ?_
  refine Yields.bind noSetOperation_yields fun _ _ => Yields.pure ?_
  simp only [Select.nodes, AllWellFormed.cons, AllWellFormed.append, Node.WellFormed,
    allWellFormed_columnNodes, allWellFormed_tableNodes?, allWellFormed_expressionNodes?,
    allWellFormed_expressionNodes, allWellFormed_sortKeyNodes]
  exact ⟨⟨nonempty, aliases⟩, ⟨⟨⟨⟨⟨⟨columnsHold, sourceHolds⟩, filterHolds⟩, groupByHolds⟩,
    havingHolds⟩, orderByHolds⟩, limitHolds⟩, offsetHolds⟩

/-- The rules that nest make well-formed trees on every level. -/
theorem rules_yieldWellFormed (levels : Nat) : (rules levels).YieldWellFormed := by
  induction levels with
  | zero =>
      have tooDeep {α : Type} {sort : α → Prop} : Yields rules.tooDeep sort :=
        Yields.current.bind fun _ _ => Yields.fail
      exact ⟨fun _ => tooDeep, tooDeep, tooDeep⟩
  | succ levels inductionHypothesis =>
      exact ⟨operators_yields inductionHypothesis, query_yields inductionHypothesis,
        joinedTables_yields inductionHypothesis⟩

end Queries

end SqlTree.Grammar
