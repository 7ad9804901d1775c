import SqlTree.Proofs.Routine.Lists

/-!
# The rules of expressions and queries, written out

Every rule of the grammar can be written out by its parts, and what stands behind the name of a rule
that nests calls the others by their names.
-/

namespace SqlTree.Grammar

open SqlTree.Parser

variable {given : Rules → Prop} {known : Prop}

section Names

theorem nameOfParts_written (parts : List String) {place : List Span → Span}
    (isPlace : IsPlace place) :
    Written given known fun _ spans => nameOfParts parts (place spans) := by
  rcases parts with _ | ⟨first, _ | ⟨second, _ | ⟨third, more⟩⟩⟩
  · exact Written.fail _ isPlace nofun
  · exact Written.pure _
  · exact Written.pure _
  · exact Written.fail _ isPlace nofun

theorem objectName_written : Written given known fun _ _ => objectName :=
  Written.expectName.bind fun _ =>
    Written.choice (Written.expectName.bind fun _ => Written.pure _) (Written.pure _)

theorem nameList_written : Written given known fun _ _ => nameList :=
  Written.expectName.separated fun _ _ _ => Taking.expectName.steady

theorem optionalAlias_written : Written given known fun _ _ => optionalAlias := by
  have name : Written given known fun _ _ => (do return some (← expectName) : Parser (Option String)) :=
    Written.expectName.bind fun _ => Written.pure _
  refine Written.choice name ((Written.look 0).bind fun kind => ?_)
  cases kind with
  | identifier _ => exact name
  | _ => exact Written.pure none

theorem ifExists_written : Written given known fun _ _ => ifExists :=
  (Written.look 0).bind fun _ => (Written.look 1).bind fun _ =>
    Written.ite (fun _ => (Written.expectKeyword .IF).bind fun _ =>
      (Written.expectKeyword .EXISTS).bind fun _ => Written.pure true) fun _ => Written.pure false

theorem ifNotExists_written : Written given known fun _ _ => ifNotExists :=
  (Written.look 0).bind fun _ => (Written.look 1).bind fun _ =>
    Written.ite (fun _ => (Written.expectKeyword .IF).bind fun _ =>
      (Written.expectKeyword .NOT).bind fun _ => (Written.expectKeyword .EXISTS).bind fun _ =>
        Written.pure true) fun _ => Written.pure false

theorem typeWord_written : Written given known fun _ _ => typeWord := by
  refine Written.of_choice TokenKind.name? (Written.unexpected .dataType) fun cursor => ?_
  unfold typeWord Written.chosen
  cases cursor.current.kind.name? <;> rfl

theorem typeName_written : Written given known fun _ _ => typeName := by
  refine Written.bind typeWord_written fun word => ?_
  have varying : Written given known fun _ _ => (if word = "character" ∨ word = "char" then do
      if ← eatName "varying" then return "character varying" else return word
      else return word : Parser String) :=
    Written.ite (fun _ => Written.choice (Written.pure _) (Written.pure _)) fun _ => Written.pure _
  exact Written.ite (fun _ => Written.choice (Written.pure _) varying) fun _ => varying

theorem plainInteger_written : Written given known fun _ _ => plainInteger := by
  refine Written.of_choice plainInteger? (Written.unexpected .integer) fun cursor => ?_
  unfold plainInteger Written.chosen plainInteger?
  cases cursor.current.kind <;> rfl

theorem typeModifiers_written : Written given known fun _ _ => typeModifiers :=
  Written.choice
    ((plainInteger_written.separated fun _ _ _ => plainInteger_taking.steady).bind fun _ =>
      (Written.expectSymbol .rightParen).bind fun _ => Written.pure _)
    (Written.pure [])

theorem timeZoneMark_written : Written given known fun _ _ => timeZoneMark := by
  refine (Written.look 1).bind fun _ => (Written.look 2).bind fun _ => ?_
  refine Written.ite (fun _ => (Written.look 0).bind fun _ => ?_) fun _ => Written.pure _
  refine Written.ite (fun _ => ?_) fun _ => Written.pure _
  exact Written.advance_bind fun _ => Written.advance_bind fun _ => Written.advance_bind fun _ =>
    Written.pure _

theorem arrayMark_written : Written given known fun _ _ => arrayMark :=
  (Written.look 0).bind fun _ => (Written.look 1).bind fun _ =>
    Written.ite (fun _ => Written.advance_bind fun _ => Written.advance_bind fun _ =>
      Written.pure _) fun _ => Written.pure none

theorem dataType_written : Written given known fun _ _ => dataType := by
  refine Written.bind typeName_written fun name => Written.bind typeModifiers_written fun modifiers => ?_
  have zoned (zone : String) : Written given known fun _ _ => (do
      let brackets ← collect arrayMark
      return (⟨name ++ zone ++ String.join brackets, modifiers⟩ : DataType)) :=
    (arrayMark_written.collect fun _ _ _ => arrayMark_moving).bind fun _ => Written.pure _
  exact Written.ite (fun _ => Written.bind timeZoneMark_written zoned) fun _ => (Written.pure "").bind zoned

end Names

section Expressions

theorem inner_written (power : Nat) : Written given known fun inner _ => inner.expression power :=
  Written.call (.expression power)

theorem innerQuery_written : Written given known fun inner _ => inner.query := Written.call .query

theorem innerTables_written : Written given known fun inner _ => inner.tables := Written.call .tables

theorem expressionList_written : Written given known fun inner _ => expressionList inner :=
  (inner_written 0).separated fun _ steady _ => steady.expression 0

theorem parenthesizedExpression_written :
    Written given known fun inner _ => parenthesizedExpression inner :=
  Written.parenthesized ((Written.atKeyword .SELECT).bind fun _ =>
    Written.ite (fun _ => Written.bind innerQuery_written fun _ => Written.pure _) fun _ => inner_written 0)

theorem existsTest_written : Written given known fun inner _ => existsTest inner :=
  (Written.expectKeyword .EXISTS).bind fun _ =>
    (Written.parenthesized innerQuery_written).bind fun _ => Written.pure _

theorem callArguments_written (distinct : Bool) :
    Written given known fun inner _ => callArguments inner distinct := by
  refine (Written.atSymbol .rightParen).bind fun _ => Written.ite (fun _ => Written.pure []) ?_
  intro _
  refine (Written.atSymbol .star).bind fun _ => Written.ite (fun _ => ?_) fun _ =>
    expressionList_written
  exact Written.advance_bind fun _ => Written.pure _

theorem functionCall_written (function : ObjectName) :
    Written given known fun inner _ => functionCall inner function :=
  Written.parenthesized ((Written.eatKeyword .DISTINCT).bind fun distinct =>
    (callArguments_written distinct).bind fun _ => Written.pure _)

theorem eatInnerDot_written : Written given known fun _ _ => eatInnerDot :=
  (Written.look 0).bind fun _ => (Written.look 1).bind fun _ =>
    Written.ite (fun _ => Written.eatSymbol .dot) fun _ => Written.pure false

/-- The span of a name reaches from its first token to the one taken last. -/
theorem nameExpression_written : Written given known fun inner _ => nameExpression inner := by
  refine Written.current_bind fun kind => ?_
  refine Written.expectName.bind_taking (fun _ _ _ => Taking.expectName) fun first => ?_
  have others : Written given True fun _ _ => manyAfter eatInnerDot expectName :=
    eatInnerDot_written.manyAfter eatInnerDot_moving Written.expectName fun _ _ _ =>
      Taking.expectName.steady
  refine others.bind fun more => Written.choice ?_ ?_
  · refine (Written.expectSymbol .star).bind fun _ => Written.previousSpan_bind trivial ?_
    exact (nameOfParts_written (first :: more) IsPlace.lastMarks).bind fun _ => Written.pure _
  · refine Written.previousSpan_bind trivial ((Written.atSymbol .leftParen).bind fun _ => ?_)
    refine Written.ite (fun _ => ?_) fun _ => ?_
    · exact (nameOfParts_written (first :: more) IsPlace.lastMarks).bind fun function =>
        functionCall_written function
    · cases more with
      | nil => exact Written.pure _
      | cons second more =>
          exact (nameOfParts_written (first :: second :: more).dropLast IsPlace.lastMarks).bind
            fun _ => Written.pure _

theorem castExpression_written : Written given known fun inner _ => castExpression inner :=
  (Written.expectKeyword .CAST).bind fun _ => Written.parenthesized
    ((inner_written 0).bind fun _ => (Written.expectKeyword .AS).bind fun _ =>
      Written.bind dataType_written fun _ => Written.pure _)

theorem caseArm_written : Written given known fun inner _ => caseArm inner :=
  (inner_written 0).bind fun _ => (Written.expectKeyword .THEN).bind fun _ =>
    (inner_written 0).bind fun _ => Written.pure _

theorem caseEnd_written (subject : Option Expr) (arms : List CaseArm) :
    Written given known fun inner _ => caseEnd inner subject arms :=
  ((inner_written 0).optionalAfter .ELSE).bind fun _ => (Written.expectKeyword .END).bind fun _ =>
    Written.pure _

theorem caseBehind_written (subject : Option Expr) :
    Written given known fun inner _ => caseBehind inner subject := by
  have arms : Written given known fun inner _ => manyAfter (eatKeyword .WHEN) (caseArm inner) :=
    (Written.eatKeyword .WHEN).manyAfter (Moving.eatKeyword .WHEN) caseArm_written fun _ steady _ =>
      caseArm_steady steady
  refine arms.bind fun arms => Written.ite (fun _ => ?_) fun _ => caseEnd_written subject arms
  exact (Written.unexpected _).bind fun _ => caseEnd_written subject arms

theorem caseExpression_written : Written given known fun inner _ => caseExpression inner := by
  simp only [caseExpression_eq]
  refine (Written.expectKeyword .CASE).bind fun _ => (Written.atKeyword .WHEN).bind fun _ => ?_
  refine Written.ite (fun _ => ?_) fun _ => ?_
  · exact (Written.pure none).bind fun subject => caseBehind_written subject
  · exact ((inner_written 0).map some).bind fun subject => caseBehind_written subject

theorem primaryBy_written (kind : TokenKind) :
    Written given known fun inner _ => primaryBy inner kind := by
  have taken (value : Expr) : Written given known fun _ _ => (do
      let _ ← advance
      return value : Parser Expr) :=
    Written.advance_bind fun _ => Written.pure value
  have test : Written given known fun inner _ => (do
      if (← look 1) = .symbol .leftParen then existsTest inner else nameExpression inner :
        Parser Expr) :=
    (Written.look 1).bind fun _ =>
      Written.ite (fun _ => existsTest_written) fun _ => nameExpression_written
  have fails : Written given known fun _ _ => (unexpected .expression : Parser Expr) :=
    Written.unexpected _
  cases kind with
  | integer value => exact taken _
  | numeric value => exact taken _
  | string value => exact taken _
  | parameter number => exact taken _
  | identifier name => exact nameExpression_written
  | keyword word =>
      cases word <;>
        first
        | exact fails
        | exact nameExpression_written
        | exact caseExpression_written
        | exact castExpression_written
        | exact test
        | exact taken _
  | symbol mark =>
      cases mark <;> first | exact fails | exact taken _ | exact parenthesizedExpression_written
  | finish => exact fails
  | invalid message => exact fails

theorem primary_written : Written given known fun inner _ => primary inner :=
  (Written.look 0).bind primaryBy_written

theorem operand_written : Written given known fun inner _ => operand inner := by
  refine (Written.look 0).bind fun kind => ?_
  cases leadingOperator? kind with
  | none => exact primary_written
  | some operator =>
      exact Written.advance_bind fun _ => (inner_written operator.2).bind fun _ => Written.pure _

theorem truthSuffix_written : Written given known fun _ _ => truthSuffix := by
  refine (Written.eatKeyword .NOT).bind fun negated => (Written.look 0).bind fun kind => ?_
  cases truthTest? negated kind with
  | none => exact Written.unexpected _
  | some operator => exact Written.advance_bind fun _ => Written.pure _

theorem listSuffix_written (negated : Bool) :
    Written given known fun inner _ => listSuffix inner negated :=
  Written.parenthesized ((Written.atKeyword .SELECT).bind fun _ =>
    Written.ite (fun _ => Written.bind innerQuery_written fun _ => Written.pure _) fun _ =>
      Written.bind expressionList_written fun _ => Written.pure _)

theorem rangeSuffix_written (power : Nat) (negated : Bool) :
    Written given known fun inner _ => rangeSuffix inner power negated :=
  (inner_written power).bind fun _ => (Written.expectKeyword .AND).bind fun _ =>
    (inner_written power).bind fun _ => Written.pure _

theorem suffixBehind_written (power : Nat) (negated : Prop) [Decidable negated] (kind : TokenKind)
    {place : List Span → Span} (isPlace : IsPlace place) :
    Written given known fun inner spans => suffixBehind inner power negated ⟨kind, place spans⟩ := by
  have fails (kind : TokenKind) : Written given known fun _ spans =>
      (fail (.unexpected .operator kind) (place spans) : Parser Suffix) :=
    Written.fail _ isPlace nofun
  have binary (operator : BinaryOperator) : Written given known fun inner _ => (do
      return .binary operator (← inner.expression power) : Parser Suffix) :=
    (inner_written power).bind fun _ => Written.pure _
  have cast : Written given known fun _ _ => (do return .cast (← dataType) : Parser Suffix) :=
    Written.bind dataType_written fun _ => Written.pure _
  cases kind with
  | keyword word =>
      cases word <;>
        first
        | exact fails _
        | exact binary _
        | exact truthSuffix_written
        | exact rangeSuffix_written power _
        | exact listSuffix_written _
  | symbol mark => cases mark <;> first | exact fails _ | exact binary _ | exact cast
  | _ => exact fails _

theorem suffix_written (power : Nat) : Written given known fun inner _ => suffix inner power := by
  simp only [suffix_eq]
  refine Written.advance_bind fun first => ?_
  have behind (kind : TokenKind) : Written given known fun inner spans =>
      suffixBehind inner power (first = .keyword .NOT) ⟨kind, lastMark spans⟩ :=
    suffixBehind_written power _ kind IsPlace.lastMark
  by_cases negated : first = .keyword .NOT
  · simp only [if_pos negated]
    exact Written.advance_bind behind
  · simp only [if_neg negated, pure_bind]
    exact behind first

theorem nextSuffix_written (power : Nat) : Written given known fun inner _ => nextSuffix inner power := by
  refine (Written.look 0).bind fun first => (Written.look 1).bind fun second => ?_
  cases suffixPower? first second with
  | none => exact Written.pure none
  | some found =>
      exact Written.ite (fun _ => (suffix_written _).bind fun _ => Written.pure _) fun _ =>
        Written.pure none

theorem operators_written (power : Nat) : Written given known fun inner _ => operators inner power :=
  Written.bind operand_written fun _ =>
    ((nextSuffix_written power).collect fun _ steady _ => nextSuffix_moving steady power).bind
      fun _ => Written.pure _

end Expressions

section Queries

theorem outputColumn_written : Written given known fun inner _ => outputColumn inner :=
  (inner_written 0).bind fun _ => Written.bind optionalAlias_written fun _ => Written.pure _

theorem outputColumns_written : Written given known fun inner _ => outputColumns inner :=
  outputColumn_written.separated fun _ steady _ => outputColumn_steady steady

theorem joinWords_written (first : TokenKind) (kind : JoinKind) :
    Written given known fun _ _ => joinWords first kind := by
  refine Written.ite (fun _ => Written.ite (fun _ => ?_) fun _ => ?_) fun _ => Written.pure ()
  · exact (Written.eatKeyword .OUTER).bind fun _ => Written.expectKeyword .JOIN
  · exact Written.expectKeyword .JOIN

theorem tableFactor_written : Written given known fun inner _ => tableFactor inner := by
  refine Written.choice ((Written.atKeyword .SELECT).bind fun _ => ?_) ?_
  · refine Written.ite (fun _ => Written.bind innerQuery_written fun query => ?_) fun _ => ?_
    · refine (Written.expectSymbol .rightParen).bind fun _ => ?_
      refine Written.bind optionalAlias_written fun aliasName => ?_
      cases aliasName with
      | some aliasName => exact Written.pure _
      | none => exact Written.current_bind fun _ => Written.fail _ IsPlace.lastMark nofun
    · exact Written.bind innerTables_written fun _ => (Written.expectSymbol .rightParen).bind fun _ =>
        Written.pure _
  · exact Written.bind objectName_written fun _ => Written.bind optionalAlias_written fun _ => Written.pure _

theorem joinCondition_written (kind : JoinKind) :
    Written given known fun inner _ => joinCondition inner kind := by
  refine Written.ite (fun _ => Written.pure _) fun _ => ?_
  refine Written.choice ((inner_written 0).bind fun _ => Written.pure _) ?_
  exact Written.choice ((Written.parenthesized nameList_written).bind fun _ => Written.pure _)
    (Written.unexpected _)

theorem nextJoin_written : Written given known fun inner _ => nextJoin inner := by
  refine (Written.look 0).bind fun kind => ?_
  cases joinStart? kind with
  | none => exact Written.pure none
  | some kind =>
      exact Written.advance_bind fun first => (joinWords_written first kind).bind fun _ =>
        Written.bind tableFactor_written fun _ => (joinCondition_written kind).bind fun _ => Written.pure _

theorem joinedTables_written : Written given known fun inner _ => joinedTables inner :=
  Written.bind tableFactor_written fun _ =>
    (nextJoin_written.collect fun _ steady _ => nextJoin_moving steady).bind fun _ => Written.pure _

theorem tableList_written : Written given known fun inner _ => tableList inner := by
  have others : Written given known fun inner _ => manyAfter (eatSymbol .comma) (joinedTables inner) :=
    (Written.eatSymbol .comma).manyAfter (Moving.eatSymbol .comma) joinedTables_written
      fun _ steady _ => joinedTables_steady steady
  exact Written.bind joinedTables_written fun _ => others.bind fun _ => Written.pure _

theorem sortKey_written : Written given known fun inner _ => sortKey inner := by
  have direction : Written given known fun _ _ => direction :=
    Written.choice (Written.pure _) ((Written.eatKeyword .ASC).bind fun _ => Written.pure _)
  have nullPlacement : Written given known fun _ _ => nullPlacement :=
    Written.choice (Written.pure _) ((Written.expectKeyword .LAST).bind fun _ => Written.pure _)
  exact (inner_written 0).bind fun _ => direction.bind fun _ =>
    (nullPlacement.optionalAfter .NULLS).bind fun _ => Written.pure _

theorem listBy_written {α : Type} (word : Keyword) {item : Rules → List Span → Parser α}
    (written : Written given known item)
    (steady : ∀ inner : Rules, inner.AreSteady → ∀ spans, Steady (item inner spans)) :
    Written given known fun inner spans => listBy word (item inner spans) :=
  Written.choice ((Written.expectKeyword .BY).bind fun _ => written.separated steady)
    (Written.pure [])

theorem distinctness_written : Written given known fun _ _ => distinctness :=
  Written.choice (Written.pure true) ((Written.eatKeyword .ALL).bind fun _ => Written.pure false)

theorem noSetOperation_written : Written given known fun _ _ => noSetOperation := by
  refine Written.current_bind fun kind => ?_
  cases kind with
  | keyword word =>
      cases word <;> first | exact Written.pure () | exact Written.fail _ IsPlace.lastMark nofun
  | _ => exact Written.pure ()

theorem query_written : Written given known fun inner _ => query inner := by
  have expressions (word : Keyword) : Written given known fun inner _ =>
      listBy word (inner.expression 0) :=
    listBy_written word (inner_written 0) fun _ steady _ => steady.expression 0
  refine (Written.expectKeyword .SELECT).bind fun _ => Written.bind distinctness_written fun _ => ?_
  refine Written.bind outputColumns_written fun _ => ?_
  refine (tableList_written.optionalAfter .FROM).bind fun _ => ?_
  refine ((inner_written 0).optionalAfter .WHERE).bind fun _ => ?_
  refine (expressions .GROUP).bind fun _ => ?_
  refine ((inner_written 0).optionalAfter .HAVING).bind fun _ => ?_
  refine (listBy_written .ORDER sortKey_written fun _ steady _ => sortKey_steady steady).bind
    fun _ => ?_
  refine ((inner_written 0).optionalAfter .LIMIT).bind fun _ => ?_
  refine ((inner_written 0).optionalAfter .OFFSET).bind fun _ => ?_
  exact Written.bind noSetOperation_written fun _ => Written.pure _

/-- What stands behind the name of a rule can be written out. -/
theorem rule_written {α : Type} (rule : Call α) : Written given known fun inner _ => rule.rule inner := by
  cases rule with
  | expression power => exact operators_written power
  | query => exact query_written
  | tables => exact joinedTables_written

end Queries

end SqlTree.Grammar
