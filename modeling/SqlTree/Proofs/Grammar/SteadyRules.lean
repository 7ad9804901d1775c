import SqlTree.Proofs.Grammar.Alternatives
import SqlTree.Proofs.Grammar.SteadyLists

/-!
# Steadiness of the grammar of expressions and queries

Every rule of the grammar is steady, by its parts. The rules that nest are steady level by level. A
loop over suffixes or joins goes on only behind a token, and the fallback of the operators is never
reached: what has a power behind an operand is one of the tokens that the rules behind it know.
-/

namespace SqlTree.Grammar

open SqlTree.Parser

section Names

theorem nameOfParts_steady (parts : List String) (span : Span) :
    Steady (nameOfParts parts span) := by
  unfold nameOfParts
  split
  · exact Steady.pure _
  · exact Steady.pure _
  · exact Moving.fail rfl

theorem objectName_taking : Taking objectName :=
  Taking.expectName.bind fun _ =>
    (Moving.eatSymbol .dot).choice (Taking.expectName.bind fun _ => Steady.pure _) (Steady.pure _)

theorem nameList_steady : Steady nameList := Taking.expectName.steady.separated

theorem optionalAlias_steady : Steady optionalAlias := by
  have name : Steady (do return some (← expectName)) :=
    Taking.expectName.bind fun _ => Steady.pure _
  refine (Moving.eatKeyword .AS).choice name ?_
  refine (Steady.look (by decide)).bind fun kind => ?_
  split
  · exact name
  · exact Steady.pure none

theorem ifExists_steady : Steady ifExists := by
  refine (Steady.look (by decide)).bind fun first => (Steady.look (by decide)).bind fun second => ?_
  split
  · exact (Taking.expectKeyword .IF).bind fun _ => (Taking.expectKeyword .EXISTS).bind fun _ =>
      Steady.pure true
  · exact Steady.pure false

theorem ifNotExists_steady : Steady ifNotExists := by
  refine (Steady.look (by decide)).bind fun first => (Steady.look (by decide)).bind fun second => ?_
  split
  · exact (Taking.expectKeyword .IF).bind fun _ => (Taking.expectKeyword .NOT).bind fun _ =>
      (Taking.expectKeyword .EXISTS).bind fun _ => Steady.pure true
  · exact Steady.pure false

theorem typeWord_taking : Taking typeWord := by
  refine Moving.of_choice TokenKind.name? .dataType nofun (fun _ _ => isPlain_of_name?) ?_
  intro cursor
  unfold typeWord
  cases cursor.current.kind.name? <;> rfl

theorem typeName_taking : Taking typeName := by
  refine typeWord_taking.bind fun word => ?_
  have varying : Steady (if word = "character" ∨ word = "char" then do
      if ← eatName "varying" then return "character varying" else return word
      else return word) := by
    split
    · exact (Moving.eatName "varying").choice (Steady.pure _) (Steady.pure _)
    · exact Steady.pure _
  dsimp only
  split
  · exact (Moving.eatName "precision").choice (Steady.pure _) varying
  · exact varying

theorem plainInteger_taking : Taking plainInteger := by
  refine Moving.of_choice plainInteger? .integer (by simp) (fun kind value chosen => ?_) ?_
  · cases kind with
    | integer number => rfl
    | _ => cases chosen
  · intro cursor
    unfold plainInteger plainInteger?
    cases cursor.current.kind <;> rfl

theorem typeModifiers_steady : Steady typeModifiers :=
  (Moving.eatSymbol .leftParen).choice
    (plainInteger_taking.steady.separated.bind fun _ =>
      (Taking.expectSymbol .rightParen).bind fun _ => Steady.pure _)
    (Steady.pure [])

/-- A token that is known to be of a kind may be taken if the kind may. -/
theorem isPlain_of_eq {found kind : TokenKind} (same : found = kind) (plain : kind.isPlain = true) :
    found.isPlain = true := by
  rw [same, plain]

theorem timeZoneMark_steady : Steady timeZoneMark := by
  intro cursor
  refine SteadyAt.look_bind (by decide) (SteadyAt.look_bind (by decide) ?_)
  split
  · next known =>
      obtain ⟨time, zone⟩ := known
      refine SteadyAt.look_bind (by decide) ?_
      split
      · next mark =>
          have plain : cursor.current.kind.isPlain = true := by
            rcases mark with mark | mark
            · exact isPlain_of_eq mark rfl
            · exact isPlain_of_eq mark rfl
          refine SteadyAt.advance_bind plain
            (SteadyAt.advance_bind ?_ (SteadyAt.advance_bind ?_ ?_))
          · rw [Cursor.current_past]
            exact isPlain_of_eq time rfl
          · rw [Cursor.past_past, Cursor.current, Cursor.peek_past]
            exact isPlain_of_eq zone rfl
          · exact Steady.pure _ _
      · exact Steady.pure _ _
  · exact Steady.pure _ _

theorem arrayMark_moving : Moving arrayMark (·.isSome = true) := by
  intro cursor
  refine SteadyAt.look_bind (by decide) (SteadyAt.look_bind (by decide) ?_)
  split
  · next known =>
      refine SteadyAt.advance_bind (isPlain_of_eq known.1 rfl) (SteadyAt.advance_bind ?_ ?_)
      · rw [Cursor.current_past]
        exact isPlain_of_eq known.2 rfl
      · exact Steady.pure _ _
  · exact SteadyAt.pure nofun

theorem dataType_taking : Taking dataType := by
  refine typeName_taking.bind fun name => typeModifiers_steady.bind fun modifiers => ?_
  have zoned (zone : String) : Steady (do
      let brackets ← collect arrayMark
      return (⟨name ++ zone ++ String.join brackets, modifiers⟩ : DataType)) :=
    (Steady.collect arrayMark_moving).bind fun _ => Steady.pure _
  dsimp only
  split
  · exact timeZoneMark_steady.bind zoned
  · exact (Steady.pure "").bind zoned

end Names

/-- The rules that nest are steady, and a query takes a token at least. -/
structure Rules.AreSteady (inner : Rules) : Prop where
  expression : ∀ power, Steady (inner.expression power)
  query : Taking inner.query
  tables : Steady inner.tables

section Expressions

variable {inner : Rules} {cursor : Cursor}

theorem expressionList_steady (steady : inner.AreSteady) : Steady (expressionList inner) :=
  (steady.expression 0).separated

theorem parenthesizedExpression_taking (steady : inner.AreSteady) :
    Taking (parenthesizedExpression inner) := by
  refine Taking.parenthesized ((Steady.atKeyword .SELECT).bind fun selects => ?_)
  split
  · exact steady.query.bind fun _ => Steady.pure _
  · exact steady.expression 0

theorem existsTest_taking (steady : inner.AreSteady) : Taking (existsTest inner) :=
  (Taking.expectKeyword .EXISTS).bind fun _ =>
    (Taking.parenthesized steady.query.steady).bind fun _ => Steady.pure _

theorem callArguments_steady (steady : inner.AreSteady) (distinct : Bool) :
    Steady (callArguments inner distinct) := by
  refine (Steady.atSymbol .rightParen).bind fun closes => ?_
  split
  · exact Steady.pure []
  · intro cursor
    refine SteadyAt.atSymbol_bind ?_
    split
    · next starred =>
        have star : cursor.current.kind = .symbol .star :=
          of_decide_eq_true (Bool.and_eq_true_iff.mp starred).2
        exact SteadyAt.advance_bind (isPlain_of_eq star rfl) (Steady.pure _ _)
    · exact expressionList_steady steady _

theorem functionCall_taking (steady : inner.AreSteady) (function : ObjectName) :
    Taking (functionCall inner function) :=
  Taking.parenthesized ((Moving.eatKeyword .DISTINCT).steady.bind fun distinct =>
    (callArguments_steady steady distinct).bind fun _ => Steady.pure _)

theorem eatInnerDot_moving : Moving eatInnerDot (· = true) := by
  intro cursor
  refine SteadyAt.look_bind (by decide) (SteadyAt.look_bind (by decide) ?_)
  split
  · exact Moving.eatSymbol .dot cursor
  · exact SteadyAt.pure nofun

theorem nameExpression_taking (steady : inner.AreSteady) : Taking (nameExpression inner) := by
  intro cursor
  refine SteadyAt.current_bind ((Taking.expectName cursor).bind_known fun first behind known => ?_)
  have others : Steady (manyAfter eatInnerDot expectName) :=
    Steady.manyAfter eatInnerDot_moving Taking.expectName.steady
  refine (others behind).bind_still known fun parts behind known => ?_
  refine (Moving.eatSymbol .dot behind).bind_still known fun pointed behind known => ?_
  split
  · refine (Taking.expectSymbol .star behind).bind_still known fun _ behind known => ?_
    refine SteadyAt.previousSpan_bind known ?_
    exact ((nameOfParts_steady _ _).bind fun _ => Steady.pure _) behind
  · refine SteadyAt.previousSpan_bind known ?_
    refine ((Steady.atSymbol .leftParen).bind fun called => ?_) behind
    split
    · exact (nameOfParts_steady _ _).bind fun function =>
        (functionCall_taking steady function).steady
    · split
      · exact Steady.pure _
      · exact (nameOfParts_steady _ _).bind fun _ => Steady.pure _

theorem castExpression_taking (steady : inner.AreSteady) : Taking (castExpression inner) :=
  (Taking.expectKeyword .CAST).bind fun _ => (Taking.parenthesized
    ((steady.expression 0).bind fun _ => (Taking.expectKeyword .AS).bind fun _ =>
      dataType_taking.bind fun _ => Steady.pure _)).steady

theorem caseArm_steady (steady : inner.AreSteady) : Steady (caseArm inner) :=
  (steady.expression 0).bind fun _ => (Taking.expectKeyword .THEN).bind fun _ =>
    (steady.expression 0).bind fun _ => Steady.pure _

theorem caseEnd_steady (steady : inner.AreSteady) (subject : Option Expr) (arms : List CaseArm) :
    Steady (caseEnd inner subject arms) :=
  (Steady.optionalAfter .ELSE (steady.expression 0)).bind fun _ =>
    (Taking.expectKeyword .END).bind fun _ => Steady.pure _

theorem caseBehind_steady (steady : inner.AreSteady) (subject : Option Expr) :
    Steady (caseBehind inner subject) := by
  refine (Steady.manyAfter (Moving.eatKeyword .WHEN) (caseArm_steady steady)).bind fun arms => ?_
  dsimp only
  split
  · exact Steady.bind (Moving.unexpected (by simp)) fun _ => caseEnd_steady steady subject arms
  · exact caseEnd_steady steady subject arms

theorem caseExpression_taking (steady : inner.AreSteady) : Taking (caseExpression inner) := by
  rw [caseExpression_eq]
  refine (Taking.expectKeyword .CASE).bind fun _ => (Steady.atKeyword .WHEN).bind fun direct => ?_
  cases direct with
  | true => exact (Steady.pure none).bind (caseBehind_steady steady)
  | false => exact (steady.expression 0).map.bind (caseBehind_steady steady)

/-- A literal may be taken. -/
theorem isPlain_of_literalOf? {kind : TokenKind} {value : Literal}
    (literal : literalOf? kind = some value) : kind.isPlain = true := by
  cases kind with
  | finish => cases literal
  | invalid message => cases literal
  | _ => rfl

theorem primary_steady (steady : inner.AreSteady) : Steady (primary inner) := by
  intro cursor
  have named := nameExpression_taking steady
  have test : Steady (do
      if (← look 1) = .symbol .leftParen then existsTest inner else nameExpression inner) := by
    refine (Steady.look (by decide)).bind fun next => ?_
    split
    · exact (existsTest_taking steady).steady
    · exact named.steady
  rw [primary_eq]
  refine SteadyAt.look_bind (by decide) ?_
  refine primaryBy_cases (fun parser => SteadyAt parser cursor fun _ => False) _ ?_ ?_ ?_
    ((parenthesizedExpression_taking steady).steady cursor)
    ((caseExpression_taking steady).steady cursor) ((castExpression_taking steady).steady cursor)
    (fun _ => test cursor) (named.steady cursor) (SteadyAt.unexpected (by simp))
  · exact fun value literal =>
      SteadyAt.advance_bind (isPlain_of_literalOf? literal) (Steady.pure _ _)
  · exact fun number known => SteadyAt.advance_bind (isPlain_of_eq known rfl) (Steady.pure _ _)
  · exact fun known => SteadyAt.advance_bind (isPlain_of_eq known rfl) (Steady.pure _ _)

/-- An operator before an operand may be taken. -/
theorem isPlain_of_leadingOperator? {kind : TokenKind} {operator : UnaryOperator × Nat}
    (leading : leadingOperator? kind = some operator) : kind.isPlain = true := by
  unfold leadingOperator? at leading
  split at leading <;> first | rfl | cases leading

theorem operand_steady (steady : inner.AreSteady) : Steady (operand inner) := by
  intro cursor
  refine SteadyAt.look_bind (by decide) ?_
  split
  · next operator power leading =>
      refine SteadyAt.advance_bind (isPlain_of_leadingOperator? leading) ?_
      exact ((steady.expression power).bind fun _ => Steady.pure _) _
  · exact primary_steady steady cursor

/-- A truth value may be taken. -/
theorem isPlain_of_truthTest? {negated : Bool} {kind : TokenKind} {operator : UnaryOperator}
    (test : truthTest? negated kind = some operator) : kind.isPlain = true := by
  unfold truthTest? at test
  split at test <;> first | rfl | cases test

theorem truthSuffix_steady : Steady truthSuffix := by
  refine (Moving.eatKeyword .NOT).steady.bind fun negated => fun cursor => ?_
  refine SteadyAt.look_bind (by decide) ?_
  split
  · next operator test =>
      exact SteadyAt.advance_bind (isPlain_of_truthTest? test) (Steady.pure _ _)
  · exact SteadyAt.unexpected (by simp)

theorem listSuffix_steady (steady : inner.AreSteady) (negated : Bool) :
    Steady (listSuffix inner negated) := by
  refine (Taking.parenthesized ((Steady.atKeyword .SELECT).bind fun selects => ?_)).steady
  split
  · exact steady.query.bind fun _ => Steady.pure _
  · exact (expressionList_steady steady).bind fun _ => Steady.pure _

theorem rangeSuffix_steady (steady : inner.AreSteady) (power : Nat) (negated : Bool) :
    Steady (rangeSuffix inner power negated) :=
  (steady.expression power).bind fun _ => (Taking.expectKeyword .AND).bind fun _ =>
    (steady.expression power).bind fun _ => Steady.pure _

/-- Behind a token that starts a suffix, the fallback of the operators is not reached. -/
theorem suffixBehind_steady (steady : inner.AreSteady) (power : Nat) (negated : Prop)
    [Decidable negated] {token : Token}
    (known : token.kind = .keyword .IS ∨ token.kind = .symbol .doubleColon ∨
      (infixPower? token.kind).isSome = true) :
    Steady (suffixBehind inner power negated token) := by
  unfold suffixBehind
  split
  · exact truthSuffix_steady
  · exact dataType_taking.bind fun _ => Steady.pure _
  · exact rangeSuffix_steady steady power negated
  · exact listSuffix_steady steady negated
  · exact (steady.expression power).bind fun _ => Steady.pure _
  · exact (steady.expression power).bind fun _ => Steady.pure _
  · next noTest noCast noRange noList noLike noIlike =>
      split
      · exact (steady.expression power).bind fun _ => Steady.pure _
      · next noOperator =>
          exfalso
          rcases known with test | cast | between
          · exact noTest test
          · exact noCast cast
          · rcases operator_of_infixPower? between with pattern | operator
            · unfold isPatternOperator at pattern
              split at pattern
              · next range => exact noRange range
              · next list => exact noList list
              · next like => exact noLike like
              · next ilike => exact noIlike ilike
              · cases pattern
            · rw [noOperator] at operator
              cases operator

/-- An operator between two operands may be taken. -/
theorem isPlain_of_infixPower? {kind : TokenKind} (power : (infixPower? kind).isSome = true) :
    kind.isPlain = true := by
  unfold infixPower? at power
  split at power <;> first | rfl | cases power

/-- A suffix that starts at the cursor takes a token at least. -/
theorem suffix_steadyAt (steady : inner.AreSteady) {found : Nat}
    (starts : suffixPower? (cursor.peek 0).kind (cursor.peek 1).kind = some found) (power : Nat)
    {moves : Suffix → Prop} : SteadyAt (suffix inner power) cursor moves := by
  rw [suffix_eq]
  rcases starts_of_suffixPower? starts with ⟨negated, pattern⟩ | known
  · refine SteadyAt.advance_bind (isPlain_of_eq negated rfl) ?_
    split
    · have second : (infixPower? (cursor.past 1).current.kind).isSome = true := by
        rwa [Cursor.current, Cursor.peek_past]
      refine SteadyAt.advance_bind (isPlain_of_infixPower? second) ?_
      exact suffixBehind_steady steady power _ (.inr (.inr second)) _
    · next plain => exact absurd negated plain
  · have plain : cursor.current.kind.isPlain = true := by
      rcases known with test | cast | between
      · exact isPlain_of_eq test rfl
      · exact isPlain_of_eq cast rfl
      · exact isPlain_of_infixPower? between
    refine SteadyAt.advance_bind plain ?_
    split
    · next negated =>
        change (cursor.peek 0).kind = _ at negated
        rw [negated] at known
        simp [infixPower?] at known
    · exact suffixBehind_steady steady power _ known _

theorem nextSuffix_moving (steady : inner.AreSteady) (power : Nat) :
    Moving (nextSuffix inner power) (·.isSome = true) := by
  intro cursor
  refine SteadyAt.look_bind (by decide) (SteadyAt.look_bind (by decide) ?_)
  split
  · exact SteadyAt.pure nofun
  · next found starts =>
      split
      · refine SteadyAt.bind_known (suffix_steadyAt steady starts _) fun _ _ _ => ?_
        exact Steady.pure _ _
      · exact SteadyAt.pure nofun

theorem operators_steady (steady : inner.AreSteady) (power : Nat) :
    Steady (operators inner power) :=
  (operand_steady steady).bind fun _ =>
    (Steady.collect (nextSuffix_moving steady power)).bind fun _ => Steady.pure _

end Expressions

section Queries

variable {inner : Rules}

theorem outputColumn_steady (steady : inner.AreSteady) : Steady (outputColumn inner) :=
  (steady.expression 0).bind fun _ => optionalAlias_steady.bind fun _ => Steady.pure _

theorem outputColumns_steady (steady : inner.AreSteady) : Steady (outputColumns inner) :=
  (outputColumn_steady steady).separated

theorem joinWords_steady (first : TokenKind) (kind : JoinKind) : Steady (joinWords first kind) := by
  unfold joinWords
  split
  · dsimp only
    split
    · exact (Moving.eatKeyword .OUTER).steady.bind fun _ => (Taking.expectKeyword .JOIN).steady
    · exact (Taking.expectKeyword .JOIN).steady
  · exact Steady.pure ()

theorem tableFactor_steady (steady : inner.AreSteady) : Steady (tableFactor inner) := by
  refine (Moving.eatSymbol .leftParen).choice ?_ ?_
  · refine (Steady.atKeyword .SELECT).bind fun selects => ?_
    split
    · refine steady.query.bind fun query => (Taking.expectSymbol .rightParen).bind fun _ => ?_
      refine optionalAlias_steady.bind fun aliasName? => ?_
      split
      · exact Steady.pure _
      · exact fun cursor => SteadyAt.current_bind (SteadyAt.fail rfl)
    · exact steady.tables.bind fun _ => (Taking.expectSymbol .rightParen).bind fun _ =>
        Steady.pure _
  · exact objectName_taking.bind fun _ => optionalAlias_steady.bind fun _ => Steady.pure _

theorem joinCondition_steady (steady : inner.AreSteady) (kind : JoinKind) :
    Steady (joinCondition inner kind) := by
  unfold joinCondition
  split
  · exact Steady.pure _
  · refine (Moving.eatKeyword .ON).choice ((steady.expression 0).bind fun _ => Steady.pure _) ?_
    exact (Moving.eatKeyword .USING).choice
      ((Taking.parenthesized nameList_steady).bind fun _ => Steady.pure _)
      (Moving.unexpected (by simp))

/-- The keyword that starts a join may be taken. -/
theorem isPlain_of_joinStart? {token : TokenKind} {kind : JoinKind}
    (starts : joinStart? token = some kind) : token.isPlain = true := by
  unfold joinStart? at starts
  split at starts <;> first | rfl | cases starts

theorem nextJoin_moving (steady : inner.AreSteady) : Moving (nextJoin inner) (·.isSome = true) := by
  intro cursor
  refine SteadyAt.look_bind (by decide) ?_
  split
  · exact SteadyAt.pure nofun
  · next kind starts =>
      refine SteadyAt.advance_bind (isPlain_of_joinStart? starts) ?_
      exact ((joinWords_steady _ kind).bind fun _ => (tableFactor_steady steady).bind fun _ =>
        (joinCondition_steady steady kind).bind fun _ => Steady.pure _) _

theorem joinedTables_steady (steady : inner.AreSteady) : Steady (joinedTables inner) :=
  (tableFactor_steady steady).bind fun _ =>
    (Steady.collect (nextJoin_moving steady)).bind fun _ => Steady.pure _

theorem tableList_steady (steady : inner.AreSteady) : Steady (tableList inner) :=
  (joinedTables_steady steady).bind fun _ =>
    (Steady.manyAfter (Moving.eatSymbol .comma) (joinedTables_steady steady)).bind fun _ =>
      Steady.pure _

theorem sortKey_steady (steady : inner.AreSteady) : Steady (sortKey inner) := by
  have direction : Steady direction :=
    (Moving.eatKeyword .DESC).choice (Steady.pure _)
      ((Moving.eatKeyword .ASC).steady.bind fun _ => Steady.pure _)
  have nullPlacement : Steady nullPlacement :=
    (Moving.eatKeyword .FIRST).choice (Steady.pure _)
      ((Taking.expectKeyword .LAST).bind fun _ => Steady.pure _)
  exact (steady.expression 0).bind fun _ => direction.bind fun _ =>
    (Steady.optionalAfter .NULLS nullPlacement).bind fun _ => Steady.pure _

theorem listBy_steady {α : Type} (word : Keyword) {item : Parser α} (steady : Steady item) :
    Steady (listBy word item) :=
  (Moving.eatKeyword word).choice ((Taking.expectKeyword .BY).bind fun _ => steady.separated)
    (Steady.pure [])

theorem distinctness_steady : Steady distinctness :=
  (Moving.eatKeyword .DISTINCT).choice (Steady.pure true)
    ((Moving.eatKeyword .ALL).steady.bind fun _ => Steady.pure false)

theorem noSetOperation_steady : Steady noSetOperation := by
  intro cursor
  refine SteadyAt.current_bind ?_
  split
  · exact SteadyAt.fail rfl
  · exact SteadyAt.fail rfl
  · exact SteadyAt.fail rfl
  · exact Steady.pure () _

theorem query_taking (steady : inner.AreSteady) : Taking (query inner) := by
  have expression := steady.expression 0
  refine (Taking.expectKeyword .SELECT).bind fun _ => distinctness_steady.bind fun _ => ?_
  refine (outputColumns_steady steady).bind fun _ => ?_
  refine (Steady.optionalAfter .FROM (tableList_steady steady)).bind fun _ => ?_
  refine (Steady.optionalAfter .WHERE expression).bind fun _ => ?_
  refine (listBy_steady .GROUP expression).bind fun _ => ?_
  refine (Steady.optionalAfter .HAVING expression).bind fun _ => ?_
  refine (listBy_steady .ORDER (sortKey_steady steady)).bind fun _ => ?_
  refine (Steady.optionalAfter .LIMIT expression).bind fun _ => ?_
  refine (Steady.optionalAfter .OFFSET expression).bind fun _ => ?_
  exact noSetOperation_steady.bind fun _ => Steady.pure _

theorem tooDeep_moving {α : Type} {moves : α → Prop} : Moving rules.tooDeep moves := by
  unfold rules.tooDeep
  exact fun cursor => SteadyAt.current_bind (SteadyAt.fail rfl)

/-- The rules that nest are steady on every level. -/
theorem rules_areSteady (levels : Nat) : (rules levels).AreSteady := by
  induction levels with
  | zero => exact ⟨fun _ => tooDeep_moving, tooDeep_moving, tooDeep_moving⟩
  | succ levels inductionHypothesis =>
      exact ⟨operators_steady inductionHypothesis, query_taking inductionHypothesis,
        joinedTables_steady inductionHypothesis⟩

end Queries

end SqlTree.Grammar
