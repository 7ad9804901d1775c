import SqlTree.Proofs.Grammar.Blindness
import SqlTree.Proofs.Grammar.SteadyRules

/-!
# Blindness of the grammar of expressions and queries

Every rule of the grammar is blind, by its parts: no rule asks for a semicolon, and where a rule
goes by what lies ahead, a semicolon is to it what the end of the input is. A rule that looks at the
token behind the current one goes by it only where the current one is a certain token, which ends no
statement.
-/

namespace SqlTree.Grammar

open SqlTree.Parser

/-- A token that is known to be of a kind ends no statement if the kind does not. -/
theorem isTerminator_of_eq {found kind : TokenKind} (same : found = kind)
    (goes : kind.isTerminator = false) : found.isTerminator = false := by
  rw [same, goes]

section Names

variable {behind : List Token} {short long : Cursor}

/-- The span of a name only shows in a failure. -/
theorem nameOfParts_alike (parts : List String) (cut : short.Cut long behind) :
    AlikeUpTo behind short long (nameOfParts parts) := by
  unfold nameOfParts
  split
  · exact fun _ _ => Blind.pure _ cut
  · exact fun _ _ => Blind.pure _ cut
  · exact fun _ _ => Alike.fail

theorem objectName_blind : Blind objectName :=
  Blind.expectName.bind fun _ =>
    Blind.choice rfl (Blind.expectName.bind fun _ => Blind.pure _) (Blind.pure _)

theorem nameList_blind : Blind nameList :=
  Blind.separated Taking.expectName.steady Blind.expectName

theorem optionalAlias_blind : Blind optionalAlias := by
  have name : Blind (do return some (← expectName)) :=
    Blind.expectName.bind fun _ => Blind.pure _
  refine Blind.choice rfl name (Blind.look_bind rfl fun kind => ?_)
  split
  · exact name
  · exact Blind.pure none

theorem ifExists_blind : Blind ifExists := by
  intro behind short long cut
  refine Alike.first_two_bind cut (fun _ => rfl) (fun _ => rfl) (fun _ => by simp) ?_
  split
  · exact ((Blind.expectKeyword .IF).bind fun _ => (Blind.expectKeyword .EXISTS).bind fun _ =>
      Blind.pure true) cut
  · exact Blind.pure false cut

theorem ifNotExists_blind : Blind ifNotExists := by
  intro behind short long cut
  refine Alike.first_two_bind cut (fun _ => rfl) (fun _ => rfl) (fun _ => by simp) ?_
  split
  · exact ((Blind.expectKeyword .IF).bind fun _ => (Blind.expectKeyword .NOT).bind fun _ =>
      (Blind.expectKeyword .EXISTS).bind fun _ => Blind.pure true) cut
  · exact Blind.pure false cut

theorem typeWord_blind : Blind typeWord := by
  refine Blind.of_choice TokenKind.name? .dataType (fun _ _ => isTerminator_of_name?) ?_
  intro cursor
  unfold typeWord
  cases cursor.current.kind.name? <;> rfl

theorem typeName_blind : Blind typeName := by
  refine typeWord_blind.bind fun word => ?_
  have varying : Blind (if word = "character" ∨ word = "char" then do
      if ← eatName "varying" then return "character varying" else return word
      else return word) := by
    split
    · exact Blind.choice rfl (Blind.pure _) (Blind.pure _)
    · exact Blind.pure _
  dsimp only
  split
  · exact Blind.choice rfl (Blind.pure _) varying
  · exact varying

theorem plainInteger_blind : Blind plainInteger := by
  refine Blind.of_choice plainInteger? .integer (fun kind value chosen => ?_) ?_
  · cases kind with
    | integer number => rfl
    | _ => cases chosen
  · intro cursor
    unfold plainInteger plainInteger?
    cases cursor.current.kind <;> rfl

theorem typeModifiers_blind : Blind typeModifiers :=
  Blind.choice rfl
    ((Blind.separated plainInteger_taking.steady plainInteger_blind).bind fun _ =>
      (Blind.expectSymbol .rightParen rfl).bind fun _ => Blind.pure _)
    (Blind.pure [])

/-- Where a statement ends there is no mark, whatever stands behind. -/
theorem timeZoneMark_of_isTerminator {cursor : Cursor}
    (ends : cursor.current.kind.isTerminator = true) : timeZoneMark cursor = .ok "" cursor := by
  change (if (cursor.peek 1).kind = .identifier "time" ∧ (cursor.peek 2).kind = .identifier "zone"
    then _ else _ : Parser String) cursor = _
  split
  · change (if cursor.current.kind = .keyword .WITH ∨ cursor.current.kind = .identifier "without"
      then _ else _ : Parser String) cursor = _
    rw [if_neg]
    · rfl
    · rintro (mark | mark) <;> rw [mark] at ends <;> cases ends
  · rfl

theorem timeZoneMark_blind : Blind timeZoneMark := by
  intro behind short long cut
  by_cases ends : short.current.kind.isTerminator = true
  · rw [timeZoneMark_of_isTerminator ends,
      timeZoneMark_of_isTerminator (cut.isTerminator_current.trans ends)]
    exact .ok "" cut
  · have goes : short.current.kind.isTerminator = false := Bool.eq_false_iff.mpr ends
    refine Alike.look_look_bind cut (Cursor.goes_one goes) (fun _ => rfl) (fun _ => rfl)
      (fun _ => by simp) ?_
    split
    · next known =>
        obtain ⟨time, zone⟩ := known
        refine Alike.look_bind cut short.goes_zero rfl ?_
        split
        · have second : short.advance.current.kind.isTerminator = false := by
            rw [Cursor.current_advance cut.closed goes]
            exact isTerminator_of_eq time rfl
          refine Alike.advance_bind cut goes fun cutBehind => ?_
          refine Alike.advance_bind cutBehind second fun cutAfter => ?_
          refine Alike.advance_bind cutAfter ?_ fun cut => Blind.pure _ cut
          rw [Cursor.current_advance cutBehind.closed second, Cursor.peek_advance cut.closed goes]
          exact isTerminator_of_eq zone rfl
        · exact Blind.pure _ cut
    · exact Blind.pure _ cut

theorem arrayMark_blind : Blind arrayMark := by
  intro behind short long cut
  refine Alike.first_two_bind cut (fun _ => rfl) (fun _ => rfl) (fun _ => by simp) ?_
  split
  · next known =>
      have goes : short.current.kind.isTerminator = false := isTerminator_of_eq known.1 rfl
      refine Alike.advance_bind cut goes fun cutBehind => ?_
      refine Alike.advance_bind cutBehind ?_ fun cut => Blind.pure _ cut
      rw [Cursor.current_advance cut.closed goes]
      exact isTerminator_of_eq known.2 rfl
  · exact Blind.pure _ cut

theorem dataType_blind : Blind dataType := by
  refine typeName_blind.bind fun name => typeModifiers_blind.bind fun modifiers => ?_
  have zoned (zone : String) : Blind (do
      let brackets ← collect arrayMark
      return (⟨name ++ zone ++ String.join brackets, modifiers⟩ : DataType)) :=
    (Blind.collect arrayMark_moving arrayMark_blind).bind fun _ => Blind.pure _
  dsimp only
  split
  · exact timeZoneMark_blind.bind zoned
  · exact (Blind.pure "").bind zoned

end Names

/-- The rules that nest are blind, and steady. -/
structure Rules.AreBlind (inner : Rules) : Prop where
  steady : inner.AreSteady
  expression : ∀ power, Blind (inner.expression power)
  query : Blind inner.query
  tables : Blind inner.tables

section Expressions

variable {inner : Rules} {behind : List Token} {short long : Cursor}

theorem expressionList_blind (blind : inner.AreBlind) : Blind (expressionList inner) :=
  Blind.separated (blind.steady.expression 0) (blind.expression 0)

theorem parenthesizedExpression_blind (blind : inner.AreBlind) :
    Blind (parenthesizedExpression inner) := by
  refine Blind.parenthesized ((Blind.atKeyword .SELECT).bind fun selects => ?_)
  split
  · exact blind.query.bind fun _ => Blind.pure _
  · exact blind.expression 0

theorem existsTest_blind (blind : inner.AreBlind) : Blind (existsTest inner) :=
  (Blind.expectKeyword .EXISTS).bind fun _ =>
    (Blind.parenthesized blind.query).bind fun _ => Blind.pure _

theorem callArguments_blind (blind : inner.AreBlind) (distinct : Bool) :
    Blind (callArguments inner distinct) := by
  refine (Blind.atSymbol .rightParen rfl).bind fun closes => ?_
  split
  · exact Blind.pure []
  · intro behind short long cut
    refine Alike.atSymbol_bind cut rfl ?_
    split
    · next starred =>
        have star : short.current.kind = .symbol .star :=
          of_decide_eq_true (Bool.and_eq_true_iff.mp starred).2
        exact Alike.advance_bind cut (isTerminator_of_eq star rfl) fun cut =>
          Blind.pure _ cut
    · exact expressionList_blind blind cut

theorem functionCall_blind (blind : inner.AreBlind) (function : ObjectName) :
    Blind (functionCall inner function) :=
  Blind.parenthesized ((Blind.eatKeyword .DISTINCT).bind fun distinct =>
    (callArguments_blind blind distinct).bind fun _ => Blind.pure _)

theorem eatInnerDot_blind : Blind eatInnerDot := by
  intro behind short long cut
  refine Alike.first_two_bind cut (fun _ => rfl) (fun _ => rfl) (fun _ => by simp) ?_
  split
  · exact Blind.eatSymbol .dot rfl cut
  · exact Blind.pure false cut

theorem nameExpression_blind (blind : inner.AreBlind) : Blind (nameExpression inner) := by
  have others : Blind (manyAfter eatInnerDot expectName) :=
    Blind.manyAfter eatInnerDot_moving Taking.expectName.steady eatInnerDot_blind Blind.expectName
  intro behind short long cut
  refine Alike.start_bind fun start startToo => ?_
  refine (Blind.expectName cut).bind fun first short long cut => ?_
  refine (others cut).bind fun parts short long cut => ?_
  refine (Blind.eatSymbol .dot rfl cut).bind fun pointed short long cut => ?_
  split
  · refine (Blind.expectSymbol .star rfl cut).bind fun _ short long cut => ?_
    refine Alike.previousSpan_bind fun span spanToo => ?_
    exact (nameOfParts_alike _ cut _ _).bind fun _ _ _ cut => Blind.pure _ cut
  · refine Alike.previousSpan_bind fun span spanToo => ?_
    refine (Blind.atSymbol .leftParen rfl cut).bind fun called short long cut => ?_
    split
    · exact (nameOfParts_alike _ cut _ _).bind fun function _ _ cut =>
        functionCall_blind blind function cut
    · cases parts with
      | nil => exact Blind.pure _ cut
      | cons second others =>
          exact (nameOfParts_alike _ cut _ _).bind fun _ _ _ cut => Blind.pure _ cut

theorem castExpression_blind (blind : inner.AreBlind) : Blind (castExpression inner) :=
  (Blind.expectKeyword .CAST).bind fun _ => Blind.parenthesized
    ((blind.expression 0).bind fun _ => (Blind.expectKeyword .AS).bind fun _ =>
      dataType_blind.bind fun _ => Blind.pure _)

theorem caseArm_blind (blind : inner.AreBlind) : Blind (caseArm inner) :=
  (blind.expression 0).bind fun _ => (Blind.expectKeyword .THEN).bind fun _ =>
    (blind.expression 0).bind fun _ => Blind.pure _

theorem caseEnd_blind (blind : inner.AreBlind) (subject : Option Expr) (arms : List CaseArm) :
    Blind (caseEnd inner subject arms) :=
  (Blind.optionalAfter .ELSE (blind.expression 0)).bind fun _ =>
    (Blind.expectKeyword .END).bind fun _ => Blind.pure _

theorem caseBehind_blind (blind : inner.AreBlind) (subject : Option Expr) :
    Blind (caseBehind inner subject) := by
  refine (Blind.manyAfter (Moving.eatKeyword .WHEN) (caseArm_steady blind.steady)
    (Blind.eatKeyword .WHEN) (caseArm_blind blind)).bind fun arms => ?_
  dsimp only
  split
  · exact (Blind.unexpected _).bind fun _ => caseEnd_blind blind subject arms
  · exact caseEnd_blind blind subject arms

theorem caseExpression_blind (blind : inner.AreBlind) : Blind (caseExpression inner) := by
  rw [caseExpression_eq]
  refine (Blind.expectKeyword .CASE).bind fun _ => (Blind.atKeyword .WHEN).bind fun direct => ?_
  cases direct with
  | true => exact (Blind.pure none).bind (caseBehind_blind blind)
  | false => exact (blind.expression 0).map.bind (caseBehind_blind blind)

/-- A literal ends no statement. -/
theorem isTerminator_of_literalOf? {kind : TokenKind} {value : Literal}
    (literal : literalOf? kind = some value) : kind.isTerminator = false := by
  cases kind with
  | finish => cases literal
  | symbol mark => cases literal
  | _ => rfl

theorem primary_blind (blind : inner.AreBlind) : Blind (primary inner) := by
  intro behind short long cut
  have named := nameExpression_blind blind
  -- The test is looked for where `EXISTS` comes next, which ends no statement.
  have test (test : short.current.kind = .keyword .EXISTS) : BlindAt behind short long (do
      if (← look 1) = .symbol .leftParen then existsTest inner else nameExpression inner) := by
    refine Alike.look_bind cut (Cursor.goes_one (isTerminator_of_eq test rfl)) rfl ?_
    split
    · exact existsTest_blind blind cut
    · exact named cut
  rw [primary_eq]
  refine Alike.look_bind cut short.goes_zero rfl ?_
  refine primaryBy_cases (BlindAt behind short long) _ ?_ ?_ ?_
    (parenthesizedExpression_blind blind cut) (caseExpression_blind blind cut)
    (castExpression_blind blind cut) test (named cut) (Blind.unexpected _ cut)
  · exact fun value literal =>
      Alike.advance_bind cut (isTerminator_of_literalOf? literal) fun cut => Blind.pure _ cut
  · exact fun number known =>
      Alike.advance_bind cut (isTerminator_of_eq known rfl) fun cut => Blind.pure _ cut
  · exact fun known =>
      Alike.advance_bind cut (isTerminator_of_eq known rfl) fun cut => Blind.pure _ cut

/-- An operator before an operand ends no statement. -/
theorem isTerminator_of_leadingOperator? {kind : TokenKind} {operator : UnaryOperator × Nat}
    (leading : leadingOperator? kind = some operator) : kind.isTerminator = false := by
  unfold leadingOperator? at leading
  split at leading <;> first | rfl | cases leading

theorem operand_blind (blind : inner.AreBlind) : Blind (operand inner) := by
  intro behind short long cut
  refine Alike.look_bind cut short.goes_zero rfl ?_
  split
  · next operator power leading =>
      refine Alike.advance_bind cut (isTerminator_of_leadingOperator? leading) fun cut => ?_
      exact ((blind.expression power).bind fun _ => Blind.pure _) cut
  · exact primary_blind blind cut

/-- A truth value ends no statement. -/
theorem isTerminator_of_truthTest? {negated : Bool} {kind : TokenKind} {operator : UnaryOperator}
    (test : truthTest? negated kind = some operator) : kind.isTerminator = false := by
  unfold truthTest? at test
  split at test <;> first | rfl | cases test

theorem truthSuffix_blind : Blind truthSuffix := by
  refine (Blind.eatKeyword .NOT).bind fun negated behind short long cut => ?_
  refine Alike.look_bind cut short.goes_zero rfl ?_
  split
  · next operator test =>
      exact Alike.advance_bind cut (isTerminator_of_truthTest? test) fun cut => Blind.pure _ cut
  · exact Blind.unexpected _ cut

theorem listSuffix_blind (blind : inner.AreBlind) (negated : Bool) :
    Blind (listSuffix inner negated) := by
  refine Blind.parenthesized ((Blind.atKeyword .SELECT).bind fun selects => ?_)
  split
  · exact blind.query.bind fun _ => Blind.pure _
  · exact (expressionList_blind blind).bind fun _ => Blind.pure _

theorem rangeSuffix_blind (blind : inner.AreBlind) (power : Nat) (negated : Bool) :
    Blind (rangeSuffix inner power negated) :=
  (blind.expression power).bind fun _ => (Blind.expectKeyword .AND).bind fun _ =>
    (blind.expression power).bind fun _ => Blind.pure _

theorem suffixBehind_blind (blind : inner.AreBlind) (power : Nat) (negated : Prop)
    [Decidable negated] (token : Token) : Blind (suffixBehind inner power negated token) := by
  unfold suffixBehind
  split
  · exact truthSuffix_blind
  · exact dataType_blind.bind fun _ => Blind.pure _
  · exact rangeSuffix_blind blind power negated
  · exact listSuffix_blind blind negated
  · exact (blind.expression power).bind fun _ => Blind.pure _
  · exact (blind.expression power).bind fun _ => Blind.pure _
  · split
    · exact (blind.expression power).bind fun _ => Blind.pure _
    · exact Blind.fail _ _

/-- An operator between two operands ends no statement. -/
theorem isTerminator_of_infixPower? {kind : TokenKind} (power : (infixPower? kind).isSome = true) :
    kind.isTerminator = false := by
  unfold infixPower? at power
  split at power <;> first | rfl | cases power

/-- A suffix that starts ahead is read in the same way on both sides. -/
theorem suffix_alike (blind : inner.AreBlind) {found : Nat}
    (starts : suffixPower? (short.peek 0).kind (short.peek 1).kind = some found) (power : Nat)
    (cut : short.Cut long behind) :
    Alike behind (suffix inner power short) (suffix inner power long) := by
  rw [suffix_eq]
  rcases starts_of_suffixPower? starts with ⟨negated, pattern⟩ | known
  · have goes : short.current.kind.isTerminator = false := isTerminator_of_eq negated rfl
    refine Alike.advance_bind cut goes fun cutBehind => ?_
    split
    · refine Alike.advance_bind cutBehind ?_ fun cut => suffixBehind_blind blind power _ _ cut
      rw [Cursor.current_advance cut.closed goes]
      exact isTerminator_of_infixPower? pattern
    · next plain => exact absurd negated plain
  · have goes : short.current.kind.isTerminator = false := by
      rcases known with test | cast | between
      · exact isTerminator_of_eq test rfl
      · exact isTerminator_of_eq cast rfl
      · exact isTerminator_of_infixPower? between
    refine Alike.advance_bind cut goes fun cut => ?_
    split
    · next negated =>
        change (short.peek 0).kind = _ at negated
        rw [negated] at known
        simp [infixPower?] at known
    · exact suffixBehind_blind blind power _ _ cut

theorem nextSuffix_blind (blind : inner.AreBlind) (power : Nat) :
    Blind (nextSuffix inner power) := by
  intro behind short long cut
  refine Alike.first_two_bind cut (fun _ => rfl) (fun _ => rfl) (fun _ => rfl) ?_
  split
  · exact Blind.pure none cut
  · next found starts =>
      split
      · exact (suffix_alike blind starts _ cut).bind fun _ _ _ cut => Blind.pure _ cut
      · exact Blind.pure none cut

theorem operators_blind (blind : inner.AreBlind) (power : Nat) : Blind (operators inner power) :=
  (operand_blind blind).bind fun _ =>
    (Blind.collect (nextSuffix_moving blind.steady power) (nextSuffix_blind blind power)).bind
      fun _ => Blind.pure _

end Expressions

section Queries

variable {inner : Rules}

theorem outputColumn_blind (blind : inner.AreBlind) : Blind (outputColumn inner) :=
  (blind.expression 0).bind fun _ => optionalAlias_blind.bind fun _ => Blind.pure _

theorem outputColumns_blind (blind : inner.AreBlind) : Blind (outputColumns inner) :=
  Blind.separated (outputColumn_steady blind.steady) (outputColumn_blind blind)

theorem joinWords_blind (first : TokenKind) (kind : JoinKind) : Blind (joinWords first kind) := by
  unfold joinWords
  split
  · dsimp only
    split
    · exact (Blind.eatKeyword .OUTER).bind fun _ => Blind.expectKeyword .JOIN
    · exact Blind.expectKeyword .JOIN
  · exact Blind.pure ()

theorem tableFactor_blind (blind : inner.AreBlind) : Blind (tableFactor inner) := by
  refine Blind.choice rfl ?_ ?_
  · refine (Blind.atKeyword .SELECT).bind fun selects => ?_
    split
    · refine blind.query.bind fun query => (Blind.expectSymbol .rightParen rfl).bind fun _ => ?_
      refine optionalAlias_blind.bind fun aliasName? => ?_
      split
      · exact Blind.pure _
      · exact fun _ _ _ _ => Alike.start_bind fun _ _ => Alike.fail
    · exact blind.tables.bind fun _ => (Blind.expectSymbol .rightParen rfl).bind fun _ =>
        Blind.pure _
  · exact objectName_blind.bind fun _ => optionalAlias_blind.bind fun _ => Blind.pure _

theorem joinCondition_blind (blind : inner.AreBlind) (kind : JoinKind) :
    Blind (joinCondition inner kind) := by
  unfold joinCondition
  split
  · exact Blind.pure _
  · refine Blind.choice rfl ((blind.expression 0).bind fun _ => Blind.pure _) ?_
    exact Blind.choice rfl ((Blind.parenthesized nameList_blind).bind fun _ => Blind.pure _)
      (Blind.unexpected _)

/-- The keyword that starts a join ends no statement. -/
theorem isTerminator_of_joinStart? {token : TokenKind} {kind : JoinKind}
    (starts : joinStart? token = some kind) : token.isTerminator = false := by
  unfold joinStart? at starts
  split at starts <;> first | rfl | cases starts

theorem nextJoin_blind (blind : inner.AreBlind) : Blind (nextJoin inner) := by
  intro behind short long cut
  refine Alike.look_bind cut short.goes_zero rfl ?_
  split
  · exact Blind.pure none cut
  · next kind starts =>
      refine Alike.advance_bind cut (isTerminator_of_joinStart? starts) fun cut => ?_
      exact ((joinWords_blind _ kind).bind fun _ => (tableFactor_blind blind).bind fun _ =>
        (joinCondition_blind blind kind).bind fun _ => Blind.pure _) cut

theorem joinedTables_blind (blind : inner.AreBlind) : Blind (joinedTables inner) :=
  (tableFactor_blind blind).bind fun _ =>
    (Blind.collect (nextJoin_moving blind.steady) (nextJoin_blind blind)).bind fun _ =>
      Blind.pure _

theorem tableList_blind (blind : inner.AreBlind) : Blind (tableList inner) :=
  (joinedTables_blind blind).bind fun _ =>
    (Blind.manyAfter (Moving.eatSymbol .comma) (joinedTables_steady blind.steady)
      (Blind.eatSymbol .comma rfl) (joinedTables_blind blind)).bind fun _ => Blind.pure _

theorem sortKey_blind (blind : inner.AreBlind) : Blind (sortKey inner) := by
  have direction : Blind direction :=
    Blind.choice rfl (Blind.pure _) ((Blind.eatKeyword .ASC).bind fun _ => Blind.pure _)
  have nullPlacement : Blind nullPlacement :=
    Blind.choice rfl (Blind.pure _) ((Blind.expectKeyword .LAST).bind fun _ => Blind.pure _)
  exact (blind.expression 0).bind fun _ => direction.bind fun _ =>
    (Blind.optionalAfter .NULLS nullPlacement).bind fun _ => Blind.pure _

theorem listBy_blind {α : Type} (word : Keyword) {item : Parser α} (steady : Steady item)
    (blind : Blind item) : Blind (listBy word item) :=
  Blind.choice rfl ((Blind.expectKeyword .BY).bind fun _ => Blind.separated steady blind)
    (Blind.pure [])

theorem distinctness_blind : Blind distinctness :=
  Blind.choice rfl (Blind.pure true) ((Blind.eatKeyword .ALL).bind fun _ => Blind.pure false)

theorem noSetOperation_blind : Blind noSetOperation := by
  intro behind short long cut
  refine Alike.current_bind cut ?_ ?_
  · split
    · exact Alike.fail
    · exact Alike.fail
    · exact Alike.fail
    · exact Blind.pure () cut
  · intro token tokenToo ends endsToo
    rw [ends, endsToo]
    exact Blind.pure () cut

theorem query_blind (blind : inner.AreBlind) : Blind (query inner) := by
  have expression := blind.expression 0
  have steady := blind.steady.expression 0
  refine (Blind.expectKeyword .SELECT).bind fun _ => distinctness_blind.bind fun _ => ?_
  refine (outputColumns_blind blind).bind fun _ => ?_
  refine (Blind.optionalAfter .FROM (tableList_blind blind)).bind fun _ => ?_
  refine (Blind.optionalAfter .WHERE expression).bind fun _ => ?_
  refine (listBy_blind .GROUP steady expression).bind fun _ => ?_
  refine (Blind.optionalAfter .HAVING expression).bind fun _ => ?_
  refine (listBy_blind .ORDER (sortKey_steady blind.steady) (sortKey_blind blind)).bind fun _ => ?_
  refine (Blind.optionalAfter .LIMIT expression).bind fun _ => ?_
  refine (Blind.optionalAfter .OFFSET expression).bind fun _ => ?_
  exact noSetOperation_blind.bind fun _ => Blind.pure _

theorem tooDeep_blind {α : Type} : Blind (rules.tooDeep : Parser α) := by
  unfold rules.tooDeep
  exact fun _ _ _ _ => Alike.start_bind fun _ _ => Alike.fail

/-- The rules that nest are blind on every level. -/
theorem rules_areBlind (levels : Nat) : (rules levels).AreBlind := by
  induction levels with
  | zero => exact ⟨rules_areSteady 0, fun _ => tooDeep_blind, tooDeep_blind, tooDeep_blind⟩
  | succ levels inductionHypothesis =>
      exact ⟨rules_areSteady (levels + 1), operators_blind inductionHypothesis,
        query_blind inductionHypothesis, joinedTables_blind inductionHypothesis⟩

end Queries

end SqlTree.Grammar
