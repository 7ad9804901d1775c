import SqlTree.Proofs.Grammar.Enclosure
import SqlTree.Proofs.Grammar.SteadyRules

/-!
# Enclosed expressions and queries

Every rule of the grammar is carried over to enclosed tokens, by its parts, and from any number of
levels to any other. No rule that succeeds at the end of its tokens tells a closing parenthesis from
the end of the input. The arguments of a call do, but they fail at the end of the input.
-/

namespace SqlTree.Grammar

open SqlTree.Parser

section Names

variable {behind : List TokenKind} {alone within : Cursor}

/-- A token that is known to be of a kind ends the input only if the kind does. -/
theorem ne_finish_of_eq {found kind : TokenKind} (same : found = kind) (goes : kind ≠ .finish) :
    found ≠ .finish := by
  rwa [same]

/-- The span of a name only shows in a failure. -/
theorem nameOfParts_carried (parts : List String) (enclosed : alone.Enclosed within behind)
    (span spanToo : Span) :
    Carried behind (nameOfParts parts span alone) (nameOfParts parts spanToo within) := by
  unfold nameOfParts
  split
  · exact Carries.pure _ enclosed
  · exact Carries.pure _ enclosed
  · exact Carried.fail

theorem objectName_carries : Carries objectName objectName :=
  Carries.expectName.bind fun _ =>
    Carries.choice (not_closes_symbol nofun) (Carries.expectName.bind fun _ => Carries.pure _)
      (Carries.pure _)

theorem nameList_carries : Carries nameList nameList :=
  Carries.separated Taking.expectName.steady Carries.expectName

theorem optionalAlias_carries : Carries optionalAlias optionalAlias := by
  have name : Carries (do return some (← expectName)) (do return some (← expectName)) :=
    Carries.expectName.bind fun _ => Carries.pure _
  refine Carries.choice (not_closes_keyword .AS) name (Carries.look_bind rfl fun kind => ?_)
  split
  · exact name
  · exact Carries.pure none

theorem typeWord_carries : Carries typeWord typeWord := by
  refine Carries.of_choice TokenKind.name? .dataType rfl fun cursor => ?_
  unfold typeWord
  cases cursor.current.kind.name? <;> rfl

theorem typeName_carries : Carries typeName typeName := by
  refine typeWord_carries.bind fun word => ?_
  have varying : Carries
      (if word = "character" ∨ word = "char" then do
        if ← eatName "varying" then return "character varying" else return word
        else return word)
      (if word = "character" ∨ word = "char" then do
        if ← eatName "varying" then return "character varying" else return word
        else return word) := by
    split
    · exact Carries.choice (not_closes_name _) (Carries.pure _) (Carries.pure _)
    · exact Carries.pure _
  dsimp only
  split
  · exact Carries.choice (not_closes_name _) (Carries.pure _) varying
  · exact varying

theorem plainInteger_carries : Carries plainInteger plainInteger := by
  refine Carries.of_choice plainInteger? .integer rfl fun cursor => ?_
  unfold plainInteger plainInteger?
  cases cursor.current.kind <;> rfl

theorem typeModifiers_carries : Carries typeModifiers typeModifiers :=
  Carries.choice (not_closes_symbol nofun)
    ((Carries.separated plainInteger_taking.steady plainInteger_carries).bind fun _ =>
      (Carries.expectSymbol .rightParen).bind fun _ => Carries.pure _)
    (Carries.pure [])

/-- Where nothing is taken for the word before `TIME ZONE`, there is no mark. -/
theorem timeZoneMark_of_closes {cursor : Cursor} (closes : cursor.current.kind.Closes) :
    timeZoneMark cursor = .ok "" cursor := by
  change (if (cursor.peek 1).kind = .identifier "time" ∧ (cursor.peek 2).kind = .identifier "zone"
    then _ else _ : Parser String) cursor = _
  split
  · change (if cursor.current.kind = .keyword .WITH ∨ cursor.current.kind = .identifier "without"
      then _ else _ : Parser String) cursor = _
    rw [if_neg]
    · rfl
    · rintro (mark | mark) <;> rw [mark] at closes
      · exact not_closes_keyword _ closes
      · exact not_closes_name _ closes
  · rfl

theorem timeZoneMark_carries : Carries timeZoneMark timeZoneMark := by
  intro behind alone within enclosed
  by_cases ends : alone.current.kind = .finish
  · have closes : within.current.kind.Closes := by
      rcases enclosed.current with same | ⟨_, paren⟩
      · exact .inl (same.trans ends)
      · exact .inr paren
    rw [timeZoneMark_of_closes (.inl ends), timeZoneMark_of_closes closes]
    exact .ok "" enclosed
  · refine Carried.look_look_bind enclosed (enclosed.one_le ends) (fun _ => rfl) (fun _ => rfl)
      (fun _ => by simp) ?_
    split
    · next known =>
        obtain ⟨time, zone⟩ := known
        refine Carried.look_bind enclosed (Nat.zero_le _) rfl ?_
        split
        · have second : alone.advance.current.kind ≠ .finish := by
            rw [enclosed.current_advance ends]
            exact ne_finish_of_eq time nofun
          refine Carried.advance_bind enclosed ends fun enclosedBehind => ?_
          refine Carried.advance_bind enclosedBehind second fun enclosedAfter => ?_
          refine Carried.advance_bind enclosedAfter ?_ fun enclosed => Carries.pure _ enclosed
          rw [enclosedBehind.current_advance second,
            Cursor.advance_of_ne enclosed.closed ends, Cursor.peek_past]
          exact ne_finish_of_eq zone nofun
        · exact Carries.pure _ enclosed
    · exact Carries.pure _ enclosed

theorem arrayMark_carries : Carries arrayMark arrayMark := by
  intro behind alone within enclosed
  refine Carried.first_two_bind enclosed (fun _ => rfl) (fun _ => rfl) (fun _ => by simp) ?_
  split
  · next known =>
      have going : alone.current.kind ≠ .finish := ne_finish_of_eq known.1 nofun
      refine Carried.advance_bind enclosed going fun enclosedBehind => ?_
      refine Carried.advance_bind enclosedBehind ?_ fun enclosed => Carries.pure _ enclosed
      rw [enclosed.current_advance going]
      exact ne_finish_of_eq known.2 nofun
  · exact Carries.pure _ enclosed

theorem dataType_carries : Carries dataType dataType := by
  refine typeName_carries.bind fun name => typeModifiers_carries.bind fun modifiers => ?_
  have brackets : Carries (collect arrayMark) (collect arrayMark) :=
    Carries.collect arrayMark_moving arrayMark_carries
  dsimp only
  split
  · exact timeZoneMark_carries.bind fun zone => brackets.bind fun _ => Carries.pure _
  · exact (Carries.pure "").bind fun zone => brackets.bind fun _ => Carries.pure _

end Names

/-- The rules that nest are carried over to other ones. They are steady, and find no expression at
the end of the input. -/
structure Rules.CarriedTo (inner innerToo : Rules) : Prop where
  steady : inner.AreSteady
  noExpression : ∀ power (cursor : Cursor), cursor.current.kind = .finish →
    ∃ failure, inner.expression power cursor = .error failure cursor
  expression : ∀ power, Carries (inner.expression power) (innerToo.expression power)
  query : Carries inner.query innerToo.query
  tables : Carries inner.tables innerToo.tables

section Expressions

variable {inner innerToo : Rules} {behind : List TokenKind} {alone within : Cursor}

theorem expressionList_carries (carried : inner.CarriedTo innerToo) :
    Carries (expressionList inner) (expressionList innerToo) :=
  Carries.separated (carried.steady.expression 0) (carried.expression 0)

theorem parenthesizedExpression_carries (carried : inner.CarriedTo innerToo) :
    Carries (parenthesizedExpression inner) (parenthesizedExpression innerToo) := by
  refine Carries.parenthesized ((Carries.atKeyword .SELECT).bind fun selects => ?_)
  split
  · exact carried.query.bind fun _ => Carries.pure _
  · exact carried.expression 0

theorem existsTest_carries (carried : inner.CarriedTo innerToo) :
    Carries (existsTest inner) (existsTest innerToo) :=
  (Carries.expectKeyword .EXISTS).bind fun _ =>
    (Carries.parenthesized carried.query).bind fun _ => Carries.pure _

/-- A call has no arguments at the end of the input, not even none at all. -/
theorem callArguments_of_finish
    (noExpression : ∀ cursor : Cursor, cursor.current.kind = .finish →
      ∃ failure, inner.expression 0 cursor = .error failure cursor)
    (distinct : Bool) {cursor : Cursor} (ends : cursor.current.kind = .finish) :
    ∃ failure, callArguments inner distinct cursor = .error failure cursor := by
  obtain ⟨failure, failed⟩ := noExpression cursor ends
  have unlisted : expressionList inner cursor = .error failure cursor := bind_of_error failed
  have missed (mark : Symbol) : atSymbol mark cursor = .ok false cursor := by
    change EStateM.Result.ok (decide (cursor.current.kind = .symbol mark)) cursor = _
    rw [ends]
    rfl
  refine ⟨failure, (bind_of_ok (missed .rightParen)).trans ((bind_of_ok (missed .star)).trans ?_)⟩
  rw [Bool.and_false]
  exact unlisted

theorem callArguments_carries (carried : inner.CarriedTo innerToo) (distinct : Bool) :
    Carries (callArguments inner distinct) (callArguments innerToo distinct) := by
  intro behind alone within enclosed
  by_cases ends : alone.current.kind = .finish
  · obtain ⟨failure, failed⟩ := callArguments_of_finish (carried.noExpression 0) distinct ends
    rw [failed]
    exact .failed _ _ _
  · have same := enclosed.current_eq ends
    refine Carried.atSymbol_bind same ?_
    split
    · exact Carries.pure [] enclosed
    · refine Carried.atSymbol_bind same ?_
      split
      · exact Carried.advance_bind enclosed ends fun enclosed => Carries.pure _ enclosed
      · exact expressionList_carries carried enclosed

theorem functionCall_carries (carried : inner.CarriedTo innerToo) (function : ObjectName) :
    Carries (functionCall inner function) (functionCall innerToo function) :=
  Carries.parenthesized ((Carries.eatKeyword .DISTINCT).bind fun distinct =>
    (callArguments_carries carried distinct).bind fun _ => Carries.pure _)

theorem eatInnerDot_carries : Carries eatInnerDot eatInnerDot := by
  intro behind alone within enclosed
  refine Carried.first_two_bind enclosed (fun _ => rfl) (fun _ => rfl) (fun _ => by simp) ?_
  split
  · exact Carries.eatSymbol .dot nofun enclosed
  · exact Carries.pure false enclosed

theorem nameExpression_carries (carried : inner.CarriedTo innerToo) :
    Carries (nameExpression inner) (nameExpression innerToo) := by
  have others : Carries (manyAfter eatInnerDot expectName) (manyAfter eatInnerDot expectName) :=
    Carries.manyAfter eatInnerDot_moving Taking.expectName.steady eatInnerDot_carries
      Carries.expectName
  intro behind alone within enclosed
  refine Carried.current_bind ?_
  refine (Carries.expectName enclosed).bind fun first alone within enclosed => ?_
  refine (others enclosed).bind fun parts alone within enclosed => ?_
  refine (Carries.eatSymbol .dot nofun enclosed).bind fun pointed alone within enclosed => ?_
  split
  · refine (Carries.expectSymbol .star enclosed).bind fun _ alone within enclosed => ?_
    refine Carried.previousSpan_bind fun span spanToo => ?_
    exact (nameOfParts_carried _ enclosed _ _).bind fun _ _ _ enclosed =>
      Carries.pure _ enclosed
  · refine Carried.previousSpan_bind fun span spanToo => ?_
    refine (Carries.atSymbol .leftParen nofun enclosed).bind fun called alone within enclosed => ?_
    split
    · exact (nameOfParts_carried _ enclosed _ _).bind fun function _ _ enclosed =>
        functionCall_carries carried function enclosed
    · cases parts with
      | nil => exact Carries.pure _ enclosed
      | cons second others =>
          exact (nameOfParts_carried _ enclosed _ _).bind fun _ _ _ enclosed =>
            Carries.pure _ enclosed

theorem castExpression_carries (carried : inner.CarriedTo innerToo) :
    Carries (castExpression inner) (castExpression innerToo) :=
  (Carries.expectKeyword .CAST).bind fun _ => Carries.parenthesized
    ((carried.expression 0).bind fun _ => (Carries.expectKeyword .AS).bind fun _ =>
      dataType_carries.bind fun _ => Carries.pure _)

theorem caseArm_carries (carried : inner.CarriedTo innerToo) :
    Carries (caseArm inner) (caseArm innerToo) :=
  (carried.expression 0).bind fun _ => (Carries.expectKeyword .THEN).bind fun _ =>
    (carried.expression 0).bind fun _ => Carries.pure _

theorem caseEnd_carries (carried : inner.CarriedTo innerToo) (subject : Option Expr)
    (arms : List CaseArm) : Carries (caseEnd inner subject arms) (caseEnd innerToo subject arms) :=
  (Carries.optionalAfter .ELSE (carried.expression 0)).bind fun _ =>
    (Carries.expectKeyword .END).bind fun _ => Carries.pure _

theorem caseBehind_carries (carried : inner.CarriedTo innerToo) (subject : Option Expr) :
    Carries (caseBehind inner subject) (caseBehind innerToo subject) := by
  refine (Carries.manyAfter (Moving.eatKeyword .WHEN) (caseArm_steady carried.steady)
    (Carries.eatKeyword .WHEN) (caseArm_carries carried)).bind fun arms => ?_
  dsimp only
  split
  · exact (Carries.unexpected _ _).bind fun _ => caseEnd_carries carried subject arms
  · exact caseEnd_carries carried subject arms

theorem caseExpression_carries (carried : inner.CarriedTo innerToo) :
    Carries (caseExpression inner) (caseExpression innerToo) := by
  rw [caseExpression_eq, caseExpression_eq]
  refine (Carries.expectKeyword .CASE).bind fun _ =>
    (Carries.atKeyword .WHEN).bind fun direct => ?_
  cases direct with
  | true => exact (Carries.pure none).bind (caseBehind_carries carried)
  | false => exact (carried.expression 0).map.bind (caseBehind_carries carried)

theorem primary_carries (carried : inner.CarriedTo innerToo) :
    Carries (primary inner) (primary innerToo) := by
  intro behind alone within enclosed
  have named := nameExpression_carries carried
  rw [primary_eq, primary_eq]
  refine Carried.look_bind enclosed (Nat.zero_le _) rfl ?_
  refine primaryBy_forms (fun read => Carried behind (read inner alone) (read innerToo within)) _
    ?_ ?_ ?_ (parenthesizedExpression_carries carried enclosed)
    (caseExpression_carries carried enclosed) (castExpression_carries carried enclosed) ?_
    (named enclosed) (Carries.unexpected _ _ enclosed)
  · exact fun value literal => Carried.advance_bind enclosed
      (TokenKind.ne_finish_of_some rfl literal) fun enclosed => Carries.pure _ enclosed
  · exact fun number known => Carried.advance_bind enclosed (ne_finish_of_eq known nofun)
      fun enclosed => Carries.pure _ enclosed
  · exact fun known => Carried.advance_bind enclosed (ne_finish_of_eq known nofun)
      fun enclosed => Carries.pure _ enclosed
  · intro known
    -- The test is looked for behind `EXISTS`, which is not the end of the tokens.
    have near : 1 ≤ alone.ahead.length := enclosed.one_le (ne_finish_of_eq known nofun)
    refine Carried.look_bind enclosed near rfl ?_
    split
    · exact existsTest_carries carried enclosed
    · exact named enclosed

theorem operand_carries (carried : inner.CarriedTo innerToo) :
    Carries (operand inner) (operand innerToo) := by
  intro behind alone within enclosed
  refine Carried.look_bind enclosed (Nat.zero_le _) rfl ?_
  cases leading : leadingOperator? (alone.peek 0).kind with
  | some found =>
      have going : alone.current.kind ≠ .finish := TokenKind.ne_finish_of_some rfl leading
      refine Carried.advance_bind enclosed going fun enclosed => ?_
      exact ((carried.expression _).bind fun _ => Carries.pure _) enclosed
  | none => exact primary_carries carried enclosed

theorem truthSuffix_carries : Carries truthSuffix truthSuffix := by
  refine (Carries.eatKeyword .NOT).bind fun negated behind alone within enclosed => ?_
  refine Carried.look_bind enclosed (Nat.zero_le _) rfl ?_
  cases test : truthTest? negated (alone.peek 0).kind with
  | some operator =>
      have going : alone.current.kind ≠ .finish := TokenKind.ne_finish_of_some rfl test
      exact Carried.advance_bind enclosed going fun enclosed => Carries.pure _ enclosed
  | none => exact Carries.unexpected _ _ enclosed

theorem listSuffix_carries (carried : inner.CarriedTo innerToo) (negated : Bool) :
    Carries (listSuffix inner negated) (listSuffix innerToo negated) := by
  refine Carries.parenthesized ((Carries.atKeyword .SELECT).bind fun selects => ?_)
  split
  · exact carried.query.bind fun _ => Carries.pure _
  · exact (expressionList_carries carried).bind fun _ => Carries.pure _

theorem rangeSuffix_carries (carried : inner.CarriedTo innerToo) (power : Nat) (negated : Bool) :
    Carries (rangeSuffix inner power negated) (rangeSuffix innerToo power negated) :=
  (carried.expression power).bind fun _ => (Carries.expectKeyword .AND).bind fun _ =>
    (carried.expression power).bind fun _ => Carries.pure _

/-- The span of an operator only shows in a failure. -/
theorem suffixBehind_carries (carried : inner.CarriedTo innerToo) (power : Nat) (negated : Prop)
    [Decidable negated] {token tokenToo : Token} (same : tokenToo.kind = token.kind) :
    Carries (suffixBehind inner power negated token)
      (suffixBehind innerToo power negated tokenToo) := by
  unfold suffixBehind
  rw [same]
  split
  · exact truthSuffix_carries
  · exact dataType_carries.bind fun _ => Carries.pure _
  · exact rangeSuffix_carries carried power negated
  · exact listSuffix_carries carried negated
  · exact (carried.expression power).bind fun _ => Carries.pure _
  · exact (carried.expression power).bind fun _ => Carries.pure _
  · split
    · exact (carried.expression power).bind fun _ => Carries.pure _
    · exact Carries.fail _ _ _

/-- A suffix that starts ahead is carried. -/
theorem suffix_carried (carried : inner.CarriedTo innerToo) {found : Nat}
    (starts : suffixPower? (alone.peek 0).kind (alone.peek 1).kind = some found) (power : Nat)
    (enclosed : alone.Enclosed within behind) :
    Carried behind (suffix inner power alone) (suffix innerToo power within) := by
  have infixGoes {kind : TokenKind} (between : (infixPower? kind).isSome = true) :
      kind ≠ .finish :=
    TokenKind.ne_finish_of_some rfl (Option.eq_some_of_isSome between)
  have going : alone.current.kind ≠ .finish := by
    rcases starts_of_suffixPower? starts with ⟨negated, _⟩ | test | cast | between
    · exact ne_finish_of_eq negated nofun
    · exact ne_finish_of_eq test nofun
    · exact ne_finish_of_eq cast nofun
    · exact infixGoes between
  have same : within.current.kind = alone.current.kind := enclosed.current_eq going
  rw [suffix_eq, suffix_eq]
  refine Carried.advance_bind enclosed going fun enclosedBehind => ?_
  rw [same]
  split
  · next negated =>
      have second : alone.advance.current.kind ≠ .finish := by
        rw [enclosed.current_advance going]
        rcases starts_of_suffixPower? starts with ⟨_, pattern⟩ | known
        · exact infixGoes pattern
        · rw [show (alone.peek 0).kind = _ from negated] at known
          simp [infixPower?] at known
      refine Carried.advance_bind enclosedBehind second fun enclosed => ?_
      exact suffixBehind_carries carried power _ (enclosedBehind.current_eq second) enclosed
  · exact suffixBehind_carries carried power _ same enclosedBehind

theorem nextSuffix_carries (carried : inner.CarriedTo innerToo) (power : Nat) :
    Carries (nextSuffix inner power) (nextSuffix innerToo power) := by
  intro behind alone within enclosed
  refine Carried.first_two_bind enclosed (fun _ => rfl) (fun _ => rfl) (fun _ => rfl) ?_
  cases starts : suffixPower? (alone.peek 0).kind (alone.peek 1).kind with
  | none => exact Carries.pure none enclosed
  | some found =>
      by_cases tight : power ≤ found
      · simp only [if_pos tight]
        exact (suffix_carried carried starts _ enclosed).bind fun _ _ _ enclosed =>
          Carries.pure _ enclosed
      · simp only [if_neg tight]
        exact Carries.pure none enclosed

theorem operators_carries (carried : inner.CarriedTo innerToo) (power : Nat) :
    Carries (operators inner power) (operators innerToo power) :=
  (operand_carries carried).bind fun _ =>
    (Carries.collect (nextSuffix_moving carried.steady power)
      (nextSuffix_carries carried power)).bind fun _ => Carries.pure _

end Expressions

section Queries

variable {inner innerToo : Rules}

theorem outputColumn_carries (carried : inner.CarriedTo innerToo) :
    Carries (outputColumn inner) (outputColumn innerToo) :=
  (carried.expression 0).bind fun _ => optionalAlias_carries.bind fun _ => Carries.pure _

theorem outputColumns_carries (carried : inner.CarriedTo innerToo) :
    Carries (outputColumns inner) (outputColumns innerToo) :=
  Carries.separated (outputColumn_steady carried.steady) (outputColumn_carries carried)

theorem joinWords_carries (first : TokenKind) (kind : JoinKind) :
    Carries (joinWords first kind) (joinWords first kind) := by
  unfold joinWords
  split
  · dsimp only
    split
    · exact (Carries.eatKeyword .OUTER).bind fun _ => Carries.expectKeyword .JOIN
    · exact Carries.expectKeyword .JOIN
  · exact Carries.pure ()

theorem tableFactor_carries (carried : inner.CarriedTo innerToo) :
    Carries (tableFactor inner) (tableFactor innerToo) := by
  refine Carries.choice (not_closes_symbol nofun) ?_ ?_
  · refine (Carries.atKeyword .SELECT).bind fun selects => ?_
    split
    · refine carried.query.bind fun query => (Carries.expectSymbol .rightParen).bind fun _ => ?_
      refine optionalAlias_carries.bind fun aliasName? => ?_
      split
      · exact Carries.pure _
      · exact fun _ _ _ _ => Carried.current_bind Carried.fail
    · exact carried.tables.bind fun _ => (Carries.expectSymbol .rightParen).bind fun _ =>
        Carries.pure _
  · exact objectName_carries.bind fun _ => optionalAlias_carries.bind fun _ => Carries.pure _

theorem joinCondition_carries (carried : inner.CarriedTo innerToo) (kind : JoinKind) :
    Carries (joinCondition inner kind) (joinCondition innerToo kind) := by
  unfold joinCondition
  split
  · exact Carries.pure _
  · refine Carries.choice (not_closes_keyword .ON)
      ((carried.expression 0).bind fun _ => Carries.pure _) ?_
    exact Carries.choice (not_closes_keyword .USING)
      ((Carries.parenthesized nameList_carries).bind fun _ => Carries.pure _)
      (Carries.unexpected _ _)

theorem nextJoin_carries (carried : inner.CarriedTo innerToo) :
    Carries (nextJoin inner) (nextJoin innerToo) := by
  intro behind alone within enclosed
  refine Carried.look_bind enclosed (Nat.zero_le _) rfl ?_
  cases starts : joinStart? (alone.peek 0).kind with
  | none => exact Carries.pure none enclosed
  | some kind =>
      have going : alone.current.kind ≠ .finish := TokenKind.ne_finish_of_some rfl starts
      refine Carried.advance_bind enclosed going fun enclosedBehind => ?_
      rw [enclosed.current_eq going]
      exact ((joinWords_carries _ kind).bind fun _ => (tableFactor_carries carried).bind fun _ =>
        (joinCondition_carries carried kind).bind fun _ => Carries.pure _) enclosedBehind

theorem joinedTables_carries (carried : inner.CarriedTo innerToo) :
    Carries (joinedTables inner) (joinedTables innerToo) :=
  (tableFactor_carries carried).bind fun _ =>
    (Carries.collect (nextJoin_moving carried.steady) (nextJoin_carries carried)).bind fun _ =>
      Carries.pure _

theorem tableList_carries (carried : inner.CarriedTo innerToo) :
    Carries (tableList inner) (tableList innerToo) :=
  (joinedTables_carries carried).bind fun _ =>
    (Carries.manyAfter (Moving.eatSymbol .comma) (joinedTables_steady carried.steady)
      (Carries.eatSymbol .comma nofun) (joinedTables_carries carried)).bind fun _ =>
        Carries.pure _

theorem sortKey_carries (carried : inner.CarriedTo innerToo) :
    Carries (sortKey inner) (sortKey innerToo) := by
  have direction : Carries direction direction :=
    Carries.choice (not_closes_keyword .DESC) (Carries.pure _)
      ((Carries.eatKeyword .ASC).bind fun _ => Carries.pure _)
  have nullPlacement : Carries nullPlacement nullPlacement :=
    Carries.choice (not_closes_keyword .FIRST) (Carries.pure _)
      ((Carries.expectKeyword .LAST).bind fun _ => Carries.pure _)
  exact (carried.expression 0).bind fun _ => direction.bind fun _ =>
    (Carries.optionalAfter .NULLS nullPlacement).bind fun _ => Carries.pure _

theorem listBy_carries {α : Type} (word : Keyword) {item other : Parser α} (steady : Steady item)
    (carries : Carries item other) : Carries (listBy word item) (listBy word other) :=
  Carries.choice (not_closes_keyword word)
    ((Carries.expectKeyword .BY).bind fun _ => Carries.separated steady carries) (Carries.pure [])

theorem distinctness_carries : Carries distinctness distinctness :=
  Carries.choice (not_closes_keyword .DISTINCT) (Carries.pure true)
    ((Carries.eatKeyword .ALL).bind fun _ => Carries.pure false)

theorem noSetOperation_carries : Carries noSetOperation noSetOperation := by
  apply Carries.current_bind
  · intro token tokenToo same
    rw [same]
    split
    · exact Carries.fail _ _ _
    · exact Carries.fail _ _ _
    · exact Carries.fail _ _ _
    · exact Carries.pure ()
  · intro token tokenToo ends paren
    rw [ends, paren]
    exact Carries.pure ()

theorem query_carries (carried : inner.CarriedTo innerToo) :
    Carries (query inner) (query innerToo) := by
  have expression := carried.expression 0
  have steady := carried.steady.expression 0
  refine (Carries.expectKeyword .SELECT).bind fun _ => distinctness_carries.bind fun _ => ?_
  refine (outputColumns_carries carried).bind fun _ => ?_
  refine (Carries.optionalAfter .FROM (tableList_carries carried)).bind fun _ => ?_
  refine (Carries.optionalAfter .WHERE expression).bind fun _ => ?_
  refine (listBy_carries .GROUP steady expression).bind fun _ => ?_
  refine (Carries.optionalAfter .HAVING expression).bind fun _ => ?_
  refine (listBy_carries .ORDER (sortKey_steady carried.steady)
    (sortKey_carries carried)).bind fun _ => ?_
  refine (Carries.optionalAfter .LIMIT expression).bind fun _ => ?_
  refine (Carries.optionalAfter .OFFSET expression).bind fun _ => ?_
  exact noSetOperation_carries.bind fun _ => Carries.pure _

/-- No expression starts at the end of the input, on any level. -/
theorem expression_of_finish (levels power : Nat) {cursor : Cursor}
    (ends : cursor.current.kind = .finish) :
    ∃ failure, (rules levels).expression power cursor = .error failure cursor := by
  cases levels with
  | zero => exact ⟨_, rfl⟩
  | succ levels =>
      have looked (next : TokenKind → Parser Expr) :
          (look 0 >>= next) cursor = next .finish cursor := by
        change next cursor.current.kind cursor = _
        rw [ends]
      have failed : operand (rules levels) cursor = (unexpected .expression : Parser Expr) cursor :=
        (looked _).trans (looked _)
      exact ⟨_, bind_of_error failed⟩

/-- The rules on any level are carried over to those on any other. -/
theorem rules_carriedTo (levels levelsToo : Nat) : (rules levels).CarriedTo (rules levelsToo) := by
  induction levels generalizing levelsToo with
  | zero =>
      have fails {α : Type} {other : Parser α} : Carries rules.tooDeep other :=
        fun _ _ _ _ => .failed _ _ _
      exact ⟨rules_areSteady 0, fun power _ => expression_of_finish 0 power, fun _ => fails, fails,
        fails⟩
  | succ levels inductionHypothesis =>
      have steady := rules_areSteady (levels + 1)
      have noExpression (power : Nat) (cursor : Cursor) (ends : cursor.current.kind = .finish) :=
        expression_of_finish (levels + 1) power ends
      cases levelsToo with
      | zero =>
          have deep {α : Type} {parser : Parser α} : Carries parser rules.tooDeep :=
            fun _ _ _ _ => Carried.of_deep _ _
          exact ⟨steady, noExpression, fun _ => deep, deep, deep⟩
      | succ levelsToo =>
          have carried := inductionHypothesis levelsToo
          exact ⟨steady, noExpression, operators_carries carried, query_carries carried,
            joinedTables_carries carried⟩

end Queries

end SqlTree.Grammar
