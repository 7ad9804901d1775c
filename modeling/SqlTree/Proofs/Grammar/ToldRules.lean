import SqlTree.Proofs.Grammar.Alternatives
import SqlTree.Proofs.Grammar.Telling

/-!
# Names, expressions and queries tell their tokens

Every rule takes its tokens for the parts of the tree that it makes, in their order, and for words
between them. The rules that nest do so level by level.
-/

namespace SqlTree.Grammar

open SqlTree.Parser

section Names

/-- The parts of a name are told where the name is put together. -/
theorem nameOfParts_reports (parts : List String) (span : Span) :
    Reports (nameOfParts parts span) fun object told =>
      told = [] ∧ object.roles = parts.map .name := by
  unfold nameOfParts
  split
  · exact Reports.pure ⟨rfl, rfl⟩
  · exact Reports.pure ⟨rfl, rfl⟩
  · exact Reports.fail

theorem objectName_tells : Tells objectName ObjectName.roles :=
  Tells.expectName.bind fun _ =>
    Tells.choice rfl (Tells.expectName.bind fun _ => Reports.pure rfl) (Reports.pure rfl)

theorem nameList_tells : Tells nameList fun names => names.map .name :=
  Tells.expectName.separated_parts

theorem optionalAlias_tells : Tells optionalAlias aliasRoles := by
  have name : Tells (do return some (← expectName)) aliasRoles :=
    Tells.expectName.bind fun _ => Reports.pure rfl
  refine Tells.choice rfl name ((Tells.look 0).bind fun kind => ?_)
  split
  · exact name
  · exact Reports.pure rfl

theorem typeWord_tells : Tells typeWord fun word => [.type word] := by
  refine Tells.of_choice TokenKind.name? .dataType (fun _ => rfl) (fun kind word named => ?_)
    fun cursor => ?_
  · exact ⟨word, named, List.prefix_rfl⟩
  · unfold typeWord
    cases cursor.current.kind.name? <;> rfl

/-- The name of a data type starts with its first word. -/
theorem typeName_reports : Reports typeName fun name told =>
    ∃ word : String, told = [.type word] ∧ word.toList <+: name.toList := by
  have later {text : String} (known : text ∈ typeWords) : Tells (eatName text) fun _ => [] :=
    Tells.eatAs Role.typeWord rfl ⟨text, known, rfl⟩
  refine Tells.bind typeWord_tells fun word => ?_
  have itself : Reports (pure word) fun name told => ∃ first : String,
      [Role.type word] ++ told = [Role.type first] ∧ first.toList <+: name.toList :=
    Reports.pure ⟨word, rfl, List.prefix_rfl⟩
  have varying : Reports (if word = "character" ∨ word = "char" then do
      if ← eatName "varying" then return "character varying" else return word
      else return word) fun name told => ∃ first : String,
        [Role.type word] ++ told = [Role.type first] ∧ first.toList <+: name.toList := by
    split
    · next character =>
        refine (later (by decide)).bind fun found => ?_
        cases found with
        | true =>
            refine Reports.pure ⟨word, rfl, ?_⟩
            rcases character with rfl | rfl <;> decide
        | false => exact itself
    · exact itself
  dsimp only
  split
  · next double =>
      refine (later (by decide)).bind fun found => ?_
      cases found with
      | true =>
          subst double
          exact Reports.pure ⟨"double", rfl, by decide⟩
      | false => exact varying
  · exact varying

theorem plainInteger_tells : Tells plainInteger fun value => [.modifier value] := by
  refine Tells.of_choice plainInteger? .integer (fun _ => rfl) (fun kind value chosen => ?_)
    fun cursor => ?_
  · cases kind <;> cases chosen
    rfl
  · unfold plainInteger plainInteger?
    cases cursor.current.kind <;> rfl

theorem typeModifiers_tells : Tells typeModifiers fun modifiers => modifiers.map .modifier :=
  Tells.choice rfl
    (plainInteger_tells.separated_parts.bind fun _ =>
      (Tells.expectSymbol .rightParen).bind fun _ => Reports.pure (List.append_nil _))
    (Reports.pure rfl)

/-- The words of a time zone have a fixed spelling. -/
theorem timeZoneMark_tells : Tells timeZoneMark fun _ => [] := by
  intro cursor
  refine TellsAt.look_bind (TellsAt.look_bind ?_)
  split
  · next words =>
      refine TellsAt.look_bind ?_
      split
      · next mark =>
          have behind : TellsAt (do
              let _ ← advance
              let _ ← advance
              return if (cursor.peek 0).kind = .keyword .WITH then " with time zone"
                else " without time zone" : Parser String) (cursor.past 1)
              fun _ told => told = [] := by
            refine TellsAt.advance_bind .typeWord ⟨"time", by decide, ?_⟩ ?_
            · rw [Cursor.current_past]
              exact words.1
            · refine TellsAt.advance_bind .typeWord ⟨"zone", by decide, ?_⟩ (TellsAt.pure rfl)
              rw [Cursor.current_past, Cursor.peek_past]
              exact words.2
          rcases mark with withZone | without
          · exact TellsAt.advance_bind .word (congrArg TokenKind.isWord withZone) behind
          · exact TellsAt.advance_bind .typeWord ⟨"without", by decide, without⟩ behind
      · exact TellsAt.pure rfl
  · exact TellsAt.pure rfl

theorem arrayMark_tells : Tells arrayMark fun _ => [] := by
  intro cursor
  refine TellsAt.look_bind (TellsAt.look_bind ?_)
  split
  · next brackets =>
      refine TellsAt.advance_word (congrArg TokenKind.isWord brackets.1) ?_
      refine TellsAt.advance_word ?_ (TellsAt.pure rfl)
      rw [Cursor.current_past]
      exact congrArg TokenKind.isWord brackets.2
  · exact TellsAt.pure rfl

/-- A data type is told by its whole name where its first word stands. -/
theorem dataType_tells : Tells dataType DataType.roles := by
  apply Tells.of_recasts
  refine Reports.bind typeName_reports ?_
  rintro name _ ⟨word, rfl, starts⟩
  refine Tells.bind typeModifiers_tells fun modifiers => ?_
  have zoned (zone : String) : Reports (do
      let brackets ← collect arrayMark
      return (⟨name ++ zone ++ String.join brackets, modifiers⟩ : DataType)) fun type told =>
      List.Forall₂ Role.Recasts ([Role.type word] ++ (modifiers.map .modifier ++ told))
        type.roles := by
    refine arrayMark_tells.collect_nothing.bind fun brackets => Reports.pure ?_
    have longer : word.toList <+: (name ++ zone ++ String.join brackets).toList := by
      rw [String.toList_append, String.toList_append, List.append_assoc]
      exact starts.trans (List.prefix_append _ _)
    rw [List.append_nil, List.append_nil]
    exact .cons (Role.Recasts.type longer) (Role.Recasts.refl_all _)
  dsimp only
  split
  · exact Tells.bind timeZoneMark_tells zoned
  · have none : Tells (pure "" : Parser String) fun _ => [] := Reports.pure rfl
    exact none.bind zoned

end Names

/-- The rules that nest tell their tokens. -/
structure Rules.Tell (inner : Rules) : Prop where
  expression : ∀ power, Tells (inner.expression power) Expr.roles
  query : Tells inner.query Select.roles
  tables : Tells inner.tables TableRef.roles

section Expressions

variable {inner : Rules}

theorem expressionList_tells (tell : inner.Tell) : Tells (expressionList inner) expressionRoles :=
  (tell.expression 0).separated.weaken fun list _ listed =>
    listed.trans (expressionRoles_eq list).symm

theorem parenthesizedExpression_tells (tell : inner.Tell) :
    Tells (parenthesizedExpression inner) Expr.roles := by
  refine Tells.parenthesized ((Tells.atKeyword .SELECT).bind fun selects => ?_)
  split
  · exact Reports.returned tell.query
  · exact tell.expression 0

/-- A test for rows is a call of a function that is named by its keyword. -/
theorem existsTest_tells (tell : inner.Tell) : Tells (existsTest inner) Expr.roles := by
  have named : Tells (expectKeyword .EXISTS) fun _ => [.name "exists"] :=
    Tells.expectAs (.name "exists") (.keyword .EXISTS) rfl rfl (.keyword .EXISTS)
  have query : Tells (parenthesized inner.query) Select.roles := Tells.parenthesized tell.query
  exact named.bind fun _ => query.bind fun query => Reports.pure rfl

theorem callArguments_tells (tell : inner.Tell) (distinct : Bool) :
    Tells (callArguments inner distinct) expressionRoles := by
  refine (Tells.atSymbol .rightParen).bind fun closes => ?_
  split
  · exact Reports.pure rfl
  · intro cursor
    refine TellsAt.atSymbol_bind ?_
    split
    · next starred =>
        have star : cursor.current.kind = .symbol .star :=
          of_decide_eq_true (Bool.and_eq_true_iff.mp starred).2
        exact TellsAt.advance_bind (.leaf (.reference none "*")) (star ▸ .star none)
          (TellsAt.pure rfl)
    · exact expressionList_tells tell cursor

theorem functionCall_reports (tell : inner.Tell) (function : ObjectName) :
    Reports (functionCall inner function) fun expression told =>
      expression.roles = function.roles ++ told := by
  refine Tells.parenthesized ((Tells.eat rfl).bind fun distinct => ?_)
  refine (callArguments_tells tell distinct).bind fun arguments => Reports.pure ?_
  simp [Expr.roles]

theorem eatInnerDot_tells : Tells eatInnerDot fun _ => [] := by
  refine (Tells.look 0).bind fun _ => (Tells.look 1).bind fun _ => ?_
  split
  · exact Tells.eatSymbol .dot
  · exact Reports.pure rfl

theorem dropLast_append_getLastD {names : List String} (nonempty : names ≠ []) (other : String) :
    names.dropLast ++ [names.getLastD other] = names := by
  rw [List.getLastD_eq_getLast?, List.getLast?_eq_some_getLast nonempty, Option.getD_some,
    List.dropLast_append_getLast nonempty]

/-- Where a name turns out to be a column, its last part is told as the reference. -/
theorem nameExpression_tells (tell : inner.Tell) : Tells (nameExpression inner) Expr.roles := by
  apply Tells.of_recasts
  refine Tells.current.bind fun start => Tells.expectName.bind fun first => ?_
  refine (Tells.manyAfter eatInnerDot_tells Tells.expectName).bind fun others => ?_
  have parts (told : List Role) :
      [] ++ ([Role.name first] ++ (others.flatMap (fun name => [Role.name name]) ++ told))
        = (first :: others).map .name ++ told := by
    simp [List.map_eq_flatMap]
  simp only [parts]
  refine Tells.choice rfl ?_ (Tells.previousSpan.bind fun stop => ?_)
  · have star : Tells (expectSymbol .star) fun _ => [.leaf (.reference none "*")] :=
      Tells.expectAs (.leaf (.reference none "*")) (.symbol .star) rfl (.star none) (.symbol .star)
    refine star.bind fun _ => Tells.previousSpan.bind fun stop => ?_
    refine (nameOfParts_reports (first :: others) _).bind ?_
    rintro table _ ⟨rfl, same⟩
    apply Reports.pure
    simp only [Expr.roles, Option.toList_some, List.flatMap_singleton, same]
    exact List.rel_append (Role.Recasts.refl_all _)
      (.cons (Role.Recasts.qualifier none (some table) "*") .nil)
  · refine (Tells.atSymbol .leftParen).bind fun called => ?_
    split
    · refine (nameOfParts_reports (first :: others) _).bind ?_
      rintro function _ ⟨rfl, same⟩
      refine (functionCall_reports tell function).weaken fun expression told listed => ?_
      rw [listed, same]
      exact Role.Recasts.refl_all _
    · cases others with
      | nil => exact Reports.pure (.cons (Role.Recasts.column first none) .nil)
      | cons second others =>
          refine (nameOfParts_reports (first :: second :: others).dropLast _).bind ?_
          rintro table _ ⟨rfl, same⟩
          apply Reports.pure
          have last := dropLast_append_getLastD (List.cons_ne_nil first (second :: others)) first
          have listed : (first :: second :: others).map Role.name
              = table.roles ++ [Role.name ((first :: second :: others).getLastD first)] := by
            rw [same, ← List.map_singleton, ← List.map_append, last]
          simp only [listed, List.append_nil, Expr.roles, Option.toList_some,
            List.flatMap_singleton]
          exact List.rel_append (Role.Recasts.refl_all _)
            (.cons (Role.Recasts.column _ (some table)) .nil)

theorem castExpression_tells (tell : inner.Tell) : Tells (castExpression inner) Expr.roles := by
  refine (Tells.expectKeyword .CAST rfl).bind fun _ => Tells.parenthesized ?_
  refine (tell.expression 0).bind fun operand => (Tells.expectKeyword .AS rfl).bind fun _ => ?_
  exact Tells.bind dataType_tells fun target => Reports.pure (by simp [Expr.roles])

theorem caseArm_tells (tell : inner.Tell) : Tells (caseArm inner) CaseArm.roles := by
  refine (tell.expression 0).bind fun condition => (Tells.expectKeyword .THEN rfl).bind fun _ => ?_
  exact (tell.expression 0).bind fun result => Reports.pure (by simp [CaseArm.roles])

theorem caseBehind_reports (tell : inner.Tell) (subject : Option Expr) :
    Reports (caseBehind inner subject) fun expression told =>
      expression.roles = expressionRoles? subject ++ told := by
  refine (Tells.manyAfter (Tells.eat rfl) (caseArm_tells tell)).bind fun arms => ?_
  have ends : Reports (caseEnd inner subject arms) fun expression told => expression.roles
      = expressionRoles? subject ++ (arms.flatMap CaseArm.roles ++ told) := by
    refine ((tell.expression 0).optionalAfter .ELSE rfl).bind fun otherwise => ?_
    refine (Tells.expectKeyword .END rfl).bind fun _ => Reports.pure ?_
    simp [Expr.roles, armRoles_eq, expressionRoles?_eq]
  dsimp only
  split
  · exact Reports.unexpected.bind fun _ _ (absurd : False) => absurd.elim
  · exact ends

theorem caseExpression_tells (tell : inner.Tell) : Tells (caseExpression inner) Expr.roles := by
  rw [caseExpression_eq]
  refine (Tells.expectKeyword .CASE rfl).bind fun _ => (Tells.atKeyword .WHEN).bind fun direct => ?_
  have subject {parser : Parser (Option Expr)} (tells : Tells parser expressionRoles?) :
      Tells (parser >>= caseBehind inner) Expr.roles :=
    tells.bind fun subject => (caseBehind_reports tell subject).weaken fun _ _ listed => listed.symm
  cases direct with
  | true => exact subject (Reports.pure rfl)
  | false =>
      apply subject
      exact Reports.map (tell.expression 0)

theorem isSpelledBy_of_literalOf? {kind : TokenKind} {value : Literal}
    (literal : literalOf? kind = some value) : (Node.literal value).IsSpelledBy kind := by
  cases kind with
  | integer written =>
      cases literal
      exact .integer written
  | numeric written =>
      cases literal
      exact .numeric written
  | string written =>
      cases literal
      exact .string written
  | keyword word => cases word <;> cases literal <;> constructor
  | _ => cases literal

theorem primary_tells (tell : inner.Tell) : Tells (primary inner) Expr.roles := by
  intro cursor
  rw [primary_eq]
  refine TellsAt.look_bind ?_
  refine primaryBy_cases (fun parser => TellsAt parser cursor fun expression told =>
      told = expression.roles) (cursor.peek 0).kind (fun value literal => ?_)
    (fun number parameter => ?_) (fun star => ?_) (parenthesizedExpression_tells tell cursor)
    (caseExpression_tells tell cursor) (castExpression_tells tell cursor) (fun _ => ?_)
    (nameExpression_tells tell cursor) TellsAt.unexpected
  · exact TellsAt.advance_bind (.leaf (.literal value)) (isSpelledBy_of_literalOf? literal)
      (TellsAt.pure rfl)
  · have spelled : (Node.parameter (parameterName number)).IsSpelledBy cursor.current.kind := by
      rw [Cursor.current, parameter]
      exact .parameter number
    exact TellsAt.advance_bind (.leaf (.parameter (parameterName number))) spelled
      (TellsAt.pure rfl)
  · have spelled : (Node.reference none "*").IsSpelledBy cursor.current.kind := by
      rw [Cursor.current, star]
      exact .star none
    exact TellsAt.advance_bind (.leaf (.reference none "*")) spelled (TellsAt.pure rfl)
  · refine TellsAt.look_bind ?_
    split
    · exact existsTest_tells tell cursor
    · exact nameExpression_tells tell cursor

/-- An operator before its operand is a word, and no test. -/
theorem isWord_of_leadingOperator? {kind : TokenKind} {operator : UnaryOperator} {power : Nat}
    (leads : leadingOperator? kind = some (operator, power)) :
    kind.isWord = true ∧ operator.roles = [] := by
  unfold leadingOperator? at leads
  split at leads <;> cases leads <;> exact ⟨rfl, rfl⟩

theorem operand_tells (tell : inner.Tell) : Tells (operand inner) Expr.roles := by
  intro cursor
  refine TellsAt.look_bind ?_
  split
  · next operator power leads =>
      obtain ⟨isWord, noTest⟩ := isWord_of_leadingOperator? leads
      refine TellsAt.advance_word isWord ?_
      have behind : Tells (do return .unary operator (← inner.expression power) : Parser Expr)
          Expr.roles :=
        (tell.expression power).bind fun operand => Reports.pure (by simp [Expr.roles, noTest])
      exact behind _
  · exact primary_tells tell cursor

/-- The parts of a suffix. -/
def Suffix.roles : Suffix → List Role
  | .unary operator => operator.roles
  | .cast target => target.roles
  | .binary _ right => right.roles
  | .ternary _ low high => low.roles ++ high.roles
  | .inList list _ => expressionRoles list

/-- The parts of a suffix stand behind those of its operand. -/
theorem Suffix.roles_applyTo (suffix : Suffix) (operand : Expr) :
    (suffix.applyTo operand).roles = operand.roles ++ suffix.roles := by
  cases suffix <;> simp [Suffix.applyTo, Expr.roles, Suffix.roles]

theorem Suffix.roles_foldl (suffixes : List Suffix) (operand : Expr) :
    (suffixes.foldl (fun left suffix => suffix.applyTo left) operand).roles
      = operand.roles ++ suffixes.flatMap Suffix.roles := by
  induction suffixes generalizing operand with
  | nil => simp
  | cons suffix suffixes inductionHypothesis =>
      rw [List.foldl_cons, inductionHypothesis, Suffix.roles_applyTo, List.flatMap_cons,
        List.append_assoc]

theorem truthTest?_roles {negated : Bool} {kind : TokenKind} {operator : UnaryOperator}
    (tests : truthTest? negated kind = some operator) : operator.roles = [.test operator] := by
  unfold truthTest? at tests
  split at tests <;> cases tests <;> cases negated <;> rfl

theorem truthSuffix_tells : Tells truthSuffix Suffix.roles := by
  refine (Tells.eat rfl).bind fun negated cursor => TellsAt.look_bind ?_
  split
  · next operator tests =>
      exact TellsAt.advance_bind (.test operator) ⟨negated, tests⟩
        (TellsAt.pure (truthTest?_roles tests).symm)
  · exact TellsAt.unexpected

theorem listSuffix_tells (tell : inner.Tell) (negated : Bool) :
    Tells (listSuffix inner negated) Suffix.roles := by
  refine Tells.parenthesized ((Tells.atKeyword .SELECT).bind fun selects => ?_)
  split
  · refine tell.query.bind fun query => Reports.pure ?_
    simp [Suffix.roles, expressionRoles, Expr.roles]
  · exact Reports.returned (expressionList_tells tell)

theorem rangeSuffix_tells (tell : inner.Tell) (power : Nat) (negated : Bool) :
    Tells (rangeSuffix inner power negated) Suffix.roles := by
  refine (tell.expression power).bind fun low => (Tells.expectKeyword .AND rfl).bind fun _ => ?_
  exact (tell.expression power).bind fun high => Reports.pure (by simp [Suffix.roles])

theorem suffixBehind_tells (tell : inner.Tell) (power : Nat) (negated : Prop) [Decidable negated]
    (token : Token) : Tells (suffixBehind inner power negated token) Suffix.roles := by
  have binary (operator : BinaryOperator) : Tells (do
      return .binary operator (← inner.expression power)) Suffix.roles :=
    Reports.returned (tell.expression power)
  unfold suffixBehind
  split
  · exact truthSuffix_tells
  · exact Reports.returned dataType_tells
  · exact rangeSuffix_tells tell power negated
  · exact listSuffix_tells tell negated
  · exact binary _
  · exact binary _
  · split
    · exact binary _
    · exact Reports.fail

theorem isWord_of_infixPower? {kind : TokenKind} (power : (infixPower? kind).isSome = true) :
    kind.isWord = true := by
  unfold infixPower? at power
  split at power <;> first | rfl | cases power

/-- The token of an operator is a word, and so is the `NOT` before it. -/
theorem suffix_tellsAt (tell : inner.Tell) (power : Nat) {cursor : Cursor} {found : Nat}
    (starts : suffixPower? (cursor.peek 0).kind (cursor.peek 1).kind = some found) :
    TellsAt (suffix inner power) cursor fun suffix told => told = suffix.roles := by
  have behind (negated : Prop) [Decidable negated] (token : Token) (cursor : Cursor) :
      TellsAt (suffixBehind inner power negated token) cursor fun suffix told =>
        told = suffix.roles :=
    suffixBehind_tells tell power negated token cursor
  rw [suffix_eq]
  by_cases negated : cursor.current.kind = .keyword .NOT
  · refine TellsAt.advance_word (congrArg TokenKind.isWord negated) ?_
    rw [if_pos negated]
    refine TellsAt.advance_word ?_ (behind _ _ _)
    rw [Cursor.current_past]
    rcases starts_of_suffixPower? starts with ⟨_, infix'⟩ | same | same | infix'
    · exact isWord_of_infixPower? infix'
    · exact absurd (same.symm.trans negated) nofun
    · exact absurd (same.symm.trans negated) nofun
    · rw [show (cursor.peek 0).kind = .keyword .NOT from negated] at infix'
      cases infix'
  · refine TellsAt.advance_word ?_ ?_
    · rcases starts_of_suffixPower? starts with ⟨same, _⟩ | same | same | infix'
      · exact absurd same negated
      · exact congrArg TokenKind.isWord same
      · exact congrArg TokenKind.isWord same
      · exact isWord_of_infixPower? infix'
    · rw [if_neg negated, pure_bind]
      exact behind _ _ _

theorem nextSuffix_tells (tell : inner.Tell) (power : Nat) :
    Tells (nextSuffix inner power) fun found => found.toList.flatMap Suffix.roles := by
  intro cursor
  refine TellsAt.look_bind (TellsAt.look_bind ?_)
  split
  · exact TellsAt.pure rfl
  · next found starts =>
      split
      · refine (suffix_tellsAt tell _ starts).bind ?_
        rintro suffix _ taken rfl
        exact TellsAt.pure (by simp)
      · exact TellsAt.pure rfl

theorem operators_tells (tell : inner.Tell) (power : Nat) :
    Tells (operators inner power) Expr.roles :=
  (operand_tells tell).bind fun operand =>
    (nextSuffix_tells tell power).collect.bind fun suffixes =>
      Reports.pure (by simp [Suffix.roles_foldl])

end Expressions

section Queries

variable {inner : Rules}

theorem outputColumns_tells (tell : inner.Tell) : Tells (outputColumns inner) columnRoles := by
  have column : Tells (outputColumn inner) OutputColumn.roles :=
    (tell.expression 0).bind fun value => Tells.bind optionalAlias_tells fun aliasName =>
      Reports.pure (by simp [OutputColumn.roles])
  exact column.separated.weaken fun columns _ listed => listed.trans (columnRoles_eq columns).symm

theorem joinWords_tells (first : TokenKind) (kind : JoinKind) :
    Tells (joinWords first kind) fun _ => [] := by
  have join : Tells (expectKeyword .JOIN) fun _ => [] := Tells.expectKeyword .JOIN rfl
  unfold joinWords
  split
  · dsimp only
    split
    · exact (Tells.eat rfl).bind fun _ => join
    · exact join
  · exact Reports.pure rfl

theorem tableFactor_tells (tell : inner.Tell) : Tells (tableFactor inner) TableRef.roles := by
  refine Tells.choice rfl ?_ ?_
  · refine (Tells.atKeyword .SELECT).bind fun selects => ?_
    split
    · refine tell.query.bind fun query => (Tells.expectSymbol .rightParen).bind fun _ => ?_
      refine Tells.bind optionalAlias_tells fun found => ?_
      split
      · exact Reports.pure (by simp [TableRef.roles, aliasRoles])
      · exact Tells.current.bind fun _ => Reports.fail
    · exact tell.tables.bind fun tables => (Tells.expectSymbol .rightParen).bind fun _ =>
        Reports.pure (List.append_nil _)
  · exact Tells.bind objectName_tells fun name => Tells.bind optionalAlias_tells fun aliasName =>
      Reports.pure (by simp [TableRef.roles])

theorem joinCondition_tells (tell : inner.Tell) (kind : JoinKind) :
    Tells (joinCondition inner kind) fun matched =>
      expressionRoles? matched.1 ++ matched.2.map .name := by
  unfold joinCondition
  split
  · exact Reports.pure rfl
  · refine Tells.choice rfl ?_ (Tells.choice rfl ?_ Reports.unexpected)
    · exact (tell.expression 0).bind fun condition => Reports.pure (by simp [expressionRoles?])
    · have columns : Tells (parenthesized nameList) fun names => names.map .name :=
        Tells.parenthesized nameList_tells
      exact columns.bind fun columns => Reports.pure (by simp [expressionRoles?])

theorem isWord_of_joinStart? {kind : TokenKind} {join : JoinKind}
    (starts : joinStart? kind = some join) : kind.isWord = true := by
  unfold joinStart? at starts
  split at starts <;> first | rfl | cases starts

theorem nextJoin_tells (tell : inner.Tell) :
    Tells (nextJoin inner) fun found => found.toList.flatMap JoinClause.roles := by
  intro cursor
  refine TellsAt.look_bind ?_
  split
  · exact TellsAt.pure rfl
  · next kind starts =>
      refine TellsAt.advance_word (isWord_of_joinStart? starts) ((?behind : Reports _ _) _)
      refine (joinWords_tells _ _).bind fun _ => (tableFactor_tells tell).bind fun table => ?_
      refine (joinCondition_tells tell kind).bind fun matched => Reports.pure ?_
      simp [JoinClause.roles]

/-- The parts of joins stand behind those of the table that they join. -/
theorem TableRef.roles_joins (clauses : List JoinClause) (table : TableRef) :
    (clauses.foldl .join table).roles = table.roles ++ clauses.flatMap JoinClause.roles := by
  induction clauses generalizing table with
  | nil => simp
  | cons clause clauses inductionHypothesis =>
      rw [List.foldl_cons, inductionHypothesis, TableRef.roles, List.flatMap_cons,
        List.append_assoc]

theorem joinedTables_tells (tell : inner.Tell) : Tells (joinedTables inner) TableRef.roles :=
  (tableFactor_tells tell).bind fun table => (nextJoin_tells tell).collect.bind fun clauses =>
    Reports.pure (by simp [TableRef.roles_joins])

theorem tableList_tells (tell : inner.Tell) : Tells (tableList inner) TableRef.roles := by
  refine (joinedTables_tells tell).bind fun first => ?_
  refine (Tells.manyAfter (Tells.eatSymbol .comma) (joinedTables_tells tell)).bind fun others => ?_
  apply Reports.pure
  rw [← List.foldl_map (f := fun table => JoinClause.mk .cross table none []) (g := TableRef.join),
    TableRef.roles_joins]
  simp [List.flatMap_map, JoinClause.roles, expressionRoles?]

theorem direction_tells : Tells direction fun _ => [] :=
  Tells.choice rfl (Reports.pure rfl) ((Tells.eat rfl).bind fun _ => Reports.pure rfl)

theorem nullPlacement_tells : Tells nullPlacement fun _ => [] :=
  Tells.choice rfl (Reports.pure rfl)
    ((Tells.expectKeyword .LAST rfl).bind fun _ => Reports.pure rfl)

theorem sortKey_tells (tell : inner.Tell) : Tells (sortKey inner) SortKey.roles := by
  refine (tell.expression 0).bind fun key => Tells.bind direction_tells fun _ => ?_
  refine (nullPlacement_tells.optionalAfter .NULLS rfl).bind fun _ => Reports.pure ?_
  simp [SortKey.roles]

theorem listBy_tells {α : Type} (word : Keyword) (isWord : (TokenKind.keyword word).isWord = true)
    {item : Parser α} {listing : α → List Role} (each : Tells item listing) :
    Tells (listBy word item) fun values => values.flatMap listing :=
  Tells.choice isWord ((Tells.expectKeyword .BY rfl).bind fun _ => each.separated)
    (Reports.pure rfl)

theorem distinctness_tells : Tells distinctness fun _ => [] :=
  Tells.choice rfl (Reports.pure rfl) ((Tells.eat rfl).bind fun _ => Reports.pure rfl)

theorem noSetOperation_tells : Tells noSetOperation fun _ => [] := by
  refine Tells.current.bind fun token => ?_
  split
  · exact Reports.fail
  · exact Reports.fail
  · exact Reports.fail
  · exact Reports.pure rfl

theorem query_tells (tell : inner.Tell) : Tells (query inner) Select.roles := by
  have expression := tell.expression 0
  refine (Tells.expectKeyword .SELECT rfl).bind fun _ => Tells.bind distinctness_tells fun _ => ?_
  refine (outputColumns_tells tell).bind fun columns => ?_
  refine ((tableList_tells tell).optionalAfter .FROM rfl).bind fun source => ?_
  refine (expression.optionalAfter .WHERE rfl).bind fun filter => ?_
  refine (listBy_tells .GROUP rfl expression).bind fun groupBy => ?_
  refine (expression.optionalAfter .HAVING rfl).bind fun having => ?_
  refine (listBy_tells .ORDER rfl (sortKey_tells tell)).bind fun orderBy => ?_
  refine (expression.optionalAfter .LIMIT rfl).bind fun limit => ?_
  refine (expression.optionalAfter .OFFSET rfl).bind fun offset => ?_
  refine Tells.bind noSetOperation_tells fun _ => Reports.pure ?_
  simp [Select.roles, tableRoles?_eq, expressionRoles?_eq, expressionRoles_eq, sortKeyRoles_eq]

/-- The rules that nest tell their tokens on every level. -/
theorem rules_tell (levels : Nat) : (rules levels).Tell := by
  induction levels with
  | zero =>
      have tooDeep {α : Type} {listing : α → List Role} : Tells rules.tooDeep listing :=
        Tells.current.bind fun _ => Reports.fail
      exact ⟨fun _ => tooDeep, tooDeep, tooDeep⟩
  | succ levels inductionHypothesis =>
      exact ⟨operators_tells inductionHypothesis, query_tells inductionHypothesis,
        joinedTables_tells inductionHypothesis⟩

end Queries

end SqlTree.Grammar
