import SqlTree.Proofs.Grammar.SetOperations

/-!
# Candour of the grammar of expressions and queries

Every rule of the grammar is candid, by its parts. A query is met where it starts: it is read up to
the check on set operations, and that check is the one place below a statement where a construct is
refused as not modelled.
-/

namespace SqlTree.Grammar

open SqlTree.Parser

section Names

theorem nameOfParts_candid (parts : List String) (span : Span) :
    Candid (nameOfParts parts span) := by
  unfold nameOfParts
  split
  · exact Candid.pure _
  · exact Candid.pure _
  · exact Candid.fail rfl

theorem objectName_candid : Candid objectName :=
  Candid.expectName.bind fun _ =>
    (Candid.eatSymbol .dot).choice (Candid.expectName.bind fun _ => Candid.pure _) (Candid.pure _)

theorem nameList_candid : Candid nameList := Candid.expectName.separated

theorem optionalAlias_candid : Candid optionalAlias := by
  have name : Candid (do return some (← expectName)) :=
    Candid.expectName.bind fun _ => Candid.pure _
  refine (Candid.eatKeyword .AS nofun).choice name (Candid.read_bind fun kind => ?_)
  split
  · exact name
  · exact Candid.pure none

theorem ifExists_candid : Candid ifExists := by
  refine Candid.read_bind fun first => Candid.read_bind fun second => ?_
  split
  · exact (Candid.expectKeyword .IF nofun).bind fun _ =>
      (Candid.expectKeyword .EXISTS nofun).bind fun _ => Candid.pure true
  · exact Candid.pure false

theorem ifNotExists_candid : Candid ifNotExists := by
  refine Candid.read_bind fun first => Candid.read_bind fun second => ?_
  split
  · exact (Candid.expectKeyword .IF nofun).bind fun _ =>
      (Candid.expectKeyword .NOT nofun).bind fun _ =>
        (Candid.expectKeyword .EXISTS nofun).bind fun _ => Candid.pure true
  · exact Candid.pure false

/-- What stands for a name is no `SELECT`. -/
theorem ne_select_of_name? {kind : TokenKind} {name : String} (named : kind.name? = some name) :
    kind ≠ .keyword .SELECT := by
  rintro rfl
  cases named

theorem typeWord_candid : Candid typeWord := by
  refine Candid.of_choice TokenKind.name? .dataType
    (fun _ _ named => ⟨isPlain_of_name? named, ne_select_of_name? named⟩) fun cursor => ?_
  unfold typeWord
  cases cursor.current.kind.name? <;> rfl

theorem typeName_candid : Candid typeName := by
  refine typeWord_candid.bind fun word => ?_
  have varying : Candid (if word = "character" ∨ word = "char" then do
      if ← eatName "varying" then return "character varying" else return word
      else return word) := by
    split
    · exact (Candid.eatName "varying").choice (Candid.pure _) (Candid.pure _)
    · exact Candid.pure _
  dsimp only
  split
  · exact (Candid.eatName "precision").choice (Candid.pure _) varying
  · exact varying

theorem plainInteger_candid : Candid plainInteger := by
  refine Candid.of_choice plainInteger? .integer (fun kind value chosen => ?_) fun cursor => ?_
  · cases kind with
    | integer number => exact ⟨rfl, nofun⟩
    | _ => cases chosen
  · unfold plainInteger plainInteger?
    cases cursor.current.kind <;> rfl

theorem typeModifiers_candid : Candid typeModifiers :=
  (Candid.eatSymbol .leftParen).choice
    (plainInteger_candid.separated.bind fun _ =>
      (Candid.expectSymbol .rightParen).bind fun _ => Candid.pure _)
    (Candid.pure [])

/-- A token that is known to be of a kind is passed if the kind may be and is no `SELECT`. -/
theorem advance_candidAt {β : Type} {cursor : Cursor} {kind : TokenKind} {next : Token → Parser β}
    (known : cursor.current.kind = kind) (plain : kind.isPlain = true)
    (other : kind ≠ .keyword .SELECT) (after : CandidAt (next cursor.current) (cursor.past 1)) :
    CandidAt (advance >>= next) cursor :=
  CandidAt.advance_bind (known ▸ plain) (known ▸ other) after

theorem timeZoneMark_candid : Candid timeZoneMark := by
  intro cursor
  refine CandidAt.read_bind (CandidAt.read_bind ?_)
  split
  · next known =>
      obtain ⟨time, zone⟩ := known
      have second : (cursor.past 1).current.kind = .identifier "time" := by
        rwa [Cursor.current_past]
      have third : ((cursor.past 1).past 1).current.kind = .identifier "zone" := by
        rwa [Cursor.past_past, Cursor.current_past]
      refine CandidAt.read_bind ?_
      split
      · next mark =>
          have behind (text : String) : CandidAt (do
              let _ ← advance
              let _ ← advance
              return text) (cursor.past 1) :=
            advance_candidAt second rfl nofun
              (advance_candidAt third rfl nofun (Candid.pure text _))
          rcases mark with mark | mark
          · exact advance_candidAt mark rfl nofun (behind _)
          · exact advance_candidAt mark rfl nofun (behind _)
      · exact Candid.pure _ _
  · exact Candid.pure _ _

theorem arrayMark_candid : Candid arrayMark := by
  intro cursor
  refine CandidAt.read_bind (CandidAt.read_bind ?_)
  split
  · next known =>
      have second : (cursor.past 1).current.kind = .symbol .rightBracket := by
        rw [Cursor.current_past]
        exact known.2
      exact advance_candidAt known.1 rfl nofun
        (advance_candidAt second rfl nofun (Candid.pure _ _))
  · exact Candid.pure _ _

theorem dataType_candid : Candid dataType := by
  refine typeName_candid.bind fun name => typeModifiers_candid.bind fun modifiers => ?_
  have zoned (zone : String) : Candid (do
      let brackets ← collect arrayMark
      return (⟨name ++ zone ++ String.join brackets, modifiers⟩ : DataType)) :=
    arrayMark_candid.collect.bind fun _ => Candid.pure _
  dsimp only
  split
  · exact timeZoneMark_candid.bind zoned
  · exact (Candid.pure "").bind zoned

end Names

/-- The rules that nest are candid. -/
structure Rules.AreCandid (inner : Rules) : Prop where
  expression : ∀ power, Candid (inner.expression power)
  query : Candid inner.query
  tables : Candid inner.tables

section Expressions

variable {inner : Rules}

theorem expressionList_candid (candid : inner.AreCandid) : Candid (expressionList inner) :=
  (candid.expression 0).separated

theorem parenthesizedExpression_candid (candid : inner.AreCandid) :
    Candid (parenthesizedExpression inner) := by
  refine Candid.parenthesized (Candid.read_bind fun selects => ?_)
  split
  · exact candid.query.bind fun _ => Candid.pure _
  · exact candid.expression 0

theorem existsTest_candid (candid : inner.AreCandid) : Candid (existsTest inner) :=
  (Candid.expectKeyword .EXISTS nofun).bind fun _ => candid.query.parenthesized.bind fun _ =>
    Candid.pure _

theorem callArguments_candid (candid : inner.AreCandid) (distinct : Bool) :
    Candid (callArguments inner distinct) := by
  refine Candid.read_bind fun closes => ?_
  split
  · exact Candid.pure []
  · intro cursor
    refine CandidAt.read_bind ?_
    split
    · next starred =>
        have star : cursor.current.kind = .symbol .star :=
          of_decide_eq_true (Bool.and_eq_true_iff.mp starred).2
        exact advance_candidAt star rfl nofun (Candid.pure _ _)
    · exact expressionList_candid candid _

theorem functionCall_candid (candid : inner.AreCandid) (function : ObjectName) :
    Candid (functionCall inner function) :=
  Candid.parenthesized ((Candid.eatKeyword .DISTINCT nofun).bind fun distinct =>
    (callArguments_candid candid distinct).bind fun _ => Candid.pure _)

theorem eatInnerDot_candid : Candid eatInnerDot := by
  refine Candid.read_bind fun first => Candid.read_bind fun second => ?_
  split
  · exact Candid.eatSymbol .dot
  · exact Candid.pure false

theorem nameExpression_candid (candid : inner.AreCandid) : Candid (nameExpression inner) := by
  refine Candid.read_bind fun start => Candid.expectName.bind fun first => ?_
  refine (eatInnerDot_candid.manyAfter Candid.expectName).bind fun others => ?_
  refine (Candid.eatSymbol .dot).choice ?_ ?_
  · exact (Candid.expectSymbol .star).bind fun _ => Candid.read_bind fun _ =>
      (nameOfParts_candid _ _).bind fun _ => Candid.pure _
  · refine Candid.read_bind fun stop => Candid.read_bind fun called => ?_
    split
    · exact (nameOfParts_candid _ _).bind fun function => functionCall_candid candid function
    · split
      · exact Candid.pure _
      · exact (nameOfParts_candid _ _).bind fun _ => Candid.pure _

theorem castExpression_candid (candid : inner.AreCandid) : Candid (castExpression inner) :=
  (Candid.expectKeyword .CAST nofun).bind fun _ => Candid.parenthesized
    ((candid.expression 0).bind fun _ => (Candid.expectKeyword .AS nofun).bind fun _ =>
      dataType_candid.bind fun _ => Candid.pure _)

theorem caseArm_candid (candid : inner.AreCandid) : Candid (caseArm inner) :=
  (candid.expression 0).bind fun _ => (Candid.expectKeyword .THEN nofun).bind fun _ =>
    (candid.expression 0).bind fun _ => Candid.pure _

theorem caseEnd_candid (candid : inner.AreCandid) (subject : Option Expr) (arms : List CaseArm) :
    Candid (caseEnd inner subject arms) :=
  ((candid.expression 0).optionalAfter .ELSE nofun).bind fun _ =>
    (Candid.expectKeyword .END nofun).bind fun _ => Candid.pure _

theorem caseBehind_candid (candid : inner.AreCandid) (subject : Option Expr) :
    Candid (caseBehind inner subject) := by
  refine ((Candid.eatKeyword .WHEN nofun).manyAfter (caseArm_candid candid)).bind fun arms => ?_
  dsimp only
  split
  · exact Candid.unexpected.bind fun _ => caseEnd_candid candid subject arms
  · exact caseEnd_candid candid subject arms

theorem caseExpression_candid (candid : inner.AreCandid) : Candid (caseExpression inner) := by
  rw [caseExpression_eq]
  refine (Candid.expectKeyword .CASE nofun).bind fun _ => Candid.read_bind fun direct => ?_
  split
  · exact (Candid.pure none).bind (caseBehind_candid candid)
  · exact (candid.expression 0).map.bind (caseBehind_candid candid)

theorem primary_candid (candid : inner.AreCandid) : Candid (primary inner) := by
  intro cursor
  have named := nameExpression_candid candid
  have test : Candid (do
      if (← look 1) = .symbol .leftParen then existsTest inner else nameExpression inner) := by
    refine Candid.read_bind fun next => ?_
    split
    · exact existsTest_candid candid
    · exact named
  rw [primary_eq]
  refine CandidAt.read_bind ?_
  refine primaryBy_cases (fun parser => CandidAt parser cursor) _ ?_ ?_ ?_
    (parenthesizedExpression_candid candid cursor) (caseExpression_candid candid cursor)
    (castExpression_candid candid cursor) (fun _ => test cursor) (named cursor)
    (Candid.unexpected cursor)
  · intro value literal
    refine CandidAt.advance_bind (isPlain_of_literalOf? literal) (fun known => ?_)
      (Candid.pure _ _)
    change (cursor.peek 0).kind = _ at known
    rw [known] at literal
    cases literal
  · exact fun number known => advance_candidAt known rfl nofun (Candid.pure _ _)
  · exact fun known => advance_candidAt known rfl nofun (Candid.pure _ _)

theorem operand_candid (candid : inner.AreCandid) : Candid (operand inner) := by
  intro cursor
  refine CandidAt.read_bind ?_
  split
  · next operator power leading =>
      refine CandidAt.advance_bind (isPlain_of_leadingOperator? leading) (fun known => ?_) ?_
      · change (cursor.peek 0).kind = _ at known
        rw [known] at leading
        cases leading
      · exact ((candid.expression power).bind fun _ => Candid.pure _) _
  · exact primary_candid candid cursor

theorem truthSuffix_candid : Candid truthSuffix := by
  refine (Candid.eatKeyword .NOT nofun).bind fun negated => fun cursor => ?_
  refine CandidAt.read_bind ?_
  split
  · next operator test =>
      refine CandidAt.advance_bind (isPlain_of_truthTest? test) (fun known => ?_)
        (Candid.pure _ _)
      change (cursor.peek 0).kind = _ at known
      rw [known] at test
      cases negated <;> cases test
  · exact Candid.unexpected _

theorem listSuffix_candid (candid : inner.AreCandid) (negated : Bool) :
    Candid (listSuffix inner negated) := by
  refine Candid.parenthesized (Candid.read_bind fun selects => ?_)
  split
  · exact candid.query.bind fun _ => Candid.pure _
  · exact (expressionList_candid candid).bind fun _ => Candid.pure _

theorem rangeSuffix_candid (candid : inner.AreCandid) (power : Nat) (negated : Bool) :
    Candid (rangeSuffix inner power negated) :=
  (candid.expression power).bind fun _ => (Candid.expectKeyword .AND nofun).bind fun _ =>
    (candid.expression power).bind fun _ => Candid.pure _

theorem suffixBehind_candid (candid : inner.AreCandid) (power : Nat) (negated : Prop)
    [Decidable negated] (token : Token) :
    Candid (suffixBehind inner power negated token) := by
  unfold suffixBehind
  split
  · exact truthSuffix_candid
  · exact dataType_candid.bind fun _ => Candid.pure _
  · exact rangeSuffix_candid candid power negated
  · exact listSuffix_candid candid negated
  · exact (candid.expression power).bind fun _ => Candid.pure _
  · exact (candid.expression power).bind fun _ => Candid.pure _
  · split
    · exact (candid.expression power).bind fun _ => Candid.pure _
    · exact Candid.fail rfl

/-- An operator between two operands is no `SELECT`. -/
theorem ne_select_of_infixPower? {kind : TokenKind} (power : (infixPower? kind).isSome = true) :
    kind ≠ .keyword .SELECT := by
  rintro rfl
  cases power

theorem suffix_candidAt (candid : inner.AreCandid) {cursor : Cursor} {found : Nat}
    (starts : suffixPower? (cursor.peek 0).kind (cursor.peek 1).kind = some found) (power : Nat) :
    CandidAt (suffix inner power) cursor := by
  rw [suffix_eq]
  rcases starts_of_suffixPower? starts with ⟨negated, pattern⟩ | known
  · refine advance_candidAt negated rfl nofun ?_
    split
    · have second : (infixPower? (cursor.past 1).current.kind).isSome = true := by
        rwa [Cursor.current_past]
      refine CandidAt.advance_bind (isPlain_of_infixPower? second)
        (ne_select_of_infixPower? second) ?_
      exact suffixBehind_candid candid power _ _ _
    · next plain => exact absurd negated plain
  · have passed : cursor.current.kind.isPlain = true ∧
        cursor.current.kind ≠ .keyword .SELECT := by
      change (cursor.peek 0).kind.isPlain = true ∧ (cursor.peek 0).kind ≠ .keyword .SELECT
      rcases known with test | cast | between
      · simp [test, TokenKind.isPlain]
      · simp [cast, TokenKind.isPlain]
      · exact ⟨isPlain_of_infixPower? between, ne_select_of_infixPower? between⟩
    refine CandidAt.advance_bind passed.1 passed.2 ?_
    split
    · next negated =>
        change (cursor.peek 0).kind = _ at negated
        rw [negated] at known
        simp [infixPower?] at known
    · exact suffixBehind_candid candid power _ _ _

theorem nextSuffix_candid (candid : inner.AreCandid) (power : Nat) :
    Candid (nextSuffix inner power) := by
  intro cursor
  refine CandidAt.read_bind (CandidAt.read_bind ?_)
  split
  · exact Candid.pure _ _
  · next found starts =>
      split
      · exact (suffix_candidAt candid starts _).bind fun _ _ => Candid.pure _ _
      · exact Candid.pure _ _

theorem operators_candid (candid : inner.AreCandid) (power : Nat) :
    Candid (operators inner power) :=
  (operand_candid candid).bind fun _ => (nextSuffix_candid candid power).collect.bind fun _ =>
    Candid.pure _

end Expressions

section Queries

variable {inner : Rules}

theorem outputColumns_candid (candid : inner.AreCandid) : Candid (outputColumns inner) :=
  ((candid.expression 0).bind fun _ => optionalAlias_candid.bind fun _ =>
    Candid.pure _ : Candid (outputColumn inner)).separated

theorem joinWords_candid (first : TokenKind) (kind : JoinKind) :
    Candid (joinWords first kind) := by
  unfold joinWords
  split
  · dsimp only
    split
    · exact (Candid.eatKeyword .OUTER nofun).bind fun _ => Candid.expectKeyword .JOIN nofun
    · exact Candid.expectKeyword .JOIN nofun
  · exact Candid.pure ()

theorem tableFactor_candid (candid : inner.AreCandid) : Candid (tableFactor inner) := by
  refine (Candid.eatSymbol .leftParen).choice (Candid.read_bind fun selects => ?_) ?_
  · split
    · refine candid.query.bind fun query => (Candid.expectSymbol .rightParen).bind fun _ => ?_
      refine optionalAlias_candid.bind fun aliasName? => ?_
      split
      · exact Candid.pure _
      · exact Candid.read_bind fun _ => Candid.fail rfl
    · exact candid.tables.bind fun _ => (Candid.expectSymbol .rightParen).bind fun _ =>
        Candid.pure _
  · exact objectName_candid.bind fun _ => optionalAlias_candid.bind fun _ => Candid.pure _

theorem joinCondition_candid (candid : inner.AreCandid) (kind : JoinKind) :
    Candid (joinCondition inner kind) := by
  unfold joinCondition
  split
  · exact Candid.pure _
  · refine (Candid.eatKeyword .ON nofun).choice
      ((candid.expression 0).bind fun _ => Candid.pure _) ?_
    exact (Candid.eatKeyword .USING nofun).choice
      (nameList_candid.parenthesized.bind fun _ => Candid.pure _) Candid.unexpected

theorem nextJoin_candid (candid : inner.AreCandid) : Candid (nextJoin inner) := by
  intro cursor
  refine CandidAt.read_bind ?_
  split
  · exact Candid.pure _ _
  · next kind starts =>
      refine CandidAt.advance_bind (isPlain_of_joinStart? starts) (fun known => ?_) ?_
      · change (cursor.peek 0).kind = _ at known
        rw [known] at starts
        cases starts
      · exact ((joinWords_candid _ kind).bind fun _ => (tableFactor_candid candid).bind fun _ =>
          (joinCondition_candid candid kind).bind fun _ => Candid.pure _) _

theorem joinedTables_candid (candid : inner.AreCandid) : Candid (joinedTables inner) :=
  (tableFactor_candid candid).bind fun _ => (nextJoin_candid candid).collect.bind fun _ =>
    Candid.pure _

theorem tableList_candid (candid : inner.AreCandid) : Candid (tableList inner) :=
  (joinedTables_candid candid).bind fun _ =>
    ((Candid.eatSymbol .comma).manyAfter (joinedTables_candid candid)).bind fun _ => Candid.pure _

theorem sortKey_candid (candid : inner.AreCandid) : Candid (sortKey inner) := by
  have direction : Candid direction :=
    (Candid.eatKeyword .DESC nofun).choice (Candid.pure _)
      ((Candid.eatKeyword .ASC nofun).bind fun _ => Candid.pure _)
  have nullPlacement : Candid nullPlacement :=
    (Candid.eatKeyword .FIRST nofun).choice (Candid.pure _)
      ((Candid.expectKeyword .LAST nofun).bind fun _ => Candid.pure _)
  exact (candid.expression 0).bind fun _ => direction.bind fun _ =>
    (nullPlacement.optionalAfter .NULLS nofun).bind fun _ => Candid.pure _

theorem listBy_candid {α : Type} (word : Keyword) (other : word ≠ .SELECT) {item : Parser α}
    (candid : Candid item) : Candid (listBy word item) :=
  (Candid.eatKeyword word other).choice
    ((Candid.expectKeyword .BY nofun).bind fun _ => candid.separated) (Candid.pure [])

theorem distinctness_candid : Candid distinctness :=
  (Candid.eatKeyword .DISTINCT nofun).choice (Candid.pure true)
    ((Candid.eatKeyword .ALL nofun).bind fun _ => Candid.pure false)

theorem selectClauses_candid (candid : inner.AreCandid) : Candid (selectClauses inner) := by
  have expression := candid.expression 0
  refine distinctness_candid.bind fun _ => (outputColumns_candid candid).bind fun _ => ?_
  refine ((tableList_candid candid).optionalAfter .FROM nofun).bind fun _ => ?_
  refine (expression.optionalAfter .WHERE nofun).bind fun _ => ?_
  refine (listBy_candid .GROUP nofun expression).bind fun _ => ?_
  refine (expression.optionalAfter .HAVING nofun).bind fun _ => ?_
  refine (listBy_candid .ORDER nofun (sortKey_candid candid)).bind fun _ => ?_
  refine (expression.optionalAfter .LIMIT nofun).bind fun _ => ?_
  exact (expression.optionalAfter .OFFSET nofun).bind fun _ => Candid.pure _

/-- What is refused behind some tokens is refused behind them from before them, too. -/
theorem isSetOperation_past {cursor stop : Cursor} {failure : Failure} {count : Nat}
    (refused : IsSetOperation (cursor.past count) failure stop) :
    IsSetOperation cursor failure stop := by
  obtain ⟨places, levels, body, word, read, rest⟩ := refused
  rw [Cursor.past_past] at read
  exact ⟨count + places, levels, body, word, read, rest⟩

/-- A query that starts with its word fails where its body fails, and else only at a set
operation behind the body. -/
theorem query_settles {levels : Nat} {cursor : Cursor} {outcome : Except Failure Select}
    {stop : Cursor} (read : selectBody (rules levels) cursor = settled outcome stop)
    (supported : ∀ failure, outcome = .error failure → failure.cause.isUnsupported = true →
      IsSetOperation cursor failure stop) :
    ∃ result, query (rules levels) cursor = settled result stop ∧
      (∀ failure, outcome = .error failure → result = .error failure) ∧
      ∀ failure, result = .error failure → failure.cause.isUnsupported = true →
        IsSetOperation cursor failure stop := by
  rw [query_eq]
  cases outcome with
  | error failure =>
      exact ⟨.error failure, bind_of_error read, fun _ same => by rw [← Except.error.inj same],
        supported⟩
  | ok body =>
      rcases noSetOperation_cases stop with passed | ⟨word, found, operation, refused⟩
      · refine ⟨.ok body, (bind_of_ok read).trans (bind_of_ok passed), ?_, ?_⟩
        · exact fun _ failed => by cases failed
        · exact fun _ failed => by cases failed
      · refine ⟨.error _, (bind_of_ok read).trans (bind_of_error refused), ?_, ?_⟩
        · exact fun _ failed => by cases failed
        · rintro _ ⟨⟩ _
          rw [← cursor.past_zero] at read
          exact ⟨0, levels, body, word, read, found, operation, rfl⟩

theorem query_candid {levels : Nat} (candid : (rules levels).AreCandid) :
    Candid (query (rules levels)) := by
  intro cursor
  by_cases starts : cursor.current.kind = .keyword .SELECT
  · intro closed
    obtain ⟨outcome, taken, confesses⟩ := selectClauses_candid candid (cursor.past 1) closed
    have opened := expectKeyword_of_eq closed starts
    have read : selectBody (rules levels) cursor
        = settled outcome (cursor.past (1 + taken)) := by
      rw [selectBody, bind_of_ok opened, confesses.run, Cursor.past_past]
    obtain ⟨result, run, fails, refused⟩ := query_settles read fun failure failed unsupported => by
      have behind := confesses.refused failure failed unsupported
      rw [Cursor.past_past] at behind
      exact isSetOperation_past behind
    refine ⟨result, 1 + taken, run, fun places bound starts => ?_, refused⟩
    cases places with
    | zero =>
        rw [Cursor.past_zero]
        refine ⟨levels, ?_⟩
        cases result with
        | ok body => exact .inl ⟨body, _, run⟩
        | error failure => exact .inr ⟨failure, rfl, run⟩
    | succ places =>
        have behind := confesses.queries places (by omega)
        rw [Cursor.peek_past, Cursor.past_past, Cursor.past_past, Nat.add_comm 1 places] at behind
        obtain ⟨inner, met | ⟨failure, failed, same⟩⟩ := behind starts
        · exact ⟨inner, .inl met⟩
        · exact ⟨inner, .inr ⟨failure, fails failure failed, same⟩⟩
  · have refused : query (rules levels) cursor
        = (unexpected (.keyword .SELECT) : Parser Select) cursor :=
      bind_of_error (expectKeyword_of_ne starts)
    exact (Candid.unexpected cursor).of_run refused

/-- The rules that nest are candid on every level. -/
theorem rules_areCandid (levels : Nat) : (rules levels).AreCandid := by
  induction levels with
  | zero =>
      have fails {α : Type} : Candid (rules.tooDeep : Parser α) :=
        Candid.read_bind fun _ => Candid.fail rfl
      exact ⟨fun _ => fails, fails, fails⟩
  | succ levels inductionHypothesis =>
      exact ⟨operators_candid inductionHypothesis, query_candid inductionHypothesis,
        joinedTables_candid inductionHypothesis⟩

end Queries

end SqlTree.Grammar
