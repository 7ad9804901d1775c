import SqlTree.Proofs.Grammar.IndifferentNames

/-!
# Indifference of the grammar of operands

An operand may stray to where it is stuck before a noise word, if it ends with a name. What stands
between parentheses, and what ends with a word of its own, never strays. No operand starts with a
noise word.
-/

namespace SqlTree.Grammar

open SqlTree.Parser Cursor

/-- A cursor stands at a noise word or at `DISTINCT`, where no expression starts. -/
def Barred (cursor : Cursor) : Prop :=
  cursor.current.kind.isNoise = true ∨ cursor.current.kind = .keyword .DISTINCT

/-- The rules that nest are indifferent, and no expression and no table starts with a noise word. -/
structure Rules.AreIndifferent (inner : Rules) : Prop where
  steady : inner.AreSteady
  expression : ∀ power, Indifferent Stuck (inner.expression power)
  query : Indifferent Lost inner.query
  tables : Indifferent Stuck inner.tables
  noExpression : ∀ power, Confined Barred Nowhere (inner.expression power)
  noTables : Confined OnNoise Nowhere inner.tables

section Expressions

variable {inner : Rules} {full bare : Cursor}

theorem Rules.AreIndifferent.expression_noise (indifferent : inner.AreIndifferent) (power : Nat) :
    Confined OnNoise Nowhere (inner.expression power) :=
  (indifferent.noExpression power).weaken (fun _ => .inl) fun _ => id

theorem expressionList_indifferent (indifferent : inner.AreIndifferent) :
    Indifferent Halted (expressionList inner) :=
  Indifferent.separated (indifferent.steady.expression 0)
    ((indifferent.expression 0).weaken fun _ => Stuck.halted) (fun _ => id)
    fun _ halted => halted.ne rfl

theorem expressionList_noise (indifferent : inner.AreIndifferent) :
    Confined OnNoise Nowhere (expressionList inner) :=
  (indifferent.expression_noise 0).bind_nowhere

/-- Where something is a query if `SELECT` comes next, and nothing else starts with a noise word. -/
theorem selectOr_indifferent {α : Type} {stray : Cursor → Prop} {selects others : Parser α}
    (first : Indifferent stray selects) (second : Indifferent stray others)
    (noise : Confined OnNoise Nowhere others) :
    Indifferent stray (do if ← atKeyword .SELECT then selects else others) :=
  Indifferent.test_bind (fun _ => rfl) rfl first second
    (noise.weaken (fun _ hides => hides.noise) fun _ => False.elim)

theorem parenthesizedExpression_indifferent (indifferent : inner.AreIndifferent) :
    Indifferent Nowhere (parenthesizedExpression inner) :=
  Indifferent.parenthesized (selectOr_indifferent indifferent.query.bind_pure
    ((indifferent.expression 0).weaken fun _ stuck => stuck.halted.lost)
    (indifferent.expression_noise 0))

theorem existsTest_indifferent (indifferent : inner.AreIndifferent) :
    Indifferent Nowhere (existsTest inner) :=
  (Indifferent.expectKeyword .EXISTS rfl).bind_strict fun _ =>
    (Indifferent.parenthesized indifferent.query).bind_pure

/-- The arguments of a call that has some: a star on its own, or expressions. -/
def someArguments (inner : Rules) (distinct : Bool) : Parser (List Expr) := do
  if !distinct && (← atSymbol .star) then
    let _ ← advance
    return [.star]
  expressionList inner

theorem callArguments_eq (inner : Rules) (distinct : Bool) : callArguments inner distinct = (do
    if ← atSymbol .rightParen then return [] else someArguments inner distinct) :=
  rfl

theorem someArguments_noise (indifferent : inner.AreIndifferent) (distinct : Bool) :
    Confined OnNoise Nowhere (someArguments inner distinct) := by
  refine Confined.test_bind (fun _ => rfl) (fun _ noise => noise.ne rfl) ?_
  rw [Bool.and_false, if_neg Bool.false_ne_true]
  exact expressionList_noise indifferent

theorem callArguments_noise (indifferent : inner.AreIndifferent) (distinct : Bool) :
    Confined OnNoise Nowhere (callArguments inner distinct) := by
  rw [callArguments_eq]
  exact Confined.test_bind (fun _ => rfl) (fun _ noise => noise.ne rfl)
    (someArguments_noise indifferent distinct)

theorem someArguments_indifferent (indifferent : inner.AreIndifferent) (distinct : Bool) :
    Indifferent Lost (someArguments inner distinct) := by
  have listed := (expressionList_indifferent indifferent).weaken fun _ => Halted.lost
  have tests (cursor : Cursor) :
      atSymbol .star cursor = .ok (decide (cursor.current.kind = .symbol .star)) cursor := rfl
  intro full bare drops
  refine Tracks.test_bind drops tests (fun inStep => ?_) fun atNoise => ?_
  · split
    · next starred =>
        have star : full.current.kind = .symbol .star :=
          of_decide_eq_true (Bool.and_eq_true_iff.mp starred).2
        exact Tracks.advance_bind inStep (isPlain_of_eq star rfl) fun drops =>
          Indifferent.pure _ drops
    · exact listed drops
  · rw [decide_eq_false (OnNoise.ne atNoise.noise rfl), Bool.and_false,
      if_neg Bool.false_ne_true]
    have failing := expressionList_noise indifferent atNoise.noise
    exact .of_ends (failing.weaken fun _ => False.elim)

theorem callArguments_indifferent (indifferent : inner.AreIndifferent) (distinct : Bool) :
    Indifferent Lost (callArguments inner distinct) := by
  rw [callArguments_eq]
  refine Indifferent.test_bind (fun _ => rfl) rfl (Indifferent.pure [])
    (someArguments_indifferent indifferent distinct) ?_
  exact (someArguments_noise indifferent distinct).weaken (fun _ hides => hides.noise) fun _ =>
    False.elim

theorem functionCall_indifferent (indifferent : inner.AreIndifferent) (function : ObjectName) :
    Indifferent Nowhere (functionCall inner function) := by
  refine Indifferent.parenthesized ((Indifferent.eat rfl rfl).bind (fun distinct => ?_)
    fun distinct => ?_)
  · exact (callArguments_indifferent indifferent distinct).bind_pure
  · exact ((callArguments_noise indifferent distinct).weaken (fun _ hides => hides.noise)
      fun _ => id).bind_nowhere

/-- A point that has no star behind it is taken. -/
theorem eatInnerDot_taken {cursor : Cursor} (dot : cursor.current.kind = .symbol .dot)
    (other : (cursor.peek 1).kind ≠ .symbol .star) :
    eatInnerDot cursor = .ok true cursor.advance :=
  (congrFun (if_pos ⟨dot, other⟩) cursor).trans (if_pos dot)

theorem eatInnerDot_passed {cursor : Cursor} (missed : cursor.current.kind = .symbol .dot →
    (cursor.peek 1).kind = .symbol .star) : eatInnerDot cursor = .ok false cursor :=
  congrFun (if_neg fun both => both.2 (missed both.1)) cursor

theorem eatInnerDot_indifferent : Indifferent Stuck eatInnerDot := by
  intro full bare drops
  rcases drops.cases with inStep | atNoise
  · by_cases dot : full.current.kind = .symbol .dot
    · have goes : full.current.kind ≠ .finish := by simp [dot]
      have dotToo : bare.current.kind = .symbol .dot := inStep.kind.trans dot
      have both (other : (full.peek 1).kind ≠ .symbol .star)
          (otherToo : (bare.peek 1).kind ≠ .symbol .star) :
          Tracks Stuck full bare eatInnerDot eatInnerDot :=
        .ok (eatInnerDot_taken dot other) (eatInnerDot_taken dotToo otherToo) (inStep.advance goes)
      rcases inStep.second goes with same | ⟨noise, hides⟩
      · by_cases star : (full.peek 1).kind = .symbol .star
        · exact .ok (eatInnerDot_passed fun _ => star)
            (eatInnerDot_passed fun _ => same.trans star) drops
        · exact both star (same ▸ star)
      · have other : (full.peek 1).kind ≠ .symbol .star := TokenKind.ne_of_isNoise noise rfl
        by_cases star : (bare.peek 1).kind = .symbol .star
        · rw [star] at hides
          exact .of_ends (Ends.of_ok (eatInnerDot_taken dot other) (hides.stuck rfl))
        · exact both other star
    · have missed : bare.current.kind ≠ .symbol .dot := inStep.kind ▸ dot
      exact .ok (eatInnerDot_passed fun found => absurd found dot)
        (eatInnerDot_passed fun found => absurd found missed) drops
  · have passed := eatInnerDot_passed fun found => absurd found (OnNoise.ne atNoise.noise rfl)
    by_cases dot : bare.current.kind = .symbol .dot
    · exact .of_ends (Ends.of_ok passed ((atNoise.hides dot).stuck rfl))
    · exact .ok passed (eatInnerDot_passed fun found => absurd found dot) drops

theorem eatInnerDot_confined : Confined Stuck Stuck eatInnerDot :=
  fun _ stuck => Ends.of_ok (eatInnerDot_passed fun dot => absurd dot (stuck.ne rfl)) stuck

/-- The column that a name is, by its parts. -/
def columnOfParts (first : String) (parts : List String) (span : Span) : Parser Expr :=
  match parts with
  | [column] => return .column column
  | _ => return .reference (← nameOfParts parts.dropLast span) (parts.getLastD first)

/-- What a name is behind its parts, if no point follows: a call, or a column. -/
def nameUse (inner : Rules) (first : String) (parts : List String) (span : Span) :
    Parser Expr := do
  if ← atSymbol .leftParen then
    functionCall inner (← nameOfParts parts span)
  else columnOfParts first parts span

/-- What a name is behind its parts. -/
def nameEnd (inner : Rules) (start : Token) (first : String) (parts : List String) :
    Parser Expr := do
  if ← eatSymbol .dot then
    expectSymbol .star
    return .reference (← nameOfParts parts (start.span.merge (← previousSpan))) "*"
  nameUse inner first parts (start.span.merge (← previousSpan))

theorem nameExpression_eq (inner : Rules) : nameExpression inner = (do
    let start ← current
    let first ← expectName
    let others ← manyAfter eatInnerDot expectName
    nameEnd inner start first (first :: others)) :=
  rfl

section NameExpressions

variable {first : String} {parts : List String}

theorem columnOfParts_confined {stray : Cursor → Prop} (span : Span) :
    Confined stray stray (columnOfParts first parts span) := by
  unfold columnOfParts
  split
  · exact Confined.pure _ fun _ => id
  · exact (nameOfParts_confined _ span).bind_pure

theorem columnOfParts_tracks {stray : Cursor → Prop} (drops : full.Drops bare)
    (span spanToo : Span) :
    Tracks stray full bare (columnOfParts first parts span)
      (columnOfParts first parts spanToo) := by
  unfold columnOfParts
  split
  · exact Indifferent.pure _ drops
  · exact (nameOfParts_tracks _ drops span spanToo).bind_strict fun _ _ _ drops =>
      Indifferent.pure _ drops

/-- No parenthesis opens where the cursor is stuck. -/
theorem nameUse_confined (span : Span) : Confined Stuck Stuck (nameUse inner first parts span) := by
  refine Confined.read_bind fun cursor stuck => ?_
  change Ends Stuck cursor (if decide (cursor.current.kind = .symbol .leftParen) = true then _
    else columnOfParts first parts span)
  rw [decide_eq_false (stuck.ne rfl), if_neg Bool.false_ne_true]
  exact columnOfParts_confined span stuck

theorem nameUse_tracks (indifferent : inner.AreIndifferent) (drops : full.Drops bare)
    (span spanToo : Span) :
    Tracks Stuck full bare (nameUse inner first parts span)
      (nameUse inner first parts spanToo) := by
  have tests (cursor : Cursor) : atSymbol .leftParen cursor =
      .ok (decide (cursor.current.kind = .symbol .leftParen)) cursor := rfl
  refine Tracks.test_bind drops tests (fun inStep => ?_) fun atNoise => ?_
  · split
    · exact (nameOfParts_tracks parts drops span spanToo).bind_strict fun function _ _ drops =>
        (functionCall_indifferent indifferent function).strict drops
    · exact columnOfParts_tracks drops span spanToo
  · rw [decide_eq_false (OnNoise.ne atNoise.noise rfl), if_neg Bool.false_ne_true]
    by_cases opens : bare.current.kind = .symbol .leftParen
    · exact .of_ends (columnOfParts_confined span ((atNoise.hides opens).stuck rfl))
    · rw [decide_eq_false opens, if_neg Bool.false_ne_true]
      exact columnOfParts_tracks drops span spanToo

theorem nameEnd_confined (start : Token) : Confined Stuck Stuck (nameEnd inner start first parts) :=
  Confined.choice (fun _ stuck => stuck.ne rfl)
    (Confined.read_bind fun _ stuck => nameUse_confined _ stuck)

theorem nameEnd_tracks (indifferent : inner.AreIndifferent) (drops : full.Drops bare)
    (start startToo : Token) :
    Tracks Stuck full bare (nameEnd inner start first parts)
      (nameEnd inner startToo first parts) := by
  refine (Indifferent.eat rfl rfl drops).bind (fun pointed full bare drops => ?_) fun pointed => ?_
  · cases pointed with
    | true =>
        refine (Indifferent.expectSymbol .star drops).bind_strict fun _ full bare drops => ?_
        refine Tracks.previousSpan_bind fun span spanToo => ?_
        exact (nameOfParts_tracks parts drops _ _).bind_strict fun _ _ _ drops =>
          Indifferent.pure _ drops
    | false =>
        exact Tracks.previousSpan_bind fun span spanToo => nameUse_tracks indifferent drops _ _
  · cases pointed with
    | true => exact (Confined.expectSymbol fun _ hides => hides.noise.ne rfl).bind_nowhere
    | false =>
        exact Confined.read_bind fun cursor hides => nameUse_confined _ (hides.stuck rfl)

end NameExpressions

theorem innerName_indifferent :
    Indifferent Stuck (do if ← eatInnerDot then return some (← expectName) else return none) := by
  refine eatInnerDot_indifferent.bind (fun pointed => ?_) fun pointed => ?_
  · cases pointed with
    | true => exact Indifferent.expectName.strict.bind_pure
    | false => exact Indifferent.pure none
  · cases pointed with
    | true => exact Confined.expectName.bind_pure
    | false => exact Confined.pure none fun _ => id

theorem innerName_confined :
    Confined Stuck Stuck (do
      if ← eatInnerDot then return some (← expectName) else return none) := by
  refine eatInnerDot_confined.bind fun pointed => ?_
  cases pointed with
  | true => exact Confined.expectName.bind_pure
  | false => exact Confined.pure none fun _ => id

theorem nameExpression_indifferent (indifferent : inner.AreIndifferent) :
    Indifferent Stuck (nameExpression inner) := by
  have others : Indifferent Stuck (manyAfter eatInnerDot expectName) :=
    Indifferent.collect (eatInnerDot_moving.guarded Taking.expectName.steady)
      innerName_indifferent innerName_confined
  rw [nameExpression_eq]
  refine fun full bare drops => Tracks.start_bind fun start startToo => ?_
  refine (Indifferent.expectName drops).bind_strict fun first full bare drops => ?_
  exact (others drops).bind
    (fun parts full bare drops => nameEnd_tracks indifferent drops start startToo)
    fun parts => nameEnd_confined start

/-- A name right before a noise word is all that is read there. -/
theorem nameExpression_ends {cursor : Cursor} (stuck : cursor.advance.Stuck) :
    Ends Stuck cursor (nameExpression inner) := by
  have name : Ends Stuck cursor expectName := Ends.of_chooses expectName_chooses fun _ _ => stuck
  have behind (start : Token) (first : String) : Confined Stuck Stuck (do
      let others ← manyAfter eatInnerDot expectName
      nameEnd inner start first (first :: others)) :=
    innerName_confined.collect.bind fun _ => nameEnd_confined start
  rw [nameExpression_eq]
  exact name.bind (behind cursor.current)

theorem castExpression_indifferent (indifferent : inner.AreIndifferent) :
    Indifferent Nowhere (castExpression inner) := by
  refine (Indifferent.expectKeyword .CAST rfl).bind_strict fun _ => Indifferent.parenthesized ?_
  refine (indifferent.expression 0).bind (fun _ => ?_) fun _ => ?_
  · exact (Indifferent.expectKeyword .AS rfl).bind_strict fun _ =>
      (dataType_indifferent.weaken fun _ stuck => stuck.halted.lost).bind_pure
  · exact (Confined.expectKeyword fun _ stuck => stuck.ne rfl).bind_nowhere

theorem caseArm_indifferent (indifferent : inner.AreIndifferent) :
    Indifferent Stuck (caseArm inner) := by
  refine (indifferent.expression 0).bind (fun _ => ?_) fun _ => ?_
  · exact (Indifferent.expectKeyword .THEN rfl).bind_strict fun _ =>
      (indifferent.expression 0).bind_pure
  · exact (Confined.expectKeyword fun _ stuck => stuck.ne rfl).bind_nowhere

theorem caseEnd_indifferent (indifferent : inner.AreIndifferent) (subject : Option Expr)
    (arms : List CaseArm) : Indifferent Nowhere (caseEnd inner subject arms) := by
  have otherwise := Indifferent.optionalAfter .ELSE rfl (indifferent.expression 0)
    fun _ hides => hides.stuck rfl
  refine otherwise.bind (fun _ => ?_) fun _ => ?_
  · exact (Indifferent.expectKeyword .END rfl).bind_pure
  · exact (Confined.expectKeyword fun _ stuck => stuck.ne rfl).bind_nowhere

theorem caseEnd_confined (subject : Option Expr) (arms : List CaseArm) :
    Confined Stuck Nowhere (caseEnd inner subject arms) :=
  (Confined.optionalAfter (fun _ stuck => stuck.ne rfl) fun _ stuck => stuck).bind fun _ =>
    (Confined.expectKeyword fun _ stuck => stuck.ne rfl).bind_nowhere

/-- A case expression is not ended where the cursor is stuck. -/
theorem caseTail_confined (subject : Option Expr) (arms : List CaseArm) :
    Confined Stuck Nowhere (do
      if arms.isEmpty then unexpected (.keyword .WHEN)
      caseEnd inner subject arms) := by
  dsimp only
  split
  · exact Confined.unexpected.bind_nowhere
  · exact caseEnd_confined subject arms

theorem caseBehind_confined (subject : Option Expr) :
    Confined Stuck Nowhere (caseBehind inner subject) :=
  (Confined.manyAfter fun _ stuck => stuck.ne rfl).bind (caseTail_confined subject)

theorem caseBehind_indifferent (indifferent : inner.AreIndifferent) (subject : Option Expr) :
    Indifferent Nowhere (caseBehind inner subject) := by
  have arms : Indifferent Stuck (manyAfter (eatKeyword .WHEN) (caseArm inner)) :=
    Indifferent.manyAfter rfl rfl (caseArm_steady indifferent.steady)
      (caseArm_indifferent indifferent) (fun _ hides => hides.stuck rfl) fun _ stuck => stuck.ne rfl
  refine arms.bind (fun arms => ?_) (caseTail_confined subject)
  dsimp only
  split
  · exact Indifferent.unexpected.bind_strict fun _ => caseEnd_indifferent indifferent subject arms
  · exact caseEnd_indifferent indifferent subject arms

theorem caseExpression_indifferent (indifferent : inner.AreIndifferent) :
    Indifferent Nowhere (caseExpression inner) := by
  rw [caseExpression_eq, map_eq_pure_bind]
  refine (Indifferent.expectKeyword .CASE rfl).bind_strict fun _ => ?_
  refine Indifferent.test_bind (fun _ => rfl) rfl ?_ ?_ ?_
  · exact (Indifferent.pure none).bind_strict (caseBehind_indifferent indifferent)
  · exact (indifferent.expression 0).bind_pure.bind (caseBehind_indifferent indifferent)
      caseBehind_confined
  · have failing : Confined OnNoise Nowhere (do return some (← inner.expression 0)) :=
      (indifferent.expression_noise 0).bind_pure
    exact (failing.weaken (fun _ hides => hides.noise) fun _ => id).bind_nowhere

/-- No operand starts with a noise word or with `DISTINCT`. -/
theorem primaryBy_of_barred {cursor : Cursor} (barred : Barred cursor) :
    primaryBy inner cursor.current.kind = unexpected .expression := by
  rcases barred with noise | distinct
  · rcases TokenKind.eq_of_isNoise noise with word | word | word | word <;> rw [word] <;> rfl
  · rw [distinct]
    rfl

theorem leadingOperator?_of_barred {cursor : Cursor} (barred : Barred cursor) :
    leadingOperator? cursor.current.kind = none := by
  rcases barred with noise | distinct
  · rcases TokenKind.eq_of_isNoise noise with word | word | word | word <;> rw [word] <;> rfl
  · rw [distinct]
    rfl

theorem primary_barred : Confined Barred Nowhere (primary inner) := by
  rw [primary_eq]
  refine Confined.read_bind fun cursor barred => ?_
  change Ends Nowhere cursor (primaryBy inner cursor.current.kind)
  rw [primaryBy_of_barred barred]
  exact Confined.unexpected barred

theorem operand_barred : Confined Barred Nowhere (operand inner) := by
  refine Confined.read_bind fun cursor barred => ?_
  have none : leadingOperator? (cursor.peek 0).kind = none := leadingOperator?_of_barred barred
  rw [none]
  exact primary_barred barred

theorem operators_barred (power : Nat) : Confined Barred Nowhere (operators inner power) :=
  operand_barred.bind_nowhere

/-- The test of rows is looked for where `EXISTS` comes next; right before a noise word it is a
name. -/
theorem existsOrName_tracks (indifferent : inner.AreIndifferent) (drops : full.Drops bare)
    (inStep : full.InStep bare) (test : full.current.kind = .keyword .EXISTS) :
    Tracks Stuck full bare
      (do if (← look 1) = .symbol .leftParen then existsTest inner else nameExpression inner)
      (do if (← look 1) = .symbol .leftParen then existsTest inner else nameExpression inner) := by
  have goes : full.current.kind ≠ .finish := by simp [test]
  change Tracks Stuck full bare
    (if (full.peek 1).kind = .symbol .leftParen then existsTest inner else nameExpression inner)
    (if (bare.peek 1).kind = .symbol .leftParen then existsTest inner else nameExpression inner)
  rcases inStep.second goes with same | ⟨noise, hides⟩
  · rw [same]
    split
    · exact (existsTest_indifferent indifferent).strict drops
    · exact nameExpression_indifferent indifferent drops
  · rw [if_neg (TokenKind.ne_of_isNoise noise rfl)]
    split
    · next opens =>
        rw [opens] at hides
        exact .of_ends (nameExpression_ends (hides.stuck rfl))
    · exact nameExpression_indifferent indifferent drops

theorem primary_indifferent (indifferent : inner.AreIndifferent) :
    Indifferent Stuck (primary inner) := by
  intro full bare drops
  rw [primary_eq]
  refine Tracks.look_bind drops (fun inStep => ?_) fun atNoise => ?_
  · have taken {value : Expr} (plain : full.current.kind.isPlain = true) :
        Tracks Stuck full bare (do let _ ← advance; return value)
          (do let _ ← advance; return value) :=
      Tracks.advance_bind inStep plain fun drops => Indifferent.pure _ drops
    refine primaryBy_cases (fun parser => Tracks Stuck full bare parser parser) _ ?_ ?_ ?_ ?_ ?_ ?_
      ?_ ?_ ?_
    · exact fun value literal => taken (isPlain_of_literalOf? literal)
    · exact fun number known => taken (isPlain_of_eq known rfl)
    · exact fun known => taken (isPlain_of_eq known rfl)
    · exact (parenthesizedExpression_indifferent indifferent).strict drops
    · exact (caseExpression_indifferent indifferent).strict drops
    · exact (castExpression_indifferent indifferent).strict drops
    · exact existsOrName_tracks indifferent drops inStep
    · exact nameExpression_indifferent indifferent drops
    · exact Indifferent.unexpected drops
  · have barred : Barred full := .inl atNoise.noise
    rw [primaryBy_of_barred barred]
    exact .of_ends (Confined.unexpected barred)

theorem operand_indifferent (indifferent : inner.AreIndifferent) :
    Indifferent Stuck (operand inner) := by
  intro full bare drops
  refine Tracks.look_bind drops (fun inStep => ?_) fun atNoise => ?_
  · split
    · next operator power leading =>
        refine Tracks.advance_bind inStep (isPlain_of_leadingOperator? leading) fun drops => ?_
        exact (indifferent.expression power).bind_pure drops
    · exact primary_indifferent indifferent drops
  · have barred : Barred full := .inl atNoise.noise
    rw [leadingOperator?_of_barred barred]
    exact .of_ends ((primary_barred barred).weaken fun _ => False.elim)

end Expressions

end SqlTree.Grammar
