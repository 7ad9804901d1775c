import SqlTree.Proofs.Grammar.IndifferentExpressions
import SqlTree.Proofs.Grammar.SetOperations

/-!
# Indifference of the grammar of queries

The noise words are taken here: `ALL` behind `SELECT`, `OUTER` and `INNER` in a join, and `ASC`
behind a sort key. Each of them is taken where the rule goes on in the same way without it, or else
what stands behind it is refused. Tables may stray to where they are stuck, lists to any noise word,
and a query to anything that may not stand behind a sort key.
-/

namespace SqlTree.Grammar

open SqlTree.Parser Cursor

variable {inner : Rules} {full bare : Cursor}

section Tables

theorem outputColumn_indifferent (indifferent : inner.AreIndifferent) :
    Indifferent Stuck (outputColumn inner) :=
  (indifferent.expression 0).bind (fun _ => optionalAlias_indifferent.bind_pure)
    fun _ => optionalAlias_confined.bind_pure

theorem outputColumns_indifferent (indifferent : inner.AreIndifferent) :
    Indifferent Halted (outputColumns inner) :=
  Indifferent.separated (outputColumn_steady indifferent.steady)
    ((outputColumn_indifferent indifferent).weaken fun _ => Stuck.halted) (fun _ => id)
    fun _ halted => halted.ne rfl

theorem outputColumns_barred (indifferent : inner.AreIndifferent) :
    Confined Barred Nowhere (outputColumns inner) :=
  (indifferent.noExpression 0).bind_nowhere.bind_nowhere

/-- The word `OUTER` is taken only before `JOIN`, where it may as well be missing. -/
theorem outerJoin_indifferent :
    Indifferent Nowhere (do let _ ← eatKeyword .OUTER; expectKeyword .JOIN) := by
  have taken {cursor : Cursor} (found : cursor.current.kind = .keyword .OUTER) :
      eatKeyword .OUTER cursor = .ok true cursor.advance := if_pos found
  have passed {cursor : Cursor} (missed : cursor.current.kind ≠ .keyword .OUTER) :
      eatKeyword .OUTER cursor = .ok false cursor := if_neg missed
  have join := Indifferent.expectKeyword .JOIN rfl
  intro full bare drops value stopped read
  rcases drops.cases with inStep | atNoise
  · by_cases outer : full.current.kind = .keyword .OUTER
    · rw [bind_of_ok (taken outer)] at read
      rw [bind_of_ok (taken (inStep.kind.trans outer))]
      exact join (inStep.advance (by simp [outer])) value stopped read
    · rw [bind_of_ok (passed outer)] at read
      rw [bind_of_ok (passed (inStep.kind ▸ outer))]
      exact join drops value stopped read
  · by_cases outer : full.current.kind = .keyword .OUTER
    · rw [bind_of_ok (taken outer)] at read
      by_cases next : full.advance.current.kind = .keyword .JOIN
      · have other : bare.current.kind ≠ .keyword .OUTER := by simp [← atNoise.next, next]
        rw [bind_of_ok (passed other)]
        exact join atNoise.advance value stopped read
      · have refused : Confined (fun cursor => cursor.current.kind ≠ .keyword .JOIN) Nowhere
            (expectKeyword .JOIN) :=
          Confined.expectKeyword fun _ => id
        exact (refused next value stopped read).elim
    · rw [bind_of_ok (passed outer)] at read
      have refused : Confined OnNoise Nowhere (expectKeyword .JOIN) :=
        Confined.expectKeyword fun _ noise => noise.ne rfl
      exact (refused atNoise.noise value stopped read).elim

theorem joinWords_indifferent (first : TokenKind) (kind : JoinKind) :
    Indifferent Nowhere (joinWords first kind) := by
  unfold joinWords
  split
  · dsimp only
    split
    · exact outerJoin_indifferent
    · exact Indifferent.expectKeyword .JOIN rfl
  · exact Indifferent.pure ()

theorem tableFactor_noise : Confined OnNoise Nowhere (tableFactor inner) :=
  Confined.choice (fun _ noise => noise.ne rfl) objectName_noise.bind_nowhere

/-- A query in place of a table, behind its parenthesis. -/
theorem subquery_indifferent (indifferent : inner.AreIndifferent) :
    Indifferent Stuck (do
      let query ← inner.query
      expectSymbol .rightParen
      match ← optionalAlias with
      | some aliasName => return TableRef.subquery query aliasName
      | none => fail .subqueryWithoutAlias (← current).span) := by
  refine indifferent.query.bind (fun query => ?_) fun _ => ?_
  · refine (Indifferent.expectSymbol .rightParen).bind_strict fun _ => ?_
    refine optionalAlias_indifferent.bind (fun aliasName? => ?_) fun aliasName? => ?_
    · cases aliasName? with
      | none => exact fun _ _ _ => Tracks.start_bind fun _ _ => Tracks.fail
      | some aliasName => exact Indifferent.pure _
    · cases aliasName? with
      | none => exact Confined.read_bind fun _ stuck => Confined.fail stuck
      | some aliasName => exact Confined.pure _ fun _ => id
  · exact (Confined.expectSymbol fun _ lost => lost.ne rfl).bind_nowhere

theorem tableFactor_indifferent (indifferent : inner.AreIndifferent) :
    Indifferent Stuck (tableFactor inner) := by
  have tables : Indifferent Stuck (do
      let tables ← inner.tables
      expectSymbol .rightParen
      return tables) :=
    indifferent.tables.bind
      (fun _ => (Indifferent.expectSymbol .rightParen).bind_strict fun _ => Indifferent.pure _)
      fun _ => (Confined.expectSymbol fun _ stuck => stuck.ne rfl).bind_nowhere
  have named : Indifferent Stuck (do
      let name ← objectName
      return TableRef.table name (← optionalAlias)) :=
    objectName_indifferent.bind (fun _ => optionalAlias_indifferent.bind_pure)
      fun _ => optionalAlias_confined.bind_pure
  refine Indifferent.choice rfl rfl
    (selectOr_indifferent (subquery_indifferent indifferent) tables
      indifferent.noTables.bind_nowhere) named ?_
  exact objectName_noise.bind_nowhere.weaken (fun _ hides => hides.noise) fun _ => False.elim

theorem joinCondition_indifferent (indifferent : inner.AreIndifferent) (kind : JoinKind) :
    Indifferent Stuck (joinCondition inner kind) := by
  have columns : Indifferent Nowhere (parenthesized nameList) :=
    Indifferent.parenthesized (nameList_indifferent.weaken fun _ => Halted.lost)
  unfold joinCondition
  split
  · exact Indifferent.pure _
  · refine Indifferent.choice rfl rfl (indifferent.expression 0).bind_pure ?_ ?_
    · exact Indifferent.choice rfl rfl columns.strict.bind_pure Indifferent.unexpected
        Confined.unexpected
    · exact Confined.choice (fun _ hides => hides.noise.ne rfl) Confined.unexpected

theorem joinCondition_confined (kind : JoinKind) :
    Confined Stuck Stuck (joinCondition inner kind) := by
  unfold joinCondition
  split
  · exact Confined.pure _ fun _ => id
  · exact Confined.choice (fun _ stuck => stuck.ne rfl)
      (Confined.choice (fun _ stuck => stuck.ne rfl) Confined.unexpected)

/-- The table of a join, behind its words. -/
def joinedTable (inner : Rules) (kind : JoinKind) : Parser (Option JoinClause) := do
  let table ← tableFactor inner
  let (condition, columns) ← joinCondition inner kind
  return some ⟨kind, table, condition, columns⟩

/-- The join that a token starts, if it does. -/
def joinAt (inner : Rules) : Option JoinKind → Parser (Option JoinClause)
  | none => return none
  | some kind => do
    let first ← advance
    joinWords first.kind kind
    joinedTable inner kind

theorem nextJoin_eq (inner : Rules) : nextJoin inner = (do
    joinAt inner (joinStart? (← look 0))) := by
  unfold nextJoin joinAt joinedTable
  rfl

theorem joinedTable_indifferent (indifferent : inner.AreIndifferent) (kind : JoinKind) :
    Indifferent Stuck (joinedTable inner kind) :=
  (tableFactor_indifferent indifferent).bind
    (fun _ => (joinCondition_indifferent indifferent kind).bind_pure)
    fun _ => (joinCondition_confined kind).bind_pure

/-- What starts a join closes no sort key. -/
theorem closesSortKey_of_joinStart? {token : TokenKind} {kind : JoinKind}
    (starts : joinStart? token = some kind) : token.closesSortKey = false := by
  unfold joinStart? at starts
  split at starts <;> first | rfl | cases starts

/-- The only noise word that starts a join is `INNER`. -/
theorem joinStart?_of_isNoise {token : TokenKind} (noise : token.isNoise = true)
    (other : token ≠ .keyword .INNER) : joinStart? token = none := by
  rcases TokenKind.eq_of_isNoise noise with rfl | rfl | rfl | rfl <;>
    first | rfl | exact absurd rfl other

/-- No noise word but `INNER` leads to what starts a join. -/
theorem leadsTo_joinStart? {token next : TokenKind} {kind : JoinKind}
    (other : token ≠ .keyword .INNER) (starts : joinStart? next = some kind) :
    token.leadsTo next = false := by
  unfold TokenKind.leadsTo
  split
  · exact absurd rfl other
  · exact closesSortKey_of_joinStart? starts
  · rfl

/-- The word `INNER` starts a join where `JOIN` follows, and nothing else. -/
theorem joinAt_inner {cursor stopped : Cursor} {join : Option JoinClause}
    (word : cursor.current.kind = .keyword .INNER)
    (read : joinAt inner (some .inner) cursor = .ok join stopped) :
    cursor.advance.current.kind = .keyword .JOIN ∧
      joinedTable inner .inner cursor.advance.advance = .ok join stopped := by
  have opened : joinAt inner (some .inner) cursor =
      (do expectKeyword .JOIN; joinedTable inner .inner : Parser _) cursor.advance := by
    change (do joinWords cursor.current.kind .inner; joinedTable inner .inner : Parser _)
      cursor.advance = _
    rw [word]
    rfl
  rw [opened] at read
  by_cases next : cursor.advance.current.kind = .keyword .JOIN
  · have taken : expectKeyword .JOIN cursor.advance = .ok () cursor.advance.advance :=
      bind_of_ok (show eatKeyword .JOIN cursor.advance = .ok true _ from if_pos next)
    rw [bind_of_ok taken] at read
    exact ⟨next, read⟩
  · have refused : Confined (fun cursor => cursor.current.kind ≠ .keyword .JOIN) Nowhere
        (do expectKeyword .JOIN; joinedTable inner .inner) :=
      (Confined.expectKeyword fun _ => id).bind_nowhere
    exact (refused next join stopped read).elim

/-- The word `JOIN` on its own starts the join that `INNER JOIN` starts. -/
theorem joinAt_join {cursor : Cursor} (word : cursor.current.kind = .keyword .JOIN) :
    joinAt inner (some .inner) cursor = joinedTable inner .inner cursor.advance := by
  change (do joinWords cursor.current.kind .inner; joinedTable inner .inner : Parser _)
    cursor.advance = _
  rw [word]
  rfl

theorem nextJoin_indifferent (indifferent : inner.AreIndifferent) :
    Indifferent Stuck (nextJoin inner) := by
  rw [nextJoin_eq]
  refine fun full bare drops => Tracks.look_bind drops (fun inStep => ?_) fun atNoise => ?_
  · cases starts : joinStart? full.current.kind with
    | none => exact Indifferent.pure none drops
    | some kind =>
        refine Tracks.advance_bind inStep (isPlain_of_joinStart? starts) fun drops => ?_
        exact (joinWords_indifferent _ kind).bind_strict
          (fun _ => joinedTable_indifferent indifferent kind) drops
  · by_cases word : full.current.kind = .keyword .INNER
    · intro join stopped read
      rw [word] at read
      obtain ⟨next, readTable⟩ := joinAt_inner word read
      have nextToo : bare.current.kind = .keyword .JOIN := atNoise.next.symm.trans next
      have behind : full.advance.advance.Drops bare.advance := by
        rcases atNoise.advance.cases with inStep | noise
        · exact inStep.advance (by simp [next])
        · exact absurd next (OnNoise.ne noise.noise rfl)
      rw [nextToo]
      change (∃ stoppedToo, joinAt inner (some .inner) bare = _ ∧ _) ∨ _
      rw [joinAt_join nextToo]
      exact joinedTable_indifferent indifferent .inner behind join stopped readTable
    · rw [joinStart?_of_isNoise atNoise.noise word]
      cases starts : joinStart? bare.current.kind with
      | none => exact Indifferent.pure none drops
      | some kind =>
          have unfit := leadsTo_joinStart? word (atNoise.next ▸ starts)
          exact .of_ends (Ends.of_ok rfl (Stuck.here atNoise.noise unfit))

theorem nextJoin_confined : Confined Stuck Stuck (nextJoin inner) := by
  rw [nextJoin_eq]
  refine Confined.read_bind fun cursor stuck => ?_
  change Ends Stuck cursor (joinAt inner (joinStart? cursor.current.kind))
  by_cases word : cursor.current.kind = .keyword .INNER
  · rw [word]
    intro join stopped read
    obtain ⟨next, _⟩ := joinAt_inner word read
    cases stuck with
    | here _ unfit =>
        rw [word, next] at unfit
        cases unfit
    | behind unsettled _ =>
        rw [word] at unsettled
        cases unsettled
  · have none : joinStart? cursor.current.kind = none := by
      cases stuck with
      | here noise _ => exact joinStart?_of_isNoise noise word
      | behind unsettled _ =>
          rcases TokenKind.eq_of_isUnsettled unsettled with
            known | known | known | known | known | known <;> rw [known] <;> rfl
    rw [none]
    exact Ends.of_ok rfl stuck

theorem joinedTables_indifferent (indifferent : inner.AreIndifferent) :
    Indifferent Stuck (joinedTables inner) :=
  (tableFactor_indifferent indifferent).bind
    (fun _ => (Indifferent.collect (nextJoin_moving indifferent.steady)
      (nextJoin_indifferent indifferent) nextJoin_confined).bind_pure)
    fun _ => nextJoin_confined.collect.bind_pure

theorem tableList_indifferent (indifferent : inner.AreIndifferent) :
    Indifferent Halted (tableList inner) := by
  have joined := (joinedTables_indifferent indifferent).weaken fun _ => Stuck.halted
  have others : Indifferent Halted (manyAfter (eatSymbol .comma) (joinedTables inner)) :=
    Indifferent.manyAfter rfl rfl (joinedTables_steady indifferent.steady) joined
      (fun _ hides => hides.halted) fun _ halted => halted.ne rfl
  exact joined.bind (fun _ => others.bind_pure) fun _ =>
    (Confined.manyAfter fun _ halted => halted.ne rfl).bind_pure

end Tables

section Orders

theorem nullPlacement_indifferent : Indifferent Nowhere nullPlacement :=
  Indifferent.choice rfl rfl (Indifferent.pure _)
    ((Indifferent.expectKeyword .LAST rfl).bind_strict fun _ => Indifferent.pure _)
    (Confined.expectKeyword fun _ hides => hides.noise.ne rfl).bind_nowhere

/-- A value behind a noise word that may be there. -/
def skipNoise {α : Type} (word : Keyword) (value : α) : Parser α := do
  let _ ← eatKeyword word
  return value

section Skipping

variable {α : Type} {word : Keyword} {cursor : Cursor}

theorem skipNoise_of_eq (found : cursor.current.kind = .keyword word) (value : α) :
    skipNoise word value cursor = .ok value cursor.advance :=
  bind_of_ok (show eatKeyword word cursor = .ok true _ from if_pos found)

theorem skipNoise_of_ne (missed : cursor.current.kind ≠ .keyword word) (value : α) :
    skipNoise word value cursor = .ok value cursor :=
  bind_of_ok (show eatKeyword word cursor = .ok false _ from if_neg missed)

/-- A noise word that may be there may be missing, unless there is another one behind it. -/
theorem skipNoise_indifferent (word : Keyword) (value : α) :
    Indifferent OnNoise (skipNoise word value) := by
  intro full bare drops
  rcases drops.cases with inStep | atNoise
  · by_cases found : full.current.kind = .keyword word
    · exact .ok (skipNoise_of_eq found value) (skipNoise_of_eq (inStep.kind.trans found) value)
        (inStep.advance (by simp [found]))
    · exact .ok (skipNoise_of_ne found value) (skipNoise_of_ne (inStep.kind ▸ found) value) drops
  · by_cases found : full.current.kind = .keyword word
    · have read := skipNoise_of_eq found value
      by_cases again : bare.current.kind = .keyword word
      · have noise : full.advance.OnNoise := by
          rw [OnNoise, atNoise.next, again, ← found]
          exact atNoise.noise
        exact .of_ends (Ends.of_ok read noise)
      · exact .ok read (skipNoise_of_ne again value) atNoise.advance
    · exact .of_ends (Ends.of_ok (skipNoise_of_ne found value) atNoise.noise)

end Skipping

theorem direction_eq : direction = (do
    if ← eatKeyword .DESC then return .descending else skipNoise .ASC .ascending) := by
  unfold direction skipNoise
  rfl

/-- Behind the word `ASC` of a cursor that is stuck, nothing closes a sort key. -/
theorem ascending_confined : Confined Stuck Lost (skipNoise .ASC Direction.ascending) := by
  intro cursor stuck
  by_cases word : cursor.current.kind = .keyword .ASC
  · refine Ends.of_ok (skipNoise_of_eq word _) ?_
    cases stuck with
    | here _ unfit =>
        rw [word] at unfit
        exact unfit
    | behind unsettled _ =>
        rw [word] at unsettled
        cases unsettled
  · exact Ends.of_ok (skipNoise_of_ne word _) stuck.halted.lost

theorem direction_sealed : Sealed Stuck Lost direction := by
  rw [direction_eq]
  refine ⟨?_, Confined.choice (fun _ stuck => stuck.ne rfl) ascending_confined⟩
  have skipped := (skipNoise_indifferent .ASC Direction.ascending).weaken
    fun _ noise => noise.halted.lost
  refine Indifferent.choice rfl rfl (Indifferent.pure _) skipped ?_
  exact ascending_confined.weaken (fun _ hides => hides.stuck rfl) fun _ => id

theorem sortKey_indifferent (indifferent : inner.AreIndifferent) :
    Indifferent Lost (sortKey inner) := by
  have nulls : Sealed Lost Lost (optionalAfter .NULLS nullPlacement) :=
    Sealed.optionalLost .NULLS rfl rfl nullPlacement_indifferent.strict
  have behind (key : Expr) : Sealed Stuck Lost (do
      let direction ← direction
      return (⟨key, direction, ← optionalAfter .NULLS nullPlacement⟩ : SortKey)) :=
    direction_sealed.bind fun _ => nulls.bind_pure
  exact (indifferent.expression 0).bind (fun key => (behind key).indifferent)
    fun key => (behind key).confined

/-- What is listed behind a keyword and `BY` is there on both sides or on none. -/
theorem listBy_sealed {α : Type} {stray : Cursor → Prop} (word : Keyword) {item : Parser α}
    (halts : (TokenKind.keyword word).halts = false) (steady : Steady item)
    (indifferent : Indifferent stray item) (halted : ∀ cursor, Halted cursor → stray cursor)
    (refused : ∀ cursor, stray cursor → cursor.current.kind ≠ .symbol .comma) :
    Sealed Halted stray (listBy word item) := by
  have listed := Indifferent.separated steady indifferent halted refused
  refine ⟨?_, Confined.choice (fun _ halted => halted.ne halts) (Confined.pure [] halted)⟩
  exact Indifferent.choice (Bool.or_eq_false_iff.mp halts).1 rfl
    ((Indifferent.expectKeyword .BY rfl).bind_strict fun _ => listed) (Indifferent.pure [])
    (Confined.pure [] fun cursor hides => halted cursor hides.halted)

end Orders

section Queries

theorem distinctness_eq : distinctness = (do
    if ← eatKeyword .DISTINCT then return true else skipNoise .ALL false) := by
  unfold distinctness skipNoise
  rfl

/-- The word `ALL` may be missing, but no expression starts with `ALL` or `DISTINCT` behind it. -/
theorem distinctness_indifferent : Indifferent Barred distinctness := by
  rw [distinctness_eq]
  refine Indifferent.choice rfl rfl (Indifferent.pure true)
    ((skipNoise_indifferent .ALL false).weaken fun _ => .inl) fun cursor hides => ?_
  by_cases found : cursor.current.kind = .keyword .ALL
  · exact Ends.of_ok (skipNoise_of_eq found false) (.inr hides.next)
  · exact Ends.of_ok (skipNoise_of_ne found false) (.inl hides.noise)

theorem noSetOperation_sealed : Sealed Lost Lost noSetOperation := by
  refine ⟨fun full bare drops => ?_, fun cursor lost => ?_⟩
  · rcases noSetOperation_cases full with passed | ⟨_, _, _, refused⟩
    · rcases noSetOperation_cases bare with passedToo | ⟨word, found, operation, _⟩
      · exact .ok passed passedToo drops
      · rcases drops.cases with inStep | atNoise
        · have failed := noSetOperation_of_isSetOperation (inStep.kind.symm.trans found) operation
          exact .of_ends (Ends.of_error failed)
        · exact .of_ends (Ends.of_ok passed (OnNoise.halted atNoise.noise).lost)
    · exact .of_ends (Ends.of_error refused)
  · rcases noSetOperation_cases cursor with passed | ⟨_, _, _, refused⟩
    · exact Ends.of_ok passed lost
    · exact Ends.of_error refused

theorem query_indifferent (indifferent : inner.AreIndifferent) :
    Indifferent Lost (query inner) := by
  have expression := indifferent.expression 0
  have steady := indifferent.steady.expression 0
  have halting : Indifferent Halted (inner.expression 0) := expression.weaken fun _ => Stuck.halted
  have losing : Indifferent Lost (inner.expression 0) := halting.weaken fun _ => Halted.lost
  refine (Indifferent.expectKeyword .SELECT rfl).bind_strict fun _ => ?_
  refine distinctness_indifferent.bind (fun _ => ?_) fun _ =>
    (outputColumns_barred indifferent).bind_nowhere
  refine Sealed.behind (outputColumns_indifferent indifferent) fun _ => ?_
  refine (Sealed.optionalHalted .FROM rfl (tableList_indifferent indifferent)).bind fun _ => ?_
  refine (Sealed.optionalHalted .WHERE rfl halting).bind fun _ => ?_
  refine (listBy_sealed .GROUP rfl steady halting (fun _ => id)
    fun _ halted => halted.ne rfl).bind fun _ => ?_
  refine (Sealed.optionalHalted .HAVING rfl halting).bind fun _ => ?_
  refine (listBy_sealed .ORDER rfl (sortKey_steady indifferent.steady)
    (sortKey_indifferent indifferent) (fun _ => Halted.lost)
    fun _ lost => lost.ne rfl).bind fun _ => ?_
  refine (Sealed.optionalLost .LIMIT rfl rfl losing).bind fun _ => ?_
  refine (Sealed.optionalLost .OFFSET rfl rfl losing).bind fun _ => ?_
  exact noSetOperation_sealed.bind fun _ => Sealed.pure _ fun _ => id

theorem tooDeep_fails {α : Type} {stray : Cursor → Prop} (cursor : Cursor) :
    Ends stray cursor (rules.tooDeep : Parser α) := by
  unfold rules.tooDeep
  exact Ends.of_error rfl

/-- The rules that nest are indifferent on every level. -/
theorem rules_areIndifferent (levels : Nat) : (rules levels).AreIndifferent := by
  induction levels with
  | zero =>
      refine ⟨rules_areSteady 0, ?_, ?_, ?_, ?_, ?_⟩
      · exact fun _ full _ _ => .of_ends (tooDeep_fails full)
      · exact fun full _ _ => .of_ends (tooDeep_fails full)
      · exact fun full _ _ => .of_ends (tooDeep_fails full)
      · exact fun _ cursor _ => tooDeep_fails cursor
      · exact fun cursor _ => tooDeep_fails cursor
  | succ levels inductionHypothesis =>
      exact ⟨rules_areSteady (levels + 1), operators_indifferent inductionHypothesis,
        query_indifferent inductionHypothesis, joinedTables_indifferent inductionHypothesis,
        operators_barred, tableFactor_noise.bind_nowhere⟩

end Queries

end SqlTree.Grammar
