import SqlTree.Proofs.Grammar.Clauses
import SqlTree.Proofs.Grammar.IndifferentNames
import SqlTree.Proofs.Grammar.SteadyStatements

/-!
# Indifference of statements on sequences

No noise word may stand in a statement on a sequence. What is optional there may stray to where it
is stuck before one, and then the statement is refused: a clause has to start where the statement
does not end.
-/

namespace SqlTree.Grammar

open SqlTree.Parser Cursor

section Integers

/-- An integer is read where a number stands, with or without a sign. -/
theorem integerBehind_confined (negative : Bool) :
    Confined (fun cursor => startsSignedNumber cursor.current.kind = false) Nowhere
      (integerBehind negative) := by
  refine Confined.read_bind fun cursor other => ?_
  split
  · next known =>
      rw [known] at other
      cases other
  · next known =>
      rw [known] at other
      cases other
  · exact Ends.of_error rfl

theorem integerBehind_noise (negative : Bool) :
    Confined OnNoise Nowhere (integerBehind negative) := by
  refine (integerBehind_confined negative).weaken (fun cursor noise => ?_) fun _ => id
  rcases TokenKind.eq_of_isNoise noise with word | word | word | word <;> rw [word] <;> rfl

theorem integerBehind_indifferent (negative : Bool) :
    Indifferent Nowhere (integerBehind negative) := by
  intro full bare drops
  rcases drops.cases with inStep | atNoise
  · by_cases ends : full.current.kind = .finish
    · have refused : startsSignedNumber full.current.kind = false := by rw [ends]; rfl
      exact .of_ends (integerBehind_confined negative refused)
    · have token := inStep.token ends
      have text : bare.currentText? = full.currentText? := by
        rw [Cursor.currentText?, Cursor.currentText?, token, drops.source]
      refine Tracks.get_bind ?_
      simp only [token, text]
      split
      · next known =>
          exact Tracks.advance_bind inStep (isPlain_of_eq known rfl) (Indifferent.pure _ ·)
      · next known =>
          split
          · exact Tracks.advance_bind inStep (isPlain_of_eq known rfl) (Indifferent.pure _ ·)
          · split
            · exact Tracks.fail
            · exact Indifferent.unexpected drops
      · exact Indifferent.unexpected drops
  · exact .of_ends (integerBehind_noise negative atNoise.noise)

theorem signedInteger_sealed : Sealed OnNoise Nowhere signedInteger := by
  have behind (negative : Bool) : Sealed OnNoise Nowhere (integerBehind negative) :=
    ⟨integerBehind_indifferent negative, integerBehind_noise negative⟩
  have sign {mark : Symbol} (noiseless : (TokenKind.symbol mark).isNoise = false)
      (plain : (TokenKind.symbol mark).isPlain = true) : Sealed OnNoise OnNoise (eatSymbol mark) :=
    ⟨(Indifferent.eat noiseless plain).weaken fun _ hides => hides.noise,
      Confined.eat fun _ noise => noise.ne noiseless⟩
  rw [signedInteger_eq]
  refine (sign rfl rfl).bind fun negative => ?_
  cases negative with
  | true => exact behind true
  | false => exact (sign rfl rfl).bind fun _ => behind false

end Integers

section Ownership

variable {full bare : Cursor}

/-- A column with its table. -/
def ownedColumn : Parser Ownership := do
  let start ← current
  let first ← expectName
  match first :: (← manyAfter (eatSymbol .dot) expectName) with
  | [table, column] => return .column ⟨none, table, column⟩
  | [schema, table, column] => return .column ⟨some schema, table, column⟩
  | _ => fail .ownerNotAColumn (start.span.merge (← previousSpan))

theorem ownership_eq : ownership = (do
    if (← look 0) = .keyword .NONE ∧ (← look 1) ≠ .symbol .dot then
      let _ ← advance
      return .nothing
    else ownedColumn) := by
  unfold ownership ownedColumn
  rfl

theorem ownedColumn_indifferent : Indifferent Stuck ownedColumn := by
  have others : Indifferent Stuck (manyAfter (eatSymbol .dot) expectName) :=
    Indifferent.manyAfter rfl rfl Taking.expectName.steady Indifferent.expectName.strict
      (fun _ hides => hides.stuck rfl) fun _ stuck => stuck.ne rfl
  refine fun full bare drops => Tracks.start_bind fun start startToo => ?_
  refine (Indifferent.expectName drops).bind_strict fun first full bare drops => ?_
  refine (others drops).bind (fun names full bare drops => ?_) fun names => ?_
  · rcases names with _ | ⟨second, _ | ⟨third, _ | ⟨fourth, names⟩⟩⟩
    · exact Tracks.previousSpan_bind fun _ _ => Tracks.fail
    · exact Indifferent.pure _ drops
    · exact Indifferent.pure _ drops
    · exact Tracks.previousSpan_bind fun _ _ => Tracks.fail
  · rcases names with _ | ⟨second, _ | ⟨third, _ | ⟨fourth, names⟩⟩⟩
    · exact Confined.read_bind fun _ stuck => Confined.fail stuck
    · exact Confined.pure _ fun _ => id
    · exact Confined.pure _ fun _ => id
    · exact Confined.read_bind fun _ stuck => Confined.fail stuck

theorem ownedColumn_noise : Confined OnNoise Nowhere ownedColumn :=
  Confined.read_bind fun _ noise => Confined.expectName_noise.bind_nowhere noise

/-- Whether `NONE` is a name is told by the dot behind it, which a noise word may hide. -/
theorem ownership_indifferent : Indifferent Stuck ownership := by
  rw [ownership_eq]
  intro full bare drops
  have column : Tracks Stuck full bare ownedColumn ownedColumn := ownedColumn_indifferent drops
  change Tracks Stuck full bare
    (if (full.peek 0).kind = .keyword .NONE ∧ (full.peek 1).kind ≠ .symbol .dot then _ else _)
    (if (bare.peek 0).kind = .keyword .NONE ∧ (bare.peek 1).kind ≠ .symbol .dot then _ else _)
  rcases drops.cases with inStep | atNoise
  · have first : (bare.peek 0).kind = (full.peek 0).kind := inStep.kind
    rw [first]
    by_cases none : (full.peek 0).kind = .keyword .NONE
    · have goes : (full.peek 0).kind ≠ .finish := by simp [none]
      have advances := inStep.advance goes
      simp only [none, true_and]
      rcases inStep.second goes with same | ⟨noise, hides⟩
      · rw [same]
        split
        · exact .ok rfl rfl advances
        · exact column
      · rw [if_pos (TokenKind.ne_of_isNoise noise rfl)]
        by_cases dot : (bare.peek 1).kind = .symbol .dot
        · exact .of_ends (Ends.of_ok rfl (Hides.stuck (dot ▸ hides) rfl))
        · rw [if_pos dot]
          exact .ok rfl rfl advances
    · rw [if_neg fun known => none known.1, if_neg fun known => none known.1]
      exact column
  · have other : (full.peek 0).kind ≠ .keyword .NONE := OnNoise.ne atNoise.noise rfl
    rw [if_neg fun known => other known.1]
    exact .of_ends ((ownedColumn_noise atNoise.noise).weaken fun _ => False.elim)

end Ownership

section Clauses

variable {clause : Parser (Option SequenceClause)}
  {body? : TokenKind → Option (Parser (Option SequenceClause))}

theorem isFirm_of_startsClause {kind : TokenKind} (starts : startsClause kind = true) :
    kind.isFirm = true := by
  unfold startsClause at starts
  split at starts <;> first | rfl | cases starts

theorem halts_of_startsClause {kind : TokenKind} (starts : startsClause kind = true) :
    kind.halts = false := by
  unfold startsClause at starts
  split at starts <;> first | rfl | cases starts

/-- A keyword that stands for a value is there on both sides or on none, unless a noise word hides
it. -/
theorem keywordOr_sealed {α : Type} {start stray : Cursor → Prop} {word : Keyword} {value : α}
    {others : Parser α} (halts : (TokenKind.keyword word).halts = false)
    (halted : ∀ cursor, start cursor → Halted cursor)
    (noise : ∀ cursor, OnNoise cursor → start cursor)
    (absent : Sealed start stray others) :
    Sealed start stray (do if ← eatKeyword word then return value else others) :=
  Sealed.choice (Bool.or_eq_false_iff.mp halts).1 rfl
    (fun cursor started => (halted cursor started).ne halts)
    (fun cursor hides => noise cursor hides.noise) (Indifferent.pure _) absent

theorem negatedClause_sealed : Sealed OnNoise Nowhere negatedClause := by
  have halted (cursor : Cursor) : OnNoise cursor → Halted cursor := OnNoise.halted
  exact keywordOr_sealed rfl halted (fun _ => id)
    (keywordOr_sealed rfl halted (fun _ => id)
      (keywordOr_sealed rfl halted (fun _ => id)
        ⟨Indifferent.unexpected, Confined.unexpected⟩))

/-- No clause starts at a noise word or at what goes by what is behind it. -/
theorem clause_of_halted (parser : ClauseParser clause body?) {cursor : Cursor}
    (halted : cursor.Halted) : clause cursor = .ok none cursor := by
  rw [parser.run]
  cases found : body? cursor.current.kind with
  | none => rfl
  | some body => exact absurd rfl (halted.ne (halts_of_startsClause (parser.starts found)))

/-- A parser of clauses is indifferent if what stands behind the first keywords is. -/
theorem clause_indifferent (parser : ClauseParser clause body?)
    (read : ∀ kind body, body? kind = some body → Indifferent Stuck body) :
    Indifferent Stuck clause := by
  intro full bare drops
  rcases drops.cases with inStep | atNoise
  · intro value stopped parsed
    rw [parser.run] at parsed ⊢
    rw [inStep.kind]
    cases found : body? full.current.kind with
    | none =>
        rw [found] at parsed
        exact Indifferent.pure none drops value stopped parsed
    | some body =>
        rw [found] at parsed
        have goes := TokenKind.ne_finish_of_isFirm (isFirm_of_startsClause (parser.starts found))
        exact read _ body found (inStep.advance goes) value stopped parsed
  · have passed := clause_of_halted parser (OnNoise.halted atNoise.noise)
    cases found : body? bare.current.kind with
    | none =>
        have passedToo : clause bare = .ok none bare := by
          rw [parser.run, found]
        exact .ok passed passedToo drops
    | some body =>
        have firm := isFirm_of_startsClause (parser.starts found)
        exact .of_ends (Ends.of_ok passed
          ((atNoise.hides rfl).stuck (TokenKind.goesOn_of_isFirm firm)))

theorem sequenceBody_indifferent (kind : TokenKind) (body : Parser (Option SequenceClause))
    (found : clauseBody? kind = some body) : Indifferent Stuck body := by
  have valued (make : Int64 → SequenceClause) :
      Indifferent Stuck (do return some (make (← signedInteger))) :=
    signedInteger_sealed.indifferent.strict.bind_pure
  have behind (word : Keyword) (make : Int64 → SequenceClause)
      (noiseless : (TokenKind.keyword word).isNoise = false) :
      Indifferent Stuck (do
        let _ ← eatKeyword word
        return some (make (← signedInteger))) :=
    (Indifferent.eat noiseless rfl).bind (fun _ => valued make) fun _ =>
      (signedInteger_sealed.confined.weaken (fun _ hides => hides.noise) fun _ => id).bind_nowhere
  unfold clauseBody? at found
  split at found <;> cases found
  · exact dataType_indifferent.bind_pure
  · exact behind .WITH _ rfl
  · exact behind .BY _ rfl
  · exact valued _
  · exact valued _
  · exact valued _
  · exact Indifferent.pure _
  · exact negatedClause_sealed.indifferent.strict.bind_pure
  · exact (Indifferent.expectKeyword .BY rfl).bind_strict fun _ => ownership_indifferent.bind_pure

theorem startsSignedNumber_of_isNoise {kind : TokenKind} (noise : kind.isNoise = true) :
    startsSignedNumber kind = false := by
  rcases TokenKind.eq_of_isNoise noise with rfl | rfl | rfl | rfl <;> rfl

theorem goesOn_of_startsSignedNumber {kind : TokenKind} (starts : startsSignedNumber kind = true) :
    kind.goesOn = false := by
  cases kind with
  | integer | numeric => rfl
  | symbol mark => cases mark <;> first | rfl | cases starts
  | _ => cases starts

/-- A restart, behind the words that ask for it: at a number, or else at the start. -/
def restartClause : Parser (Option SequenceClause) := do
  if startsSignedNumber (← look 0) then
    return some (.restart (.value (← signedInteger)))
  return some (.restart .atStart)

theorem restartClause_of_isNoise {cursor : Cursor} (noise : cursor.OnNoise) :
    restartClause cursor = .ok (some (.restart .atStart)) cursor :=
  congrFun (if_neg (Bool.eq_false_iff.mp (startsSignedNumber_of_isNoise noise))) cursor

theorem restartClause_indifferent : Indifferent Stuck restartClause := by
  have valued : Indifferent Stuck (do
      return some (SequenceClause.restart (.value (← signedInteger)))) :=
    signedInteger_sealed.indifferent.strict.bind_pure
  refine fun full bare drops => Tracks.look_bind drops (fun _ => ?_) fun atNoise => ?_
  · split
    · exact valued drops
    · exact Indifferent.pure _ drops
  · rw [startsSignedNumber_of_isNoise atNoise.noise]
    cases number : startsSignedNumber bare.current.kind with
    | true =>
        have stuck := (atNoise.hides rfl).stuck (goesOn_of_startsSignedNumber number)
        exact .of_ends (Ends.of_ok rfl stuck)
    | false => exact Indifferent.pure _ drops

theorem changeBody_indifferent (kind : TokenKind) (body : Parser (Option SequenceClause))
    (found : changeBody? kind = some body) : Indifferent Stuck body := by
  have valued : Indifferent Stuck (do
      return some (SequenceClause.restart (.value (← signedInteger)))) :=
    signedInteger_sealed.indifferent.strict.bind_pure
  unfold changeBody? at found
  split at found
  · cases found
    refine Indifferent.choice rfl rfl valued restartClause_indifferent fun cursor hides => ?_
    exact Ends.of_ok (restartClause_of_isNoise hides.noise) (hides.stuck rfl)
  · exact sequenceBody_indifferent kind body found

theorem sequenceClause_indifferent : Indifferent Stuck sequenceClause :=
  clause_indifferent clauseParser_sequenceClause sequenceBody_indifferent

theorem changeClause_indifferent : Indifferent Stuck changeClause :=
  clause_indifferent clauseParser_changeClause changeBody_indifferent

end Clauses

section Loop

variable {clause : Parser (Option SequenceClause)}
  {body? : TokenKind → Option (Parser (Option SequenceClause))}

/-- Where no statement ends and no clause starts, the loop over clauses fails. -/
theorem clausesWithin_halted (parser : ClauseParser clause body?) (fuel : Nat)
    (earlier : List SequenceClause) :
    Confined Halted Nowhere (clausesWithin clause (fuel + 1) earlier) := by
  refine Confined.read_bind fun cursor halted => ?_
  rw [if_neg (Bool.eq_false_iff.mp halted.lost.goes)]
  intro value stopped read
  rw [bind_of_ok (clause_of_halted parser halted)] at read
  cases read

theorem clausesWithin_confined (parser : ClauseParser clause body?) (fuel : Nat)
    (earlier : List SequenceClause) : Confined Stuck Stuck (clausesWithin clause fuel earlier) := by
  cases fuel with
  | zero => exact Confined.pure _ fun _ => id
  | succ fuel =>
      exact (clausesWithin_halted parser fuel earlier).weaken (fun _ => Stuck.halted)
        fun _ => False.elim

/-- The loop over clauses is indifferent, for any number of turns. -/
theorem clausesWithin_indifferent (parser : ClauseParser clause body?)
    (indifferent : Indifferent Stuck clause) (fuel : Nat) (earlier : List SequenceClause) :
    Indifferent Stuck (clausesWithin clause fuel earlier) := by
  induction fuel generalizing earlier with
  | zero => exact Indifferent.pure _
  | succ fuel inductionHypothesis =>
      refine fun full bare drops => Tracks.current_bind drops (fun _ tokenToo same => ?_)
        fun atNoise => ?_
      · rw [same]
        split
        · exact Indifferent.pure _ drops
        · refine (indifferent drops).bind (fun found full bare drops => ?_) fun found => ?_
          · cases found with
            | none => exact Indifferent.unexpected drops
            | some value =>
                dsimp only
                split
                · exact Tracks.previousSpan_bind fun _ _ => Tracks.fail.bind_strict
                    fun _ _ _ drops => inductionHypothesis _ drops
                · exact inductionHypothesis _ drops
          · cases found with
            | none => exact Confined.unexpected
            | some value =>
                dsimp only
                split
                · exact Confined.read_bind fun _ stuck => Confined.fail.bind_nowhere stuck
                · exact clausesWithin_confined parser fuel _
      · have failing := clausesWithin_halted parser fuel earlier (OnNoise.halted atNoise.noise)
        exact failing.weaken fun _ => False.elim

/-- Clauses up to the end of the statement, where something has to stand. -/
theorem clauses_halted (parser : ClauseParser clause body?) :
    Confined Halted Nowhere (clauses clause) :=
  Confined.read_bind fun _ halted => clausesWithin_halted parser _ [] halted

theorem clauses_sealed (parser : ClauseParser clause body?)
    (moving : Moving clause (·.isSome = true)) (indifferent : Indifferent Stuck clause) :
    Sealed Stuck Stuck (clauses clause) :=
  ⟨Indifferent.of_settles
      (fun _ closed => clausesWithin_settles moving closed (Nat.lt_succ_self _) [])
      fun fuel => clausesWithin_indifferent parser indifferent fuel [],
    (clauses_halted parser).weaken (fun _ => Stuck.halted) fun _ => False.elim⟩

theorem createClauses_sealed : Sealed Stuck Stuck (clauses sequenceClause) :=
  clauses_sealed clauseParser_sequenceClause sequenceClause_moving sequenceClause_indifferent

theorem changeClauses_sealed : Sealed Stuck Stuck (clauses changeClause) :=
  clauses_sealed clauseParser_changeClause changeClause_moving changeClause_indifferent

end Loop

section Statements

theorem persistence_sealed : Sealed OnNoise OnNoise persistence := by
  have halted (cursor : Cursor) : OnNoise cursor → Halted cursor := OnNoise.halted
  exact keywordOr_sealed rfl halted (fun _ => id)
    (keywordOr_sealed rfl halted (fun _ => id)
      (keywordOr_sealed rfl halted (fun _ => id) (Sealed.pure _ fun _ => id)))

theorem objectName_sealed : Sealed Stuck Stuck objectName :=
  ⟨objectName_indifferent, objectName_confined⟩

theorem createSequence_indifferent : Indifferent Stuck createSequence := by
  refine (Indifferent.expectKeyword .CREATE rfl).bind_strict fun _ => ?_
  refine Sealed.behind persistence_sealed.indifferent fun _ => ?_
  refine (Sealed.expectKeyword rfl fun _ noise => noise.ne rfl).bind fun _ => ?_
  refine (Sealed.of_strict ifNotExists_indifferent).bind fun _ => ?_
  exact objectName_sealed.bind fun _ => createClauses_sealed.bind_pure

/-- Where no statement ends and no change starts, what is changed is refused. -/
theorem sequenceChange_halted : Confined Halted Nowhere sequenceChange := by
  rw [sequenceChange_eq]
  refine Confined.read_bind fun cursor halted => ?_
  unfold sequenceChangeBy
  split
  · next known => exact absurd known (halted.ne rfl)
  · next known => exact absurd known (halted.ne rfl)
  · next known => exact absurd known (halted.ne rfl)
  · dsimp only
    split
    · exact Confined.unexpected.bind_nowhere halted
    · exact (clauses_halted clauseParser_changeClause).bind_nowhere halted

/-- A schema is set where both tokens of the phrase stand, or else the change is refused. -/
theorem setting_tracks {full bare : Cursor} (drops : full.Drops bare)
    (set : full.current.kind = .keyword .SET) (span spanToo : Span) :
    Tracks Stuck full bare (sequenceChangeBy (.keyword .SET) span)
      (sequenceChangeBy (.keyword .SET) spanToo) := by
  change Tracks Stuck full bare
    (if (full.peek 1).kind = .keyword .SCHEMA then _ else _)
    (if (bare.peek 1).kind = .keyword .SCHEMA then _ else _)
  have goes : TokenKind.keyword .SET ≠ .finish := by simp
  have firm : [TokenKind.keyword .SET, .keyword .SCHEMA].all TokenKind.isFirm = true := rfl
  have named : Indifferent Stuck (do return SequenceChange.schema (← expectName)) :=
    Indifferent.expectName.strict.bind_pure
  rcases drops.phrase firm with ⟨shown, shownToo, past⟩ | ⟨missed, _⟩
  · rw [if_pos ((showsPhrase_pair goes).mp shown).2, if_pos ((showsPhrase_pair goes).mp shownToo).2]
    exact fun value stopped read => named past value stopped read
  · rw [if_neg fun schema => missed ((showsPhrase_pair goes).mpr ⟨set, schema⟩)]
    exact Tracks.fail

theorem sequenceChange_indifferent : Indifferent Stuck sequenceChange := by
  have named (make : String → SequenceChange) :
      Indifferent Stuck (do expectKeyword .TO; return make (← expectName)) :=
    (Indifferent.expectKeyword .TO rfl).bind_strict fun _ =>
      Indifferent.expectName.strict.bind_pure
  have optioned : Indifferent Stuck (do
      let clauses ← clauses changeClause
      return SequenceChange.options (optionsOf clauses) (restartOf clauses)) :=
    changeClauses_sealed.indifferent.bind_pure
  intro full bare drops
  rcases drops.cases with inStep | atNoise
  · rw [sequenceChange_eq]
    refine Tracks.get_bind ?_
    rw [inStep.kind]
    by_cases set : full.current.kind = .keyword .SET
    · rw [set]
      exact setting_tracks drops set _ _
    · unfold sequenceChangeBy
      split
      · next known =>
          exact Tracks.advance_bind inStep (isPlain_of_eq known rfl) (named _ ·)
      · next known =>
          exact Tracks.advance_bind inStep (isPlain_of_eq known rfl) (named _ ·)
      · next known => exact absurd known set
      · dsimp only
        split
        · exact (Indifferent.unexpected.bind_strict fun _ => optioned) drops
        · exact optioned drops
  · have failing := sequenceChange_halted (OnNoise.halted atNoise.noise)
    exact .of_ends (failing.weaken fun _ => False.elim)

theorem alterSequence_indifferent : Indifferent Stuck alterSequence := by
  have change : Sealed Stuck Stuck sequenceChange :=
    ⟨sequenceChange_indifferent,
      sequenceChange_halted.weaken (fun _ => Stuck.halted) fun _ => False.elim⟩
  refine (Indifferent.expectKeyword .ALTER rfl).bind_strict fun _ => ?_
  refine (Indifferent.expectKeyword .SEQUENCE rfl).bind_strict fun _ => ?_
  exact Sealed.behind ifExists_indifferent fun _ => objectName_sealed.bind fun _ =>
    change.bind_pure

theorem dropBehavior_sealed : Sealed Halted Halted dropBehavior := by
  have noise (cursor : Cursor) : OnNoise cursor → Halted cursor := OnNoise.halted
  exact keywordOr_sealed rfl (fun _ => id) noise
    (keywordOr_sealed rfl (fun _ => id) noise (Sealed.pure _ fun _ => id))

theorem dropSequence_indifferent : Indifferent Halted dropSequence := by
  have names : Sealed Stuck Halted (separated objectName) :=
    ⟨Indifferent.separated objectName_taking.steady
        (objectName_indifferent.weaken fun _ => Stuck.halted) (fun _ => id)
        fun _ halted => halted.ne rfl,
      (objectName_confined.weaken (fun _ => id) fun _ => Stuck.halted).separated
        fun _ halted => halted.ne rfl⟩
  refine (Indifferent.expectKeyword .DROP rfl).bind_strict fun _ => ?_
  refine (Indifferent.expectKeyword .SEQUENCE rfl).bind_strict fun _ => ?_
  exact Sealed.behind ifExists_indifferent fun _ => names.bind fun _ =>
    dropBehavior_sealed.bind_pure

end Statements

end SqlTree.Grammar
