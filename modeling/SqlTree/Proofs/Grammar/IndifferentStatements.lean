import SqlTree.Proofs.Grammar.IndifferentQueries
import SqlTree.Proofs.Grammar.IndifferentSequences

/-!
# Indifference of the grammar of statements

What strayed within a statement is caught where the statement has to end: no statement ends at a
noise word, or behind a sort key whose direction nothing closes. Only a noise word behind a
semicolon is left for the next statement, which does not start with one.
-/

namespace SqlTree.Grammar

open SqlTree.Parser Cursor

section Parts

theorem topRules_areIndifferent : topRules.AreIndifferent := rules_areIndifferent maximalNesting

theorem optionalAlias_sealed : Sealed Stuck Halted optionalAlias :=
  Sealed.weaken ⟨optionalAlias_indifferent, optionalAlias_confined⟩ (fun _ => id) fun _ =>
    Stuck.halted

theorem returning_sealed : Sealed Lost Lost returning :=
  (Sealed.optionalLost .RETURNING rfl rfl
    ((outputColumns_indifferent topRules_areIndifferent).weaken fun _ => Halted.lost)).bind_pure

theorem rowFilter_sealed : Sealed Halted Lost rowFilter :=
  (Sealed.optionalHalted .WHERE rfl
    ((topRules_areIndifferent.expression 0).weaken fun _ => Stuck.halted)).weaken
    (fun _ => id) fun _ => Halted.lost

theorem targetColumns_sealed : Sealed Stuck Stuck targetColumns := by
  refine Sealed.choice rfl rfl (fun _ stuck => stuck.ne rfl) (fun _ hides => hides.stuck rfl) ?_
    (Sealed.pure [] fun _ => id)
  refine Sealed.behind nameList_indifferent fun _ => ?_
  exact (Sealed.expectSymbol fun _ halted => halted.ne rfl).bind fun _ =>
    Sealed.of_strict (Indifferent.pure _)

/-- The words for a row of defaults, where no rows and no query are given. -/
theorem defaults_sealed : Sealed Halted Nowhere (do
    if ← eatKeyword .DEFAULT then
      expectKeyword .VALUES
      return InsertSource.defaults
    unexpected .insertSource) :=
  Sealed.choice rfl rfl (fun _ halted => halted.ne rfl) (fun _ hides => hides.halted)
    ((Indifferent.expectKeyword .VALUES rfl).bind_strict fun _ => Indifferent.pure _)
    ⟨Indifferent.unexpected, Confined.unexpected⟩

theorem insertSource_sealed : Sealed Halted Lost insertSource := by
  have values : Indifferent Halted (separated (parenthesized (expressionList topRules))) :=
    Indifferent.separated
      (Taking.parenthesized (expressionList_steady topRules_areSteady)).steady
      (Indifferent.parenthesized
        ((expressionList_indifferent topRules_areIndifferent).weaken fun _ => Halted.lost)).strict
      (fun _ => id) fun _ halted => halted.ne rfl
  have rows : Indifferent Lost (do
      return InsertSource.rows (← separated (parenthesized (expressionList topRules)))) :=
    (values.weaken fun _ => Halted.lost).bind_pure
  have others : Sealed Halted Lost (do
      if ← atKeyword .SELECT then return InsertSource.query (← topRules.query)
      if ← eatKeyword .DEFAULT then
        expectKeyword .VALUES
        return InsertSource.defaults
      unexpected .insertSource) := by
    refine ⟨selectOr_indifferent topRules_areIndifferent.query.bind_pure
      defaults_sealed.indifferent.strict ?_, ?_⟩
    · exact defaults_sealed.confined.weaken (fun _ => OnNoise.halted) fun _ => id
    · exact Confined.test_bind (fun _ => rfl) (fun _ halted => halted.ne rfl)
        (defaults_sealed.confined.weaken (fun _ => id) fun _ => False.elim)
  exact Sealed.choice rfl rfl (fun _ halted => halted.ne rfl) (fun _ hides => hides.halted) rows
    others

theorem assignment_indifferent : Indifferent Stuck assignment :=
  Indifferent.expectName.bind_strict fun _ =>
    (Indifferent.expectSymbol .equal).bind_strict fun _ =>
      (topRules_areIndifferent.expression 0).bind_pure

end Parts

section Bodies

theorem insert_indifferent : Indifferent Lost insert := by
  have source : Sealed Stuck Lost insertSource :=
    insertSource_sealed.weaken (fun _ => Stuck.halted) fun _ => id
  refine (Indifferent.expectKeyword .INSERT rfl).bind_strict fun _ => ?_
  refine (Indifferent.expectKeyword .INTO rfl).bind_strict fun _ => ?_
  exact Sealed.behind objectName_indifferent fun _ => targetColumns_sealed.bind fun _ =>
    source.bind fun _ => returning_sealed.bind_pure

theorem update_indifferent : Indifferent Lost update := by
  have assignments : Indifferent Halted (separated assignment) :=
    Indifferent.separated assignment_steady
      (assignment_indifferent.weaken fun _ => Stuck.halted) (fun _ => id)
      fun _ halted => halted.ne rfl
  have tables : Sealed Halted Halted (optionalAfter .FROM (tableList topRules)) :=
    Sealed.optionalHalted .FROM rfl (tableList_indifferent topRules_areIndifferent)
  refine (Indifferent.expectKeyword .UPDATE rfl).bind_strict fun _ => ?_
  refine Sealed.behind objectName_indifferent fun _ => optionalAlias_sealed.bind fun _ => ?_
  refine (Sealed.expectKeyword rfl fun _ halted => halted.ne rfl).bind fun _ => ?_
  refine (Sealed.of_strict assignments).bind fun _ => ?_
  exact tables.bind fun _ => rowFilter_sealed.bind fun _ => returning_sealed.bind_pure

theorem delete_indifferent : Indifferent Lost delete := by
  refine (Indifferent.expectKeyword .DELETE rfl).bind_strict fun _ => ?_
  refine (Indifferent.expectKeyword .FROM rfl).bind_strict fun _ => ?_
  exact Sealed.behind objectName_indifferent fun _ => optionalAlias_sealed.bind fun _ =>
    rowFilter_sealed.bind fun _ => returning_sealed.bind_pure

end Bodies

section Verbs

variable {full bare : Cursor}

/-- What goes by a phrase, which is shown without the noise word as well, or is refused. -/
theorem guarded_tracks {α : Type} {stray : Cursor → Prop} {guard guardToo : Prop}
    [Decidable guard] [Decidable guardToo] {yes : Parser α} {verb : Keyword} {takesObject : Bool}
    (kept : guard → guardToo) (present : Tracks stray full bare yes yes) :
    Tracks stray full bare (if guard then yes else unsupportedStatement verb takesObject)
      (if guardToo then yes else unsupportedStatement verb takesObject) := by
  by_cases given : guard
  · rw [if_pos given, if_pos (kept given)]
    exact present
  · rw [if_neg given]
    exact .of_ends (Ends.of_error rfl)

theorem unsupportedStatement_tracks {α : Type} {stray : Cursor → Prop} {other : Parser α}
    (verb : Keyword) (takesObject : Bool) :
    Tracks stray full bare (unsupportedStatement verb takesObject) other :=
  .of_ends (Ends.of_error rfl)

/-- A verb with `SEQUENCE` behind it has it behind it without a noise word. -/
theorem sequence_behind (drops : full.Drops bare) {verb : Keyword}
    (firm : (TokenKind.keyword verb).isFirm = true) (found : full.current.kind = .keyword verb)
    (second : (full.peek 1).kind = .keyword .SEQUENCE) :
    (bare.peek 1).kind = .keyword .SEQUENCE := by
  have goes : TokenKind.keyword verb ≠ .finish := TokenKind.ne_finish_of_isFirm firm
  have phrase : [TokenKind.keyword verb, .keyword .SEQUENCE].all TokenKind.isFirm = true :=
    Bool.and_eq_true_iff.mpr ⟨firm, rfl⟩
  exact ((showsPhrase_pair goes).mp
    (drops.showsPhrase phrase ((showsPhrase_pair goes).mpr ⟨found, second⟩))).2

theorem isFirm_of_isPersistence {kind : TokenKind} (persists : isPersistence kind = true) :
    kind.isFirm = true := by
  unfold isPersistence at persists
  split at persists <;> first | rfl | cases persists

/-- What makes a sequence does so without a noise word. -/
theorem startsSequence_behind (drops : full.Drops bare)
    (found : full.current.kind = .keyword .CREATE)
    (starts : startsSequence (full.peek 1).kind (full.peek 2).kind = true) :
    startsSequence (bare.peek 1).kind (bare.peek 2).kind = true := by
  rw [startsSequence, Bool.or_eq_true, Bool.and_eq_true, decide_eq_true_iff,
    decide_eq_true_iff] at starts ⊢
  rcases starts with second | ⟨persists, third⟩
  · exact .inl (sequence_behind drops rfl found second)
  · have firm := isFirm_of_isPersistence persists
    have goes : (full.peek 1).kind ≠ .finish := TokenKind.ne_finish_of_isFirm firm
    have phrase : [TokenKind.keyword .CREATE, (full.peek 1).kind, .keyword .SEQUENCE].all
        TokenKind.isFirm = true :=
      Bool.and_eq_true_iff.mpr ⟨rfl, Bool.and_eq_true_iff.mpr ⟨firm, rfl⟩⟩
    have verb : TokenKind.keyword .CREATE ≠ .finish := by simp
    have shown := (showsPhrase_triple verb goes).mpr ⟨found, rfl, third⟩
    obtain ⟨_, secondToo, thirdToo⟩ := (showsPhrase_triple verb goes).mp (drops.showsPhrase phrase shown)
    exact .inr ⟨secondToo ▸ persists, thirdToo⟩

/-- No statement starts with a noise word. -/
theorem statementBody_noise : Confined OnNoise Nowhere statementBody := by
  refine Confined.read_bind fun cursor noise => ?_
  change (cursor.peek 0).kind.isNoise = true at noise
  rcases TokenKind.eq_of_isNoise noise with word | word | word | word <;> rw [word] <;>
    exact Ends.of_error rfl

theorem statementBody_indifferent : Indifferent Lost statementBody := by
  refine fun full bare drops => Tracks.look_bind drops (fun _ => ?_) fun atNoise => ?_
  · split
    · exact topRules_areIndifferent.query.bind_pure drops
    · exact insert_indifferent.bind_pure drops
    · exact update_indifferent.bind_pure drops
    · exact delete_indifferent.bind_pure drops
    · next found =>
        have present := (createSequence_indifferent.weaken fun _ stuck => stuck.halted.lost)
        exact guarded_tracks (startsSequence_behind drops found) (present.bind_pure drops)
    · next found =>
        have present := (alterSequence_indifferent.weaken fun _ stuck => stuck.halted.lost)
        exact guarded_tracks (sequence_behind drops rfl found) (present.bind_pure drops)
    · next found =>
        have present := dropSequence_indifferent.weaken fun _ => Halted.lost
        exact guarded_tracks (sequence_behind drops rfl found) (present.bind_pure drops)
    · exact unsupportedStatement_tracks _ _
    · exact unsupportedStatement_tracks _ _
    · exact Indifferent.unexpected drops
  · exact .of_ends ((statementBody_noise atNoise.noise).weaken fun _ => False.elim)

end Verbs

section Session

theorem skipSemicolons_sealed : Sealed OnNoise OnNoise skipSemicolons := by
  have others : Indifferent OnNoise (manyAfter (eatSymbol .semicolon) (pure ())) :=
    Indifferent.manyAfter rfl rfl (Steady.pure ()) (Indifferent.pure ())
      (fun _ hides => hides.noise) fun _ noise => noise.ne rfl
  exact ⟨others.bind_pure, (Confined.manyAfter fun _ noise => noise.ne rfl).bind_pure⟩

theorem statementBody_sealed : Sealed OnNoise Lost statementBody :=
  ⟨statementBody_indifferent, statementBody_noise.weaken (fun _ => id) fun _ => False.elim⟩

/-- A statement ends nowhere that its body strays to. -/
theorem endOfStatement_sealed : Sealed Lost Nowhere endOfStatement := by
  refine ⟨fun full bare drops => Tracks.look_bind drops (fun _ => ?_) fun atNoise => ?_,
    Confined.read_bind fun cursor lost => ?_⟩
  · split
    · exact Indifferent.pure () drops
    · exact Indifferent.unexpected drops
  · have goes := Lost.goes (OnNoise.halted atNoise.noise).lost
    rw [goes]
    exact .of_ends (Ends.of_error rfl)
  · rw [show (cursor.peek 0).kind.isTerminator = false from lost.goes]
    exact Ends.of_error rfl

/-- Where a statement stands is not part of it. -/
theorem statement_eq_body : statement = (do
    skipSemicolons
    let statement ← statementBody
    endOfStatement
    let _ ← eatSymbol .semicolon
    return statement) := by
  simp only [statement, locatedStatement, bind_assoc, pure_bind]
  rfl

/-- A statement strays only to a noise word behind the semicolon that would end it. -/
theorem statement_indifferent : Indifferent OnNoise statement := by
  have semicolon : Indifferent OnNoise (eatSymbol .semicolon) :=
    (Indifferent.eat rfl rfl).weaken fun _ hides => hides.noise
  rw [statement_eq_body]
  refine Sealed.behind skipSemicolons_sealed.indifferent fun _ => ?_
  exact statementBody_sealed.bind fun _ => endOfStatement_sealed.bind fun _ =>
    (Sealed.of_strict semicolon).bind_pure

theorem statement_noise : Confined OnNoise Nowhere statement := by
  rw [statement_eq_body]
  exact skipSemicolons_sealed.confined.bind fun _ => statementBody_noise.bind_nowhere

theorem finish_sealed : Sealed OnNoise Nowhere finish := by
  have refused {kind : TokenKind} (noise : kind.isNoise = true) : ¬ kind = .finish :=
    TokenKind.ne_of_isNoise noise rfl
  refine skipSemicolons_sealed.bind fun _ => ⟨?_, Confined.read_bind fun cursor noise => ?_⟩
  · refine fun full bare drops => Tracks.look_bind drops (fun _ => ?_) fun atNoise => ?_
    · split
      · exact Indifferent.pure () drops
      · exact Indifferent.unexpected drops
    · rw [if_neg (refused atNoise.noise)]
      exact .of_ends (Ends.of_error rfl)
  · change (cursor.peek 0).kind.isNoise = true at noise
    rw [if_neg (refused noise)]
    exact Ends.of_error rfl

end Session

end SqlTree.Grammar
