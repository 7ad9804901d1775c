import SqlTree.Proofs.Grammar.Indifference
import SqlTree.Proofs.Grammar.SteadyRules

/-!
# Indifference of the grammar of names and data types

A rule that ends with something optional may stray to where it is stuck before a noise word: what is
optional could only be seen without the noise word. A rule that looks further ahead goes by a
phrase, and strays where the noise word stands within the phrase.
-/

namespace SqlTree.Grammar

open SqlTree.Parser Cursor

section Names

variable {stray : Cursor → Prop} {full bare : Cursor}

/-- The span of a name only shows in a failure. -/
theorem nameOfParts_tracks (parts : List String) (drops : full.Drops bare) (span spanToo : Span) :
    Tracks stray full bare (nameOfParts parts span) (nameOfParts parts spanToo) := by
  unfold nameOfParts
  split
  · exact Indifferent.pure _ drops
  · exact Indifferent.pure _ drops
  · exact Tracks.fail

theorem nameOfParts_confined (parts : List String) (span : Span) :
    Confined stray stray (nameOfParts parts span) := by
  unfold nameOfParts
  split
  · exact Confined.pure _ fun _ => id
  · exact Confined.pure _ fun _ => id
  · exact Confined.fail

theorem objectName_indifferent : Indifferent Stuck objectName :=
  Indifferent.expectName.bind_strict fun _ =>
    Indifferent.choice rfl rfl (Indifferent.expectName.bind_strict fun _ => Indifferent.pure _)
      (Indifferent.pure _) (Confined.pure _ fun _ hides => hides.stuck rfl)

theorem objectName_confined : Confined Stuck Stuck objectName :=
  Confined.expectName.bind fun _ =>
    Confined.choice (fun _ stuck => stuck.ne rfl) (Confined.pure _ fun _ => id)

theorem objectName_noise : Confined OnNoise Nowhere objectName :=
  Confined.expectName_noise.bind_nowhere

theorem nameList_indifferent : Indifferent Halted nameList :=
  Indifferent.separated Taking.expectName.steady Indifferent.expectName.strict (fun _ => id)
    fun _ halted => halted.ne rfl

theorem optionalAlias_indifferent : Indifferent Stuck optionalAlias := by
  have name : Indifferent Stuck (do return some (← expectName)) :=
    Indifferent.expectName.bind_strict fun _ => Indifferent.pure _
  refine Indifferent.choice rfl rfl name (fun full bare drops => ?_) ?_
  · refine Tracks.look_bind drops (fun inStep => ?_) fun atNoise => ?_
    · split
      · exact name drops
      · exact Indifferent.pure none drops
    · split
      · next known => exact absurd known (OnNoise.ne atNoise.noise rfl)
      · split
        · next known => exact .of_ends (Ends.of_ok rfl ((atNoise.hides known).stuck rfl))
        · exact Indifferent.pure none drops
  · refine Confined.read_bind fun cursor hides => ?_
    split
    · next known => exact absurd known (hides.noise.ne rfl)
    · exact Ends.of_ok rfl (hides.stuck rfl)

theorem optionalAlias_confined : Confined Stuck Stuck optionalAlias := by
  refine Confined.choice (fun _ stuck => stuck.ne rfl) (Confined.read_bind fun cursor stuck => ?_)
  split
  · exact Confined.expectName.bind_pure stuck
  · exact Ends.of_ok rfl stuck

end Names

section Phrases

variable {α : Type} {first second : TokenKind} {yes : Parser α} {value : α}

/-- A rule may go by a phrase of two tokens. -/
theorem phrase_indifferent (firm : [first, second].all TokenKind.isFirm = true)
    (unsettled : first.isUnsettled = true)
    (present : ∀ ⦃full bare : Cursor⦄, full.Drops bare → full.ShowsPhrase [first, second] →
      full.advance.advance.Drops bare.advance.advance → Tracks Stuck full bare yes yes) :
    Indifferent Stuck (do
      if (← look 0) = first ∧ (← look 1) = second then yes else return value) := by
  intro full bare drops
  have goes : first ≠ .finish :=
    TokenKind.ne_finish_of_isFirm (Bool.and_eq_true_iff.mp firm).1
  change Tracks Stuck full bare
    (if (full.peek 0).kind = first ∧ (full.peek 1).kind = second then yes else pure value)
    (if (bare.peek 0).kind = first ∧ (bare.peek 1).kind = second then yes else pure value)
  rcases drops.phrase firm with ⟨shown, shownToo, past⟩ | ⟨missed, breaks⟩
  · rw [if_pos ((showsPhrase_pair goes).mp shown), if_pos ((showsPhrase_pair goes).mp shownToo)]
    exact present drops shown past
  · rw [if_neg (mt (showsPhrase_pair goes).mpr missed)]
    by_cases shown : bare.ShowsPhrase [first, second]
    · have stuck : full.Stuck := (breaks shown).stuck firm (by simp [unsettled])
      exact .of_ends (Ends.of_ok rfl stuck)
    · rw [if_neg (mt (showsPhrase_pair goes).mpr shown)]
      exact Indifferent.pure value drops

theorem ifExists_indifferent : Indifferent Stuck ifExists :=
  phrase_indifferent rfl rfl fun _ _ drops _ _ =>
    ((Indifferent.expectKeyword .IF rfl).bind_strict fun _ =>
      (Indifferent.expectKeyword .EXISTS rfl).bind_strict fun _ => Indifferent.pure true) drops

theorem ifNotExists_indifferent : Indifferent Stuck ifNotExists :=
  phrase_indifferent rfl rfl fun _ _ drops _ _ =>
    ((Indifferent.expectKeyword .IF rfl).bind_strict fun _ =>
      (Indifferent.expectKeyword .NOT rfl).bind_strict fun _ =>
        (Indifferent.expectKeyword .EXISTS rfl).bind_strict fun _ => Indifferent.pure true) drops

theorem arrayMark_indifferent : Indifferent Stuck arrayMark :=
  phrase_indifferent rfl rfl fun _ _ _ _ past => .ok rfl rfl past

theorem arrayMark_confined : Confined Stuck Stuck arrayMark := by
  intro cursor stuck
  have missed : ¬ cursor.ShowsPhrase ([.symbol .leftBracket] ++ [.symbol .rightBracket]) :=
    stuck.not_showsPhrase rfl rfl
  have none : arrayMark cursor = .ok none cursor :=
    congrFun (if_neg (mt (showsPhrase_pair (by simp)).mpr missed)) cursor
  exact Ends.of_ok none stuck

end Phrases

section Types

/-- The words of a time zone behind a time type, of which the first one says if there is one. -/
def zonePhrase (mark : TokenKind) : List TokenKind :=
  [mark, .identifier "time", .identifier "zone"]

/-- What starts the words of a time zone. -/
def IsZoneMark (mark : TokenKind) : Prop := mark = .keyword .WITH ∨ mark = .identifier "without"

theorem firm_zonePhrase {mark : TokenKind} (known : IsZoneMark mark) :
    (zonePhrase mark).all TokenKind.isFirm = true := by
  rcases known with rfl | rfl <;> rfl

theorem unsettled_zonePhrase {mark : TokenKind} (known : IsZoneMark mark) :
    (zonePhrase mark).dropLast.all TokenKind.isUnsettled = true := by
  rcases known with rfl | rfl <;> simp [zonePhrase, TokenKind.isUnsettled]

/-- The words of a time zone stand one behind the other. -/
theorem showsPhrase_zonePhrase {cursor : Cursor} {mark : TokenKind} (known : IsZoneMark mark) :
    cursor.ShowsPhrase (zonePhrase mark) ↔ (cursor.peek 0).kind = mark ∧
      (cursor.peek 1).kind = .identifier "time" ∧ (cursor.peek 2).kind = .identifier "zone" := by
  have goes : mark ≠ .finish := by
    rcases known with rfl | rfl <;> simp
  exact showsPhrase_triple goes (by simp)

/-- The words of a time zone are read. -/
theorem timeZoneMark_of_showsPhrase {cursor : Cursor} {mark : TokenKind} (known : IsZoneMark mark)
    (shown : cursor.ShowsPhrase (zonePhrase mark)) :
    timeZoneMark cursor =
      .ok (if mark = .keyword .WITH then " with time zone" else " without time zone")
        (cursor.behindPhrase (zonePhrase mark)) := by
  obtain ⟨found, next, last⟩ := (showsPhrase_zonePhrase known).mp shown
  change (if (cursor.peek 1).kind = .identifier "time" ∧ (cursor.peek 2).kind = .identifier "zone"
    then _ else _ : Parser String) cursor = _
  rw [if_pos ⟨next, last⟩]
  change (if (cursor.peek 0).kind = .keyword .WITH ∨ (cursor.peek 0).kind = .identifier "without"
    then _ else _ : Parser String) cursor = _
  rw [found]
  exact congrFun (if_pos known) cursor

theorem timeZoneMark_of_not_showsPhrase {cursor : Cursor}
    (missed : ∀ mark, IsZoneMark mark → ¬ cursor.ShowsPhrase (zonePhrase mark)) :
    timeZoneMark cursor = .ok "" cursor := by
  change (if (cursor.peek 1).kind = .identifier "time" ∧ (cursor.peek 2).kind = .identifier "zone"
    then _ else _ : Parser String) cursor = _
  split
  · next words =>
      change (if (cursor.peek 0).kind = .keyword .WITH
        ∨ (cursor.peek 0).kind = .identifier "without" then _ else _ : Parser String) cursor = _
      rw [if_neg]
      · rfl
      · exact fun known => missed _ known ((showsPhrase_zonePhrase known).mpr ⟨rfl, words⟩)
  · rfl

theorem timeZoneMark_indifferent : Indifferent Stuck timeZoneMark := by
  intro full bare drops
  by_cases shown : ∃ mark, IsZoneMark mark ∧ full.ShowsPhrase (zonePhrase mark)
  · obtain ⟨mark, known, shown⟩ := shown
    rcases drops.phrase (firm_zonePhrase known) with ⟨_, shownToo, past⟩ | ⟨missed, _⟩
    · exact .ok (timeZoneMark_of_showsPhrase known shown) (timeZoneMark_of_showsPhrase known shownToo)
        past
    · exact absurd shown missed
  · have missed (mark : TokenKind) (known : IsZoneMark mark) : ¬ full.ShowsPhrase (zonePhrase mark) :=
      fun shownHere => shown ⟨mark, known, shownHere⟩
    have read := timeZoneMark_of_not_showsPhrase missed
    by_cases shownToo : ∃ mark, IsZoneMark mark ∧ bare.ShowsPhrase (zonePhrase mark)
    · obtain ⟨mark, known, shownToo⟩ := shownToo
      have firm := firm_zonePhrase known
      rcases drops.phrase firm with ⟨found, _⟩ | ⟨_, breaks⟩
      · exact absurd found (missed mark known)
      · have stuck := (breaks shownToo).stuck firm (unsettled_zonePhrase known)
        exact .of_ends (Ends.of_ok read stuck)
    · have missedToo (mark : TokenKind) (known : IsZoneMark mark) :
          ¬ bare.ShowsPhrase (zonePhrase mark) :=
        fun shownHere => shownToo ⟨mark, known, shownHere⟩
      exact .ok read (timeZoneMark_of_not_showsPhrase missedToo) drops

theorem timeZoneMark_confined : Confined Stuck Stuck timeZoneMark := by
  intro cursor stuck
  refine Ends.of_ok (timeZoneMark_of_not_showsPhrase fun mark known => ?_) stuck
  have missed : ¬ cursor.ShowsPhrase ([mark, .identifier "time"] ++ [.identifier "zone"]) := by
    refine stuck.not_showsPhrase ?_ rfl
    rcases known with rfl | rfl <;> rfl
  exact missed

theorem typeWord_indifferent : Indifferent Nowhere typeWord := by
  have chooses : Chooses typeWord TokenKind.name? .dataType := by
    intro cursor
    unfold typeWord
    cases cursor.current.kind.name? <;> rfl
  exact Indifferent.of_chooses chooses fun _ _ named =>
    ⟨TokenKind.isNoise_of_name? named, isPlain_of_name? named⟩

theorem typeName_indifferent : Indifferent Stuck typeName := by
  refine typeWord_indifferent.bind_strict fun word => ?_
  have varying : Indifferent Stuck (if word = "character" ∨ word = "char" then do
      if ← eatName "varying" then return "character varying" else return word
      else return word) := by
    split
    · exact Indifferent.choice rfl rfl (Indifferent.pure _) (Indifferent.pure _)
        (Confined.pure _ fun _ hides => hides.stuck rfl)
    · exact Indifferent.pure _
  have astray : Confined (Hides (.identifier "precision")) Stuck
      (if word = "character" ∨ word = "char" then do
        if ← eatName "varying" then return "character varying" else return word
        else return word) := by
    have word : Confined (Hides (.identifier "precision")) Stuck (pure word : Parser String) :=
      Confined.pure _ fun _ hides => hides.stuck rfl
    split
    · exact Confined.choice (fun _ hides => hides.noise.ne rfl) word
    · exact word
  dsimp only
  split
  · exact Indifferent.choice rfl rfl (Indifferent.pure _) varying astray
  · exact varying

theorem plainInteger_indifferent : Indifferent Nowhere plainInteger := by
  have chooses : Chooses plainInteger plainInteger? .integer := by
    intro cursor
    unfold plainInteger plainInteger?
    cases cursor.current.kind <;> rfl
  refine Indifferent.of_chooses chooses fun kind value chosen => ?_
  cases kind with
  | integer number => exact ⟨rfl, rfl⟩
  | _ => cases chosen

theorem typeModifiers_indifferent : Indifferent Stuck typeModifiers := by
  have modifiers : Indifferent Halted (separated plainInteger) :=
    Indifferent.separated plainInteger_taking.steady plainInteger_indifferent.strict (fun _ => id)
      fun _ halted => halted.ne rfl
  refine Indifferent.choice rfl rfl ?_ (Indifferent.pure [])
    (Confined.pure [] fun _ hides => hides.stuck rfl)
  refine modifiers.bind (fun _ => ?_) fun _ => ?_
  · exact (Indifferent.expectSymbol .rightParen).bind_strict fun _ => Indifferent.pure _
  · exact (Confined.expectSymbol fun _ halted => halted.ne rfl).bind_nowhere

theorem typeModifiers_confined : Confined Stuck Stuck typeModifiers :=
  Confined.choice (fun _ stuck => stuck.ne rfl) (Confined.pure [] fun _ => id)

theorem dataType_indifferent : Indifferent Stuck dataType := by
  have brackets := Indifferent.collect arrayMark_moving arrayMark_indifferent arrayMark_confined
  -- What stands behind the modifiers goes the same way wherever the cursor is stuck.
  have zoned (name : String) (modifiers : List Int64) : Confined Stuck Stuck (do
      let zone ← if name = "time" ∨ name = "timestamp" then timeZoneMark else pure ""
      let brackets ← collect arrayMark
      return (⟨name ++ zone ++ String.join brackets, modifiers⟩ : DataType)) := by
    dsimp only
    split
    · exact timeZoneMark_confined.bind fun _ => arrayMark_confined.collect.bind_pure
    · exact arrayMark_confined.collect.bind_pure
  refine typeName_indifferent.bind (fun name => ?_) fun name =>
    typeModifiers_confined.bind (zoned name)
  refine typeModifiers_indifferent.bind (fun modifiers => ?_) (zoned name)
  dsimp only
  split
  · exact timeZoneMark_indifferent.bind (fun _ => brackets.bind_pure) fun _ =>
      arrayMark_confined.collect.bind_pure
  · exact (Indifferent.pure "").bind_strict fun _ => brackets.bind_pure

end Types

end SqlTree.Grammar
