import SqlTree.Proofs.Grammar.IndifferentOperands

/-!
# Indifference of the grammar of expressions

Whether a suffix goes on is told by the next token, or by the next two where the first one is `NOT`.
Before a noise word no suffix starts, so that an expression may be stuck there. Where a suffix would
start without the noise word, the noise word leads to nothing.
-/

namespace SqlTree.Grammar

open SqlTree.Parser Cursor

variable {inner : Rules} {full bare : Cursor}

/-- The truth value of a test behind an operand. -/
def truthValue (negated : Bool) : Parser Suffix := do
  match truthTest? negated (← look 0) with
  | some operator =>
    let _ ← advance
    return .unary operator
  | none => unexpected .truthValue

theorem truthValue_noise (negated : Bool) : Confined OnNoise Nowhere (truthValue negated) := by
  refine Confined.read_bind fun cursor noise => ?_
  split
  · next operator test =>
      change truthTest? negated cursor.current.kind = _ at test
      rcases TokenKind.eq_of_isNoise noise with word | word | word | word <;>
        rw [word] at test <;> cases test
  · exact Confined.unexpected noise

theorem truthValue_indifferent (negated : Bool) : Indifferent Nowhere (truthValue negated) := by
  refine fun full bare drops => Tracks.look_bind drops (fun inStep => ?_) fun atNoise =>
    .of_ends (truthValue_noise negated atNoise.noise)
  split
  · next operator test =>
      exact Tracks.advance_bind inStep (isPlain_of_truthTest? test) fun drops =>
        Indifferent.pure _ drops
  · exact Indifferent.unexpected drops

theorem truthSuffix_indifferent : Indifferent Nowhere truthSuffix :=
  (Indifferent.eat rfl rfl).bind truthValue_indifferent fun negated =>
    (truthValue_noise negated).weaken (fun _ hides => hides.noise) fun _ => id

theorem listSuffix_indifferent (indifferent : inner.AreIndifferent) (negated : Bool) :
    Indifferent Nowhere (listSuffix inner negated) :=
  Indifferent.parenthesized (selectOr_indifferent indifferent.query.bind_pure
    ((expressionList_indifferent indifferent).weaken fun _ => Halted.lost).bind_pure
    (expressionList_noise indifferent).bind_pure)

theorem rangeSuffix_indifferent (indifferent : inner.AreIndifferent) (power : Nat)
    (negated : Bool) : Indifferent Stuck (rangeSuffix inner power negated) := by
  refine (indifferent.expression power).bind (fun _ => ?_) fun _ => ?_
  · exact (Indifferent.expectKeyword .AND rfl).bind_strict fun _ =>
      (indifferent.expression power).bind_pure
  · exact (Confined.expectKeyword fun _ stuck => stuck.ne rfl).bind_nowhere

theorem suffixBehind_indifferent (indifferent : inner.AreIndifferent) (power : Nat)
    (negated : Prop) [Decidable negated] (token : Token) :
    Indifferent Stuck (suffixBehind inner power negated token) := by
  unfold suffixBehind
  split
  · exact truthSuffix_indifferent.strict
  · exact dataType_indifferent.bind_pure
  · exact rangeSuffix_indifferent indifferent power negated
  · exact (listSuffix_indifferent indifferent negated).strict
  · exact (indifferent.expression power).bind_pure
  · exact (indifferent.expression power).bind_pure
  · split
    · exact (indifferent.expression power).bind_pure
    · exact Indifferent.fail

/-- No operator between two operands is a noise word or stands behind one. -/
theorem isFirm_of_infixPower? {kind : TokenKind} (power : (infixPower? kind).isSome = true) :
    kind.isFirm = true := by
  unfold infixPower? at power
  split at power <;> first | rfl | cases power

/-- What starts a suffix is no noise word and stands behind none. -/
theorem isFirm_of_suffixPower? {kind next : TokenKind} {power : Nat}
    (starts : suffixPower? kind next = some power) : kind.isFirm = true := by
  rcases starts_of_suffixPower? starts with ⟨rfl, _⟩ | rfl | rfl | between
  · rfl
  · rfl
  · rfl
  · exact isFirm_of_infixPower? between

/-- Only behind `NOT` the next token has a say in whether a suffix starts. -/
theorem suffixPower?_of_ne {kind : TokenKind} (other : kind ≠ .keyword .NOT)
    (next nextToo : TokenKind) : suffixPower? kind next = suffixPower? kind nextToo := by
  unfold suffixPower?
  split <;> first | rfl | exact absurd rfl other

theorem suffixPower?_of_isNoise {kind : TokenKind} (noise : kind.isNoise = true)
    (next : TokenKind) : suffixPower? kind next = none := by
  rcases TokenKind.eq_of_isNoise noise with rfl | rfl | rfl | rfl <;> rfl

/-- No pattern follows `NOT` where the next token halts. -/
theorem suffixPower?_of_not {next : TokenKind} (halts : next.halts = true) :
    suffixPower? (.keyword .NOT) next = none := by
  have other : isPatternOperator next = false := by
    unfold isPatternOperator
    split <;> first | rfl | cases halts
  simp [suffixPower?, other]

/-- Behind `NOT` a pattern operator starts a suffix. -/
theorem pattern_of_suffixPower? {next : TokenKind} {power : Nat}
    (starts : suffixPower? (.keyword .NOT) next = some power) :
    (infixPower? next).isSome = true := by
  rcases starts_of_suffixPower? starts with ⟨_, pattern⟩ | other | other | other
  · exact pattern
  · cases other
  · cases other
  · cases other

/-- The power of the suffix that a cursor stands before, if one starts there. -/
def powerAt (cursor : Cursor) : Option Nat :=
  suffixPower? (cursor.peek 0).kind (cursor.peek 1).kind

theorem powerAt_of_stuck {cursor : Cursor} (stuck : cursor.Stuck) : powerAt cursor = none := by
  cases stuck with
  | here noise _ => exact suffixPower?_of_isNoise noise _
  | behind unsettled stuck =>
      have goes : cursor.current.kind ≠ .finish := by
        intro finish
        rw [finish] at unsettled
        cases unsettled
      have second : cursor.advance.current = cursor.peek 1 := peek_advance_of_ne goes 0
      have halts : (cursor.peek 1).kind.halts = true := second ▸ stuck.halted
      change suffixPower? cursor.current.kind _ = none
      rcases TokenKind.eq_of_isUnsettled unsettled with
        known | known | known | known | known | known <;> rw [known]
      · exact suffixPower?_of_not halts
      all_goals rfl

/-- A suffix starts on both sides or on none, unless the cursor is stuck. -/
theorem powerAt_cases (drops : full.Drops bare) :
    (full.InStep bare ∧ powerAt full = powerAt bare) ∨
      powerAt full = none ∧ (powerAt bare = none ∨ full.Stuck) := by
  rcases drops.cases with inStep | atNoise
  · by_cases negated : full.current.kind = .keyword .NOT
    · have here : (full.peek 0).kind = .keyword .NOT := negated
      have hereToo : (bare.peek 0).kind = .keyword .NOT := inStep.kind.trans negated
      rcases inStep.second (by simp [negated]) with same | ⟨noise, hides⟩
      · refine .inl ⟨inStep, ?_⟩
        rw [powerAt, powerAt, here, hereToo, same]
      · have none : powerAt full = none := by
          rw [powerAt, here]
          exact suffixPower?_of_not (TokenKind.halts_of_isNoise noise)
        refine .inr ⟨none, ?_⟩
        cases starts : powerAt bare with
        | none => exact .inl rfl
        | some power =>
            rw [powerAt, hereToo] at starts
            have firm := isFirm_of_infixPower? (pattern_of_suffixPower? starts)
            have stuck := hides.stuck (TokenKind.goesOn_of_isFirm firm)
            exact .inr (.behind (by rw [negated]; rfl) stuck)
    · refine .inl ⟨inStep, ?_⟩
      have same : (bare.peek 0).kind = (full.peek 0).kind := inStep.kind
      rw [powerAt, powerAt, same]
      exact suffixPower?_of_ne negated _ _
  · refine .inr ⟨suffixPower?_of_isNoise atNoise.noise _, ?_⟩
    cases starts : powerAt bare with
    | none => exact .inl rfl
    | some power =>
        have firm := isFirm_of_suffixPower? starts
        exact .inr ((atNoise.hides rfl).stuck (TokenKind.goesOn_of_isFirm firm))

/-- A suffix that starts on both sides is read on both. -/
theorem suffix_tracks (indifferent : inner.AreIndifferent) (inStep : full.InStep bare)
    {found : Nat} (starts : powerAt full = some found) (power : Nat) :
    Tracks Stuck full bare (suffix inner power) (suffix inner power) := by
  have firm := isFirm_of_suffixPower? starts
  have goes : full.current.kind ≠ .finish := TokenKind.ne_finish_of_isFirm firm
  rw [suffix_eq]
  refine Tracks.advance_bind inStep (TokenKind.isPlain_of_isFirm firm) fun drops => ?_
  split
  · next negated =>
      have second : full.advance.current = full.peek 1 := peek_advance_of_ne goes 0
      have pattern : (infixPower? full.advance.current.kind).isSome = true := by
        change (full.peek 0).kind = _ at negated
        rw [powerAt, negated, ← second] at starts
        exact pattern_of_suffixPower? starts
      have firmToo := isFirm_of_infixPower? pattern
      rcases drops.cases with next | next
      · exact Tracks.advance_bind next (TokenKind.isPlain_of_isFirm firmToo) fun drops =>
          suffixBehind_indifferent indifferent power _ _ drops
      · have noiseless := TokenKind.isNoise_of_isFirm firmToo
        rw [next.noise] at noiseless
        cases noiseless
  · exact suffixBehind_indifferent indifferent power _ _ drops

/-- The suffix of a power, if it is asked for. -/
def suffixOf (inner : Rules) (power : Nat) : Option Nat → Parser (Option Suffix)
  | none => return none
  | some found => do
    if power ≤ found then return some (← suffix inner (found + 1)) else return none

theorem nextSuffix_eq (inner : Rules) (power : Nat) : nextSuffix inner power = (do
    suffixOf inner power (suffixPower? (← look 0) (← look 1))) := by
  unfold nextSuffix suffixOf
  rfl

theorem nextSuffix_indifferent (indifferent : inner.AreIndifferent) (power : Nat) :
    Indifferent Stuck (nextSuffix inner power) := by
  intro full bare drops
  rw [nextSuffix_eq]
  change Tracks Stuck full bare (suffixOf inner power (powerAt full))
    (suffixOf inner power (powerAt bare))
  rcases powerAt_cases drops with ⟨inStep, same⟩ | ⟨none, noneToo | stuck⟩
  · rw [← same]
    cases starts : powerAt full with
    | none => exact Indifferent.pure none drops
    | some found =>
        unfold suffixOf
        dsimp only
        split
        · exact (suffix_tracks indifferent inStep starts _).bind
            (fun _ _ _ drops => Indifferent.pure _ drops) fun _ => Confined.pure _ fun _ => id
        · exact Indifferent.pure none drops
  · rw [none, noneToo]
    exact Indifferent.pure Option.none drops
  · rw [none]
    exact .of_ends (Ends.of_ok rfl stuck)

theorem nextSuffix_confined (power : Nat) : Confined Stuck Stuck (nextSuffix inner power) := by
  intro cursor stuck
  rw [nextSuffix_eq]
  change Ends Stuck cursor (suffixOf inner power (powerAt cursor))
  rw [powerAt_of_stuck stuck]
  exact Ends.of_ok rfl stuck

theorem operators_indifferent (indifferent : inner.AreIndifferent) (power : Nat) :
    Indifferent Stuck (operators inner power) :=
  (operand_indifferent indifferent).bind
    (fun _ => (Indifferent.collect (nextSuffix_moving indifferent.steady power)
      (nextSuffix_indifferent indifferent power) (nextSuffix_confined power)).bind_pure)
    fun _ => (nextSuffix_confined power).collect.bind_pure

end SqlTree.Grammar
