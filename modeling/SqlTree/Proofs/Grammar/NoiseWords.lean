import SqlTree.Proofs.Grammar.Steadiness

/-!
# Noise words

Some keywords say nothing that would not hold without them. A stream from which one of them is
dropped shows the same tokens up to the gap, and behind it the same tokens one place earlier. Where
a parser stops right before the noise word, the two streams go apart: the one goes on with the noise
word, the other one with what stands behind it. What a stream may look like there is told by the
cursors that are stuck, halted or lost.
-/

namespace SqlTree

namespace TokenKind

/-- Whether a token is a keyword that says nothing where it may stand. -/
def isNoise : TokenKind → Bool
  | .keyword .OUTER | .keyword .INNER | .keyword .ASC | .keyword .ALL => true
  | _ => false

/-- Whether a token may stand behind a sort key with its direction. -/
def closesSortKey : TokenKind → Bool
  | .finish | .symbol .semicolon | .symbol .comma | .symbol .rightParen => true
  | .keyword .NULLS | .keyword .LIMIT | .keyword .OFFSET | .keyword .RETURNING => true
  | _ => false

/-- Whether a token starts a join or may stand behind a sort key. -/
def goesOn : TokenKind → Bool
  | .keyword .JOIN => true
  | kind => kind.closesSortKey

/-- Whether a noise word that stands behind something complete may have a token behind it. -/
def leadsTo : (noise next : TokenKind) → Bool
  | .keyword .INNER, .keyword .JOIN => true
  | .keyword .ASC, next => next.closesSortKey
  | _, _ => false

/-- Whether what a token starts is only told by the tokens behind it. -/
def isUnsettled : TokenKind → Bool
  | .keyword .NOT | .keyword .WITH | .keyword .IF | .symbol .leftBracket => true
  | .identifier name => name = "without" || name = "time"
  | _ => false

/-- Whether a token may be taken, is no noise word, and is nothing that a noise word leads to. -/
def isFirm (kind : TokenKind) : Bool := kind.isPlain && !kind.isNoise && !kind.goesOn

/-- Whether nothing goes on at a token, be it that a noise word stands there or comes too early. -/
def halts (kind : TokenKind) : Bool := kind.isNoise || kind.isUnsettled

section Kinds

variable {kind next : TokenKind}

theorem eq_of_isNoise (noise : kind.isNoise = true) :
    kind = .keyword .OUTER ∨ kind = .keyword .INNER ∨ kind = .keyword .ASC ∨
      kind = .keyword .ALL := by
  unfold isNoise at noise
  split at noise <;> simp_all

theorem eq_of_isUnsettled (unsettled : kind.isUnsettled = true) :
    kind = .keyword .NOT ∨ kind = .keyword .WITH ∨ kind = .keyword .IF ∨
      kind = .symbol .leftBracket ∨ kind = .identifier "without" ∨ kind = .identifier "time" := by
  unfold isUnsettled at unsettled
  split at unsettled <;> simp_all

theorem isNoise_of_isFirm (firm : kind.isFirm = true) : kind.isNoise = false := by
  simp_all [isFirm]

theorem goesOn_of_isFirm (firm : kind.isFirm = true) : kind.goesOn = false := by
  simp_all [isFirm]

theorem isPlain_of_isFirm (firm : kind.isFirm = true) : kind.isPlain = true := by
  simp_all [isFirm]

theorem ne_finish_of_isFirm (firm : kind.isFirm = true) : kind ≠ .finish :=
  (ne_of_isPlain (isPlain_of_isFirm firm)).1

theorem ne_of_isNoise {other : TokenKind} (noise : kind.isNoise = true)
    (plain : other.isNoise = false) : kind ≠ other := by
  rintro rfl
  rw [noise] at plain
  cases plain

/-- What stands for a name is no noise word. -/
theorem isNoise_of_name? {name : String} (named : kind.name? = some name) :
    kind.isNoise = false := by
  refine Bool.eq_false_iff.mpr fun noise => ?_
  rcases eq_of_isNoise noise with rfl | rfl | rfl | rfl <;> cases named

theorem halts_of_isNoise (noise : kind.isNoise = true) : kind.halts = true := by
  rw [halts, noise, Bool.true_or]

theorem halts_of_isUnsettled (unsettled : kind.isUnsettled = true) : kind.halts = true := by
  rw [halts, unsettled, Bool.or_true]

/-- No noise word and no unsettled token may stand behind a sort key. -/
theorem closesSortKey_of_halts (halts : kind.halts = true) : kind.closesSortKey = false := by
  rcases Bool.or_eq_true_iff.mp halts with noise | unsettled
  · rcases eq_of_isNoise noise with rfl | rfl | rfl | rfl <;> rfl
  · rcases eq_of_isUnsettled unsettled with rfl | rfl | rfl | rfl | rfl | rfl <;> rfl

/-- A sort key is closed where the statement ends. -/
theorem closesSortKey_of_isTerminator (ends : kind.isTerminator = true) :
    kind.closesSortKey = true := by
  unfold isTerminator at ends
  split at ends <;> first | rfl | cases ends

/-- What a noise word leads to starts a join or closes a sort key. -/
theorem leadsTo_eq_false (other : next.goesOn = false) : kind.leadsTo next = false := by
  unfold leadsTo
  split
  · cases other
  · unfold goesOn at other
    split at other
    · cases other
    · exact other
  · rfl

end Kinds

end TokenKind

/-- The second list is the first one, or it lacks one noise word. It may also lack an end of input
with all that is behind it, which is never read. -/
inductive DropsNoise : List Token → List Token → Prop where
  | same (tokens : List Token) : DropsNoise tokens tokens
  | here {token : Token} (noise : token.kind.isNoise = true) (tokens : List Token) :
    DropsNoise (token :: tokens) tokens
  | ended {token : Token} (ends : token.kind = .finish) (tokens : List Token) :
    DropsNoise (token :: tokens) []
  | behind (token : Token) {full bare : List Token} (drops : DropsNoise full bare) :
    DropsNoise (token :: full) (token :: bare)

theorem DropsNoise.length_le {full bare : List Token} (drops : DropsNoise full bare) :
    bare.length ≤ full.length := by
  induction drops with
  | same => exact Nat.le_refl _
  | here => exact Nat.le_succ _
  | ended => exact Nat.zero_le _
  | behind _ _ inductionHypothesis => exact Nat.succ_le_succ inductionHypothesis

theorem DropsNoise.append {full bare : List Token} (drops : DropsNoise full bare)
    (front : List Token) : DropsNoise (front ++ full) (front ++ bare) := by
  induction front with
  | nil => exact drops
  | cons token _ inductionHypothesis => exact .behind token inductionHypothesis

namespace Cursor

/-- The second cursor stands before the same tokens as the first one, or before these without one
noise word. -/
structure Drops (full bare : Cursor) : Prop where
  source : bare.source = full.source
  closed : full.close.kind = .finish
  closedToo : bare.close.kind = .finish
  ahead : DropsNoise full.ahead bare.ahead

/-- Two cursors show the same token, and a noise word may be dropped behind it. -/
structure InStep (full bare : Cursor) : Prop where
  kind : bare.current.kind = full.current.kind
  token : full.current.kind ≠ .finish → bare.current = full.current
  advance : full.current.kind ≠ .finish → full.advance.Drops bare.advance

/-- The first cursor shows the noise word that is dropped. -/
structure AtNoise (full bare : Cursor) : Prop where
  noise : full.current.kind.isNoise = true
  advance : full.advance.Drops bare
  next : full.advance.current.kind = bare.current.kind

section Advancing

variable {cursor full bare : Cursor}

/-- Behind a token that does not end the input, everything comes one place earlier. -/
theorem peek_advance_of_ne (goes : cursor.current.kind ≠ .finish) (places : Nat) :
    cursor.advance.peek places = cursor.peek (places + 1) := by
  obtain ⟨_, _ | ⟨token, ahead⟩, _, _, _⟩ := cursor
  · rfl
  · have goes : token.kind ≠ .finish := goes
    simp [advance, peek, goes]

theorem close_advance (cursor : Cursor) : cursor.advance.close = cursor.close := by
  unfold advance
  split
  · rfl
  · split <;> rfl

/-- A stream from which nothing is dropped runs in step with itself, wherever it was met. -/
theorem inStep_of_ahead_eq (closed : full.close.kind = .finish)
    (closedToo : bare.close.kind = .finish) (source : bare.source = full.source)
    (same : bare.ahead = full.ahead) : full.InStep bare := by
  obtain ⟨_, _ | ⟨token, ahead⟩, _, _, _⟩ := full <;>
    obtain ⟨_, _, _, _, _⟩ := bare <;> cases same
  · exact ⟨closedToo.trans closed.symm, fun goes => absurd closed goes,
      fun goes => absurd closed goes⟩
  · refine ⟨rfl, fun _ => rfl, fun goes => ?_⟩
    change token.kind ≠ .finish at goes
    simp only [advance, goes, if_false]
    exact ⟨source, closed, closedToo, .same ahead⟩

/-- Cursors of which one may lack a noise word show the same token, or the first one shows the noise
word. -/
theorem Drops.cases (drops : full.Drops bare) : full.InStep bare ∨ full.AtNoise bare := by
  obtain ⟨source, closed, closedToo, ahead⟩ := drops
  generalize fullAhead : full.ahead = tokens, bareAhead : bare.ahead = others at ahead
  cases ahead with
  | same => exact .inl (inStep_of_ahead_eq closed closedToo source (bareAhead.trans fullAhead.symm))
  | @here token noise =>
      have shown : full.current = token := by rw [current, peek, fullAhead]; rfl
      have goes : token.kind ≠ .finish := TokenKind.ne_of_isNoise noise rfl
      have ahead : full.advance.ahead = others := by simp [advance, fullAhead, goes]
      have closedNext : full.advance.close.kind = .finish := by rwa [close_advance]
      refine .inr ⟨by rwa [shown], ⟨?_, closedNext, closedToo, ?_⟩, ?_⟩
      · simpa [advance, fullAhead, goes] using source
      · rw [ahead, bareAhead]
        exact .same others
      · rw [current, current, peek, peek, ahead, bareAhead]
        cases others with
        | nil => exact closedNext.trans closedToo.symm
        | cons token others => rfl
  | @ended token ends =>
      have shown : full.current = token := by rw [current, peek, fullAhead]; rfl
      have shownToo : bare.current = bare.close := by rw [current, peek, bareAhead]; rfl
      have stops : full.current.kind = .finish := by rw [shown, ends]
      exact .inl ⟨by rw [shownToo, closedToo, stops], (absurd stops ·), (absurd stops ·)⟩
  | @behind token fullBehind bareBehind drops =>
      have shown : full.current = token := by rw [current, peek, fullAhead]; rfl
      have shownToo : bare.current = token := by rw [current, peek, bareAhead]; rfl
      refine .inl ⟨by rw [shown, shownToo], fun _ => by rw [shown, shownToo], fun goes => ?_⟩
      rw [shown] at goes
      refine ⟨?_, by rwa [close_advance], by rwa [close_advance], ?_⟩
      · simpa [advance, fullAhead, bareAhead, goes] using source
      · simpa [advance, fullAhead, bareAhead, goes] using drops

end Advancing

/-- A cursor stands before a noise word that does not lead to what is behind it. Before the noise
word only such tokens stand as go by what is behind them. -/
inductive Stuck : Cursor → Prop where
  | here {cursor : Cursor} (noise : cursor.current.kind.isNoise = true)
    (unfit : cursor.current.kind.leadsTo cursor.advance.current.kind = false) : cursor.Stuck
  | behind {cursor : Cursor} (unsettled : cursor.current.kind.isUnsettled = true)
    (stuck : cursor.advance.Stuck) : cursor.Stuck

/-- A cursor stands at a noise word, or at a token that goes by what is behind it. -/
def Halted (cursor : Cursor) : Prop := cursor.current.kind.halts = true

/-- A cursor stands at a token that may not stand behind a sort key. -/
def Lost (cursor : Cursor) : Prop := cursor.current.kind.closesSortKey = false

/-- A cursor stands at a noise word. -/
def OnNoise (cursor : Cursor) : Prop := cursor.current.kind.isNoise = true

/-- A cursor stands at a noise word with a token of a given kind behind it. -/
structure Hides (kind : TokenKind) (cursor : Cursor) : Prop where
  noise : cursor.OnNoise
  next : cursor.advance.current.kind = kind

/-- No cursor stands there. -/
def Nowhere (_ : Cursor) : Prop := False

/-- The next tokens are of the given kinds. -/
def ShowsPhrase : List TokenKind → Cursor → Prop
  | [], _ => True
  | kind :: kinds, cursor => cursor.current.kind = kind ∧ ShowsPhrase kinds cursor.advance

/-- The cursor behind as many tokens as a phrase has. -/
def behindPhrase : List TokenKind → Cursor → Cursor
  | [], cursor => cursor
  | _ :: kinds, cursor => behindPhrase kinds cursor.advance

/-- The next tokens would be of the given kinds if a noise word did not stand among them. -/
inductive Breaks : List TokenKind → Cursor → Prop where
  | here {kind : TokenKind} (kinds : List TokenKind) {cursor : Cursor} (hides : Hides kind cursor) :
    Breaks (kind :: kinds) cursor
  | behind {kinds : List TokenKind} {cursor : Cursor} (breaks : Breaks kinds cursor.advance) :
    Breaks (cursor.current.kind :: kinds) cursor

section Classes

variable {cursor : Cursor} {kind : TokenKind}

theorem OnNoise.halted (noise : cursor.OnNoise) : cursor.Halted := TokenKind.halts_of_isNoise noise

theorem OnNoise.ne (noise : cursor.OnNoise) (other : kind.isNoise = false) :
    cursor.current.kind ≠ kind :=
  TokenKind.ne_of_isNoise noise other

theorem Stuck.halted (stuck : cursor.Stuck) : cursor.Halted := by
  cases stuck with
  | here noise _ => exact TokenKind.halts_of_isNoise noise
  | behind unsettled _ => exact TokenKind.halts_of_isUnsettled unsettled

theorem Halted.lost (halted : cursor.Halted) : cursor.Lost :=
  TokenKind.closesSortKey_of_halts halted

theorem Halted.ne (halted : cursor.Halted) (other : kind.halts = false) :
    cursor.current.kind ≠ kind := by
  rintro rfl
  rw [halted] at other
  cases other

theorem Stuck.ne (stuck : cursor.Stuck) (other : kind.halts = false) :
    cursor.current.kind ≠ kind :=
  stuck.halted.ne other

theorem Lost.ne (lost : cursor.Lost) (other : kind.closesSortKey = true) :
    cursor.current.kind ≠ kind := by
  rintro rfl
  rw [lost] at other
  cases other

/-- No statement ends where a cursor is lost. -/
theorem Lost.goes (lost : cursor.Lost) : cursor.current.kind.isTerminator = false := by
  refine Bool.eq_false_iff.mpr fun ends => ?_
  have closes := TokenKind.closesSortKey_of_isTerminator ends
  rw [lost] at closes
  cases closes

/-- Behind a token of a stuck cursor that is no noise word, the cursor is still stuck. -/
theorem Stuck.advance (stuck : cursor.Stuck) (plain : cursor.current.kind.isNoise = false) :
    cursor.advance.Stuck := by
  cases stuck with
  | here noise _ =>
      rw [plain] at noise
      cases noise
  | behind _ stuck => exact stuck

theorem Hides.halted (hides : cursor.Hides kind) : cursor.Halted := hides.noise.halted

/-- A noise word is stuck before a token that neither starts a join nor closes a sort key. -/
theorem Hides.stuck (hides : cursor.Hides kind) (other : kind.goesOn = false) : cursor.Stuck :=
  .here hides.noise (hides.next ▸ TokenKind.leadsTo_eq_false other)

theorem AtNoise.hides {full bare : Cursor} (atNoise : full.AtNoise bare)
    (next : bare.current.kind = kind) : full.Hides kind :=
  ⟨atNoise.noise, atNoise.next.trans next⟩

/-- Behind a token that both cursors show, they show the same next one, or the first cursor shows
the noise word. -/
theorem InStep.second {full bare : Cursor} (inStep : full.InStep bare)
    (goes : full.current.kind ≠ .finish) :
    (bare.peek 1).kind = (full.peek 1).kind ∨
      (full.peek 1).kind.isNoise = true ∧ full.advance.Hides (bare.peek 1).kind := by
  have next : full.advance.current = full.peek 1 := peek_advance_of_ne goes 0
  have nextToo : bare.advance.current = bare.peek 1 := peek_advance_of_ne (inStep.kind ▸ goes) 0
  rw [← next, ← nextToo]
  exact (inStep.advance goes).cases.imp (fun inStep => inStep.kind) fun atNoise =>
    ⟨atNoise.noise, atNoise.hides rfl⟩

end Classes

section Phrases

variable {full bare : Cursor} {kinds : List TokenKind}

/-- Two kinds that stand one behind the other are a phrase. -/
theorem showsPhrase_pair {cursor : Cursor} {first second : TokenKind} (goes : first ≠ .finish) :
    cursor.ShowsPhrase [first, second] ↔
      (cursor.peek 0).kind = first ∧ (cursor.peek 1).kind = second := by
  have next (found : cursor.current.kind = first) : cursor.advance.current = cursor.peek 1 :=
    peek_advance_of_ne (found ▸ goes) 0
  constructor
  · rintro ⟨found, second, -⟩
    exact ⟨found, next found ▸ second⟩
  · rintro ⟨found, second⟩
    exact ⟨found, (next found).symm ▸ second, trivial⟩

theorem showsPhrase_triple {cursor : Cursor} {first second third : TokenKind} (goes : first ≠ .finish)
    (goesOn : second ≠ .finish) :
    cursor.ShowsPhrase [first, second, third] ↔ (cursor.peek 0).kind = first ∧
      (cursor.peek 1).kind = second ∧ (cursor.peek 2).kind = third := by
  have next (found : cursor.current.kind = first) (places : Nat) :
      cursor.advance.peek places = cursor.peek (places + 1) :=
    peek_advance_of_ne (found ▸ goes) places
  constructor
  · rintro ⟨found, rest⟩
    rw [← next found, ← next found]
    exact ⟨found, (showsPhrase_pair goesOn).mp rest⟩
  · rintro ⟨found, rest⟩
    rw [← next found, ← next found] at rest
    exact ⟨found, (showsPhrase_pair goesOn).mpr rest⟩

/-- A phrase is shown on both sides, or it is not shown with the noise word. Without it, it is
shown only where the noise word stands within the phrase. -/
theorem Drops.phrase (drops : full.Drops bare) (firm : kinds.all TokenKind.isFirm = true) :
    (full.ShowsPhrase kinds ∧ bare.ShowsPhrase kinds ∧
      (full.behindPhrase kinds).Drops (bare.behindPhrase kinds)) ∨
    ¬ full.ShowsPhrase kinds ∧ (bare.ShowsPhrase kinds → full.Breaks kinds) := by
  induction kinds generalizing full bare with
  | nil => exact .inl ⟨trivial, trivial, drops⟩
  | cons kind kinds inductionHypothesis =>
      obtain ⟨firm, firmBehind⟩ := Bool.and_eq_true_iff.mp firm
      have noiseless : kind.isNoise = false := TokenKind.isNoise_of_isFirm firm
      rcases drops.cases with inStep | atNoise
      · by_cases found : full.current.kind = kind
        · have goes : full.current.kind ≠ .finish := found ▸ TokenKind.ne_finish_of_isFirm firm
          rcases inductionHypothesis (inStep.advance goes) firmBehind with
            ⟨shown, shownToo, past⟩ | ⟨missed, breaks⟩
          · exact .inl ⟨⟨found, shown⟩, ⟨inStep.kind.trans found, shownToo⟩, past⟩
          · exact .inr ⟨fun shown => missed shown.2, fun shown =>
              found ▸ .behind (breaks shown.2)⟩
        · exact .inr ⟨fun shown => found shown.1, fun shown =>
            absurd (inStep.kind.symm.trans shown.1) found⟩
      · exact .inr ⟨fun shown => OnNoise.ne atNoise.noise noiseless shown.1, fun shown =>
          .here kinds (atNoise.hides shown.1)⟩

/-- What is shown with the noise word is shown without it. -/
theorem Drops.showsPhrase (drops : full.Drops bare) (firm : kinds.all TokenKind.isFirm = true)
    (shown : full.ShowsPhrase kinds) : bare.ShowsPhrase kinds := by
  rcases drops.phrase firm with ⟨_, shownToo, _⟩ | ⟨missed, _⟩
  · exact shownToo
  · exact absurd shown missed

/-- A stuck cursor shows no phrase whose last kind lets something go on. -/
theorem Stuck.not_showsPhrase (stuck : full.Stuck) {last : TokenKind}
    (noiseless : kinds.all (fun kind => !kind.isNoise) = true) (goes : last.halts = false) :
    ¬ full.ShowsPhrase (kinds ++ [last]) := by
  induction kinds generalizing full with
  | nil => exact fun shown => stuck.ne goes shown.1
  | cons kind kinds inductionHypothesis =>
      rintro ⟨rfl, shown⟩
      obtain ⟨noiseless, noiselessBehind⟩ := Bool.and_eq_true_iff.mp noiseless
      have behind : full.advance.Stuck := stuck.advance (Bool.not_eq_true' _ ▸ noiseless)
      exact inductionHypothesis behind noiselessBehind shown

/-- Where a noise word stands within a phrase, the cursor is stuck, if every kind of the phrase but
the last one is unsettled. -/
theorem Breaks.stuck (breaks : full.Breaks kinds) (firm : kinds.all TokenKind.isFirm = true)
    (unsettled : kinds.dropLast.all TokenKind.isUnsettled = true) : full.Stuck := by
  induction breaks with
  | here kinds hides =>
      exact hides.stuck (TokenKind.goesOn_of_isFirm (Bool.and_eq_true_iff.mp firm).1)
  | @behind kinds cursor breaks inductionHypothesis =>
      have firmBehind := (Bool.and_eq_true_iff.mp firm).2
      cases kinds with
      | nil => cases breaks
      | cons kind kinds =>
          obtain ⟨unsettled, unsettledBehind⟩ := Bool.and_eq_true_iff.mp unsettled
          exact .behind unsettled (inductionHypothesis firmBehind unsettledBehind)

end Phrases

end Cursor

end SqlTree
