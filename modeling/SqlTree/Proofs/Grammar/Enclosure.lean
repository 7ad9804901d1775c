import SqlTree.Proofs.Grammar.SteadyLists
import SqlTree.Proofs.Grammar.Streams

/-!
# Enclosed tokens

The tokens that one cursor has ahead may stand ahead of another cursor too, with a closing
parenthesis or nothing behind them. A parser that succeeds where the tokens stand alone is carried
over to the tokens that are enclosed: there it makes the same value, or it finds that it is nested
too deeply, because other rules, with other levels to spare, may be at work. Neither the spans of
the tokens nor what stands behind the closing parenthesis have a say.

What fails on the tokens alone may do anything where they are enclosed. So only a parser that looks
at the end of the tokens and succeeds has to take a closing parenthesis for an end.
-/

namespace SqlTree

/-- What can stand behind tokens that are enclosed: the end of the input, or a closing
parenthesis. -/
def TokenKind.Closes (kind : TokenKind) : Prop := kind = .finish ∨ kind = .symbol .rightParen

/-- A token that a choice finds does not end the input, if the choice misses the end. -/
theorem TokenKind.ne_finish_of_some {α : Type} {choose : TokenKind → Option α}
    (missed : choose .finish = none) {kind : TokenKind} {value : α}
    (found : choose kind = some value) : kind ≠ .finish := by
  rintro rfl
  rw [missed] at found
  cases found

theorem kindAt_append_left {front : List TokenKind} {places : Nat} (inside : places < front.length)
    (back : List TokenKind) : kindAt (front ++ back) places = kindAt front places := by
  simp only [kindAt, List.getElem?_append_left inside]

theorem kindAt_append_length (front back : List TokenKind) :
    kindAt (front ++ back) front.length = kindAt back 0 := by
  simp only [kindAt, List.getElem?_append_right (Nat.le_refl _), Nat.sub_self]

/-- The kinds that the first cursor has ahead, the second one has too, and others behind them, of
which the first one closes. -/
structure Cursor.Enclosed (alone within : Cursor) (behind : List TokenKind) : Prop where
  closes : (kindAt behind 0).Closes
  faces : ∃ kinds, Going kinds ∧ alone.Faces kinds ∧ within.Faces (kinds ++ behind)

namespace Cursor.Enclosed

variable {alone within : Cursor} {behind : List TokenKind} {places : Nat}

theorem closed (enclosed : alone.Enclosed within behind) : alone.close.kind = .finish := by
  obtain ⟨_, _, faces, _⟩ := enclosed.faces
  exact faces.closed

theorem length_le (enclosed : alone.Enclosed within behind) :
    alone.ahead.length ≤ within.ahead.length := by
  obtain ⟨kinds, _, faces, facesToo⟩ := enclosed.faces
  rw [faces.length_ahead, facesToo.length_ahead, List.length_append]
  omega

/-- Up to the end of the tokens that stand alone both cursors show the same; there the second one
may show a closing parenthesis. -/
theorem peek (enclosed : alone.Enclosed within behind) (near : places ≤ alone.ahead.length) :
    (within.peek places).kind = (alone.peek places).kind ∨
      (alone.peek places).kind = .finish ∧ (within.peek places).kind = .symbol .rightParen := by
  obtain ⟨kinds, _, faces, facesToo⟩ := enclosed.faces
  rw [faces.length_ahead] at near
  rw [faces.peek_kind, facesToo.peek_kind]
  rcases Nat.lt_or_eq_of_le near with inside | rfl
  · exact .inl (kindAt_append_left inside behind)
  · have ends : kindAt kinds kinds.length = .finish := by simp [kindAt]
    rw [kindAt_append_length, ends]
    rcases enclosed.closes with finish | paren
    · exact .inl finish
    · exact .inr ⟨rfl, paren⟩

theorem current (enclosed : alone.Enclosed within behind) :
    within.current.kind = alone.current.kind ∨
      alone.current.kind = .finish ∧ within.current.kind = .symbol .rightParen :=
  enclosed.peek (Nat.zero_le _)

theorem current_eq (enclosed : alone.Enclosed within behind)
    (going : alone.current.kind ≠ .finish) : within.current.kind = alone.current.kind := by
  rcases enclosed.current with same | ⟨ends, _⟩
  · exact same
  · exact absurd ends going

/-- What closes nothing is current on both sides or on none. -/
theorem current_kind_iff (enclosed : alone.Enclosed within behind) {kind : TokenKind}
    (plain : ¬ kind.Closes) : within.current.kind = kind ↔ alone.current.kind = kind := by
  rcases enclosed.current with same | ⟨ends, paren⟩
  · rw [same]
  · rw [ends, paren]
    constructor
    · exact fun same => absurd (.inr same.symm) plain
    · exact fun same => absurd (.inl same.symm) plain

/-- Behind a token that both sides have, the tokens are still enclosed. -/
theorem advance (enclosed : alone.Enclosed within behind) (going : alone.current.kind ≠ .finish) :
    alone.advance.Enclosed within.advance behind := by
  obtain ⟨kinds, goes, faces, facesToo⟩ := enclosed.faces
  cases kinds with
  | nil => exact absurd faces.current_kind going
  | cons kind kinds =>
      obtain ⟨first, others⟩ := Going.cons.mp goes
      rw [faces.advance first, Faces.advance facesToo first]
      exact ⟨enclosed.closes, kinds, others, faces.tail, Faces.tail facesToo⟩

/-- A token is passed to the next one. -/
theorem current_advance (enclosed : alone.Enclosed within behind)
    (going : alone.current.kind ≠ .finish) : alone.advance.current = alone.peek 1 := by
  rw [advance_of_ne enclosed.closed going]
  exact peek_past alone 1 0

theorem one_le (enclosed : alone.Enclosed within behind) (going : alone.current.kind ≠ .finish) :
    1 ≤ alone.ahead.length :=
  lt_of_peek_ne enclosed.closed going

/-- Where the tokens that stand alone end, what closes them is all that is left. -/
theorem faces_behind (enclosed : alone.Enclosed within behind)
    (ends : alone.current.kind = .finish) : within.Faces behind := by
  obtain ⟨kinds, goes, faces, facesToo⟩ := enclosed.faces
  cases kinds with
  | nil => exact facesToo
  | cons kind kinds => exact absurd (faces.current_kind.symm.trans ends) (Going.cons.mp goes).1

end Cursor.Enclosed

namespace Parser

variable {α β : Type}

/-- The second result is what the first one is where the tokens are enclosed: the same value, or the
failure to nest so deeply. A failure on the tokens alone says nothing. -/
inductive Carried (behind : List TokenKind) :
    EStateM.Result Failure Cursor α → EStateM.Result Failure Cursor α → Prop where
  | ok (value : α) {alone within : Cursor} (enclosed : alone.Enclosed within behind) :
    Carried behind (.ok value alone) (.ok value within)
  | deep (value : α) (span : Span) (alone within : Cursor) :
    Carried behind (.ok value alone) (.error ⟨.nestedTooDeeply, span⟩ within)
  | failed (failure : Failure) (alone : Cursor) (result : EStateM.Result Failure Cursor α) :
    Carried behind (.error failure alone) result

/-- What a parser makes of tokens that stand alone, another one makes of them where they are
enclosed, unless they nest too deeply there. -/
def Carries (parser other : Parser α) : Prop :=
  ∀ ⦃behind : List TokenKind⦄ ⦃alone within : Cursor⦄, alone.Enclosed within behind →
    Carried behind (parser alone) (other within)

namespace Carried

variable {behind : List TokenKind} {alone within : Cursor} {parser other : Parser α}
  {places : Nat}

/-- What is nested too deeply is carried, whatever comes of the tokens alone. -/
theorem of_deep (result : EStateM.Result Failure Cursor α) (span : Span) :
    Carried behind result (.error ⟨.nestedTooDeeply, span⟩ within) := by
  cases result with
  | ok value alone => exact .deep value span alone within
  | error failure alone => exact .failed failure alone _

/-- What goes on in ways that are carried is carried. -/
theorem bind {next others : α → Parser β} (first : Carried behind (parser alone) (other within))
    (second : ∀ value ⦃alone within⦄, alone.Enclosed within behind →
      Carried behind (next value alone) (others value within)) :
    Carried behind ((parser >>= next) alone) ((other >>= others) within) := by
  generalize ran : parser alone = result, ranToo : other within = resultToo at first
  cases first with
  | ok value enclosed =>
      rw [bind_of_ok ran, bind_of_ok ranToo]
      exact second value enclosed
  | deep value span stopped stoppedToo =>
      rw [bind_of_error ranToo]
      exact of_deep _ span
  | failed failure stopped =>
      rw [bind_of_error ran]
      exact .failed failure stopped _

theorem fail {cause : Cause} {span : Span} {result : EStateM.Result Failure Cursor α} :
    Carried behind ((fail cause span : Parser α) alone) result :=
  .failed _ _ _

/-- A rule may go by a token that is not behind the end of the tokens, if it takes a closing
parenthesis for an end. -/
theorem look_bind {next others : TokenKind → Parser β} (enclosed : alone.Enclosed within behind)
    (near : places ≤ alone.ahead.length) (same : others (.symbol .rightParen) = others .finish)
    (after : Carried behind (next (alone.peek places).kind alone)
      (others (alone.peek places).kind within)) :
    Carried behind ((look places >>= next) alone) ((look places >>= others) within) := by
  change Carried behind (next (alone.peek places).kind alone)
    (others (within.peek places).kind within)
  rcases enclosed.peek near with shown | ⟨ends, paren⟩
  · rw [shown]
    exact after
  · rw [paren, same, ← ends]
    exact after

/-- A rule may go by two tokens in a row, if the second one has no say where the first one is an
end. -/
theorem look_look_bind {next others : TokenKind → TokenKind → Parser β}
    (enclosed : alone.Enclosed within behind) (near : places ≤ alone.ahead.length)
    (first : ∀ kind, others .finish kind = others .finish .finish)
    (firstToo : ∀ kind, others (.symbol .rightParen) kind = others .finish .finish)
    (second : ∀ kind, others kind (.symbol .rightParen) = others kind .finish)
    (after : Carried behind (next (alone.peek places).kind (alone.peek (places + 1)).kind alone)
      (others (alone.peek places).kind (alone.peek (places + 1)).kind within)) :
    Carried behind ((do next (← look places) (← look (places + 1))) alone)
      ((do others (← look places) (← look (places + 1))) within) := by
  change Carried behind (next (alone.peek places).kind (alone.peek (places + 1)).kind alone)
    (others (within.peek places).kind (within.peek (places + 1)).kind within)
  rcases enclosed.peek near with shown | ⟨ends, paren⟩
  · by_cases ends : (alone.peek places).kind = .finish
    · rw [shown, ends, first, ← first (alone.peek (places + 1)).kind, ← ends]
      exact after
    · have nearToo : places + 1 ≤ alone.ahead.length :=
        Cursor.lt_of_peek_ne enclosed.closed ends
      rcases enclosed.peek nearToo with shownToo | ⟨ended, paren⟩
      · rw [shown, shownToo]
        exact after
      · rw [shown, paren, second, ← ended]
        exact after
  · rw [paren, firstToo, ← first (alone.peek (places + 1)).kind, ← ends]
    exact after

theorem first_two_bind {next others : TokenKind → TokenKind → Parser β}
    (enclosed : alone.Enclosed within behind)
    (first : ∀ kind, others .finish kind = others .finish .finish)
    (firstToo : ∀ kind, others (.symbol .rightParen) kind = others .finish .finish)
    (second : ∀ kind, others kind (.symbol .rightParen) = others kind .finish)
    (after : Carried behind (next (alone.peek 0).kind (alone.peek 1).kind alone)
      (others (alone.peek 0).kind (alone.peek 1).kind within)) :
    Carried behind ((do next (← look 0) (← look 1)) alone)
      ((do others (← look 0) (← look 1)) within) :=
  look_look_bind enclosed (Nat.zero_le _) first firstToo second after

/-- Where the tokens go on, both sides see whether a symbol comes next. -/
theorem atSymbol_bind {next others : Bool → Parser β} {mark : Symbol}
    (same : within.current.kind = alone.current.kind)
    (after : Carried behind (next (decide (alone.current.kind = .symbol mark)) alone)
      (others (decide (alone.current.kind = .symbol mark)) within)) :
    Carried behind ((atSymbol mark >>= next) alone) ((atSymbol mark >>= others) within) := by
  change Carried behind (next (decide (alone.current.kind = .symbol mark)) alone)
    (others (decide (within.current.kind = .symbol mark)) within)
  rw [same]
  exact after

/-- A token is taken on both sides. -/
theorem advance_bind {next others : Token → Parser β} (enclosed : alone.Enclosed within behind)
    (going : alone.current.kind ≠ .finish)
    (after : alone.advance.Enclosed within.advance behind →
      Carried behind (next alone.current alone.advance) (others within.current within.advance)) :
    Carried behind ((advance >>= next) alone) ((advance >>= others) within) :=
  after (enclosed.advance going)

/-- A rule may go by the current tokens, which may have different spans. -/
theorem current_bind {next others : Token → Parser β}
    (after : Carried behind (next alone.current alone) (others within.current within)) :
    Carried behind ((current >>= next) alone) ((current >>= others) within) :=
  after

/-- The last spans that were taken only show in failures. -/
theorem previousSpan_bind {next others : Span → Parser β}
    (after : ∀ span spanToo, Carried behind (next span alone) (others spanToo within)) :
    Carried behind ((previousSpan >>= next) alone) ((previousSpan >>= others) within) :=
  after alone.previousSpan within.previousSpan

end Carried

namespace Carries

variable {parser other : Parser α} {kind : TokenKind}

theorem pure (value : α) : Carries (pure value) (pure value) :=
  fun _ _ _ enclosed => .ok value enclosed

theorem unexpected (expected : Expectation) (other : Parser α) :
    Carries (unexpected expected) other :=
  fun _ _ _ _ => .failed _ _ _

theorem fail (cause : Cause) (span : Span) (other : Parser α) : Carries (fail cause span) other :=
  fun _ _ _ _ => .failed _ _ _

theorem bind {next others : α → Parser β} (first : Carries parser other)
    (second : ∀ value, Carries (next value) (others value)) :
    Carries (parser >>= next) (other >>= others) :=
  fun _ _ _ enclosed => (first enclosed).bind fun value _ _ enclosed => second value enclosed

theorem map {function : α → β} (carries : Carries parser other) :
    Carries (function <$> parser) (function <$> other) := by
  rw [map_eq_pure_bind, map_eq_pure_bind]
  exact carries.bind fun _ => pure _

/-- Asking for a token that closes nothing is carried. -/
theorem eat (plain : ¬ kind.Closes) : Carries (eat kind) (eat kind) := by
  intro behind alone within enclosed
  unfold Parser.eat
  by_cases found : alone.current.kind = kind
  · have going : alone.current.kind ≠ .finish := fun ends => plain (.inl (found ▸ ends))
    rw [if_pos found, if_pos ((enclosed.current_kind_iff plain).mpr found)]
    exact .ok true (enclosed.advance going)
  · rw [if_neg found, if_neg fun same => found ((enclosed.current_kind_iff plain).mp same)]
    exact .ok false enclosed

theorem choice {yes yesToo no noToo : Parser β} (plain : ¬ kind.Closes)
    (present : Carries yes yesToo) (absent : Carries no noToo) :
    Carries (do if ← Parser.eat kind then yes else no)
      (do if ← Parser.eat kind then yesToo else noToo) := by
  refine (eat plain).bind fun found => ?_
  cases found with
  | true => exact present
  | false => exact absent

/-- Demanding a token is carried, also one that closes: where it is missing, the tokens alone
fail. -/
theorem demand {yes yesToo noToo : Parser β} {expected : Expectation} (goes : kind ≠ .finish)
    (present : Carries yes yesToo) :
    Carries (do if ← Parser.eat kind then yes else Parser.unexpected expected)
      (do if ← Parser.eat kind then yesToo else noToo) := by
  intro behind alone within enclosed
  rw [run_eat, run_eat]
  by_cases found : alone.current.kind = kind
  · have going : alone.current.kind ≠ .finish := found ▸ goes
    rw [if_pos found, if_pos ((enclosed.current_eq going).trans found)]
    exact present (enclosed.advance going)
  · rw [if_neg found]
    exact .failed _ _ _

/-- A parser that takes the current token where it chooses it, and else fails, is carried if it
chooses no end of the input. -/
theorem of_choice (choose : TokenKind → Option α) (expected : Expectation)
    (missed : choose .finish = none)
    (spec : ∀ cursor, parser cursor = match choose cursor.current.kind with
      | some value => .ok value cursor.advance
      | none => Parser.unexpected expected cursor) :
    Carries parser parser := by
  intro behind alone within enclosed
  rw [spec, spec]
  cases found : choose alone.current.kind with
  | some value =>
      have going := TokenKind.ne_finish_of_some missed found
      rw [enclosed.current_eq going, found]
      exact .ok value (enclosed.advance going)
  | none => exact .failed _ _ _

theorem look_bind {next others : TokenKind → Parser β}
    (same : others (.symbol .rightParen) = others .finish)
    (after : ∀ kind, Carries (next kind) (others kind)) :
    Carries (look 0 >>= next) (look 0 >>= others) :=
  fun _ _ _ enclosed => Carried.look_bind enclosed (Nat.zero_le _) same (after _ enclosed)

/-- A rule may go by the current token, if it takes a closing parenthesis for an end. -/
theorem current_bind {next others : Token → Parser β}
    (same : ∀ token tokenToo : Token, tokenToo.kind = token.kind →
      Carries (next token) (others tokenToo))
    (ends : ∀ token tokenToo : Token, token.kind = .finish → tokenToo.kind = .symbol .rightParen →
      Carries (next token) (others tokenToo)) :
    Carries (current >>= next) (current >>= others) := by
  intro behind alone within enclosed
  apply Carried.current_bind
  rcases enclosed.current with shown | ⟨finish, paren⟩
  · exact same _ _ shown enclosed
  · exact ends _ _ finish paren enclosed

end Carries

section Tokens

/-- A keyword closes nothing. -/
theorem not_closes_keyword (word : Keyword) : ¬ (TokenKind.keyword word).Closes := by
  rintro (ends | ends) <;> cases ends

theorem not_closes_name (name : String) : ¬ (TokenKind.identifier name).Closes := by
  rintro (ends | ends) <;> cases ends

theorem not_closes_symbol {mark : Symbol} (other : mark ≠ .rightParen) :
    ¬ (TokenKind.symbol mark).Closes := by
  rintro (ends | ends) <;> cases ends
  exact other rfl

theorem Carries.eatSymbol (mark : Symbol) (other : mark ≠ .rightParen) :
    Carries (eatSymbol mark) (eatSymbol mark) :=
  Carries.eat (not_closes_symbol other)

theorem Carries.eatKeyword (word : Keyword) : Carries (eatKeyword word) (eatKeyword word) :=
  Carries.eat (not_closes_keyword word)

theorem Carries.atSymbol (mark : Symbol) (other : mark ≠ .rightParen) :
    Carries (atSymbol mark) (atSymbol mark) := by
  refine Carries.look_bind ?_ fun _ => Carries.pure _
  have missed : (TokenKind.symbol .rightParen) ≠ .symbol mark := by
    rintro ⟨⟩
    exact other rfl
  rw [decide_eq_false missed]
  rfl

theorem Carries.atKeyword (word : Keyword) : Carries (atKeyword word) (atKeyword word) :=
  Carries.look_bind rfl fun _ => Carries.pure _

theorem Carries.expectSymbol (mark : Symbol) : Carries (expectSymbol mark) (expectSymbol mark) :=
  Carries.demand nofun (Carries.pure ())

theorem Carries.expectKeyword (word : Keyword) :
    Carries (expectKeyword word) (expectKeyword word) :=
  Carries.demand nofun (Carries.pure ())

theorem Carries.expectName : Carries expectName expectName := by
  refine Carries.of_choice TokenKind.name? .identifier rfl fun cursor => ?_
  unfold Parser.expectName
  cases cursor.current.kind.name? <;> rfl

end Tokens

section Lists

variable {item other : Parser α}

/-- A loop whose turns are carried is carried: the enclosed tokens are no fewer than those that
stand alone, so that both sides may take as many turns. -/
theorem Carries.collect {item other : Parser (Option α)} (moving : Moving item (·.isSome = true))
    (carries : Carries item other) : Carries (collect item) (collect other) := by
  have each (fuel : Nat) : Carries (collectWithin item fuel) (collectWithin other fuel) := by
    induction fuel with
    | zero => exact Carries.pure []
    | succ fuel inductionHypothesis =>
        refine carries.bind fun found => ?_
        cases found with
        | none => exact Carries.pure []
        | some value => exact inductionHypothesis.bind fun _ => Carries.pure _
  intro behind alone within enclosed
  have settles := collectWithin_settles moving enclosed.closed (Nat.lt_succ_self _)
  change Carried behind (Parser.collectWithin item (alone.ahead.length + 1) alone)
    (Parser.collectWithin other (within.ahead.length + 1) within)
  rw [settles.run_eq enclosed.closed (Nat.lt_succ_self _) (Nat.lt_succ_of_le enclosed.length_le)]
  exact each _ enclosed

/-- Items behind a guard are carried if the guard and the items are. -/
theorem Carries.manyAfter {guard : Parser Bool} (moving : Moving guard (· = true))
    (steady : Steady item) (first : Carries guard guard) (carries : Carries item other) :
    Carries (manyAfter guard item) (manyAfter guard other) := by
  refine Carries.collect (moving.guarded steady) (first.bind fun found => ?_)
  cases found with
  | true => exact carries.bind fun _ => Carries.pure _
  | false => exact Carries.pure none

theorem Carries.separated (steady : Steady item) (carries : Carries item other) :
    Carries (separated item) (separated other) :=
  carries.bind fun _ =>
    (Carries.manyAfter (Moving.eatSymbol .comma) steady (Carries.eatSymbol .comma nofun)
      carries).bind fun _ => Carries.pure _

theorem Carries.optionalAfter (word : Keyword) (carries : Carries item other) :
    Carries (optionalAfter word item) (optionalAfter word other) :=
  Carries.choice (not_closes_keyword word) (carries.bind fun _ => Carries.pure _)
    (Carries.pure none)

theorem Carries.parenthesized (carries : Carries item other) :
    Carries (parenthesized item) (parenthesized other) :=
  (Carries.expectSymbol .leftParen).bind fun _ => carries.bind fun _ =>
    (Carries.expectSymbol .rightParen).bind fun _ => Carries.pure _

end Lists

end Parser

end SqlTree
