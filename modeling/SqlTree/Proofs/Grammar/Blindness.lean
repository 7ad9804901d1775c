import SqlTree.Proofs.Grammar.SteadyLists

/-!
# Blind parsers

A stream may be cut before a semicolon, so that its end comes where the semicolon stood. A parser is
blind if it comes out the same on both sides of the cut: with the same value, ahead of the cut, or
with a failure. A blind parser takes no semicolon, does not tell one from the end of the input, and
sees nothing of what is behind it. The causes of failures are not compared, because a failure may
name the token that ended the statement.

Blindness composes as steadiness does, and is carried through the grammar in the same way.
-/

namespace SqlTree

/-- What ends a statement is the end of the input or a semicolon. -/
theorem TokenKind.eq_of_isTerminator {kind : TokenKind} (ends : kind.isTerminator = true) :
    kind = .finish ∨ kind = .symbol .semicolon := by
  unfold TokenKind.isTerminator at ends
  split at ends
  · exact .inl rfl
  · exact .inr rfl
  · cases ends

/-- What ends no statement is neither the end of the input nor a semicolon. -/
theorem TokenKind.ne_of_goes {kind : TokenKind} (goes : kind.isTerminator = false) :
    kind ≠ .finish ∧ kind ≠ .symbol .semicolon := by
  constructor <;>
  · rintro rfl
    cases goes

/-- The first cursor is the second one cut before a semicolon, with some tokens behind it. -/
structure Cursor.Cut (short long : Cursor) (behind : List Token) : Prop where
  source : long.source = short.source
  closed : short.close.kind = .finish
  closedToo : long.close.kind = .finish
  ahead : ∃ semicolon : Token, semicolon.kind = .symbol .semicolon ∧
    long.ahead = short.ahead ++ semicolon :: behind

namespace Cursor

/-- None of the next tokens ends a statement, so many of them. -/
def Goes (cursor : Cursor) (count : Nat) : Prop :=
  ∀ places < count, (cursor.peek places).kind.isTerminator = false

section Goes

variable {cursor : Cursor}

theorem goes_zero (cursor : Cursor) : cursor.Goes 0 := nofun

theorem goes_one (goes : cursor.current.kind.isTerminator = false) : cursor.Goes 1 := by
  intro places bound
  obtain rfl : places = 0 := Nat.lt_one_iff.mp bound
  exact goes

theorem Goes.succ {count : Nat} (goes : cursor.Goes count)
    (next : (cursor.peek count).kind.isTerminator = false) : cursor.Goes (count + 1) := by
  intro places bound
  rcases Nat.lt_succ_iff_lt_or_eq.mp bound with inside | rfl
  · exact goes places inside
  · exact next

/-- A token that ends no statement does not close the stream. -/
theorem inside_of_goes (closed : cursor.close.kind = .finish)
    (goes : cursor.current.kind.isTerminator = false) : 0 < cursor.ahead.length :=
  lt_of_peek_ne closed (TokenKind.ne_of_goes goes).1

/-- A token that ends no statement is passed by advancing. -/
theorem advance_of_goes (closed : cursor.close.kind = .finish)
    (goes : cursor.current.kind.isTerminator = false) : cursor.advance = cursor.past 1 :=
  advance_of_ne closed (TokenKind.ne_of_goes goes).1

theorem peek_advance (closed : cursor.close.kind = .finish)
    (goes : cursor.current.kind.isTerminator = false) (places : Nat) :
    cursor.advance.peek places = cursor.peek (1 + places) := by
  rw [advance_of_goes closed goes, peek_past]

/-- Behind a token that ends no statement, the next one is current. -/
theorem current_advance (closed : cursor.close.kind = .finish)
    (goes : cursor.current.kind.isTerminator = false) : cursor.advance.current = cursor.peek 1 :=
  peek_advance closed goes 0

end Goes

end Cursor

namespace Cursor.Cut

variable {short long : Cursor} {behind : List Token} {places : Nat}

theorem peek_inside (cut : short.Cut long behind) (inside : places < short.ahead.length) :
    long.peek places = short.peek places := by
  obtain ⟨semicolon, _, ahead⟩ := cut.ahead
  rw [Cursor.peek, Cursor.peek, ahead, List.getElem?_append_left inside,
    List.getElem?_eq_getElem inside, Option.getD_some, Option.getD_some]

/-- Where the one stream ends, there is the semicolon in the other one. -/
theorem peek_end (cut : short.Cut long behind) :
    (short.peek short.ahead.length).kind = .finish ∧
      (long.peek short.ahead.length).kind = .symbol .semicolon := by
  obtain ⟨semicolon, kind, ahead⟩ := cut.ahead
  constructor
  · rw [Cursor.peek, List.getElem?_eq_none (Nat.le_refl _), Option.getD_none, cut.closed]
  · rw [Cursor.peek, ahead, List.getElem?_append_right (Nat.le_refl _), Nat.sub_self,
      List.getElem?_cons_zero, Option.getD_some, kind]

/-- As long as no statement ends, both cursors show the same; then both show an end. -/
theorem peek (cut : short.Cut long behind) (goes : short.Goes places) :
    long.peek places = short.peek places ∨
      (short.peek places).kind = .finish ∧ (long.peek places).kind = .symbol .semicolon := by
  rcases Nat.lt_trichotomy places short.ahead.length with inside | rfl | outside
  · exact .inl (cut.peek_inside inside)
  · exact .inr cut.peek_end
  · have ended := goes _ outside
    rw [cut.peek_end.1] at ended
    cases ended

theorem current (cut : short.Cut long behind) :
    long.current = short.current ∨
      short.current.kind = .finish ∧ long.current.kind = .symbol .semicolon :=
  cut.peek short.goes_zero

theorem isTerminator_current (cut : short.Cut long behind) :
    long.current.kind.isTerminator = short.current.kind.isTerminator := by
  rcases cut.current with same | ⟨ends, endsToo⟩
  · rw [same]
  · rw [ends, endsToo]
    rfl

theorem current_eq (cut : short.Cut long behind)
    (goes : short.current.kind.isTerminator = false) : long.current = short.current := by
  rcases cut.current with same | ⟨ends, _⟩
  · exact same
  · rw [ends] at goes
    cases goes

/-- A token that ends no statement is shown on both sides or on none. -/
theorem peek_kind_iff (cut : short.Cut long behind)
    (goesOn : short.Goes places) {kind : TokenKind} (goes : kind.isTerminator = false) :
    (long.peek places).kind = kind ↔ (short.peek places).kind = kind := by
  rcases cut.peek goesOn with same | ⟨ends, endsToo⟩
  · rw [same]
  · rw [ends, endsToo]
    constructor <;>
    · rintro rfl
      cases goes

theorem current_kind_iff (cut : short.Cut long behind) {kind : TokenKind}
    (goes : kind.isTerminator = false) : long.current.kind = kind ↔ short.current.kind = kind :=
  cut.peek_kind_iff short.goes_zero goes

/-- Behind tokens that both sides have, the cut is still ahead. -/
theorem past {count : Nat} (cut : short.Cut long behind) (inside : count ≤ short.ahead.length) :
    (short.past count).Cut (long.past count) behind := by
  obtain ⟨semicolon, kind, ahead⟩ := cut.ahead
  refine ⟨cut.source, cut.closed, cut.closedToo, semicolon, kind, ?_⟩
  rw [Cursor.past, Cursor.past, ahead, List.drop_append_of_le_length inside]

/-- Behind a token that ends no statement, the cut is still ahead. -/
theorem advance (cut : short.Cut long behind) (goes : short.current.kind.isTerminator = false) :
    short.advance.Cut long.advance behind := by
  have goesToo : long.current.kind.isTerminator = false := by rw [cut.isTerminator_current, goes]
  rw [advance_of_goes cut.closed goes, advance_of_goes cut.closedToo goesToo]
  exact cut.past (inside_of_goes cut.closed goes)

theorem length_ahead (cut : short.Cut long behind) :
    long.ahead.length = short.ahead.length + 1 + behind.length := by
  obtain ⟨semicolon, _, ahead⟩ := cut.ahead
  rw [ahead, List.length_append, List.length_cons]
  omega

end Cursor.Cut

namespace Parser

variable {α β : Type}

/-- Two results are the same value ahead of the cut, or two failures. -/
inductive Alike (behind : List Token) :
    EStateM.Result Failure Cursor α → EStateM.Result Failure Cursor α → Prop where
  | ok (value : α) {short long : Cursor} (cut : short.Cut long behind) :
    Alike behind (.ok value short) (.ok value long)
  | error (failure other : Failure) (short long : Cursor) :
    Alike behind (.error failure short) (.error other long)

/-- A parser comes out the same on both sides of one cut. -/
def BlindAt (behind : List Token) (short long : Cursor) (parser : Parser α) : Prop :=
  Alike behind (parser short) (parser long)

/-- Parsers that differ in a span alone come out the same on both sides of one cut. -/
def AlikeUpTo (behind : List Token) (short long : Cursor) (parser : Span → Parser α) : Prop :=
  ∀ span spanToo, Alike behind (parser span short) (parser spanToo long)

/-- A parser comes out the same on a stream and on the stream cut before a semicolon. -/
def Blind (parser : Parser α) : Prop :=
  ∀ ⦃behind : List Token⦄ ⦃short long : Cursor⦄, short.Cut long behind →
    Alike behind (parser short) (parser long)

namespace Alike

variable {behind : List Token} {short long : Cursor} {parser other : Parser α}

/-- What goes on in the same way behind results that are the same comes out the same. -/
theorem bind {next others : α → Parser β} (first : Alike behind (parser short) (other long))
    (second : ∀ value ⦃short long⦄, short.Cut long behind →
      Alike behind (next value short) (others value long)) :
    Alike behind ((parser >>= next) short) ((other >>= others) long) := by
  generalize ran : parser short = result, ranToo : other long = resultToo at first
  cases first with
  | ok value cut =>
      rw [bind_of_ok ran, bind_of_ok ranToo]
      exact second value cut
  | error failure failureToo stopped stoppedToo =>
      rw [bind_of_error ran, bind_of_error ranToo]
      exact .error failure failureToo stopped stoppedToo

theorem fail {cause causeToo : Cause} {span spanToo : Span} :
    Alike behind ((fail cause span : Parser α) short) ((Parser.fail causeToo spanToo) long) :=
  .error _ _ _ _

/-- A rule may go by a token that is not behind an end of the statement, if it does not tell a
semicolon from the end of the input. -/
theorem look_bind {next : TokenKind → Parser β} {places : Nat} (cut : short.Cut long behind)
    (goes : short.Goes places) (same : next (.symbol .semicolon) = next .finish)
    (after : BlindAt behind short long (next (short.peek places).kind)) :
    Alike behind ((look places >>= next) short) ((look places >>= next) long) := by
  change Alike behind (next (short.peek places).kind short) (next (long.peek places).kind long)
  rcases cut.peek goes with shown | ⟨ends, endsToo⟩
  · rw [shown]
    exact after
  · rw [endsToo, same, ← ends]
    exact after

/-- A rule may go by two tokens in a row, if the second one has no say where the first one ends the
statement. -/
theorem look_look_bind {next : TokenKind → TokenKind → Parser β} {places : Nat}
    (cut : short.Cut long behind) (goes : short.Goes places)
    (first : ∀ kind, next .finish kind = next .finish .finish)
    (firstToo : ∀ kind, next (.symbol .semicolon) kind = next .finish .finish)
    (second : ∀ kind, next kind (.symbol .semicolon) = next kind .finish)
    (after : BlindAt behind short long
      (next (short.peek places).kind (short.peek (places + 1)).kind)) :
    Alike behind ((do next (← look places) (← look (places + 1))) short)
      ((do next (← look places) (← look (places + 1))) long) := by
  change Alike behind (next (short.peek places).kind (short.peek (places + 1)).kind short)
    (next (long.peek places).kind (long.peek (places + 1)).kind long)
  rcases cut.peek goes with shown | ⟨ends, endsToo⟩
  · by_cases ends : (short.peek places).kind.isTerminator = true
    · have blank (kind : TokenKind) :
          next (short.peek places).kind kind = next .finish .finish := by
        rcases TokenKind.eq_of_isTerminator ends with finish | semicolon
        · rw [finish]
          exact first kind
        · rw [semicolon]
          exact firstToo kind
      rw [shown, blank (long.peek _).kind, ← blank (short.peek _).kind]
      exact after
    · have goesOn : short.Goes (places + 1) := goes.succ (Bool.eq_false_iff.mpr ends)
      rcases cut.peek goesOn with shownToo | ⟨endsNext, endsNextToo⟩
      · rw [shown, shownToo]
        exact after
      · rw [shown, endsNextToo, second, ← endsNext]
        exact after
  · rw [endsToo, firstToo, ← first (short.peek (places + 1)).kind, ← ends]
    exact after

theorem first_two_bind {next : TokenKind → TokenKind → Parser β} (cut : short.Cut long behind)
    (first : ∀ kind, next .finish kind = next .finish .finish)
    (firstToo : ∀ kind, next (.symbol .semicolon) kind = next .finish .finish)
    (second : ∀ kind, next kind (.symbol .semicolon) = next kind .finish)
    (after : BlindAt behind short long (next (short.peek 0).kind (short.peek 1).kind)) :
    Alike behind ((do next (← look 0) (← look 1)) short)
      ((do next (← look 0) (← look 1)) long) :=
  look_look_bind cut short.goes_zero first firstToo second after

/-- Whether a symbol that ends no statement comes next is the same on both sides. -/
theorem atSymbol_bind {next : Bool → Parser β} {mark : Symbol} (cut : short.Cut long behind)
    (goes : (TokenKind.symbol mark).isTerminator = false)
    (after : BlindAt behind short long (next (decide (short.current.kind = .symbol mark)))) :
    Alike behind ((atSymbol mark >>= next) short) ((atSymbol mark >>= next) long) := by
  change Alike behind (next (decide (short.current.kind = .symbol mark)) short)
    (next (decide (long.current.kind = .symbol mark)) long)
  rw [decide_eq_decide.mpr (cut.current_kind_iff goes)]
  exact after

/-- A token that ends no statement is taken on both sides. -/
theorem advance_bind {next : Token → Parser β} (cut : short.Cut long behind)
    (goes : short.current.kind.isTerminator = false)
    (after : short.advance.Cut long.advance behind →
      Alike behind (next short.current short.advance) (next short.current long.advance)) :
    Alike behind ((advance >>= next) short) ((advance >>= next) long) := by
  change Alike behind (next short.current short.advance) (next long.current long.advance)
  rw [cut.current_eq goes]
  exact after (cut.advance goes)

/-- A rule may go by the current token, if it does not tell a semicolon from the end of the
input. -/
theorem current_bind {next : Token → Parser β} (cut : short.Cut long behind)
    (same : BlindAt behind short long (next short.current))
    (ends : ∀ token tokenToo : Token, token.kind = .finish → tokenToo.kind = .symbol .semicolon →
      Alike behind (next token short) (next tokenToo long)) :
    Alike behind ((current >>= next) short) ((current >>= next) long) := by
  change Alike behind (next short.current short) (next long.current long)
  rcases cut.current with shown | ⟨finish, semicolon⟩
  · rw [shown]
    exact same
  · exact ends _ _ finish semicolon

theorem get_bind {next : Cursor → Parser β}
    (after : Alike behind (next short short) (next long long)) :
    Alike behind ((get >>= next) short) ((get >>= next) long) :=
  after

/-- A rule that goes by the span of the current token only may do so, where spans have no say. -/
theorem start_bind {next : Token → Parser β}
    (after : ∀ token tokenToo, Alike behind (next token short) (next tokenToo long)) :
    Alike behind ((current >>= next) short) ((current >>= next) long) :=
  after short.current long.current

/-- The last span that was taken only shows in failures. -/
theorem previousSpan_bind {next others : Span → Parser β}
    (after : ∀ span spanToo, Alike behind (next span short) (others spanToo long)) :
    Alike behind ((previousSpan >>= next) short) ((previousSpan >>= others) long) :=
  after short.previousSpan long.previousSpan

end Alike

namespace Blind

variable {parser : Parser α} {kind : TokenKind}

theorem pure (value : α) : Blind (pure value) := fun _ _ _ cut => .ok value cut

theorem unexpected (expected : Expectation) : Blind (unexpected expected : Parser α) :=
  fun _ _ _ _ => .error _ _ _ _

theorem fail (cause : Cause) (span : Span) : Blind (fail cause span : Parser α) :=
  fun _ _ _ _ => .error _ _ _ _

theorem bind {next : α → Parser β} (first : Blind parser) (second : ∀ value, Blind (next value)) :
    Blind (parser >>= next) :=
  fun _ _ _ cut => (first cut).bind fun value _ _ cut => second value cut

theorem map {function : α → β} (blind : Blind parser) : Blind (function <$> parser) := by
  rw [map_eq_pure_bind]
  exact blind.bind fun _ => pure _

/-- Asking for a token that ends no statement comes out the same. -/
theorem eat (goes : kind.isTerminator = false) : Blind (eat kind) := by
  intro behind short long cut
  unfold Parser.eat
  by_cases found : short.current.kind = kind
  · have going : short.current.kind.isTerminator = false := found ▸ goes
    rw [cut.current_eq going, if_pos found, if_pos found]
    exact .ok true (cut.advance going)
  · rw [if_neg found, if_neg fun same => found ((cut.current_kind_iff goes).mp same)]
    exact .ok false cut

theorem choice {yes no : Parser β} (goes : kind.isTerminator = false) (present : Blind yes)
    (absent : Blind no) : Blind (do if ← Parser.eat kind then yes else no) := by
  refine (eat goes).bind fun found => ?_
  cases found with
  | true => exact present
  | false => exact absent

/-- A parser that takes the current token where it chooses it, and else fails, is blind if it
chooses no end of a statement. -/
theorem of_choice (choose : TokenKind → Option α) (expected : Expectation)
    (goes : ∀ kind value, choose kind = some value → kind.isTerminator = false)
    (spec : ∀ cursor, parser cursor = match choose cursor.current.kind with
      | some value => .ok value cursor.advance
      | none => Parser.unexpected expected cursor) :
    Blind parser := by
  intro behind short long cut
  rw [spec, spec]
  cases found : choose short.current.kind with
  | some value =>
      have going := goes _ _ found
      rw [cut.current_eq going, found]
      exact .ok value (cut.advance going)
  | none =>
      have missed : choose long.current.kind = none := by
        rcases cut.current with same | ⟨_, semicolon⟩
        · rw [same, found]
        · rw [semicolon]
          refine Option.eq_none_iff_forall_ne_some.mpr fun value chosen => ?_
          cases goes _ _ chosen
      rw [missed]
      exact .error _ _ _ _

theorem look_bind {next : TokenKind → Parser β} (same : next (.symbol .semicolon) = next .finish)
    (after : ∀ kind, Blind (next kind)) : Blind (look 0 >>= next) :=
  fun _ _ _ cut => Alike.look_bind cut (Cursor.goes_zero _) same (after _ cut)

end Blind

section Tokens

theorem Blind.eatSymbol (mark : Symbol) (goes : (TokenKind.symbol mark).isTerminator = false) :
    Blind (eatSymbol mark) :=
  Blind.eat goes

theorem Blind.eatKeyword (word : Keyword) : Blind (eatKeyword word) := Blind.eat rfl

theorem Blind.atSymbol (mark : Symbol) (goes : (TokenKind.symbol mark).isTerminator = false) :
    Blind (atSymbol mark) := by
  intro behind short long cut
  change Alike behind (.ok (decide (short.current.kind = .symbol mark)) short)
    (.ok (decide (long.current.kind = .symbol mark)) long)
  rw [decide_eq_decide.mpr (cut.current_kind_iff goes)]
  exact .ok _ cut

theorem Blind.atKeyword (word : Keyword) : Blind (atKeyword word) :=
  Blind.look_bind rfl fun _ => Blind.pure _

theorem Blind.expectSymbol (mark : Symbol) (goes : (TokenKind.symbol mark).isTerminator = false) :
    Blind (expectSymbol mark) :=
  Blind.choice goes (Blind.pure ()) (Blind.unexpected _)

theorem Blind.expectKeyword (word : Keyword) : Blind (expectKeyword word) :=
  Blind.choice rfl (Blind.pure ()) (Blind.unexpected _)

/-- What stands for a name ends no statement. -/
theorem isTerminator_of_name? {kind : TokenKind} {name : String}
    (named : kind.name? = some name) : kind.isTerminator = false := by
  cases kind with
  | finish => cases named
  | symbol mark => cases named
  | _ => rfl

theorem Blind.expectName : Blind expectName := by
  refine Blind.of_choice TokenKind.name? .identifier (fun _ _ => isTerminator_of_name?) ?_
  intro cursor
  unfold Parser.expectName
  cases cursor.current.kind.name? <;> rfl

end Tokens

section Lists

/-- A loop that settles is blind if it is blind for any number of turns. -/
theorem Settles.blind {loop : Nat → Parser α}
    (settles : ∀ cursor : Cursor, cursor.close.kind = .finish → Settles loop cursor)
    (blind : ∀ fuel, Blind (loop fuel)) : Blind (do loop ((← get).ahead.length + 1)) := by
  intro behind short long cut
  have shorter : short.ahead.length ≤ long.ahead.length := by
    rw [cut.length_ahead]
    omega
  change Alike behind (loop (short.ahead.length + 1) short) (loop (long.ahead.length + 1) long)
  -- Both sides may take as many turns as the longer stream has tokens.
  rw [(settles short cut.closed).run_eq cut.closed (Nat.lt_succ_self _)
    (Nat.lt_succ_of_le shorter)]
  exact blind _ cut

theorem Blind.collect {item : Parser (Option α)} (moving : Moving item (·.isSome = true))
    (blind : Blind item) : Blind (collect item) := by
  refine Settles.blind
    (fun _ closed => collectWithin_settles moving closed (Nat.lt_succ_self _)) fun fuel => ?_
  induction fuel with
  | zero => exact Blind.pure []
  | succ fuel inductionHypothesis =>
      refine blind.bind fun found => ?_
      cases found with
      | none => exact Blind.pure []
      | some value => exact inductionHypothesis.bind fun _ => Blind.pure _

/-- Items behind a guard are blind if the guard and the items are. -/
theorem Blind.manyAfter {guard : Parser Bool} {item : Parser α} (moving : Moving guard (· = true))
    (steady : Steady item) (first : Blind guard) (blind : Blind item) :
    Blind (manyAfter guard item) := by
  refine Blind.collect (moving.guarded steady) (first.bind fun found => ?_)
  cases found with
  | true => exact blind.bind fun _ => Blind.pure _
  | false => exact Blind.pure none

theorem Blind.separated {item : Parser α} (steady : Steady item) (blind : Blind item) :
    Blind (separated item) :=
  blind.bind fun _ =>
    (Blind.manyAfter (Moving.eatSymbol .comma) steady (Blind.eatSymbol .comma rfl) blind).bind
      fun _ => Blind.pure _

theorem Blind.optionalAfter (word : Keyword) {item : Parser α} (blind : Blind item) :
    Blind (optionalAfter word item) :=
  Blind.choice rfl (blind.bind fun _ => Blind.pure _) (Blind.pure none)

theorem Blind.parenthesized {item : Parser α} (blind : Blind item) : Blind (parenthesized item) :=
  (Blind.expectSymbol .leftParen rfl).bind fun _ => blind.bind fun _ =>
    (Blind.expectSymbol .rightParen rfl).bind fun _ => Blind.pure _

end Lists

end Parser

end SqlTree
