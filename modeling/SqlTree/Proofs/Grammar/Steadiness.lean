import SqlTree.Proofs.Grammar.Reading

/-!
# Steady parsers

What a run of a parser may do, whatever the parser is. It takes tokens one by one, none of which
ends the input or is no token at all. Where it fails for a token that it did not expect, that token
stands at the cursor that it leaves. And it comes out the same from every cursor that shows the same
tokens, up to two behind the last that was taken: neither the tokens that were taken before the run
nor those further ahead have a say.

Steadiness composes, so that it is carried from the smallest parsers through the whole grammar.
-/

namespace SqlTree

/-- Whether a token may be taken: it is neither the end of the input nor a piece of text that is no
token. -/
def TokenKind.isPlain : TokenKind → Bool
  | .finish | .invalid _ => false
  | _ => true

/-- A plain token neither ends the input nor is no token at all. -/
theorem TokenKind.ne_of_isPlain {kind : TokenKind} (plain : kind.isPlain = true) :
    kind ≠ .finish ∧ ∀ message, kind ≠ .invalid message := by
  constructor
  · rintro rfl
    cases plain
  · rintro message rfl
    cases plain

namespace Cursor

/-- The next tokens may be taken, so many of them. -/
def Clear (cursor : Cursor) (count : Nat) : Prop :=
  ∀ places < count, (cursor.peek places).kind.isPlain = true

/-- Another cursor on the same text shows the same next tokens, so many of them. If this cursor
knows the token before its position, the other one knows it too. -/
structure Agrees (cursor other : Cursor) (count : Nat) : Prop where
  source : other.source = cursor.source
  closed : other.close.kind = .finish
  peek : ∀ places < count, other.peek places = cursor.peek places
  previous : ∀ span ∈ cursor.previous, other.previous = some span

section Past

variable {cursor other : Cursor} {count more places : Nat}

theorem clear_zero (cursor : Cursor) : cursor.Clear 0 := nofun

theorem clear_one (plain : cursor.current.kind.isPlain = true) : cursor.Clear 1 := by
  intro places bound
  obtain rfl : places = 0 := Nat.lt_one_iff.mp bound
  exact plain

theorem Clear.append (first : cursor.Clear count) (second : (cursor.past count).Clear more) :
    cursor.Clear (count + more) := by
  intro places bound
  by_cases inside : places < count
  · exact first places inside
  · have behind := second (places - count) (by omega)
    rwa [peek_past, Nat.add_sub_cancel' (Nat.le_of_not_lt inside)] at behind

/-- What may be taken does not close the stream. -/
theorem lt_of_isPlain (closed : cursor.close.kind = .finish)
    (plain : (cursor.peek places).kind.isPlain = true) : places < cursor.ahead.length :=
  lt_of_peek_ne closed (TokenKind.ne_of_isPlain plain).1

theorem Clear.inside (clear : cursor.Clear count) (closed : cursor.close.kind = .finish) :
    count ≤ cursor.ahead.length := by
  cases count with
  | zero => exact Nat.zero_le _
  | succ count => exact lt_of_isPlain closed (clear count (Nat.lt_succ_self count))

/-- The last token behind the position is the one that was taken last. -/
theorem past_previous (inside : count < cursor.ahead.length) :
    (cursor.past (count + 1)).previous = some (cursor.peek count).span := by
  have found : cursor.ahead[count]? = some cursor.ahead[count] := List.getElem?_eq_getElem inside
  simp only [past, peek, List.take_add_one, found, Option.toList_some, List.getLast?_concat,
    Option.map_some, Option.some_or, Option.getD_some]

theorem isSome_previous_past (known : cursor.previous.isSome = true) (count : Nat) :
    (cursor.past count).previous.isSome = true := by
  simp [past, known]

theorem Clear.isSome_previous (clear : cursor.Clear count) (closed : cursor.close.kind = .finish)
    (positive : 0 < count) : (cursor.past count).previous.isSome = true := by
  obtain ⟨count, rfl⟩ := Nat.exists_eq_succ_of_ne_zero (Nat.ne_of_gt positive)
  rw [past_previous (clear.inside closed)]
  rfl

/-- A token that may be taken is passed by advancing. -/
theorem advance_of_isPlain (closed : cursor.close.kind = .finish)
    (plain : cursor.current.kind.isPlain = true) : cursor.advance = cursor.past 1 :=
  advance_of_ne closed (TokenKind.ne_of_isPlain plain).1

namespace Agrees

theorem refl (closed : cursor.close.kind = .finish) (count : Nat) :
    cursor.Agrees cursor count :=
  ⟨rfl, closed, fun _ _ => rfl, fun _ known => known⟩

theorem mono (agrees : cursor.Agrees other count) (le : more ≤ count) :
    cursor.Agrees other more :=
  { agrees with peek := fun places bound => agrees.peek places (Nat.lt_of_lt_of_le bound le) }

theorem current (agrees : cursor.Agrees other count) (positive : 0 < count) :
    other.current = cursor.current :=
  agrees.peek 0 positive

theorem clear (agrees : cursor.Agrees other count) (le : more ≤ count)
    (clear : cursor.Clear more) : other.Clear more := by
  intro places bound
  rw [agrees.peek places (Nat.lt_of_lt_of_le bound le)]
  exact clear places bound

/-- Behind the same tokens, cursors still agree. -/
theorem past (agrees : cursor.Agrees other (count + more)) (clear : cursor.Clear count)
    (closed : cursor.close.kind = .finish) :
    (cursor.past count).Agrees (other.past count) more where
  source := agrees.source
  closed := agrees.closed
  peek places bound := by
    rw [peek_past, peek_past, agrees.peek _ (Nat.add_lt_add_left bound count)]
  previous := by
    cases count with
    | zero => simpa only [past_zero] using agrees.previous
    | succ count =>
        have clearToo := agrees.clear (Nat.le_add_right _ _) clear
        intro span known
        rw [past_previous (clear.inside closed)] at known
        rw [past_previous (clearToo.inside agrees.closed), agrees.peek count (by omega), known]

end Agrees

end Past

end Cursor

/-- A failure lies at the token where the cursor stands, if it names the token that was found. The
fallback of the operators is never what was expected. -/
def Failure.LiesAt (failure : Failure) (cursor : Cursor) : Prop :=
  ∀ expected found, failure.cause = .unexpected expected found →
    expected ≠ .operator ∧ cursor.current = ⟨found, failure.span⟩

namespace Parser

variable {α β : Type}

/-- The result of a run that stops at a cursor. -/
def settled : Except Failure α → Cursor → EStateM.Result Failure Cursor α
  | .ok value, cursor => .ok value cursor
  | .error failure, cursor => .error failure cursor

/-- From a cursor, a parser takes some tokens and comes to an outcome. -/
structure Comes (parser : Parser α) (cursor : Cursor) (outcome : Except Failure α) (taken : Nat) :
    Prop where
  clear : cursor.Clear taken
  lies : ∀ failure, outcome = .error failure → failure.LiesAt (cursor.past taken)
  same : ∀ other, cursor.Agrees other (taken + 3) →
    parser other = settled outcome (other.past taken)

/-- A parser comes to an outcome from a cursor, and takes a token at least for certain values. -/
def SteadyAt (parser : Parser α) (cursor : Cursor) (moves : α → Prop) : Prop :=
  cursor.close.kind = .finish → ∃ outcome taken, parser.Comes cursor outcome taken ∧
    ∀ value, outcome = .ok value → moves value → 0 < taken

/-- A parser comes to an outcome from every cursor, and takes a token at least for certain
values. -/
def Moving (parser : Parser α) (moves : α → Prop) : Prop := ∀ cursor, SteadyAt parser cursor moves

/-- A parser comes to an outcome from every cursor. -/
def Steady (parser : Parser α) : Prop := Moving parser fun _ => False

/-- A parser comes to an outcome from every cursor, and takes a token at least where it succeeds. -/
def Taking (parser : Parser α) : Prop := Moving parser fun _ => True

namespace Comes

variable {parser : Parser α} {next : α → Parser β} {cursor : Cursor} {outcome : Except Failure α}
  {result : Except Failure β} {value : α} {failure : Failure} {taken more : Nat}

/-- A run of a steady parser stops behind the tokens that it took. -/
theorem run (comes : parser.Comes cursor outcome taken) (closed : cursor.close.kind = .finish) :
    parser cursor = settled outcome (cursor.past taken) :=
  comes.same cursor (Cursor.Agrees.refl closed _)

/-- A success has nothing to say about failures. -/
theorem ok (clear : cursor.Clear taken)
    (same : ∀ other, cursor.Agrees other (taken + 3) →
      parser other = .ok value (other.past taken)) :
    parser.Comes cursor (.ok value) taken where
  clear := clear
  lies _ failed := by cases failed
  same := same

theorem error (clear : cursor.Clear taken) (lies : failure.LiesAt (cursor.past taken))
    (same : ∀ other, cursor.Agrees other (taken + 3) →
      parser other = .error failure (other.past taken)) :
    parser.Comes cursor (.error failure) taken where
  clear := clear
  lies := by
    rintro _ ⟨⟩
    exact lies
  same := same

theorem pure (value : α) (cursor : Cursor) :
    (pure value : Parser α).Comes cursor (.ok value) 0 := by
  refine ok cursor.clear_zero fun other _ => ?_
  rw [Cursor.past_zero]
  rfl

theorem fail {cause : Cause} {span : Span} (plain : cause.found? = none) (cursor : Cursor) :
    (fail cause span : Parser α).Comes cursor (.error ⟨cause, span⟩) 0 := by
  refine error cursor.clear_zero ?_ ?_
  · rintro expected found rfl
    cases plain
  · intro other _
    rw [Cursor.past_zero]
    rfl

theorem unexpected {expected : Expectation} (asked : expected ≠ .operator) (cursor : Cursor) :
    (unexpected expected : Parser α).Comes cursor
      (.error ⟨.unexpected expected cursor.current.kind, cursor.current.span⟩) 0 := by
  refine error cursor.clear_zero ?_ ?_
  · rintro _ _ ⟨⟩
    rw [Cursor.past_zero]
    exact ⟨asked, rfl⟩
  · intro other agrees
    have same : other.current = cursor.current := agrees.current (by omega)
    simp only [Cursor.past_zero, Parser.unexpected, same]

/-- A parser takes the current token where it may be taken. -/
theorem advance (plain : cursor.current.kind.isPlain = true)
    (run : ∀ other, other.current = cursor.current → parser other = .ok value other.advance) :
    parser.Comes cursor (.ok value) 1 := by
  refine ok (Cursor.clear_one plain) fun other agrees => ?_
  have same : other.current = cursor.current := agrees.current (by omega)
  have plainToo : other.current.kind.isPlain = true := same ▸ plain
  rw [run other same, Cursor.advance_of_isPlain agrees.closed plainToo]

/-- Behind a success the next parser goes on, from all cursors that agree with the first one. -/
theorem bind (first : parser.Comes cursor (.ok value) taken)
    (closed : cursor.close.kind = .finish)
    (second : (next value).Comes (cursor.past taken) result more) :
    (parser >>= next).Comes cursor result (taken + more) where
  clear := first.clear.append second.clear
  lies failure failed := by
    rw [← Cursor.past_past]
    exact second.lies failure failed
  same other agrees := by
    have near : cursor.Agrees other (taken + 3) := agrees.mono (by omega)
    have behind : (cursor.past taken).Agrees (other.past taken) (more + 3) :=
      Cursor.Agrees.past (agrees.mono (by omega)) first.clear closed
    refine (bind_of_ok (first.same other near)).trans ?_
    rw [second.same _ behind, Cursor.past_past]

/-- Behind a failure nothing happens. -/
theorem bind_error (first : parser.Comes cursor (.error failure) taken) :
    (parser >>= next).Comes cursor (.error failure) taken :=
  error first.clear (first.lies failure rfl) fun other agrees =>
    bind_of_error (first.same other agrees)

/-- A rule may go by what the cursor shows in the next three tokens. -/
theorem read_bind {γ : Type} {read : Cursor → γ} {next : γ → Parser β}
    (near : ∀ other, cursor.Agrees other 3 → read other = read cursor)
    (after : (next (read cursor)).Comes cursor result taken) :
    ((fun cursor => .ok (read cursor) cursor : Parser γ) >>= next).Comes cursor result taken where
  clear := after.clear
  lies := after.lies
  same other agrees := by
    refine Eq.trans ?_ (after.same other agrees)
    change next (read other) other = _
    rw [near other (agrees.mono (Nat.le_add_left 3 taken))]

theorem current_bind {next : Token → Parser β}
    (after : (next cursor.current).Comes cursor result taken) :
    (current >>= next).Comes cursor result taken :=
  read_bind (fun _ agrees => agrees.current (by omega)) after

theorem look_bind {next : TokenKind → Parser β} {places : Nat} (near : places < 3)
    (after : (next (cursor.peek places).kind).Comes cursor result taken) :
    (look places >>= next).Comes cursor result taken :=
  read_bind (fun _ agrees => congrArg Token.kind (agrees.peek places near)) after

/-- Where a token was taken before, the last one is known. -/
theorem previousSpan_bind {next : Span → Parser β} (known : cursor.previous.isSome = true)
    (after : (next cursor.previousSpan).Comes cursor result taken) :
    (previousSpan >>= next).Comes cursor result taken := by
  refine read_bind (fun other agrees => ?_) after
  obtain ⟨span, same⟩ := Option.isSome_iff_exists.mp known
  rw [Cursor.previousSpan, Cursor.previousSpan, agrees.previous span same, same]
  rfl

/-- What a parser returns may be changed behind it. -/
theorem andReturn {function : α → β} (comes : parser.Comes cursor outcome taken)
    (closed : cursor.close.kind = .finish) :
    (do return function (← parser) : Parser β).Comes cursor (outcome.map function) taken := by
  cases outcome with
  | error failure => exact comes.bind_error
  | ok value =>
      change Comes _ cursor (.ok (function value)) (taken + 0)
      exact comes.bind closed (Comes.pure (function value) _)

end Comes

namespace SteadyAt

variable {parser : Parser α} {next : α → Parser β} {cursor : Cursor} {moves : α → Prop}
  {moves' : β → Prop} {value : α}

theorem weaken {strong weak : α → Prop} (steady : SteadyAt parser cursor strong)
    (weaker : ∀ value, weak value → strong value) : SteadyAt parser cursor weak := by
  intro closed
  obtain ⟨outcome, taken, comes, moved⟩ := steady closed
  exact ⟨outcome, taken, comes, fun value result found => moved value result (weaker _ found)⟩

theorem pure (still : ¬ moves value) : SteadyAt (pure value) cursor moves := by
  intro _
  refine ⟨.ok value, 0, Comes.pure value cursor, ?_⟩
  rintro _ ⟨⟩ found
  exact absurd found still

theorem fail {cause : Cause} {span : Span} (plain : cause.found? = none) :
    SteadyAt (fail cause span) cursor moves :=
  fun _ => ⟨_, 0, Comes.fail plain cursor, nofun⟩

theorem unexpected {expected : Expectation} (asked : expected ≠ .operator) :
    SteadyAt (unexpected expected) cursor moves :=
  fun _ => ⟨_, 0, Comes.unexpected asked cursor, nofun⟩

/-- Steady parsers compose. The second one has to take a token only where the first did not, and
knows the last token where the first took one. -/
theorem bind (first : SteadyAt parser cursor moves)
    (second : ∀ value taken, (moves value → (cursor.past taken).previous.isSome = true) →
      SteadyAt (next value) (cursor.past taken) fun result => moves' result ∧ ¬ moves value) :
    SteadyAt (parser >>= next) cursor moves' := by
  intro closed
  obtain ⟨outcome, taken, comes, moved⟩ := first closed
  cases outcome with
  | error failure => exact ⟨.error failure, taken, comes.bind_error, nofun⟩
  | ok value =>
      have known (found : moves value) : (cursor.past taken).previous.isSome = true :=
        comes.clear.isSome_previous closed (moved value rfl found)
      obtain ⟨result, more, after, movedToo⟩ := second value taken known closed
      refine ⟨result, taken + more, comes.bind closed after, fun final done found => ?_⟩
      by_cases early : moves value
      · exact Nat.add_pos_left (moved value rfl early) more
      · exact Nat.add_pos_right taken (movedToo final done ⟨found, early⟩)

/-- Behind a parser that takes a token, the others need only be steady, and the last token is
known. -/
theorem bind_known (first : SteadyAt parser cursor fun _ => True)
    (second : ∀ value behind, behind.previous.isSome = true →
      SteadyAt (next value) behind fun _ => False) :
    SteadyAt (parser >>= next) cursor moves' :=
  first.bind fun value _ known =>
    (second value _ (known trivial)).weaken fun _ moved => moved.2 trivial

/-- Where the last token is known, it still is behind a steady parser. -/
theorem bind_still {still : α → Prop} (first : SteadyAt parser cursor still)
    (known : cursor.previous.isSome = true)
    (second : ∀ value behind, behind.previous.isSome = true →
      SteadyAt (next value) behind fun _ => False) :
    SteadyAt (parser >>= next) cursor fun _ => False :=
  first.bind fun value taken _ =>
    (second value _ (Cursor.isSome_previous_past known taken)).weaken fun _ moved => moved.1

/-- A rule may go by what the cursor shows in the next three tokens. -/
theorem read_bind {γ : Type} {read : Cursor → γ} {next : γ → Parser β}
    (near : ∀ other, cursor.Agrees other 3 → read other = read cursor)
    (after : SteadyAt (next (read cursor)) cursor moves') :
    SteadyAt ((fun cursor => .ok (read cursor) cursor : Parser γ) >>= next) cursor moves' := by
  intro closed
  obtain ⟨outcome, taken, comes, moved⟩ := after closed
  exact ⟨outcome, taken, comes.read_bind near, moved⟩

theorem look_bind {next : TokenKind → Parser β} {places : Nat} (near : places < 3)
    (after : SteadyAt (next (cursor.peek places).kind) cursor moves') :
    SteadyAt (look places >>= next) cursor moves' :=
  read_bind (fun _ agrees => congrArg Token.kind (agrees.peek places near)) after

theorem atSymbol_bind {next : Bool → Parser β} {mark : Symbol}
    (after : SteadyAt (next (decide (cursor.current.kind = .symbol mark))) cursor moves') :
    SteadyAt (atSymbol mark >>= next) cursor moves' := by
  have near (other : Cursor) (agrees : cursor.Agrees other 3) :
      decide (other.current.kind = .symbol mark) = decide (cursor.current.kind = .symbol mark) := by
    rw [agrees.current (by omega)]
  exact read_bind near after

theorem current_bind {next : Token → Parser β}
    (after : SteadyAt (next cursor.current) cursor moves') :
    SteadyAt (current >>= next) cursor moves' :=
  read_bind (fun _ agrees => agrees.current (by omega)) after

theorem previousSpan_bind {next : Span → Parser β} (known : cursor.previous.isSome = true)
    (after : SteadyAt (next cursor.previousSpan) cursor moves') :
    SteadyAt (previousSpan >>= next) cursor moves' := by
  intro closed
  obtain ⟨outcome, taken, comes, moved⟩ := after closed
  exact ⟨outcome, taken, comes.previousSpan_bind known, moved⟩

/-- A rule may go by the cursor, if it goes only by what the cursor shows near by. -/
theorem get_bind {next : Cursor → Parser β}
    (near : ∀ other, cursor.Agrees other 3 → next other = next cursor)
    (after : SteadyAt (next cursor) cursor moves') : SteadyAt (get >>= next) cursor moves' := by
  intro closed
  obtain ⟨outcome, taken, comes, moved⟩ := after closed
  refine ⟨outcome, taken, ⟨comes.clear, comes.lies, ?_⟩, moved⟩
  intro other agrees
  refine Eq.trans ?_ (comes.same other agrees)
  change next other other = _
  rw [near other (agrees.mono (Nat.le_add_left 3 taken))]

/-- A parser that takes the current token where it may be taken. -/
theorem of_advance (value : α) (plain : cursor.current.kind.isPlain = true)
    (run : ∀ other, other.current = cursor.current → parser other = .ok value other.advance) :
    SteadyAt parser cursor moves :=
  fun _ => ⟨.ok value, 1, Comes.advance plain run, fun _ _ _ => Nat.one_pos⟩

/-- Behind a token that may be taken, the rule goes on with that token. -/
theorem advance_bind {next : Token → Parser β} (plain : cursor.current.kind.isPlain = true)
    (after : SteadyAt (next cursor.current) (cursor.past 1) fun _ => False) :
    SteadyAt (advance >>= next) cursor moves' := by
  intro closed
  obtain ⟨outcome, taken, comes, _⟩ := after closed
  have first : advance.Comes cursor (.ok cursor.current) 1 := Comes.advance plain fun _ same => by
    rw [← same]
    rfl
  exact ⟨outcome, 1 + taken, first.bind closed comes, fun _ _ _ => by omega⟩

end SteadyAt

namespace Moving

variable {parser : Parser α} {next : α → Parser β} {moves : α → Prop} {moves' : β → Prop}
  {kind : TokenKind}

theorem steady (moving : Moving parser moves) : Steady parser :=
  fun cursor => (moving cursor).weaken fun _ => False.elim

/-- A success stops behind the tokens that were taken. -/
theorem stopped_of_ok (moving : Moving parser moves) {cursor stopped : Cursor} {value : α}
    (closed : cursor.close.kind = .finish) (parsed : parser cursor = .ok value stopped) :
    ∃ taken, stopped = cursor.past taken ∧ cursor.Clear taken ∧ (moves value → 0 < taken) := by
  obtain ⟨outcome, taken, comes, moved⟩ := moving cursor closed
  have run := comes.run closed
  rw [parsed] at run
  cases outcome with
  | error failure => cases run
  | ok value =>
      cases run
      exact ⟨taken, rfl, comes.clear, moved _ rfl⟩

/-- A failure stops behind the tokens that were taken, and lies there. -/
theorem stopped_of_error (moving : Moving parser moves) {cursor stopped : Cursor}
    {failure : Failure} (closed : cursor.close.kind = .finish)
    (failed : parser cursor = .error failure stopped) :
    ∃ taken, stopped = cursor.past taken ∧ cursor.Clear taken ∧ failure.LiesAt stopped := by
  obtain ⟨outcome, taken, comes, _⟩ := moving cursor closed
  have run := comes.run closed
  rw [failed] at run
  cases outcome with
  | ok value => cases run
  | error failure =>
      cases run
      exact ⟨taken, rfl, comes.clear, comes.lies _ rfl⟩

theorem bind (first : Moving parser moves)
    (second : ∀ value, Moving (next value) fun result => moves' result ∧ ¬ moves value) :
    Moving (parser >>= next) moves' :=
  fun cursor => (first cursor).bind fun value _ _ => second value _

/-- Taking the current token if it is of a kind that may be taken moves the cursor where it was. -/
theorem eat (plain : kind.isPlain = true) : Moving (eat kind) (· = true) := by
  intro cursor
  by_cases found : cursor.current.kind = kind
  · refine SteadyAt.of_advance true (found ▸ plain) fun other same => ?_
    exact if_pos (same ▸ found)
  · intro _
    refine ⟨.ok false, 0, Comes.ok cursor.clear_zero ?_, ?_⟩
    · intro other agrees
      have missed : other.current.kind ≠ kind := by
        rwa [agrees.current (by omega)]
      rw [Cursor.past_zero]
      exact if_neg missed
    · rintro _ ⟨⟩ ⟨⟩

/-- Behind a token that was taken if it was there, a choice goes on; only where it was not there a
token is still to be taken. -/
theorem choice {yes no : Parser β} (first : Moving (Parser.eat kind) (· = true))
    (present : Steady yes) (absent : Moving no moves') :
    Moving (do if ← Parser.eat kind then yes else no) moves' := by
  refine first.bind fun found => ?_
  cases found with
  | true => exact fun cursor => (present cursor).weaken fun _ moved => moved.2 rfl
  | false => exact fun cursor => (absent cursor).weaken fun _ moved => moved.1

/-- A parser that takes the current token where it chooses it, and else fails at it, takes a token.
It chooses none that may not be taken. -/
theorem of_choice (choose : TokenKind → Option α) (expected : Expectation)
    (asked : expected ≠ .operator)
    (plain : ∀ kind value, choose kind = some value → kind.isPlain = true)
    (spec : ∀ cursor, parser cursor = match choose cursor.current.kind with
      | some value => .ok value cursor.advance
      | none => unexpected expected cursor) :
    Taking parser := by
  intro cursor
  cases found : choose cursor.current.kind with
  | some value =>
      refine SteadyAt.of_advance value (plain _ _ found) fun other same => ?_
      rw [spec, same, found]
  | none =>
      have comes : (unexpected expected : Parser α).Comes cursor _ 0 :=
        Comes.unexpected asked cursor
      refine fun _ => ⟨_, 0, ⟨comes.clear, comes.lies, fun other agrees => ?_⟩, nofun⟩
      rw [← comes.same other agrees, spec, agrees.current (by omega), found]

end Moving

namespace Taking

variable {parser : Parser α} {next : α → Parser β} {moves : α → Prop} {moves' : β → Prop}

/-- Behind a parser that takes a token, the others need only be steady. -/
theorem bind (first : Taking parser) (second : ∀ value, Steady (next value)) :
    Moving (parser >>= next) moves' :=
  fun cursor => (first cursor).bind_known fun value behind _ => second value behind

end Taking

end Parser

end SqlTree
