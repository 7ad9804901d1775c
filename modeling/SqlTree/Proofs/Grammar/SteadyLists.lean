import SqlTree.Proofs.Grammar.Steadiness

/-!
# Steadiness of the general parsers

The parsers that every rule is made of are steady: tokens that are asked for, lists, optional parts,
and what stands between parentheses. The bound on the turns of a loop has no say, because each turn
takes a token at least.
-/

namespace SqlTree.Parser

variable {α β : Type}

section Tokens

theorem Steady.pure (value : α) : Steady (pure value) := fun _ => SteadyAt.pure id

theorem Moving.unexpected {expected : Expectation} (asked : expected ≠ .operator)
    {moves : α → Prop} : Moving (unexpected expected) moves :=
  fun _ => SteadyAt.unexpected asked

theorem Moving.fail {cause : Cause} {span : Span} (plain : cause.found? = none)
    {moves : α → Prop} : Moving (fail cause span) moves :=
  fun _ => SteadyAt.fail plain

/-- Steady parsers compose. -/
theorem Steady.bind {parser : Parser α} {next : α → Parser β} (first : Steady parser)
    (second : ∀ value, Steady (next value)) : Steady (parser >>= next) :=
  Moving.bind first fun value cursor => (second value cursor).weaken fun _ moved => moved.1

theorem Steady.map {parser : Parser α} {function : α → β} (steady : Steady parser) :
    Steady (function <$> parser) := by
  rw [map_eq_pure_bind]
  exact steady.bind fun _ => Steady.pure _

theorem Moving.eatSymbol (mark : Symbol) : Moving (eatSymbol mark) (· = true) := Moving.eat rfl

theorem Moving.eatKeyword (word : Keyword) : Moving (eatKeyword word) (· = true) := Moving.eat rfl

theorem Moving.eatName (name : String) : Moving (eatName name) (· = true) := Moving.eat rfl

theorem Steady.look {places : Nat} (near : places < 3) : Steady (look places) :=
  fun _ => SteadyAt.look_bind near (SteadyAt.pure id)

theorem Steady.atSymbol (mark : Symbol) : Steady (atSymbol mark) :=
  (Steady.look (by decide)).bind fun _ => Steady.pure _

theorem Steady.atKeyword (word : Keyword) : Steady (atKeyword word) :=
  (Steady.look (by decide)).bind fun _ => Steady.pure _

theorem Taking.expectSymbol (mark : Symbol) : Taking (expectSymbol mark) :=
  (Moving.eatSymbol mark).choice (Steady.pure ()) (Moving.unexpected (by simp))

theorem Taking.expectKeyword (word : Keyword) : Taking (expectKeyword word) :=
  (Moving.eatKeyword word).choice (Steady.pure ()) (Moving.unexpected (by simp))

/-- What stands for a name may be taken. -/
theorem isPlain_of_name? {kind : TokenKind} {name : String} (named : kind.name? = some name) :
    kind.isPlain = true := by
  cases kind with
  | finish => cases named
  | invalid _ => cases named
  | _ => rfl

theorem Taking.expectName : Taking expectName := by
  refine Moving.of_choice TokenKind.name? .identifier nofun (fun _ _ => isPlain_of_name?) ?_
  intro cursor
  unfold Parser.expectName
  cases cursor.current.kind.name? <;> rfl

end Tokens

section Loops

variable {loop : Nat → Parser α} {others : Nat → Parser β} {cursor : Cursor}
  {outcome : Except Failure α} {taken : Nat}

/-- A loop comes to one outcome from a cursor, whatever bounds the number of its turns, if there may
be more of them than tokens are taken. -/
def Settles (loop : Nat → Parser α) (cursor : Cursor) : Prop :=
  ∃ outcome taken, ∀ fuel, taken < fuel → (loop fuel).Comes cursor outcome taken

namespace Settles

/-- A turn that is the last one settles its loop. -/
theorem of_last (last : ∀ fuel, (loop (fuel + 1)).Comes cursor outcome taken) :
    Settles loop cursor := by
  refine ⟨outcome, taken, fun fuel enough => ?_⟩
  obtain ⟨fuel, rfl⟩ := Nat.exists_eq_succ_of_ne_zero (Nat.ne_zero_of_lt enough)
  exact last fuel

/-- A turn that takes a token settles its loop, if the turns behind it are settled. -/
theorem of_turn {front : Nat} (positive : 0 < front) (rest : Settles others (cursor.past front))
    (change : Except Failure β → Except Failure α)
    (turn : ∀ fuel outcome back, (others fuel).Comes (cursor.past front) outcome back →
      (loop (fuel + 1)).Comes cursor (change outcome) (front + back)) :
    Settles loop cursor := by
  obtain ⟨outcome, back, comes⟩ := rest
  refine ⟨change outcome, front + back, fun fuel enough => ?_⟩
  obtain ⟨fuel, rfl⟩ := Nat.exists_eq_succ_of_ne_zero (Nat.ne_zero_of_lt enough)
  exact turn fuel outcome back (comes fuel (by omega))

/-- A loop that is settled everywhere is steady, because the tokens ahead are enough turns. -/
theorem steady (settles : ∀ cursor : Cursor, cursor.close.kind = .finish → Settles loop cursor) :
    Steady (do loop ((← get).ahead.length + 1)) := by
  intro cursor closed
  obtain ⟨outcome, taken, comes⟩ := settles cursor closed
  have first := comes (taken + 1) (Nat.lt_succ_self taken)
  refine ⟨outcome, taken, ⟨first.clear, first.lies, fun other agrees => ?_⟩, fun _ _ => False.elim⟩
  have inside : taken ≤ other.ahead.length :=
    (agrees.clear (Nat.le_add_right taken 3) first.clear).inside agrees.closed
  exact (comes (other.ahead.length + 1) (by omega)).same other agrees

/-- Any two bounds that exceed the number of tokens ahead give the same run. -/
theorem run_eq (settles : Settles loop cursor) (closed : cursor.close.kind = .finish)
    {fuel other : Nat} (enough : cursor.ahead.length < fuel)
    (enoughToo : cursor.ahead.length < other) : loop fuel cursor = loop other cursor := by
  obtain ⟨outcome, taken, comes⟩ := settles
  have inside : taken ≤ cursor.ahead.length :=
    (comes (taken + 1) (Nat.lt_succ_self taken)).clear.inside closed
  exact ((comes fuel (by omega)).run closed).trans ((comes other (by omega)).run closed).symm

end Settles

end Loops

section Lists

variable {item : Parser (Option α)}

theorem collectWithin_settles (moving : Moving item (·.isSome = true)) {size : Nat}
    {cursor : Cursor} (closed : cursor.close.kind = .finish) (bound : cursor.ahead.length < size) :
    Settles (collectWithin item) cursor := by
  induction size generalizing cursor with
  | zero => cases bound
  | succ size inductionHypothesis =>
      obtain ⟨found, front, comes, moved⟩ := moving cursor closed
      match found with
      | .error failure => exact Settles.of_last fun fuel => comes.bind_error
      | .ok none => exact Settles.of_last fun fuel => comes.bind closed (Comes.pure [] _)
      | .ok (some value) =>
          have positive : 0 < front := moved _ rfl rfl
          have inside : front ≤ cursor.ahead.length := comes.clear.inside closed
          have shorter : (cursor.past front).ahead.length < size := by
            rw [Cursor.past, List.length_drop]
            omega
          refine Settles.of_turn positive (inductionHypothesis closed shorter)
            (Except.map (value :: ·)) fun fuel outcome back others => ?_
          exact comes.bind closed (others.andReturn closed)

/-- A loop is steady, if each of its turns takes a token. -/
theorem Steady.collect (moving : Moving item (·.isSome = true)) : Steady (collect item) :=
  Settles.steady fun _ closed => collectWithin_settles moving closed (Nat.lt_succ_self _)

/-- A turn that goes on behind a guard takes a token, because the guard does. -/
theorem Moving.guarded {guard : Parser Bool} {item : Parser α} (moving : Moving guard (· = true))
    (steady : Steady item) :
    Moving (do if ← guard then return some (← item) else return none) (·.isSome = true) := by
  refine moving.bind fun found => ?_
  cases found with
  | true =>
      intro cursor
      have item := (steady.bind fun value => Steady.pure (some value)) cursor
      exact item.weaken fun _ moved => moved.2 rfl
  | false => exact fun cursor => SteadyAt.pure fun moved => nomatch moved.1

theorem Steady.manyAfter {guard : Parser Bool} {item : Parser α} (moving : Moving guard (· = true))
    (steady : Steady item) : Steady (manyAfter guard item) :=
  Steady.collect (moving.guarded steady)

theorem Steady.separated {item : Parser α} (steady : Steady item) : Steady (separated item) :=
  steady.bind fun _ =>
    (Steady.manyAfter (Moving.eatSymbol .comma) steady).bind fun _ => Steady.pure _

theorem Steady.optionalAfter (word : Keyword) {item : Parser α} (steady : Steady item) :
    Steady (optionalAfter word item) :=
  (Moving.eatKeyword word).choice (steady.bind fun _ => Steady.pure _) (Steady.pure none)

theorem Taking.parenthesized {item : Parser α} (steady : Steady item) :
    Taking (parenthesized item) :=
  (Taking.expectSymbol .leftParen).bind fun _ => steady.bind fun _ =>
    (Taking.expectSymbol .rightParen).bind fun _ => Steady.pure _

end Lists

end SqlTree.Parser
