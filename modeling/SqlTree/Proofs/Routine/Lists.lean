import SqlTree.Proofs.Routine.Basic

/-!
# The general parsers, written out

The parsers that every rule is made of can be written out: tokens that are asked for, lists,
optional parts, and what stands between parentheses.
-/

namespace SqlTree.Written

open SqlTree.Parser SqlTree.Grammar

variable {α β : Type} {given : Rules → Prop} {known : Prop}

section Tokens

/-- Takes the current token where its kind makes a value, and else does something else. -/
def chosen (choose : TokenKind → Option α) (other : Parser α) (kind : TokenKind) : Parser α :=
  match choose kind with
  | some value => do
    let _ ← advance
    return value
  | none => other

/-- A choice by the current token can be written out. -/
theorem of_choice {parser other : Parser α} (choose : TokenKind → Option α)
    (otherwise : Written given known fun _ _ => other)
    (spec : ∀ cursor, parser cursor = chosen choose other cursor.current.kind cursor) :
    Written given known fun _ _ => parser := by
  have turn (kind : TokenKind) : Written given known fun _ _ => chosen choose other kind := by
    unfold chosen
    cases choose kind with
    | some value => exact advance_bind fun _ => pure value
    | none => exact otherwise
  have looked : Written given known fun _ _ => Parser.look 0 := look 0
  obtain ⟨routine, sound, regular, same⟩ := looked.bind turn
  refine ⟨routine, sound, regular, fun inner isGiven spans => ?_⟩
  rw [same inner isGiven]
  funext cursor
  exact (spec cursor).symm

theorem eat (kind : TokenKind) : Written given known fun _ _ => Parser.eat kind := by
  refine of_choice (fun found => if found = kind then some true else none) (pure false) ?_
  intro cursor
  unfold Parser.eat chosen
  by_cases found : cursor.current.kind = kind
  · simp only [if_pos found]
    rfl
  · simp only [if_neg found]
    rfl

theorem eatSymbol (mark : Symbol) : Written given known fun _ _ => Parser.eatSymbol mark := eat _

theorem eatKeyword (word : Keyword) : Written given known fun _ _ => Parser.eatKeyword word := eat _

/-- A choice by the next token, which is taken. -/
theorem choice {kind : TokenKind} {yes no : Rules → List Span → Parser α}
    (present : Written given known yes) (absent : Written given known no) :
    Written given known fun inner spans => (do
      if ← Parser.eat kind then yes inner spans else no inner spans) :=
  (eat kind).bind fun _ => ite (fun _ => present) fun _ => absent

theorem atSymbol (mark : Symbol) : Written given known fun _ _ => Parser.atSymbol mark :=
  (look 0).bind fun _ => pure _

theorem atKeyword (word : Keyword) : Written given known fun _ _ => Parser.atKeyword word :=
  (look 0).bind fun _ => pure _

theorem expectSymbol (mark : Symbol) : Written given known fun _ _ => Parser.expectSymbol mark :=
  choice (pure ()) (unexpected _)

theorem expectKeyword (word : Keyword) : Written given known fun _ _ => Parser.expectKeyword word :=
  choice (pure ()) (unexpected _)

theorem expectName : Written given known fun _ _ => Parser.expectName := by
  refine of_choice TokenKind.name? (unexpected .identifier) fun cursor => ?_
  unfold Parser.expectName chosen
  cases cursor.current.kind.name? <;> rfl

end Tokens

section Lists

variable {item : Rules → List Span → Parser (Option α)} {each : Rules → List Span → Parser α}

/-- A turn that collects values goes on as long as there is one. -/
def collecting (item : Parser (Option α)) (found : List α) : Parser (Option (List α)) := do
  return (← item).map (· :: found)

theorem moving_collecting {item : Parser (Option α)} (moving : Moving item (·.isSome = true))
    (found : List α) : Moving (collecting item found) (·.isSome = true) := by
  refine moving.bind fun value cursor => SteadyAt.pure ?_
  cases value with
  | none => exact fun moved => nomatch moved.1
  | some value => exact fun moved => moved.2 rfl

/-- The values that a loop collects are those of its turns. -/
theorem turns_collecting (item : Parser (Option α)) (fuel : Nat) (found : List α) :
    (do return (← Parser.turns (collecting item) fuel found).reverse : Parser (List α))
      = (do return found.reverse ++ (← collectWithin item fuel)) := by
  induction fuel generalizing found with
  | zero => simp [Parser.turns, collectWithin]
  | succ fuel inductionHypothesis =>
      simp only [Parser.turns, collectWithin, collecting, bind_assoc, pure_bind]
      congr 1
      funext value
      cases value with
      | none => simp
      | some value => simp [inductionHypothesis]

theorem collect (written : Written given known item)
    (moving : ∀ inner : Rules, inner.AreSteady → ∀ spans,
      Moving (item inner spans) (·.isSome = true)) :
    Written given known fun inner spans => Parser.collect (item inner spans) := by
  have turn (found : List α) : Written given known fun inner spans =>
      collecting (item inner spans) found := written.bind fun _ => pure _
  have loop := loop turn (fun inner steady spans found =>
    moving_collecting (moving inner steady spans) found) []
  obtain ⟨routine, sound, regular, same⟩ := loop.map List.reverse
  refine ⟨routine, sound, regular, fun inner isGiven spans => ?_⟩
  rw [same inner isGiven]
  funext cursor
  have values := congrFun (turns_collecting (item inner spans) (cursor.ahead.length + 1) []) cursor
  simp only [List.reverse_nil, List.nil_append, bind_pure] at values
  calc (List.reverse <$> (do
        Parser.turns (collecting (item inner spans)) ((← get).ahead.length + 1) [] :
          Parser (List α))) cursor
      = (Parser.turns (collecting (item inner spans)) (cursor.ahead.length + 1) [] >>=
          fun found => Pure.pure found.reverse : Parser (List α)) cursor := by
        rw [map_eq_pure_bind]
        rfl
    _ = Parser.collect (item inner spans) cursor := values

theorem manyAfter {guard : Parser Bool} (guardWritten : Written given known fun _ _ => guard)
    (moving : Moving guard (· = true)) (written : Written given known each)
    (steady : ∀ inner : Rules, inner.AreSteady → ∀ spans, Steady (each inner spans)) :
    Written given known fun inner spans => Parser.manyAfter guard (each inner spans) := by
  refine collect ?_ fun inner rules spans => moving.guarded (steady inner rules spans)
  exact guardWritten.bind fun _ => ite (fun _ => written.bind fun _ => pure _) fun _ => pure none

theorem separated (written : Written given known each)
    (steady : ∀ inner : Rules, inner.AreSteady → ∀ spans, Steady (each inner spans)) :
    Written given known fun inner spans => Parser.separated (each inner spans) :=
  written.bind fun _ =>
    (manyAfter (eatSymbol .comma) (Moving.eatSymbol .comma) written steady).bind fun _ => pure _

theorem optionalAfter (word : Keyword) (written : Written given known each) :
    Written given known fun inner spans => Parser.optionalAfter word (each inner spans) :=
  choice (written.bind fun _ => pure _) (pure none)

theorem parenthesized (written : Written given known each) :
    Written given known fun inner spans => Parser.parenthesized (each inner spans) :=
  (expectSymbol .leftParen).bind fun _ => written.bind fun _ =>
    (expectSymbol .rightParen).bind fun _ => pure _

end Lists

end SqlTree.Written
