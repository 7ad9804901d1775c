import Mathlib.Tactic.Choose
import SqlTree.Proofs.Grammar.SteadyStatements

/-!
# Routines

The grammar is a family of functions, which show what they answer but not how they come to it. A
routine is such a function written out: it looks ahead, takes tokens, fails, goes round in loops, and
calls one of the rules that nest. Nothing else is there to write it with, so that no rule can come
back to itself but by a call, and no loop is bounded beforehand.

A routine does not see where its tokens stand. It may mark a span, and a failure is placed by the
spans that were marked.
-/

namespace SqlTree

open SqlTree.Parser SqlTree.Grammar

/-- A call of one of the rules that nest. -/
inductive Call : Type → Type where
  | expression (power : Nat) : Call Expr
  | query : Call Select
  | tables : Call TableRef

/-- What a call does by given rules. -/
def Call.parser (rules : Rules) {α : Type} : Call α → Parser α
  | .expression power => rules.expression power
  | .query => rules.query
  | .tables => rules.tables

/-- What stands behind the name of a rule, by the rules of the next level. -/
def Call.rule (inner : Rules) {α : Type} : Call α → Parser α
  | .expression power => operators inner power
  | .query => Grammar.query inner
  | .tables => joinedTables inner

/-- What a parser does, written out. -/
inductive Routine : Type → Type 1 where
  | pure {α : Type} (value : α) : Routine α
  | bind {α β : Type} (first : Routine α) (next : α → Routine β) : Routine β
  /-- Looks at what stands a number of places ahead. -/
  | look {α : Type} (places : Nat) (answer : TokenKind → α) : Routine α
  /-- Takes the current token. -/
  | take {α : Type} (answer : TokenKind → α) : Routine α
  /-- Looks at the source text of the current token. -/
  | text {α : Type} (answer : Option (List Char) → α) : Routine α
  /-- Marks the span of a token ahead. -/
  | markAhead {α : Type} (places : Nat) (body : Routine α) : Routine α
  /-- Marks the span of the last token that was taken. -/
  | markBehind {α : Type} (body : Routine α) : Routine α
  /-- Fails at a place that the marked spans tell, the last one first. -/
  | fail {α : Type} (cause : Cause) (place : List Span → Span) : Routine α
  /-- Calls a rule that nests. -/
  | call {α : Type} (rule : Call α) : Routine α
  /-- Goes from state to state until a turn leaves, and gives the last state. -/
  | loop {σ : Type} (turn : σ → Routine (Option σ)) (start : σ) : Routine σ

/-- The span that was marked last. -/
def lastMark (spans : List Span) : Span := spans.headD (.point 0)

/-- A set of spans in which stand the start of a text, the start of each of its spans, and what any two
of them make. -/
structure IsRegion (within : Span → Prop) : Prop where
  origin : within (.point 0)
  start : ∀ span, within span → within (.point span.start)
  merge : ∀ left right, within left → within right → within (left.merge right)

/-- A place is made of the spans that were marked: it stands in every region that they stand in. -/
def IsPlace (place : List Span → Span) : Prop :=
  ∀ within : Span → Prop, IsRegion within → ∀ spans : List Span, (∀ span ∈ spans, within span) →
    within (place spans)

namespace IsPlace

variable {place other : List Span → Span}

theorem lastMark : IsPlace lastMark := by
  intro within region spans marked
  cases spans with
  | nil => exact region.origin
  | cons span spans => exact marked span List.mem_cons_self

theorem tail (isPlace : IsPlace place) : IsPlace fun spans => place spans.tail :=
  fun within region _ marked => isPlace within region _ fun span found =>
    marked span (List.mem_of_mem_tail found)

theorem merge (isPlace : IsPlace place) (isPlaceToo : IsPlace other) :
    IsPlace fun spans => (place spans).merge (other spans) :=
  fun within region spans marked => region.merge _ _ (isPlace within region spans marked)
    (isPlaceToo within region spans marked)

/-- From the mark before the last to the last. -/
theorem lastMarks : IsPlace fun spans =>
    (SqlTree.lastMark spans.tail).merge (SqlTree.lastMark spans) :=
  lastMark.tail.merge lastMark

end IsPlace

/-- Turns of a loop, at most `fuel` of them. -/
def Parser.turns {σ : Type} (turn : σ → Parser (Option σ)) : (fuel : Nat) → σ → Parser σ
  | 0, state => return state
  | fuel + 1, state => do
    match ← turn state with
    | none => return state
    | some next => turns turn fuel next

namespace Routine

variable {α β σ : Type} {given : Rules → Prop} {inner : Rules} {spans : List Span}

/-- The parser that a routine writes out, by the rules that it calls and the spans that are marked.
Where every turn of a loop takes a token, the tokens ahead are more than its turns. -/
def parser (inner : Rules) : {α : Type} → Routine α → List Span → Parser α
  | _, .pure value, _ => Pure.pure value
  | _, .bind first next, spans => do (next (← first.parser inner spans)).parser inner spans
  | _, .look places answer, _ => return answer (← Parser.look places)
  | _, .take answer, _ => return answer (← advance).kind
  | _, .text answer, _ => return answer (← get).currentText?
  | _, .markAhead places body, spans => do
    body.parser inner (((← get).peek places).span :: spans)
  | _, .markBehind body, spans => do body.parser inner ((← previousSpan) :: spans)
  | _, .fail cause place, spans => Parser.fail cause (place spans)
  | _, .call rule, _ => rule.parser inner
  | _, .loop turn start, spans => do
    turns (fun state => (turn state).parser inner spans) ((← get).ahead.length + 1) start

/-- Where a routine succeeds with certain values by rules that may be given, it takes a token at
least. -/
def Moves (given : Rules → Prop) (routine : Routine α) (moves : α → Prop) : Prop :=
  ∀ inner : Rules, given inner → inner.AreSteady →
    ∀ (spans : List Span) (cursor stopped : Cursor) (value : α), cursor.close.kind = .finish →
      routine.parser inner spans cursor = .ok value stopped → moves value →
        cursor.consumed < stopped.consumed

/-- Every loop goes on only behind a token, the last token is asked for only where one was taken
before, and that rules nest too deeply is said by calls alone. A token may be known to have been
taken before the routine starts. -/
def Sound (given : Rules → Prop) : {α : Type} → Routine α → (known : Prop) → Prop
  | _, .bind first next, known => first.Sound given known ∧
      ∃ moves : _ → Prop, first.Moves given moves ∧
        ∀ value, (next value).Sound given (known ∨ moves value)
  | _, .markAhead _ body, known => body.Sound given known
  | _, .markBehind body, known => known ∧ body.Sound given known
  | _, .fail cause _, _ => cause ≠ .nestedTooDeeply
  | _, .loop turn _, known =>
      ∀ state, (turn state).Sound given known ∧ (turn state).Moves given (·.isSome = true)
  | _, _, _ => True

/-- Every failure is placed by the spans that were marked, and the text of a token is asked for only
where an integer is read. -/
inductive Regular (given : Rules → Prop) : {α : Type} → Routine α → Prop
  | pure {α : Type} (value : α) : Regular given (.pure value)
  | bind {α β : Type} {first : Routine α} {next : α → Routine β} (before : first.Regular given)
      (behind : ∀ value, (next value).Regular given) : Regular given (.bind first next)
  | look {α : Type} (places : Nat) (answer : TokenKind → α) : Regular given (.look places answer)
  | take {α : Type} (answer : TokenKind → α) : Regular given (.take answer)
  | markAhead {α : Type} {body : Routine α} (places : Nat) (regular : body.Regular given) :
      Regular given (.markAhead places body)
  | markBehind {α : Type} {body : Routine α} (regular : body.Regular given) :
      Regular given (.markBehind body)
  | fail {α : Type} {place : List Span → Span} (cause : Cause) (isPlace : IsPlace place) :
      Regular given (.fail cause place : Routine α)
  | call {α : Type} (rule : Call α) : Regular given (.call rule)
  | loop {σ : Type} {turn : σ → Routine (Option σ)} (start : σ)
      (regular : ∀ state, (turn state).Regular given) : Regular given (.loop turn start)
  | integer {routine : Routine Int64} (negative : Bool)
      (reads : ∀ inner, given inner → ∀ spans,
        routine.parser inner spans = integerBehind negative) : Regular given routine

theorem moves_nothing (routine : Routine α) : routine.Moves given fun _ => False :=
  fun _ _ _ _ _ _ _ _ _ => False.elim

/-- A routine moves as the parser that it writes out. -/
theorem moves_of_moving {routine : Routine α} {moves : α → Prop}
    {parser : Rules → List Span → Parser α}
    (same : ∀ inner, given inner → ∀ spans, routine.parser inner spans = parser inner spans)
    (moving : ∀ inner : Rules, inner.AreSteady → ∀ spans, Moving (parser inner spans) moves) :
    routine.Moves given moves := by
  intro inner isGiven steady spans cursor stopped value closed parsed found
  rw [same inner isGiven] at parsed
  obtain ⟨taken, rfl, _, moved⟩ := (moving inner steady spans).stopped_of_ok closed parsed
  exact Nat.lt_add_of_pos_right (moved found)

/-- More may be known than is asked for. -/
theorem Sound.mono {routine : Routine α} {known more : Prop} (sound : routine.Sound given known)
    (implies : known → more) : routine.Sound given more := by
  induction routine generalizing known more with
  | bind first next firstHypothesis nextHypothesis =>
      obtain ⟨firstSound, moves, moved, nextSound⟩ := sound
      refine ⟨firstHypothesis firstSound implies, moves, moved, fun value => ?_⟩
      exact nextHypothesis value (nextSound value) (Or.imp_left implies)
  | markAhead places body inductionHypothesis => exact inductionHypothesis sound implies
  | markBehind body inductionHypothesis =>
      exact ⟨implies sound.1, inductionHypothesis sound.2 implies⟩
  | loop turn start inductionHypothesis =>
      exact fun state => ⟨inductionHypothesis state (sound state).1 implies, (sound state).2⟩
  | fail cause place => exact sound
  | _ => trivial

end Routine

/-- A parser can be written out: there is a sound and regular routine that does what the parser does
by all rules that may be given. The parser may go by spans that are marked. -/
def Written {α : Type} (given : Rules → Prop) (known : Prop)
    (parser : Rules → List Span → Parser α) : Prop :=
  ∃ routine : Routine α, routine.Sound given known ∧ routine.Regular given ∧
    ∀ inner, given inner → ∀ spans, routine.parser inner spans = parser inner spans

namespace Written

open Routine

variable {α β : Type} {given : Rules → Prop} {known : Prop} {first : Rules → List Span → Parser α}
  {next : Rules → List Span → α → Parser β} {parser : Rules → List Span → Parser α}

theorem mono {more : Prop} (written : Written given known parser) (implies : known → more) :
    Written given more parser := by
  obtain ⟨routine, sound, regular, same⟩ := written
  exact ⟨routine, sound.mono implies, regular, same⟩

theorem pure (value : α) : Written given known fun _ _ => Pure.pure value :=
  ⟨.pure value, trivial, .pure value, fun _ _ _ => rfl⟩

/-- Behind a parser the next one goes on, and may know that a token was taken. -/
theorem bind_moving (written : Written given known first) (moves : α → Prop)
    (moving : ∀ inner : Rules, inner.AreSteady → ∀ spans, Moving (first inner spans) moves)
    (others : ∀ value, Written given (known ∨ moves value) fun inner spans => next inner spans value) :
    Written given known fun inner spans => first inner spans >>= next inner spans := by
  obtain ⟨routine, sound, regular, same⟩ := written
  choose rest soundToo regularToo sameToo using others
  have moved : routine.Moves given moves := Routine.moves_of_moving same moving
  refine ⟨.bind routine rest, ⟨sound, moves, moved, soundToo⟩, .bind regular regularToo, ?_⟩
  intro inner isGiven spans
  simp only [Routine.parser, same inner isGiven, sameToo _ inner isGiven]

theorem bind (written : Written given known first)
    (others : ∀ value, Written given known fun inner spans => next inner spans value) :
    Written given known fun inner spans => first inner spans >>= next inner spans := by
  obtain ⟨routine, sound, regular, same⟩ := written
  choose rest soundToo regularToo sameToo using others
  refine ⟨.bind routine rest, ⟨sound, _, routine.moves_nothing, fun value => ?_⟩,
    .bind regular regularToo, ?_⟩
  · exact (soundToo value).mono Or.inl
  · intro inner isGiven spans
    simp only [Routine.parser, same inner isGiven, sameToo _ inner isGiven]

/-- Behind a parser that takes a token, the others know it. -/
theorem bind_taking (written : Written given known first)
    (taking : ∀ inner : Rules, inner.AreSteady → ∀ spans, Taking (first inner spans))
    (others : ∀ value, Written given True fun inner spans => next inner spans value) :
    Written given known fun inner spans => first inner spans >>= next inner spans :=
  written.bind_moving _ taking fun value => (others value).mono fun _ => .inr trivial

theorem map (written : Written given known first) (function : α → β) :
    Written given known fun inner spans => function <$> first inner spans := by
  simp only [map_eq_pure_bind]
  exact written.bind fun value => pure (function value)

theorem ite {condition : Prop} [Decidable condition] {yes no : Rules → List Span → Parser α}
    (present : condition → Written given known yes) (absent : ¬ condition → Written given known no) :
    Written given known fun inner spans => if condition then yes inner spans else no inner spans := by
  by_cases holds : condition
  · simpa only [if_pos holds] using present holds
  · simpa only [if_neg holds] using absent holds

theorem look (places : Nat) : Written given known fun _ _ => Parser.look places :=
  ⟨.look places id, trivial, .look places id, fun _ _ _ => rfl⟩

/-- A span ahead may be marked for what goes by it. -/
theorem markAhead (places : Nat) (written : Written given known parser) :
    Written given known fun inner spans => (do
      parser inner (((← get).peek places).span :: spans)) := by
  obtain ⟨routine, sound, regular, same⟩ := written
  refine ⟨.markAhead places routine, sound, .markAhead places regular, fun inner isGiven spans => ?_⟩
  simp only [Routine.parser, same inner isGiven]

/-- What goes by the last token that was taken knows that there is one. -/
theorem previousSpan_bind {next : Rules → List Span → Span → Parser α} (taken : known)
    (written : Written given known fun inner spans => next inner spans.tail (lastMark spans)) :
    Written given known fun inner spans => previousSpan >>= next inner spans := by
  obtain ⟨routine, sound, regular, same⟩ := written
  refine ⟨.markBehind routine, ⟨taken, sound⟩, .markBehind regular, fun inner isGiven spans => ?_⟩
  simp only [Routine.parser, same inner isGiven]
  rfl

/-- What goes by the current token goes by its kind, and by its span where it fails. -/
theorem current_bind {next : Rules → List Span → Token → Parser α}
    (written : ∀ kind, Written given known fun inner spans =>
      next inner spans.tail ⟨kind, lastMark spans⟩) :
    Written given known fun inner spans => Parser.current >>= next inner spans := by
  have looked : Written given known fun _ _ => Parser.look 0 := look 0
  obtain ⟨routine, sound, regular, same⟩ := markAhead 0 (looked.bind written)
  refine ⟨routine, sound, regular, fun inner isGiven spans => ?_⟩
  rw [same inner isGiven]
  rfl

/-- What goes by a token that it takes goes by its kind, and by its span where it fails. -/
theorem advance_bind {next : Rules → List Span → Token → Parser α}
    (written : ∀ kind, Written given known fun inner spans =>
      next inner spans.tail ⟨kind, lastMark spans⟩) :
    Written given known fun inner spans => Parser.advance >>= next inner spans := by
  have taken : Written given known fun _ _ => (do return (← Parser.advance).kind : Parser _) :=
    ⟨.take id, trivial, .take id, fun _ _ _ => rfl⟩
  obtain ⟨routine, sound, regular, same⟩ := markAhead 0 (taken.bind written)
  refine ⟨routine, sound, regular, fun inner isGiven spans => ?_⟩
  rw [same inner isGiven]
  rfl

theorem fail (cause : Cause) {place : List Span → Span} (isPlace : IsPlace place)
    (other : cause ≠ .nestedTooDeeply) :
    Written given known fun _ spans => (Parser.fail cause (place spans) : Parser α) :=
  ⟨.fail cause place, other, .fail cause isPlace, fun _ _ _ => rfl⟩

theorem unexpected (expected : Expectation) :
    Written given known fun _ _ => (Parser.unexpected expected : Parser α) := by
  have fails (kind : TokenKind) : Written given known fun _ spans =>
      (Parser.fail (.unexpected expected kind) (lastMark spans) : Parser α) :=
    fail _ IsPlace.lastMark nofun
  have looked : Written given known fun _ _ => Parser.look 0 := look 0
  obtain ⟨routine, sound, regular, same⟩ := markAhead 0 (looked.bind fails)
  refine ⟨routine, sound, regular, fun inner isGiven spans => ?_⟩
  rw [same inner isGiven]
  rfl

theorem call (rule : Call α) : Written given known fun inner _ => rule.parser inner :=
  ⟨.call rule, trivial, .call rule, fun _ _ _ => rfl⟩

/-- A loop can be written out if its turns can, and goes on only behind a token. -/
theorem loop {σ : Type} {turn : Rules → List Span → σ → Parser (Option σ)}
    (written : ∀ state, Written given known fun inner spans => turn inner spans state)
    (moving : ∀ inner : Rules, inner.AreSteady → ∀ spans state,
      Moving (turn inner spans state) (·.isSome = true)) (start : σ) :
    Written given known fun inner spans => (do
      Parser.turns (turn inner spans) ((← get).ahead.length + 1) start) := by
  choose routine sound regular same using written
  refine ⟨.loop routine start, fun state => ⟨sound state, ?_⟩, .loop start regular, ?_⟩
  · exact Routine.moves_of_moving (same state) fun inner steady spans =>
      moving inner steady spans state
  · intro inner isGiven spans
    simp only [Routine.parser, same _ inner isGiven]

end Written

end SqlTree
