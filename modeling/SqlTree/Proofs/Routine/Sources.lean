import SqlTree.Proofs.Grammar.Rejection
import SqlTree.Proofs.Routine.Statements

/-!
# Streams without their text

Tokens keep what they mean, so that a stream can be parsed without the text that it was read from. The
text is asked for at one place alone: where an integer should stand and a number stands that is
spelled with digits only, since it is too wide for a bigint. There the text tells the least bigint;
without the text the number is refused. So a session without the text goes as with it, up to a step
that fails, and it goes as with it to its end where the text has no such number.
-/

namespace SqlTree

open SqlTree.Parser SqlTree.Grammar

/-- A token is not a number that is spelled with digits only. -/
def Token.IsNarrow (source : List Char) (token : Token) : Prop :=
  ∀ value, token.kind = .numeric value →
    (textUnder? source token.span).any Decimal.isNumeral = false

namespace Cursor

/-- The cursor on the same tokens without their text. -/
def bare (cursor : Cursor) : Cursor := { cursor with source := [] }

/-- No number that a cursor shows is spelled with digits only. -/
def Narrow (cursor : Cursor) : Prop := ∀ token ∈ cursor.stream, token.IsNarrow cursor.source

variable {cursor : Cursor}

theorem bare_advance (cursor : Cursor) : cursor.bare.advance = cursor.advance.bare := by
  obtain ⟨source, ahead, close, consumed, previous⟩ := cursor
  cases ahead with
  | nil => rfl
  | cons token ahead =>
      simp only [advance, bare]
      split <;> rfl

theorem Narrow.advance (narrow : cursor.Narrow) : cursor.advance.Narrow := by
  obtain ⟨source, ahead, close, consumed, previous⟩ := cursor
  cases ahead with
  | nil => exact narrow
  | cons token ahead =>
      unfold Cursor.advance
      dsimp only
      split
      · exact narrow
      · exact fun other found => narrow other (List.mem_cons_of_mem _ found)

/-- Without a text there is no numeral. -/
theorem any_isNumeral_bare (cursor : Cursor) :
    cursor.bare.currentText?.any Decimal.isNumeral = false := by
  have taken (count : Nat) : (takeBytes count []).any Decimal.isNumeral = false := by
    cases count with
    | zero => simp [takeBytes, Decimal.isNumeral]
    | succ count => simp [takeBytes]
  unfold currentText? textUnder?
  split
  · cases start : cursor.bare.current.span.start with
    | zero => simpa [bare, dropBytes] using taken _
    | succ start => simp [bare, dropBytes]
  · rfl

end Cursor

namespace Parser

variable {α β σ : Type} {narrow : Prop}

/-- Without the text a run comes to what it comes to with it; or it fails where the text matters,
which is nowhere if all numbers are narrow. -/
inductive SameBare (narrow : Prop) : (result bare : EStateM.Result Failure Cursor α) → Prop
  | ok {cursor : Cursor} (value : α) (keeps : narrow → cursor.Narrow) :
      SameBare narrow (.ok value cursor) (.ok value cursor.bare)
  | error {cursor : Cursor} (failure : Failure) (keeps : narrow → cursor.Narrow) :
      SameBare narrow (.error failure cursor) (.error failure cursor.bare)
  | wide {result : EStateM.Result Failure Cursor α} {failure : Failure} {stopped : Cursor}
      (isWide : ¬ narrow) : SameBare narrow result (.error failure stopped)

/-- A parser does without the text what it does with it, but for numbers that are too wide. -/
def Bare (narrow : Prop) (parser : Parser α) : Prop :=
  ∀ cursor : Cursor, (narrow → cursor.Narrow) →
    SameBare narrow (parser cursor) (parser cursor.bare)

namespace Bare

theorem pure (value : α) : Bare narrow (pure value) := fun _ keeps => .ok value keeps

theorem bind {parser : Parser α} {next : α → Parser β} (first : Bare narrow parser)
    (second : ∀ value, Bare narrow (next value)) : Bare narrow (parser >>= next) := by
  intro cursor keeps
  have run := first cursor keeps
  change SameBare narrow (EStateM.bind _ _ _) (EStateM.bind _ _ _)
  unfold EStateM.bind
  generalize parser cursor = result at run ⊢
  generalize parser cursor.bare = bare at run ⊢
  cases run with
  | ok value keepsBehind => exact second value _ keepsBehind
  | error failure keepsBehind => exact .error failure keepsBehind
  | wide isWide => exact .wide isWide

/-- A parser may go by what the cursor shows without its text. -/
theorem read {γ : Type} (shown : Cursor → γ)
    (same : ∀ cursor : Cursor, shown cursor.bare = shown cursor)
    {next : γ → Parser α} (bare : ∀ value, Bare narrow (next value)) :
    Bare narrow (do next (shown (← get))) := by
  intro cursor keeps
  change SameBare narrow (next (shown cursor) cursor) (next (shown cursor.bare) cursor.bare)
  rw [same]
  exact bare _ cursor keeps

theorem advance : Bare narrow Parser.advance := by
  intro cursor keeps
  change SameBare narrow (.ok cursor.current cursor.advance)
    (.ok cursor.current cursor.bare.advance)
  rw [Cursor.bare_advance]
  exact .ok _ fun isNarrow => (keeps isNarrow).advance

theorem fail (cause : Cause) (span : Span) : Bare narrow (Parser.fail cause span : Parser α) :=
  fun _ keeps => .error _ keeps

theorem unexpected (expected : Expectation) :
    Bare narrow (Parser.unexpected expected : Parser α) :=
  fun _ keeps => .error _ keeps

theorem turns {turn : σ → Parser (Option σ)} (bare : ∀ state, Bare narrow (turn state))
    (fuel : Nat) (state : σ) : Bare narrow (turns turn fuel state) := by
  induction fuel generalizing state with
  | zero => exact pure state
  | succ fuel inductionHypothesis =>
      apply (bare state).bind
      intro next
      cases next with
      | none => exact pure state
      | some next => exact inductionHypothesis next

/-- A number that is not spelled with digits only is no integer. -/
theorem integerBehind_of_numeric (negative : Bool) {cursor : Cursor} {value : Decimal.Binary64}
    (kind : cursor.current.kind = .numeric value)
    (small : cursor.currentText?.any Decimal.isNumeral = false) :
    integerBehind negative cursor = Parser.unexpected .integer cursor := by
  have other : cursor.currentText? ≠ some leastMagnitude := by
    intro least
    rw [least] at small
    exact absurd small (by decide)
  unfold integerBehind
  rw [run_get, kind]
  simp [other, small]

/-- An integer is read without the text as with it, if no number stands in its place that is too
wide. Where one does, the text may tell the least bigint; without the text the number is refused. -/
theorem integer (negative : Bool) : Bare narrow (integerBehind negative) := by
  intro cursor keeps
  have bareKind : cursor.bare.current.kind = cursor.current.kind := rfl
  cases kind : cursor.current.kind with
  | integer value =>
      have taken : Bare narrow (do
          let _ ← Parser.advance
          return if negative then -value else value : Parser Int64) :=
        advance.bind fun _ => pure _
      unfold integerBehind
      rw [run_get, run_get, bareKind, kind]
      exact taken cursor keeps
  | numeric value =>
      rw [integerBehind_of_numeric negative (bareKind.trans kind) cursor.any_isNumeral_bare]
      cases small : cursor.currentText?.any Decimal.isNumeral with
      | false =>
          rw [integerBehind_of_numeric negative kind small]
          exact unexpected .integer cursor keeps
      | true =>
          refine .wide fun isNarrow => ?_
          have narrowHere := keeps isNarrow _ (cursor.peek_mem_stream 0) value kind
          exact Bool.false_ne_true (narrowHere.symm.trans small)
  | _ =>
      have fails : Bare narrow (Parser.unexpected .integer : Parser Int64) := unexpected .integer
      unfold integerBehind
      rw [run_get, run_get, bareKind, kind]
      exact fails cursor keeps

end Bare

end Parser

/-- A regular routine does without the text what it does with it, if the rules that it calls do. By
induction on the routine, which looks at what tokens mean, and at the text for integers alone. -/
theorem Routine.Regular.bare {narrow : Prop} {given : Rules → Prop} {inner : Rules}
    (isGiven : given inner)
    (calls : ∀ {α : Type} (rule : Call α), Bare narrow (rule.parser inner)) {α : Type}
    {routine : Routine α} (regular : routine.Regular given) (spans : List Span) :
    Bare narrow (routine.parser inner spans) := by
  induction regular generalizing spans with
  | pure value => exact Bare.pure value
  | bind before behind beforeHypothesis behindHypothesis =>
      exact (beforeHypothesis spans).bind fun value => behindHypothesis value spans
  | look places answer => exact fun _ keeps => .ok _ keeps
  | take answer => exact Bare.advance.bind fun token => Bare.pure _
  | markAhead places regular inductionHypothesis =>
      exact Bare.read (fun cursor => (cursor.peek places).span) (fun _ => rfl) fun span =>
        inductionHypothesis (span :: spans)
  | markBehind regular inductionHypothesis =>
      exact Bare.read Cursor.previousSpan (fun _ => rfl) fun span =>
        inductionHypothesis (span :: spans)
  | fail cause isPlace => exact Bare.fail cause _
  | call rule => exact calls rule
  | loop start regular inductionHypothesis =>
      exact Bare.read (fun cursor => cursor.ahead.length + 1) (fun _ => rfl) fun fuel =>
        Bare.turns (fun state => inductionHypothesis state spans) fuel start
  | integer negative reads =>
      rw [reads inner isGiven]
      exact Bare.integer negative

/-- What can be written out does without the text what it does with it, if the rules that it calls
do. -/
theorem Written.bare {narrow : Prop} {given : Rules → Prop} {known : Prop} {inner : Rules}
    (isGiven : given inner)
    (calls : ∀ {α : Type} (rule : Call α), Bare narrow (rule.parser inner)) {α : Type}
    {parser : Rules → List Span → Parser α} (written : Written given known parser) :
    Bare narrow (parser inner []) := by
  obtain ⟨routine, _, regular, same⟩ := written
  rw [← same inner isGiven]
  exact regular.bare isGiven calls []

/-- The rules that nest do without the text what they do with it, level by level. -/
theorem Call.bare {narrow : Prop} {α : Type} (rule : Call α) (levels : Nat) :
    Bare narrow (rule.parser (rules levels)) := by
  induction levels generalizing α with
  | zero =>
      intro cursor keeps
      cases rule <;> exact .error _ keeps
  | succ levels inductionHypothesis =>
      have body : Written (fun _ => True) False fun inner _ => rule.rule inner := rule_written rule
      have bare := body.bare trivial fun inner => inductionHypothesis inner
      cases rule <;> exact bare

namespace Step

variable {narrow : Prop}

theorem parser_bare (step : Step) : Bare narrow step.parser := by
  have calls {α : Type} (rule : Call α) : Bare narrow (rule.parser topRules) :=
    rule.bare maximalNesting
  have written : Written (· = topRules) False fun _ _ => step.parser := step_written step
  exact written.bare (by rfl) calls

/-- A step without the text answers and stops as with it, or it fails because of a number that is too
wide. -/
theorem run_bare (step : Step) {cursor : Cursor} (keeps : narrow → cursor.Narrow) :
    (step.run cursor.bare = ((step.run cursor).1, (step.run cursor).2.bare) ∧
      (narrow → (step.run cursor).2.Narrow)) ∨
    (¬ narrow ∧ (step.run cursor.bare).1.isOk = false) := by
  have run := step.parser_bare cursor keeps
  unfold Step.run
  generalize step.parser cursor = result at run ⊢
  generalize step.parser cursor.bare = bare at run ⊢
  cases run with
  | ok answer keepsBehind => exact .inl ⟨rfl, keepsBehind⟩
  | error failure keepsBehind => exact .inl ⟨rfl, keepsBehind⟩
  | wide isWide => exact .inr ⟨isWide, rfl⟩

end Step

/-- Up to the first step that fails without the text, a session goes as with it. -/
theorem takeWhile_runSteps_bare (steps : List Step) (cursor : Cursor) :
    (runSteps steps cursor.bare).takeWhile (·.1.isOk) <+: runSteps steps cursor := by
  induction steps generalizing cursor with
  | nil => exact List.nil_prefix
  | cons step steps inductionHypothesis =>
      simp only [runSteps]
      have unknown : False → cursor.Narrow := False.elim
      rcases step.run_bare unknown with ⟨same, _⟩ | ⟨_, failed⟩
      · rw [same, List.takeWhile_cons]
        split
        · exact List.cons_prefix_cons.mpr ⟨rfl, inductionHypothesis _⟩
        · exact List.nil_prefix
      · rw [List.takeWhile_cons_of_neg (by simp [failed])]
        exact List.nil_prefix

/-- Where all numbers are narrow, a session without the text goes as with it. -/
theorem runSteps_bare_of_narrow (steps : List Step) {cursor : Cursor} (narrow : cursor.Narrow) :
    runSteps steps cursor.bare = runSteps steps cursor := by
  induction steps generalizing cursor with
  | nil => rfl
  | cons step steps inductionHypothesis =>
      simp only [runSteps]
      have known : True → cursor.Narrow := fun _ => narrow
      rcases step.run_bare known with ⟨same, behind⟩ | ⟨isWide, _⟩
      · rw [same, inductionHypothesis (behind trivial)]
        rfl
      · exact absurd trivial isWide

/-- Parsing the tokens of a text answers, step by step, what parsing the text answers, and leaves the
cursor where that leaves it: up to the first step that fails without the text; and to the end of the
session, failures and their places among it, if no number of the text is spelled with digits only. -/
theorem runSteps_ofTokens (text : String) (steps : List Step) :
    let written := runSteps steps (.ofText text)
    let bare := runSteps steps (.ofTokens (tokenize text))
    bare.takeWhile (·.1.isOk) <+: written ∧
      ((∀ token ∈ tokenize text, token.IsNarrow text.toList) → bare = written) := by
  have tokens : Cursor.ofTokens (tokenize text) = (Cursor.ofText text).bare :=
    Cursor.ofTokens_eq_atStart _
  rw [tokens]
  constructor
  · exact takeWhile_runSteps_bare steps (.ofText text)
  · intro narrow
    apply runSteps_bare_of_narrow
    unfold Cursor.Narrow
    rw [(Cursor.ofText_spec text).1]
    exact narrow

/-- A sum that lacks its second operand, and whose first is a number with a fraction. -/
theorem runSteps_ofTokens_sum :
    let text := "1.5 +"
    let steps := [Step.expression, .finish]
    (∀ token ∈ tokenize text, token.IsNarrow text.toList) ∧
      runSteps steps (.ofTokens (tokenize text)) = runSteps steps (.ofText text) := by
  intro text steps
  have spans : (tokenize text).map Token.span = [⟨0, 3⟩, ⟨4, 5⟩, ⟨5, 5⟩] := by decide +kernel
  have narrow : ∀ token ∈ tokenize text, token.IsNarrow text.toList := by
    intro token found value _
    have among : token.span ∈ [⟨0, 3⟩, ⟨4, 5⟩, ⟨5, 5⟩] := spans ▸ List.mem_map_of_mem found
    revert among
    generalize token.span = span
    revert span
    decide +kernel
  exact ⟨narrow, (runSteps_ofTokens text steps).2 narrow⟩

end SqlTree
