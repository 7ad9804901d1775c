import SqlTree.Proofs.Grammar.Rejection
import SqlTree.Proofs.Routine.Statements
import SqlTree.Proofs.Token.Folding

/-!
# Letters in either case outside of quotes

What two runs of the grammar have in common is told by a relation between their cursors: if it is
kept by every smallest step, it is kept by all parsers, and they come to the same results. So
cursors on the same tokens come to the same whatever text the tokens were read from, as long as
numbers are spelled with the same digits. That is the case where texts differ in the case of letters
outside of quotes, so that such texts are told apart nowhere.
-/

namespace SqlTree

open SqlTree.Parser SqlTree.Grammar

namespace Parser

variable {α β σ : Type} {related : Cursor → Cursor → Prop}

/-- Two runs come to the same and leave cursors that are related. -/
inductive SameRun (related : Cursor → Cursor → Prop) :
    (result other : EStateM.Result Failure Cursor α) → Prop
  | ok {cursor other : Cursor} (value : α) (keeps : related cursor other) :
      SameRun related (.ok value cursor) (.ok value other)
  | error {cursor other : Cursor} (failure : Failure) (keeps : related cursor other) :
      SameRun related (.error failure cursor) (.error failure other)

/-- From cursors that are related a parser comes to the same. -/
def Simulates (related : Cursor → Cursor → Prop) (parser : Parser α) : Prop :=
  ∀ cursor other : Cursor, related cursor other → SameRun related (parser cursor) (parser other)

namespace Simulates

theorem pure (value : α) : Simulates related (pure value) := fun _ _ keeps => .ok value keeps

theorem bind {parser : Parser α} {next : α → Parser β} (first : Simulates related parser)
    (second : ∀ value, Simulates related (next value)) : Simulates related (parser >>= next) := by
  intro cursor other keeps
  have run := first cursor other keeps
  change SameRun related (EStateM.bind _ _ _) (EStateM.bind _ _ _)
  unfold EStateM.bind
  generalize parser cursor = result at run ⊢
  generalize parser other = resultToo at run ⊢
  cases run with
  | ok value keepsBehind => exact second value _ _ keepsBehind
  | error failure keepsBehind => exact .error failure keepsBehind

/-- A parser may go by what related cursors show alike. -/
theorem read {γ : Type} (shown : Cursor → γ)
    (same : ∀ cursor other : Cursor, related cursor other → shown other = shown cursor)
    {next : γ → Parser α} (simulates : ∀ value, Simulates related (next value)) :
    Simulates related (do next (shown (← get))) := by
  intro cursor other keeps
  change SameRun related (next (shown cursor) cursor) (next (shown other) other)
  rw [same cursor other keeps]
  exact simulates _ cursor other keeps

theorem fail (cause : Cause) (span : Span) :
    Simulates related (Parser.fail cause span : Parser α) :=
  fun _ _ keeps => .error _ keeps

theorem turns {turn : σ → Parser (Option σ)} (simulates : ∀ state, Simulates related (turn state))
    (fuel : Nat) (state : σ) : Simulates related (turns turn fuel state) := by
  induction fuel generalizing state with
  | zero => exact pure state
  | succ fuel inductionHypothesis =>
      apply (simulates state).bind
      intro next
      cases next with
      | none => exact pure state
      | some next => exact inductionHypothesis next

/-- From related cursors a parser has the same outcome. -/
theorem outcome {parser : Parser α} (simulates : Simulates related parser) {cursor other : Cursor}
    (keeps : related cursor other) : parser.outcome other = parser.outcome cursor := by
  have run := simulates cursor other keeps
  unfold Parser.outcome
  generalize parser cursor = result at run ⊢
  generalize parser other = resultToo at run ⊢
  cases run <;> rfl

end Simulates

/-- A relation between cursors that show the same tokens at the same places, which is kept where
they advance and where they read integers. -/
structure IsSimulation (related : Cursor → Cursor → Prop) : Prop where
  peek : ∀ cursor other, related cursor other → ∀ places, other.peek places = cursor.peek places
  previousSpan : ∀ cursor other, related cursor other → other.previousSpan = cursor.previousSpan
  length : ∀ cursor other, related cursor other → other.ahead.length = cursor.ahead.length
  advance : ∀ cursor other, related cursor other → related cursor.advance other.advance
  integer : ∀ negative, Simulates related (integerBehind negative)

end Parser

section Grammar

variable {related : Cursor → Cursor → Prop}

/-- A regular routine comes to the same from related cursors, if the rules that it calls do. By
induction on the routine. -/
theorem Routine.Regular.simulates (simulation : IsSimulation related) {given : Rules → Prop}
    {inner : Rules} (isGiven : given inner)
    (calls : ∀ {α : Type} (rule : Call α), Simulates related (rule.parser inner)) {α : Type}
    {routine : Routine α} (regular : routine.Regular given) (spans : List Span) :
    Simulates related (routine.parser inner spans) := by
  induction regular generalizing spans with
  | pure value => exact Simulates.pure value
  | bind before behind beforeHypothesis behindHypothesis =>
      exact (beforeHypothesis spans).bind fun value => behindHypothesis value spans
  | look places answer =>
      exact Simulates.read (fun cursor => (cursor.peek places).kind)
        (fun cursor other keeps => congrArg Token.kind (simulation.peek cursor other keeps places))
        fun kind => Simulates.pure (answer kind)
  | take answer =>
      intro cursor other keeps
      change SameRun related (.ok (answer (cursor.peek 0).kind) cursor.advance)
        (.ok (answer (other.peek 0).kind) other.advance)
      rw [simulation.peek cursor other keeps]
      exact .ok _ (simulation.advance cursor other keeps)
  | markAhead places regular inductionHypothesis =>
      exact Simulates.read (fun cursor => (cursor.peek places).span)
        (fun cursor other keeps => congrArg Token.span (simulation.peek cursor other keeps places))
        fun span => inductionHypothesis (span :: spans)
  | markBehind regular inductionHypothesis =>
      exact Simulates.read Cursor.previousSpan simulation.previousSpan fun span =>
        inductionHypothesis (span :: spans)
  | fail cause isPlace => exact Simulates.fail cause _
  | call rule => exact calls rule
  | loop start regular inductionHypothesis =>
      exact Simulates.read (fun cursor => cursor.ahead.length + 1)
        (fun cursor other keeps => congrArg (· + 1) (simulation.length cursor other keeps))
        fun fuel => Simulates.turns (fun state => inductionHypothesis state spans) fuel start
  | integer negative reads =>
      rw [reads inner isGiven]
      exact simulation.integer negative

/-- What can be written out comes to the same from related cursors, if the rules that it calls
do. -/
theorem Written.simulates (simulation : IsSimulation related) {given : Rules → Prop}
    {known : Prop}
    {inner : Rules} (isGiven : given inner)
    (calls : ∀ {α : Type} (rule : Call α), Simulates related (rule.parser inner)) {α : Type}
    {parser : Rules → List Span → Parser α} (written : Written given known parser) :
    Simulates related (parser inner []) := by
  obtain ⟨routine, _, regular, same⟩ := written
  rw [← same inner isGiven]
  exact regular.simulates simulation isGiven calls []

/-- The rules that nest come to the same from related cursors, level by level. -/
theorem Call.simulates (simulation : IsSimulation related) {α : Type} (rule : Call α)
    (levels : Nat) : Simulates related (rule.parser (rules levels)) := by
  induction levels generalizing α with
  | zero =>
      have fails : Simulates related (rules.tooDeep : Parser α) :=
        Simulates.read (fun cursor => cursor.current.span)
          (fun cursor other keeps => congrArg Token.span (simulation.peek cursor other keeps 0))
          fun span => Simulates.fail _ span
      cases rule <;> exact fails
  | succ levels inductionHypothesis =>
      have body : Written (fun _ => True) False fun inner _ => rule.rule inner := rule_written rule
      have simulates := body.simulates simulation trivial fun inner => inductionHypothesis inner
      cases rule <;> exact simulates

/-- What a statement is made of comes to the same from related cursors. -/
theorem Written.simulates_top (simulation : IsSimulation related) {α : Type} {parser : Parser α}
    (written : Written (· = topRules) False fun _ _ => parser) : Simulates related parser := by
  have calls {α : Type} (rule : Call α) : Simulates related (rule.parser topRules) :=
    rule.simulates simulation maximalNesting
  exact written.simulates simulation (by rfl) calls

end Grammar

/-- Another cursor stands on the same tokens, which were read from a text that differs in the case
of letters alone. -/
structure Cursor.Recased (cursor other : Cursor) : Prop where
  same : other = { cursor with source := other.source }
  folded : other.source.map Char.toLower = cursor.source.map Char.toLower

namespace Cursor.Recased

variable {cursor other : Cursor}

theorem peek (recased : cursor.Recased other) (places : Nat) :
    other.peek places = cursor.peek places := by
  rw [recased.same]
  rfl

theorem advance (recased : cursor.Recased other) : cursor.advance.Recased other.advance := by
  obtain ⟨source, ahead, close, consumed, previous⟩ := cursor
  obtain ⟨same, folded⟩ := recased
  rw [same]
  cases ahead with
  | nil => exact ⟨rfl, folded⟩
  | cons token ahead =>
      simp only [Cursor.advance]
      split
      · exact ⟨rfl, folded⟩
      · exact ⟨rfl, folded⟩

theorem currentText? (recased : cursor.Recased other) :
    other.currentText?.map (List.map Char.toLower) =
      cursor.currentText?.map (List.map Char.toLower) := by
  rw [Cursor.currentText?, Cursor.currentText?, ← textUnder?_map_toLower, recased.folded,
    textUnder?_map_toLower]
  exact congrArg _ (congrArg _ (congrArg Token.span (recased.peek 0)))

/-- The least bigint is spelled in the one text where it is spelled in the other. -/
theorem spells_least (recased : cursor.Recased other) :
    (other.currentText? == some leastMagnitude) = (cursor.currentText? == some leastMagnitude) := by
  have marks : leastMagnitude.all fun mark => !mark.isAlpha := by decide
  have plain : ∀ mark ∈ leastMagnitude, mark.isAlpha = false := by simpa using marks
  have folded (text : Option (List Char)) :
      text = some leastMagnitude ↔ text.map (List.map Char.toLower) = some leastMagnitude := by
    cases text with
    | none => simp
    | some text => simp [map_toLower_eq_iff plain]
  rw [Bool.eq_iff_iff, beq_iff_eq, beq_iff_eq, folded, recased.currentText?, ← folded]

/-- A number is spelled with digits only in the one text where it is in the other. -/
theorem spells_numeral (recased : cursor.Recased other) :
    other.currentText?.any Decimal.isNumeral = cursor.currentText?.any Decimal.isNumeral := by
  have folded (text : Option (List Char)) :
      text.any Decimal.isNumeral = (text.map (List.map Char.toLower)).any Decimal.isNumeral := by
    cases text with
    | none => rfl
    | some text => exact (isNumeral_map_toLower text).symm
  rw [folded, recased.currentText?, ← folded]

theorem integer (negative : Bool) : Simulates Cursor.Recased (integerBehind negative) := by
  have advances : Simulates Recased Parser.advance := by
    intro cursor other recased
    change SameRun Recased (.ok (cursor.peek 0) cursor.advance) (.ok (other.peek 0) other.advance)
    rw [recased.peek]
    exact .ok _ recased.advance
  have refused : Simulates Recased (unexpected .integer : Parser Int64) :=
    Simulates.read Cursor.current (fun _ _ recased => recased.peek 0) fun token =>
      Simulates.fail (.unexpected .integer token.kind) token.span
  intro cursor other recased
  have current : other.current = cursor.current := recased.peek 0
  unfold integerBehind
  rw [run_get, run_get, current, recased.spells_least, recased.spells_numeral]
  cases cursor.current.kind with
  | integer value =>
      exact advances.bind (fun _ => Simulates.pure _) cursor other recased
  | numeric value =>
      dsimp only
      split
      · exact advances.bind (fun _ => Simulates.pure _) cursor other recased
      · split
        · exact Simulates.fail _ _ cursor other recased
        · exact refused cursor other recased
  | _ => exact refused cursor other recased

theorem isSimulation : IsSimulation Cursor.Recased where
  peek _ _ := peek
  previousSpan cursor other recased := by
    rw [recased.same]
    rfl
  length cursor other recased := by rw [recased.same]
  advance _ _ := advance
  integer := integer

end Cursor.Recased

/-- Letters outside of quotes mean the same in either case: a text in which their case is changed
has the same tokens at the same places, the same statements and the same expression; and where it is
refused, it is refused with the same failure. -/
theorem parse_recased {text other : String} (recased : Recased text other) :
    tokenize other = tokenize text ∧ parseStatements other = parseStatements text ∧
      parseStatement other = parseStatement text ∧
      parseExpression other = parseExpression text := by
  have tokens := tokenize_of_recased recased
  have cursors : (Cursor.ofText text).Recased (.ofText other) := by
    rw [Cursor.ofText, Cursor.ofText, tokens]
    exact ⟨rfl, recased.folded⟩
  have simulation := Cursor.Recased.isSimulation
  have statement : Simulates Cursor.Recased statement := statement_written.simulates_top simulation
  have finish : Simulates Cursor.Recased finish := finish_written.simulates_top simulation
  have expression : Simulates Cursor.Recased expression :=
    topExpression_written.simulates_top simulation
  refine ⟨tokens, ?_, ?_, ?_⟩
  · exact (statements_written.simulates_top simulation).outcome cursors
  · exact (statement.bind fun value => finish.bind fun _ => Simulates.pure value).outcome cursors
  · exact (expression.bind fun value => finish.bind fun _ => Simulates.pure value).outcome cursors

/-- A keyword, a word with a final sigma behind letters in either case, an exponent mark and a
comment change their case; the names and the literal in quotes keep theirs. -/
theorem parse_recased_query :
    let text := "Select AΣ.\"A\", 'Q', 1E2 -- All"
    let other := "sELECT aΣ.\"A\", 'Q', 1e2 -- aLL"
    Recased text other ∧ tokenize other = tokenize text ∧
      parseStatements other = parseStatements text := by
  intro text other
  have recased : Recased text other := by
    constructor
    · decide
    · decide +kernel
  obtain ⟨tokens, statements, _⟩ := parse_recased recased
  exact ⟨recased, tokens, statements⟩

end SqlTree
