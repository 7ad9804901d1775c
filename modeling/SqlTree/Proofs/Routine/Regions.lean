import SqlTree.Proofs.Grammar.Rejection
import SqlTree.Proofs.Routine.Statements

/-!
# Where failures lie

A failure that names the token it found lies at that token, which is where the parser stops. Any
other failure is placed by spans that were marked, and these are spans of tokens: whatever region the
tokens of a stream stand in, the failure stands in it too. So no failure on a text lies outside the
text.
-/

namespace SqlTree

open SqlTree.Parser SqlTree.Grammar

/-- All that a cursor shows, ahead and behind, stands in a region. -/
structure Cursor.StandsIn (cursor : Cursor) (within : Span → Prop) : Prop where
  ahead : ∀ token ∈ cursor.stream, within token.span
  behind : ∀ span ∈ cursor.previous, within span

namespace Cursor.StandsIn

variable {cursor : Cursor} {within : Span → Prop}

theorem peek (stands : cursor.StandsIn within) (places : Nat) : within (cursor.peek places).span :=
  stands.ahead _ (cursor.peek_mem_stream places)

theorem previousSpan (region : IsRegion within) (stands : cursor.StandsIn within) :
    within cursor.previousSpan := by
  unfold Cursor.previousSpan
  cases known : cursor.previous with
  | none => exact region.start _ (stands.peek 0)
  | some span => exact stands.behind span known

/-- A cursor that advances shows nothing new, but for the token that it passes. -/
theorem advance (stands : cursor.StandsIn within) : cursor.advance.StandsIn within := by
  obtain ⟨source, ahead, close, consumed, previous⟩ := cursor
  cases ahead with
  | nil => exact stands
  | cons token ahead =>
      unfold Cursor.advance
      dsimp only
      split
      · exact stands
      · constructor
        · intro other found
          exact stands.ahead other (List.mem_cons_of_mem _ found)
        · rintro _ ⟨⟩
          exact stands.ahead token List.mem_cons_self

end Cursor.StandsIn

namespace Parser

variable {α β σ : Type} {within : Span → Prop}

/-- What a run comes to stands in a region: the cursor that it leaves, and its failure if it fails. -/
def ResultIn (within : Span → Prop) : EStateM.Result Failure Cursor α → Prop
  | .ok _ cursor => cursor.StandsIn within
  | .error failure cursor => within failure.span ∧ cursor.StandsIn within

/-- From what stands in a region, a parser comes to what stands in it. -/
def KeepsIn (within : Span → Prop) (parser : Parser α) : Prop :=
  ∀ cursor : Cursor, cursor.StandsIn within → ResultIn within (parser cursor)

namespace KeepsIn

theorem pure (value : α) : KeepsIn within (pure value) := fun _ stands => stands

theorem bind {parser : Parser α} {next : α → Parser β} (first : KeepsIn within parser)
    (second : ∀ value, KeepsIn within (next value)) : KeepsIn within (parser >>= next) := by
  intro cursor stands
  have run := first cursor stands
  change ResultIn within (EStateM.bind _ _ _)
  unfold EStateM.bind
  cases parsed : parser cursor with
  | ok value between =>
      rw [parsed] at run
      exact second value between run
  | error failure stopped =>
      rw [parsed] at run
      exact run

/-- A parser may go by the cursor where all that it shows stands in the region. -/
theorem read {next : Cursor → Parser α}
    (keeps : ∀ cursor : Cursor, cursor.StandsIn within → KeepsIn within (next cursor)) :
    KeepsIn within (get >>= next) :=
  fun cursor stands => keeps cursor stands cursor stands

theorem advance : KeepsIn within Parser.advance := fun _ stands => stands.advance

theorem fail {cause : Cause} {span : Span} (inside : within span) :
    KeepsIn within (Parser.fail cause span : Parser α) :=
  fun _ stands => ⟨inside, stands⟩

theorem unexpected (expected : Expectation) :
    KeepsIn within (Parser.unexpected expected : Parser α) :=
  fun _ stands => ⟨stands.peek 0, stands⟩

theorem turns {turn : σ → Parser (Option σ)} (keeps : ∀ state, KeepsIn within (turn state))
    (fuel : Nat) (state : σ) : KeepsIn within (turns turn fuel state) := by
  induction fuel generalizing state with
  | zero => exact pure state
  | succ fuel inductionHypothesis =>
      apply (keeps state).bind
      intro next
      cases next with
      | none => exact pure state
      | some next => exact inductionHypothesis next

theorem integerBehind (negative : Bool) : KeepsIn within (integerBehind negative) := by
  have fails : KeepsIn within (Parser.unexpected .integer : Parser Int64) := unexpected .integer
  apply read
  intro cursor stands
  cases cursor.current.kind with
  | integer value => exact advance.bind fun _ => pure _
  | numeric value =>
      dsimp only
      split
      · exact advance.bind fun _ => pure _
      · split
        · exact fail (stands.peek 0)
        · exact fails
  | _ => exact fails

/-- Where a parser fails, the failure keeps to the region. -/
theorem outcome {parser : Parser α} (keeps : KeepsIn within parser)
    {cursor : Cursor} (stands : cursor.StandsIn within) {failure : Failure}
    (failed : parser.outcome cursor = .error failure) : within failure.span := by
  have run := keeps cursor stands
  unfold Parser.outcome at failed
  cases parsed : parser cursor with
  | ok value stopped => simp [parsed] at failed
  | error other stopped =>
      simp only [parsed, Except.error.injEq] at failed
      rw [parsed, failed] at run
      exact run.1

end KeepsIn

end Parser

/-- A regular routine keeps to a region if the rules that it calls do, and the spans that are marked
stand in it. By induction on the routine: every mark is the span of a token, and every place is made
of marks. -/
theorem Routine.Regular.keepsIn {within : Span → Prop} (region : IsRegion within)
    {given : Rules → Prop} {inner : Rules} (isGiven : given inner)
    (calls : ∀ {α : Type} (rule : Call α), KeepsIn within (rule.parser inner)) {α : Type}
    {routine : Routine α} (regular : routine.Regular given) (spans : List Span)
    (marked : ∀ span ∈ spans, within span) : KeepsIn within (routine.parser inner spans) := by
  induction regular generalizing spans with
  | pure value => exact KeepsIn.pure value
  | bind before behind beforeHypothesis behindHypothesis =>
      exact (beforeHypothesis spans marked).bind fun value => behindHypothesis value spans marked
  | look places answer => exact fun _ stands => stands
  | take answer => exact fun _ stands => stands.advance
  | markAhead places regular inductionHypothesis =>
      apply KeepsIn.read
      intro cursor stands
      exact inductionHypothesis _ (List.forall_mem_cons.mpr ⟨stands.peek places, marked⟩)
  | markBehind regular inductionHypothesis =>
      intro cursor stands
      have behind : within cursor.previousSpan := stands.previousSpan region
      exact inductionHypothesis _ (List.forall_mem_cons.mpr ⟨behind, marked⟩) cursor stands
  | fail cause isPlace => exact KeepsIn.fail (isPlace within region spans marked)
  | call rule => exact calls rule
  | loop start regular inductionHypothesis =>
      apply KeepsIn.read
      intro cursor _
      exact KeepsIn.turns (fun state => inductionHypothesis state spans marked) _ start
  | integer negative reads =>
      rw [reads inner isGiven]
      exact KeepsIn.integerBehind negative

section Levels

variable {within : Span → Prop} (region : IsRegion within)

include region

/-- What can be written out keeps to a region if the rules that it calls do. -/
theorem Written.keepsIn {given : Rules → Prop} {known : Prop} {inner : Rules}
    (isGiven : given inner)
    (calls : ∀ {α : Type} (rule : Call α), KeepsIn within (rule.parser inner)) {α : Type}
    {parser : Rules → List Span → Parser α} (written : Written given known parser) :
    KeepsIn within (parser inner []) := by
  obtain ⟨routine, _, regular, same⟩ := written
  rw [← same inner isGiven]
  exact regular.keepsIn region isGiven calls [] (List.forall_mem_nil _)

/-- The rules that nest keep to a region, level by level. -/
theorem Call.keepsIn {α : Type} (rule : Call α) (levels : Nat) :
    KeepsIn within (rule.parser (rules levels)) := by
  induction levels generalizing α with
  | zero =>
      intro cursor stands
      cases rule <;> exact ⟨stands.peek 0, stands⟩
  | succ levels inductionHypothesis =>
      have body : Written (fun _ => True) False fun inner _ => rule.rule inner := rule_written rule
      have keeps := body.keepsIn region trivial fun inner => inductionHypothesis inner
      cases rule <;> exact keeps

/-- What a statement is made of keeps to a region. -/
theorem Written.keepsIn_top {α : Type} {parser : Parser α}
    (written : Written (· = topRules) False fun _ _ => parser) : KeepsIn within parser := by
  have calls {α : Type} (rule : Call α) : KeepsIn within (rule.parser topRules) :=
    rule.keepsIn region maximalNesting
  exact written.keepsIn region (by rfl) calls

theorem Step.run_standsIn (step : Step) {cursor : Cursor} (stands : cursor.StandsIn within) :
    (∀ failure, (step.run cursor).1 = .error failure → within failure.span) ∧
      (step.run cursor).2.StandsIn within := by
  have keeps := (step_written step).keepsIn_top region cursor stands
  unfold Step.run
  cases run : step.parser cursor with
  | ok answer stopped =>
      rw [run] at keeps
      constructor
      · intro _ failed
        cases failed
      · exact keeps
  | error failure stopped =>
      rw [run] at keeps
      constructor
      · rintro _ ⟨⟩
        exact keeps.1
      · exact keeps.2

/-- Steps of a session leave a region in no way. -/
theorem Cursor.StandsIn.afterSteps {cursor : Cursor} (stands : cursor.StandsIn within)
    (steps : List Step) : (cursor.afterSteps steps).StandsIn within := by
  induction steps generalizing cursor with
  | nil => exact stands
  | cons step steps inductionHypothesis =>
      exact inductionHypothesis (step.run_standsIn region stands).2

end Levels

/-! ## Failures on a text -/

/-- A span lies in a text, and parts none of its characters. -/
structure Span.IsOf (span : Span) (text : String) : Prop where
  ordered : span.start ≤ span.stop
  inside : span.stop ≤ text.utf8ByteSize
  startsValid : (String.Pos.Raw.mk span.start).IsValid text
  stopsValid : (String.Pos.Raw.mk span.stop).IsValid text

namespace Span

variable {text : String}

theorem isOf_point {position : Nat} (inside : position ≤ text.utf8ByteSize)
    (valid : (String.Pos.Raw.mk position).IsValid text) : (point position).IsOf text :=
  ⟨Nat.le_refl _, inside, valid, valid⟩

/-- The spans of a text are a region. -/
theorem isRegion_isOf (text : String) : IsRegion (Span.IsOf · text) := by
  constructor
  · exact isOf_point (Nat.zero_le _) String.Pos.Raw.isValid_zero
  · intro span isOf
    exact isOf_point (Nat.le_trans isOf.ordered isOf.inside) isOf.startsValid
  · intro left right isOfLeft isOfRight
    have leftOrdered := isOfLeft.ordered
    constructor
    · simp only [merge]
      omega
    · exact Nat.max_le.mpr ⟨isOfLeft.inside, isOfRight.inside⟩
    · simp only [merge]
      rcases Nat.le_total left.start right.start with le | le
      · rw [Nat.min_eq_left le]
        exact isOfLeft.startsValid
      · rw [Nat.min_eq_right le]
        exact isOfRight.startsValid
    · simp only [merge]
      rcases Nat.le_total left.stop right.stop with le | le
      · rw [Nat.max_eq_right le]
        exact isOfRight.stopsValid
      · rw [Nat.max_eq_left le]
        exact isOfLeft.stopsValid

/-- The tokens of a text lie in it. -/
theorem isOf_of_mem_tokenize {token : Token} (found : token ∈ tokenize text) :
    token.span.IsOf text := by
  have tiled := tokenize_tiled text
  have whole : String.ofList ([] ++ text.toList) = text := String.ofList_toList
  have boundaries := tiled.boundaries
  rw [whole] at boundaries
  obtain ⟨starts, stops⟩ := boundaries token found
  have ordered : token.span.start ≤ token.span.stop := by
    obtain ⟨front, split⟩ := List.getLast?_eq_some_iff.mp tiled.last
    have nonempty := tiled.nonempty
    rw [split, List.dropLast_concat] at nonempty
    rw [split, List.mem_append, List.mem_singleton] at found
    rcases found with found | rfl
    · exact Nat.le_of_lt (nonempty token found).2
    · exact Nat.le_refl _
  exact ⟨ordered, stops.le_utf8ByteSize, starts, stops⟩

end Span

/-- A stream of the tokens of a text shows spans of the text. -/
theorem Cursor.atStart_standsIn (source : List Char) (text : String) :
    (Cursor.atStart source (tokenize text)).StandsIn (Span.IsOf · text) := by
  have tokens : (Cursor.atStart source (tokenize text)).stream = tokenize text :=
    (Cursor.ofText_spec text).1
  constructor
  · rw [tokens]
    exact fun token found => Span.isOf_of_mem_tokenize found
  · rw [Cursor.atStart_previous]
    exact nofun

/-- A step that fails for the token it found stops at that token. -/
theorem Step.current_of_found (step : Step) {cursor : Cursor}
    (closed : cursor.close.kind = .finish) {failure : Failure} {kind : TokenKind}
    (failed : (step.run cursor).1 = .error failure) (found : failure.cause.found? = some kind) :
    (step.run cursor).2.current = ⟨kind, failure.span⟩ := by
  obtain ⟨_, _, _, lies⟩ :=
    step.parser_steady.stopped_of_error closed (Step.parser_of_failed failed)
  obtain ⟨cause, span⟩ := failure
  cases cause with
  | unexpected expected other =>
      obtain rfl : other = kind := Option.some.inj found
      exact (lies expected _ rfl).2
  | _ => cases found

/-- After any steps of a session on any stream, a step that fails and names the token it found stops
at that token, and the failure lies where the token stands. On the tokens of a text, with their text
or without it, every failure lies in the text, on boundaries of its characters; and so does every
failure of parsing the text as a whole. -/
theorem Step.failure_lies :
    (∀ (source : List Char) (tokens : List Token) (earlier : List Step) (step : Step)
      (failure : Failure) (kind : TokenKind),
        let run := step.run ((Cursor.atStart source tokens).afterSteps earlier)
        run.1 = .error failure → failure.cause.found? = some kind →
          run.2.current = ⟨kind, failure.span⟩) ∧
    (∀ (source : List Char) (text : String) (earlier : List Step) (step : Step) (failure : Failure),
      (step.run ((Cursor.atStart source (tokenize text)).afterSteps earlier)).1 = .error failure →
        failure.span.IsOf text) ∧
    (∀ (text : String) (failure : Failure), parseStatements text = .error failure ∨
      parseStatement text = .error failure ∨ parseExpression text = .error failure →
        failure.span.IsOf text) := by
  refine ⟨?_, ?_, ?_⟩
  · intro source tokens earlier step failure kind run failed found
    have closed := Cursor.afterSteps_closed (Cursor.atStart_closed source tokens) earlier
    exact step.current_of_found closed failed found
  · intro source text earlier step failure failed
    have region := Span.isRegion_isOf text
    have stands := (Cursor.atStart_standsIn source text).afterSteps region earlier
    exact (step.run_standsIn region stands).1 failure failed
  · intro text failure failed
    have region := Span.isRegion_isOf text
    have stands : (Cursor.ofText text).StandsIn (Span.IsOf · text) :=
      Cursor.atStart_standsIn text.toList text
    have finishing {α : Type} (value : α) :
        KeepsIn (Span.IsOf · text) (do Grammar.finish; return value) :=
      (finish_written.keepsIn_top region).bind fun _ => KeepsIn.pure value
    rcases failed with failed | failed | failed
    · exact (statements_written.keepsIn_top region).outcome stands failed
    · exact ((statement_written.keepsIn_top region).bind finishing).outcome stands failed
    · exact ((topExpression_written.keepsIn_top region).bind finishing).outcome stands failed

/-- A sum without its second operand, refused at the token in its place. -/
theorem Step.failure_lies_sum :
    let text := "1 + ="
    let run := Step.expression.run (Cursor.ofText text)
    let failure : Failure := ⟨.unexpected .expression (.symbol .equal), ⟨4, 5⟩⟩
    run.1 = .error failure ∧ run.2.current = ⟨.symbol .equal, failure.span⟩ ∧
      failure.span.IsOf text := by
  intro text run failure
  have tokens : tokenize text = [⟨.integer 1, ⟨0, 1⟩⟩, ⟨.symbol .plus, ⟨2, 3⟩⟩,
      ⟨.symbol .equal, ⟨4, 5⟩⟩, ⟨.finish, .point 5⟩] := by
    decide
  have failed : run.1 = .error failure := by
    simp only [run]
    rw [Cursor.ofText, tokens]
    rfl
  obtain ⟨places, regions, _⟩ := Step.failure_lies
  exact ⟨failed, places text.toList (tokenize text) [] .expression failure _ failed rfl,
    regions text.toList text [] .expression failure failed⟩

end SqlTree
