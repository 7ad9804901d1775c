import SqlTree.Proofs.Grammar.Rejection
import SqlTree.Proofs.Routine.Statements
import SqlTree.Proofs.Token.Separators

/-!
# Placement

A routine does not see where its tokens stand. On two streams that show tokens of the same kinds and
texts it comes to the same value, or it fails for the same cause; only the places of failures may
differ.
-/

namespace SqlTree

open SqlTree.Parser SqlTree.Grammar

/-- Another cursor shows tokens of the same kinds and texts, wherever they stand. -/
structure Cursor.Like (cursor other : Cursor) : Prop where
  ahead : other.ahead.map (Token.shown other.source) = cursor.ahead.map (Token.shown cursor.source)
  close : other.close.shown other.source = cursor.close.shown cursor.source

namespace Cursor.Like

variable {cursor other : Cursor}

theorem length (like : cursor.Like other) : other.ahead.length = cursor.ahead.length := by
  simpa using congrArg List.length like.ahead

theorem peek (like : cursor.Like other) (places : Nat) :
    (other.peek places).shown other.source = (cursor.peek places).shown cursor.source := by
  have same : other.ahead[places]?.map (Token.shown other.source)
      = cursor.ahead[places]?.map (Token.shown cursor.source) := by
    rw [← List.getElem?_map, ← List.getElem?_map, like.ahead]
  unfold Cursor.peek
  rw [← Option.getD_map (f := Token.shown other.source), same, like.close, Option.getD_map]

theorem peek_kind (like : cursor.Like other) (places : Nat) :
    (other.peek places).kind = (cursor.peek places).kind :=
  congrArg Prod.fst (like.peek places)

theorem currentText? (like : cursor.Like other) : other.currentText? = cursor.currentText? :=
  congrArg Prod.snd (like.peek 0)

/-- Cursors that show the same still do when both advance. -/
theorem advance (like : cursor.Like other) : cursor.advance.Like other.advance := by
  obtain ⟨source, ahead, close, consumed, previous⟩ := cursor
  obtain ⟨sourceToo, aheadToo, closeToo, consumedToo, previousToo⟩ := other
  cases ahead with
  | nil =>
      obtain rfl : aheadToo = [] := List.map_eq_nil_iff.mp like.ahead
      exact like
  | cons token ahead =>
      obtain ⟨tokenToo, moreToo, rfl, shown, more⟩ := List.map_eq_cons_iff.mp like.ahead
      have kind : tokenToo.kind = token.kind := congrArg Prod.fst shown
      simp only [Cursor.advance, kind]
      split
      · exact like
      · exact ⟨more, like.close⟩

end Cursor.Like

namespace Parser

variable {α β σ : Type}

/-- Two runs come to the same value or fail for the same cause, and leave cursors that show the
same. -/
inductive SameResult : (result other : EStateM.Result Failure Cursor α) → Prop
  | ok {cursor other : Cursor} (value : α) (like : cursor.Like other) :
      SameResult (.ok value cursor) (.ok value other)
  | error {cursor other : Cursor} {failure failureToo : Failure}
      (cause : failureToo.cause = failure.cause) (like : cursor.Like other) :
      SameResult (.error failure cursor) (.error failureToo other)

/-- Two parsers do the same on streams that show the same. -/
def Matches (parser other : Parser α) : Prop :=
  ∀ cursor cursorToo : Cursor, cursor.Like cursorToo → SameResult (parser cursor) (other cursorToo)

/-- A parser does the same on streams that show the same. -/
def Unplaced (parser : Parser α) : Prop := Matches parser parser

theorem Matches.pure (value : α) : Matches (pure value) (pure value) :=
  fun _ _ like => .ok value like

theorem Matches.bind {parser other : Parser α} {next nextToo : α → Parser β}
    (first : Matches parser other) (second : ∀ value, Matches (next value) (nextToo value)) :
    Matches (parser >>= next) (other >>= nextToo) := by
  intro cursor cursorToo like
  have run := first cursor cursorToo like
  change SameResult (EStateM.bind _ _ _) (EStateM.bind _ _ _)
  unfold EStateM.bind
  generalize parser cursor = result at run ⊢
  generalize other cursorToo = resultToo at run ⊢
  cases run with
  | ok value likeBehind => exact second value _ _ likeBehind
  | error cause likeBehind => exact .error cause likeBehind

/-- A parser may go by the cursor where it shows the same. -/
theorem Matches.read {read readToo : Cursor → Parser α}
    (same : ∀ cursor cursorToo : Cursor, cursor.Like cursorToo →
      Matches (read cursor) (readToo cursorToo)) :
    Matches (get >>= read) (get >>= readToo) :=
  fun cursor cursorToo like => same cursor cursorToo like cursor cursorToo like

theorem Matches.turns {turn turnToo : σ → Parser (Option σ)}
    (same : ∀ state, Matches (turn state) (turnToo state)) (fuel : Nat) (state : σ) :
    Matches (turns turn fuel state) (turns turnToo fuel state) := by
  induction fuel generalizing state with
  | zero => exact Matches.pure state
  | succ fuel inductionHypothesis =>
      refine (same state).bind fun next => ?_
      cases next with
      | none => exact Matches.pure state
      | some next => exact inductionHypothesis next

/-- What a parser comes to does not go by places, if the parser does not. -/
theorem Unplaced.outcome {parser : Parser α} (unplaced : Unplaced parser) {cursor other : Cursor}
    (like : cursor.Like other) : (parser.outcome other).mapError Failure.cause
      = (parser.outcome cursor).mapError Failure.cause := by
  have run := unplaced cursor other like
  unfold Parser.outcome
  generalize parser cursor = result at run ⊢
  generalize parser other = resultToo at run ⊢
  cases run with
  | ok value _ => rfl
  | error cause _ => exact congrArg Except.error cause

end Parser

/-- Whatever spans are marked, a routine does the same on streams that show the same, if the rules
that it calls do. By induction on the routine. -/
theorem Routine.parser_matches {inner : Rules}
    (calls : ∀ {α : Type} (rule : Call α), Unplaced (rule.parser inner)) {α : Type}
    (routine : Routine α) (spans spansToo : List Span) :
    Matches (routine.parser inner spans) (routine.parser inner spansToo) := by
  induction routine generalizing spans spansToo with
  | pure value => exact Matches.pure value
  | bind first next firstHypothesis nextHypothesis =>
      exact (firstHypothesis _ _).bind fun value => nextHypothesis value _ _
  | look places answer =>
      intro cursor cursorToo like
      change SameResult (.ok (answer (cursor.peek places).kind) cursor)
        (.ok (answer (cursorToo.peek places).kind) cursorToo)
      rw [like.peek_kind]
      exact .ok _ like
  | take answer =>
      intro cursor cursorToo like
      change SameResult (.ok (answer (cursor.peek 0).kind) cursor.advance)
        (.ok (answer (cursorToo.peek 0).kind) cursorToo.advance)
      rw [like.peek_kind]
      exact .ok _ like.advance
  | text answer =>
      intro cursor cursorToo like
      change SameResult (.ok (answer cursor.currentText?) cursor)
        (.ok (answer cursorToo.currentText?) cursorToo)
      rw [like.currentText?]
      exact .ok _ like
  | markAhead places body inductionHypothesis =>
      exact Matches.read fun _ _ _ => inductionHypothesis _ _
  | markBehind body inductionHypothesis =>
      exact fun cursor cursorToo like => inductionHypothesis _ _ cursor cursorToo like
  | fail cause place => exact fun _ _ like => .error rfl like
  | call rule => exact calls rule
  | loop turn start inductionHypothesis =>
      refine Matches.read fun cursor cursorToo like => ?_
      rw [like.length]
      exact Matches.turns (fun state => inductionHypothesis state _ _) _ start

/-- What can be written out does the same on streams that show the same. -/
theorem Written.unplaced {given : Rules → Prop} {known : Prop} {inner : Rules}
    (isGiven : given inner) (calls : ∀ {α : Type} (rule : Call α), Unplaced (rule.parser inner))
    {α : Type} {parser : Rules → List Span → Parser α} (written : Written given known parser)
    (spans : List Span) : Unplaced (parser inner spans) := by
  obtain ⟨routine, _, _, same⟩ := written
  rw [← same inner isGiven spans]
  exact routine.parser_matches calls spans spans

/-- The rules that nest do the same on streams that show the same, level by level. -/
theorem Call.unplaced {α : Type} (rule : Call α) (levels : Nat) :
    Unplaced (rule.parser (rules levels)) := by
  induction levels generalizing α with
  | zero =>
      intro cursor cursorToo like
      cases rule <;> exact .error rfl like
  | succ levels inductionHypothesis =>
      have body : Written (fun _ => True) False fun inner _ => rule.rule inner := rule_written rule
      have unplaced := body.unplaced trivial (fun inner => inductionHypothesis inner) []
      cases rule <;> exact unplaced

/-- What a statement is made of does the same on streams that show the same. -/
theorem Written.unplaced_top {α : Type} {parser : Parser α}
    (written : Written (· = topRules) False fun _ _ => parser) : Unplaced parser := by
  have calls {α : Type} (rule : Call α) : Unplaced (rule.parser topRules) :=
    rule.unplaced maximalNesting
  exact written.unplaced (by rfl) calls []

/-- A statement with nothing left behind it does not go by places. -/
theorem finishedStatement_unplaced :
    Unplaced (do let statement ← statement; finish; return statement) :=
  Matches.bind statement_written.unplaced_top fun statement =>
    Matches.bind finish_written.unplaced_top fun _ => Matches.pure statement

section Texts

variable {text other : String} (like : (Cursor.ofText text).Like (Cursor.ofText other))

include like

theorem parseStatements_like : (parseStatements other).mapError Failure.cause
    = (parseStatements text).mapError Failure.cause :=
  statements_written.unplaced_top.outcome like

theorem parseStatement_like : (parseStatement other).mapError Failure.cause
    = (parseStatement text).mapError Failure.cause :=
  finishedStatement_unplaced.outcome like

theorem parseExpression_like : (parseExpression other).mapError Failure.cause
    = (parseExpression text).mapError Failure.cause := by
  have unplaced : Unplaced (do let expression ← expression; finish; return expression) :=
    Matches.bind topExpression_written.unplaced_top fun expression =>
      Matches.bind finish_written.unplaced_top fun _ => Matches.pure expression
  exact unplaced.outcome like

end Texts

section Separators

/-- Cursors whose streams show the same show the same. -/
theorem Cursor.like_of_stream {cursor other : Cursor}
    (same : other.stream.map (Token.shown other.source)
      = cursor.stream.map (Token.shown cursor.source)) : cursor.Like other := by
  rw [stream, stream, List.map_append, List.map_append, List.map_singleton,
    List.map_singleton] at same
  obtain ⟨ahead, close⟩ := List.append_inj' same rfl
  exact ⟨ahead, List.singleton_inj.mp close⟩

/-- Texts whose tokens show the same are read from cursors that show the same. -/
theorem Cursor.like_ofText {text other : String}
    (same : (tokenize other).map (Token.shown other.toList)
      = (tokenize text).map (Token.shown text.toList)) :
    (ofText text).Like (ofText other) := by
  rw [← (ofText_spec other).1, ← (ofText_spec text).1] at same
  exact like_of_stream same

/-- A separator may be put before any token of a text without an error but its end: the new text
has tokens of the same kinds, its statements and its expression are the same, and where it is
refused, it is refused for the same cause. -/
theorem parse_separated {front separator back : String} {token : Token}
    (valid : ∀ token ∈ tokenize (front ++ back), ∀ message, token.kind ≠ .invalid message)
    (found : token ∈ tokenize (front ++ back)) (going : token.kind ≠ .finish)
    (start : token.span.start = front.utf8ByteSize) (separates : IsSeparator separator.toList) :
    let text := front ++ back
    let spaced := front ++ separator ++ back
    (tokenize spaced).map Token.kind = (tokenize text).map Token.kind ∧
      (parseStatements spaced).mapError Failure.cause
        = (parseStatements text).mapError Failure.cause ∧
      (parseStatement spaced).mapError Failure.cause
        = (parseStatement text).mapError Failure.cause ∧
      (parseExpression spaced).mapError Failure.cause
        = (parseExpression text).mapError Failure.cause := by
  intro text spaced
  have same := tokenize_separated valid found going start separates
  have like : (Cursor.ofText text).Like (Cursor.ofText spaced) := Cursor.like_ofText same
  refine ⟨?_, parseStatements_like like, parseStatement_like like, parseExpression_like like⟩
  have kinds := congrArg (List.map Prod.fst) same
  rw [List.map_map, List.map_map] at kinds
  exact kinds

/-- A comment of each kind before a number. -/
theorem parse_separated_number :
    let text := "SELECT " ++ "1"
    let spaced := "SELECT " ++ "\t-- one\n/**/" ++ "1"
    (⟨.integer 1, ⟨7, 8⟩⟩ : Token) ∈ tokenize text ∧
      (tokenize spaced).map Token.kind = (tokenize text).map Token.kind ∧
      (parseStatements spaced).mapError Failure.cause
        = (parseStatements text).mapError Failure.cause := by
  have separates : IsSeparator "\t-- one\n/**/".toList := by
    have block : IsSpacing ('/' :: '*' :: ([] ++ ['*', '/'])) := .block (by decide) .nil
    have line : IsSpacing ('-' :: '-' :: (" one".toList ++ '\n' :: "/**/".toList)) :=
      .line (by decide) block
    exact ⟨'\t', _, rfl, by decide, line⟩
  have known : tokenize ("SELECT " ++ "1")
      = [⟨.keyword .SELECT, ⟨0, 6⟩⟩, ⟨.integer 1, ⟨7, 8⟩⟩, ⟨.finish, .point 8⟩] := by
    decide
  have valid : ∀ token ∈ tokenize ("SELECT " ++ "1"), ∀ message, token.kind ≠ .invalid message := by
    rw [known]
    simp
  have found : (⟨.integer 1, ⟨7, 8⟩⟩ : Token) ∈ tokenize ("SELECT " ++ "1") := by
    rw [known]
    simp
  have result := parse_separated valid found nofun (by decide) separates
  exact ⟨found, result.1, result.2.1⟩

end Separators

end SqlTree
