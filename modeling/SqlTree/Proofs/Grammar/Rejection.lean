import SqlTree.Proofs.Grammar.Independence
import SqlTree.Proofs.Token.Spelling

/-!
# Rejection of what is no token

A piece of text that is no token stays in the stream with its reason. No rule of the grammar passes
it: a text that is accepted has none, and a failure that met one gives its reason and its place.
-/

namespace SqlTree

open SqlTree.Parser SqlTree.Grammar

/-- What the outcome of parsing a text says about the pieces of the text that are no tokens. -/
structure ReportsInvalid {α : Type} (text : String) (outcome : Except Failure α) : Prop where
  /-- A text with such a piece is not accepted. -/
  accepted : ∀ value, outcome = .ok value →
    ∀ token ∈ tokenize text, ∀ reason, token.kind ≠ .invalid reason
  /-- A failure that found such a piece gives its reason, and lies where it stands. -/
  refused : ∀ failure, outcome = .error failure →
    ∀ reason, failure.cause.found? = some (.invalid reason) →
      failure.cause.message = reason ∧ ⟨.invalid reason, failure.span⟩ ∈ tokenize text

namespace Cursor

/-- A cursor at the start of a text faces its tokens, of which only the last ends the input. -/
theorem ofText_spec (text : String) : (ofText text).stream = tokenize text ∧
    (ofText text).close.kind = .finish ∧ ∀ token ∈ (ofText text).ahead, token.kind ≠ .finish := by
  have tiled := tokenize_tiled text
  have going := tiled.nonempty
  obtain ⟨tokens, split⟩ := List.getLast?_eq_some_iff.mp tiled.last
  rw [split, List.dropLast_concat] at going
  rw [ofText_eq_atStart, split, atStart_concat _ _ rfl]
  exact ⟨rfl, rfl, fun token among => (going token among).1⟩

theorem peek_mem_stream (cursor : Cursor) (places : Nat) : cursor.peek places ∈ cursor.stream := by
  rw [stream, List.mem_append, peek]
  cases found : cursor.ahead[places]? with
  | none => exact .inr List.mem_cons_self
  | some token => exact .inl (List.mem_of_getElem? found)

end Cursor

/-- The parser of a text faces the kinds of the tokens that the text is read as. -/
theorem IsReadAs.faces {text : String} {kinds : List TokenKind}
    (read : IsReadAs text.toList (kinds ++ [.finish])) : (Cursor.ofText text).Faces kinds := by
  obtain ⟨stream, finish, _⟩ := Cursor.ofText_spec text
  have known := read.tokenize
  rw [← stream, Cursor.stream, List.map_append] at known
  exact ⟨finish, (List.append_inj' known rfl).1⟩

namespace Parser

variable {α : Type} {parser : Parser α}

/-- A steady parser that succeeds only at the end of the input reports what is no token. -/
theorem Steady.reportsInvalid (steady : Steady parser)
    (ends : ∀ {cursor value stopped}, cursor.close.kind = .finish →
      parser cursor = .ok value stopped → stopped.current.kind = .finish) (text : String) :
    ReportsInvalid text (parser.outcome (.ofText text)) := by
  obtain ⟨tokens, closed, going⟩ := Cursor.ofText_spec text
  generalize Cursor.ofText text = start at tokens closed going ⊢
  unfold Parser.outcome
  cases run : parser start with
  | ok value stopped =>
      refine ⟨fun _ _ token among reason invalid => ?_, fun _ failed => by cases failed⟩
      obtain ⟨taken, rfl, clear, _⟩ := steady.stopped_of_ok closed run
      have finish : (start.peek taken).kind = .finish := by
        have current := ends closed run
        rwa [Cursor.current_past] at current
      -- The end of the input stands only behind all tokens, so that every token was taken.
      have all : start.ahead.length ≤ taken := by
        apply Nat.le_of_not_lt
        intro inside
        rw [Cursor.peek, List.getElem?_eq_getElem inside, Option.getD_some] at finish
        exact going _ (List.getElem_mem inside) finish
      rw [← tokens, Cursor.stream, List.mem_append, List.mem_singleton] at among
      rcases among with among | rfl
      · obtain ⟨places, inside, rfl⟩ := List.mem_iff_getElem.mp among
        have plain := clear places (Nat.lt_of_lt_of_le inside all)
        rw [Cursor.peek, List.getElem?_eq_getElem inside, Option.getD_some, invalid] at plain
        cases plain
      · rw [closed] at invalid
        cases invalid
  | error failure stopped =>
      refine ⟨fun _ succeeded => (by cases succeeded), ?_⟩
      rintro _ ⟨⟩ reason found
      obtain ⟨taken, rfl, _, lies⟩ := steady.stopped_of_error closed run
      obtain ⟨cause, span⟩ := failure
      cases cause with
      | unexpected expected kind =>
          obtain rfl : kind = .invalid reason := Option.some.inj found
          have here := (lies expected _ rfl).2
          rw [Cursor.current_past] at here
          exact ⟨rfl, tokens ▸ here ▸ start.peek_mem_stream taken⟩
      | _ => cases found

end Parser

namespace Grammar

variable {α : Type} {cursor stopped : Cursor}

/-- The check that nothing is left succeeds at the end of the input only. -/
theorem current_of_finish (parsed : finish cursor = .ok () stopped) :
    stopped.current.kind = .finish := by
  obtain ⟨_, between, _, checked⟩ := ok_of_bind_ok parsed
  change (if between.current.kind = .finish then _ else _ : Parser Unit) between = _ at checked
  split at checked
  · next ends =>
      cases checked
      exact ends
  · cases checked

/-- Behind a parser the check that nothing is left sees to it that all was read. -/
theorem current_of_finished {parser : Parser α} {value : α}
    (parsed : (do let value ← parser; finish; return value : Parser α) cursor = .ok value stopped) :
    stopped.current.kind = .finish := by
  obtain ⟨_, between, _, rest⟩ := ok_of_bind_ok parsed
  obtain ⟨_, behind, finished, done⟩ := ok_of_bind_ok rest
  cases done
  exact current_of_finish finished

theorem finished_steady {parser : Parser α} (steady : Steady parser) :
    Steady (do let value ← parser; finish; return value) :=
  steady.bind fun _ => finish_steady.bind fun _ => Steady.pure _

/-- Statements are read up to the end of the input. -/
theorem current_of_statementsWithin {fuel : Nat} {statements : List LocatedStatement}
    (closed : cursor.close.kind = .finish) (enough : cursor.ahead.length < fuel)
    (parsed : statementsWithin fuel cursor = .ok statements stopped) :
    stopped.current.kind = .finish := by
  induction fuel generalizing cursor statements with
  | zero => cases enough
  | succ fuel inductionHypothesis =>
      obtain ⟨_, between, skipped, rest⟩ := ok_of_bind_ok parsed
      obtain ⟨front, rfl, clear, _⟩ := skipSemicolons_steady.stopped_of_ok closed skipped
      have closedThere : (cursor.past front).close.kind = .finish := closed
      change (if (cursor.past front).current.kind = .finish then _ else _ : Parser _) _ = _ at rest
      split at rest
      · next ends =>
          cases rest
          exact ends
      · obtain ⟨statement, behind, located, more⟩ := ok_of_bind_ok rest
        obtain ⟨taken, rfl, clearBehind, moved⟩ :=
          locatedStatement_taking.stopped_of_ok closedThere located
        obtain ⟨others, last, read, done⟩ := ok_of_bind_ok more
        cases done
        have inside : front + taken ≤ cursor.ahead.length :=
          (clear.append clearBehind).inside closed
        have positive : 0 < taken := moved trivial
        have shorter : (cursor.past (front + taken)).ahead.length < fuel := by
          rw [Cursor.past, List.length_drop]
          omega
        have closedBehind : (cursor.past (front + taken)).close.kind = .finish := closed
        rw [Cursor.past_past] at read
        exact inductionHypothesis closedBehind shorter read

theorem current_of_statements {statements : List Statement} (closed : cursor.close.kind = .finish)
    (parsed : Grammar.statements cursor = .ok statements stopped) :
    stopped.current.kind = .finish := by
  rw [statements_eq] at parsed
  change (statementsWithin (cursor.ahead.length + 1) >>= fun located =>
    pure (located.map LocatedStatement.statement) : Parser _) cursor = _ at parsed
  obtain ⟨_, _, read, done⟩ := ok_of_bind_ok parsed
  cases done
  exact current_of_statementsWithin closed (Nat.lt_succ_self _) read

end Grammar

/-- No piece of a text that is no token is passed: the text is not accepted, and a failure that
found such a piece gives its reason and its place. -/
theorem parse_reportsInvalid (text : String) :
    ReportsInvalid text (parseStatements text) ∧ ReportsInvalid text (parseStatement text) ∧
      ReportsInvalid text (parseExpression text) := by
  refine ⟨?_, ?_, ?_⟩
  · exact statements_steady.reportsInvalid current_of_statements text
  · exact (finished_steady statement_taking.steady).reportsInvalid
      (fun _ parsed => current_of_finished parsed) text
  · exact (finished_steady expression_steady).reportsInvalid
      (fun _ parsed => current_of_finished parsed) text

end SqlTree
