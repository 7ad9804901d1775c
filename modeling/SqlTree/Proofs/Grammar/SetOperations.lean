import SqlTree.Proofs.Grammar.SteadyRules

/-!
# Queries that are met and set operations that are refused

A candid parser hides no query: every `SELECT` that it takes starts a query, which is read to its
end or fails as the parser fails. And it refuses a construct as not modelled for one reason alone:
a query was read up to a set operation. Candour composes, as steadiness does.
-/

namespace SqlTree

open SqlTree.Parser

namespace Grammar

/-- Whether a keyword is an operation between queries. -/
def isSetOperation : Keyword → Bool
  | .UNION | .INTERSECT | .EXCEPT => true
  | _ => false

/-- What is read of a query behind its first word, up to the check that no set operation follows. -/
def selectClauses (inner : Rules) : Parser Select := do
  let distinct ← distinctness
  let columns ← outputColumns inner
  let source ← optionalAfter .FROM (tableList inner)
  let filter ← optionalAfter .WHERE (inner.expression 0)
  let groupBy ← listBy .GROUP (inner.expression 0)
  let having ← optionalAfter .HAVING (inner.expression 0)
  let orderBy ← listBy .ORDER (sortKey inner)
  let limit ← optionalAfter .LIMIT (inner.expression 0)
  let offset ← optionalAfter .OFFSET (inner.expression 0)
  return { distinct, columns, source, filter, groupBy, having, orderBy, limit, offset }

/-- A query up to the check that no set operation follows. -/
def selectBody (inner : Rules) : Parser Select := do
  expectKeyword .SELECT
  selectClauses inner

theorem query_eq (inner : Rules) : query inner = (do
    let body ← selectBody inner
    noSetOperation
    return body) := by
  simp only [query, selectBody, selectClauses, bind_assoc, pure_bind]

section Checks

variable {cursor : Cursor} {word : Keyword}

/-- A keyword that comes next is taken. -/
theorem expectKeyword_of_eq (closed : cursor.close.kind = .finish)
    (found : cursor.current.kind = .keyword word) :
    expectKeyword word cursor = .ok () (cursor.past 1) := by
  have eaten : eatKeyword word cursor = .ok true cursor.advance := if_pos found
  rw [← Cursor.advance_of_ne closed (by simp [found])]
  exact bind_of_ok eaten

theorem expectKeyword_of_ne (missed : cursor.current.kind ≠ .keyword word) :
    expectKeyword word cursor =
      .error ⟨.unexpected (.keyword word) cursor.current.kind, cursor.current.span⟩ cursor := by
  have passed : eatKeyword word cursor = .ok false cursor := if_neg missed
  exact bind_of_ok passed

theorem noSetOperation_of_isSetOperation (found : cursor.current.kind = .keyword word)
    (operation : isSetOperation word = true) :
    noSetOperation cursor =
      .error ⟨.unsupportedSetOperation word, cursor.current.span⟩ cursor := by
  have looked : current cursor = .ok cursor.current cursor := rfl
  rw [noSetOperation, bind_of_ok looked, found]
  cases word <;> first | rfl | cases operation

/-- The check on set operations fails for them alone. -/
theorem noSetOperation_cases (cursor : Cursor) : noSetOperation cursor = .ok () cursor ∨
    ∃ word, cursor.current.kind = .keyword word ∧ isSetOperation word = true ∧
      noSetOperation cursor =
        .error ⟨.unsupportedSetOperation word, cursor.current.span⟩ cursor := by
  have looked : current cursor = .ok cursor.current cursor := rfl
  cases found : cursor.current.kind with
  | keyword word =>
      cases operation : isSetOperation word with
      | true =>
          exact .inr ⟨word, rfl, operation, noSetOperation_of_isSetOperation found operation⟩
      | false =>
          left
          rw [noSetOperation, bind_of_ok looked, found]
          cases word <;> first | rfl | cases operation
  | _ =>
      left
      rw [noSetOperation, bind_of_ok looked, found]
      rfl

end Checks

end Grammar

open SqlTree.Grammar

namespace Parser

variable {α β : Type}

/-- A query that starts somewhere in a run is read to its end, or it fails as the run does. -/
def QueryMet (start : Cursor) (levels : Nat) (outcome : Except Failure α) (stop : Cursor) : Prop :=
  (∃ body behind, query (rules levels) start = .ok body behind) ∨
    ∃ failure, outcome = .error failure ∧ query (rules levels) start = .error failure stop

/-- A failure lies at a set operation right behind a query that was read, which starts at a cursor
or behind it. -/
def IsSetOperation (cursor : Cursor) (failure : Failure) (stop : Cursor) : Prop :=
  ∃ places levels body word,
    selectBody (rules levels) (cursor.past places) = .ok body stop ∧
      stop.current.kind = .keyword word ∧ isSetOperation word = true ∧
        failure = ⟨.unsupportedSetOperation word, stop.current.span⟩

/-- From a cursor, a parser takes some tokens and comes to an outcome. Every `SELECT` among the
tokens starts a query that is met, and what is refused as not modelled is a set operation. -/
structure Confesses (parser : Parser α) (cursor : Cursor) (outcome : Except Failure α)
    (taken : Nat) : Prop where
  run : parser cursor = settled outcome (cursor.past taken)
  queries : ∀ places < taken, (cursor.peek places).kind = .keyword .SELECT →
    ∃ levels, QueryMet (cursor.past places) levels outcome (cursor.past taken)
  refused : ∀ failure, outcome = .error failure → failure.cause.isUnsupported = true →
    IsSetOperation cursor failure (cursor.past taken)

/-- A parser hides no query from a cursor. -/
def CandidAt (parser : Parser α) (cursor : Cursor) : Prop :=
  cursor.close.kind = .finish → ∃ outcome taken, parser.Confesses cursor outcome taken

/-- A parser hides no query. -/
def Candid (parser : Parser α) : Prop := ∀ cursor, CandidAt parser cursor

namespace Confesses

variable {parser : Parser α} {next : α → Parser β} {cursor : Cursor} {value : α}
  {result : Except Failure β} {failure : Failure} {taken more : Nat}

/-- A parser that takes nothing hides no query, where it refuses nothing as not modelled. -/
theorem still {outcome : Except Failure α} (run : parser cursor = settled outcome cursor)
    (supported : ∀ failure, outcome = .error failure → failure.cause.isUnsupported = false) :
    parser.Confesses cursor outcome 0 where
  run := by rwa [Cursor.past_zero]
  queries := nofun
  refused failure failed unsupported := by
    rw [supported failure failed] at unsupported
    cases unsupported

/-- Behind a success the next parser goes on. -/
theorem bind (first : parser.Confesses cursor (.ok value) taken)
    (second : (next value).Confesses (cursor.past taken) result more) :
    (parser >>= next).Confesses cursor result (taken + more) where
  run := by
    rw [bind_of_ok first.run, second.run, Cursor.past_past]
  queries places bound starts := by
    by_cases early : places < taken
    · obtain ⟨levels, met⟩ := first.queries places early starts
      rcases met with read | ⟨_, failed, _⟩
      · exact ⟨levels, .inl read⟩
      · cases failed
    · have behind := second.queries (places - taken) (by omega)
      rw [Cursor.peek_past, Cursor.past_past, Cursor.past_past,
        Nat.add_sub_cancel' (Nat.le_of_not_lt early)] at behind
      exact behind starts
  refused failure failed unsupported := by
    obtain ⟨places, levels, body, word, read, rest⟩ := second.refused failure failed unsupported
    rw [Cursor.past_past] at read
    rw [Cursor.past_past] at read rest
    exact ⟨taken + places, levels, body, word, read, rest⟩

/-- Behind a failure nothing happens. -/
theorem bind_error (first : parser.Confesses cursor (.error failure) taken) :
    (parser >>= next).Confesses cursor (.error failure) taken where
  run := bind_of_error first.run
  queries places bound starts := by
    obtain ⟨levels, read | ⟨other, same, failed⟩⟩ := first.queries places bound starts
    · exact ⟨levels, .inl read⟩
    · cases same
      exact ⟨levels, .inr ⟨failure, rfl, failed⟩⟩
  refused other same := by
    cases same
    exact first.refused failure rfl

end Confesses

namespace CandidAt

variable {parser other : Parser α} {next : α → Parser β} {cursor : Cursor}

/-- What runs as a candid parser does is candid. -/
theorem of_run (candid : CandidAt other cursor) (same : parser cursor = other cursor) :
    CandidAt parser cursor := by
  intro closed
  obtain ⟨outcome, taken, confesses⟩ := candid closed
  exact ⟨outcome, taken, same.trans confesses.run, confesses.queries, confesses.refused⟩

theorem bind (first : CandidAt parser cursor)
    (second : ∀ value taken, CandidAt (next value) (cursor.past taken)) :
    CandidAt (parser >>= next) cursor := by
  intro closed
  obtain ⟨outcome, taken, confesses⟩ := first closed
  cases outcome with
  | error failure => exact ⟨_, taken, confesses.bind_error⟩
  | ok value =>
      obtain ⟨result, more, behind⟩ := second value taken closed
      exact ⟨result, taken + more, confesses.bind behind⟩

/-- What is only read off the cursor hides nothing. -/
theorem read_bind {γ : Type} {read : Cursor → γ} {next : γ → Parser β}
    (after : CandidAt (next (read cursor)) cursor) :
    CandidAt ((fun cursor => .ok (read cursor) cursor : Parser γ) >>= next) cursor :=
  after.of_run rfl

/-- A token that may be taken and is no `SELECT` may be passed. -/
theorem advance_bind {next : Token → Parser β} (plain : cursor.current.kind.isPlain = true)
    (other : cursor.current.kind ≠ .keyword .SELECT)
    (after : CandidAt (next cursor.current) (cursor.past 1)) :
    CandidAt (advance >>= next) cursor := by
  intro closed
  have first : advance.Confesses cursor (.ok cursor.current) 1 := {
    run := by
      rw [← Cursor.advance_of_isPlain closed plain]
      rfl
    queries := fun places bound starts => by
      obtain rfl : places = 0 := Nat.lt_one_iff.mp bound
      exact absurd starts other
    refused := fun _ failed => by cases failed }
  obtain ⟨result, more, behind⟩ := after closed
  exact ⟨result, 1 + more, first.bind behind⟩

end CandidAt

namespace Candid

variable {parser : Parser α} {next : α → Parser β} {kind : TokenKind}

theorem pure (value : α) : Candid (pure value) :=
  fun cursor _ => ⟨.ok value, 0, .still rfl fun _ failed => by cases failed⟩

theorem fail {cause : Cause} {span : Span} (supported : cause.isUnsupported = false) :
    Candid (fail cause span : Parser α) := by
  refine fun cursor _ => ⟨.error ⟨cause, span⟩, 0, .still rfl ?_⟩
  rintro _ ⟨⟩
  exact supported

theorem unexpected {expected : Expectation} : Candid (unexpected expected : Parser α) := by
  refine fun cursor _ => ⟨.error _, 0, .still rfl ?_⟩
  rintro _ ⟨⟩
  rfl

theorem bind (first : Candid parser) (second : ∀ value, Candid (next value)) :
    Candid (parser >>= next) :=
  fun cursor => (first cursor).bind fun value _ => second value _

theorem map {function : α → β} (candid : Candid parser) : Candid (function <$> parser) := by
  rw [map_eq_pure_bind]
  exact candid.bind fun _ => pure _

/-- What is only read off the cursor hides nothing. -/
theorem read_bind {γ : Type} {read : Cursor → γ} {next : γ → Parser β}
    (after : ∀ value, Candid (next value)) :
    Candid ((fun cursor => .ok (read cursor) cursor : Parser γ) >>= next) :=
  fun cursor => (after (read cursor) cursor).read_bind

/-- A parser that takes the current token where it chooses it, and else fails at it. -/
theorem of_choice (choose : TokenKind → Option α) (expected : Expectation)
    (plain : ∀ kind value, choose kind = some value →
      kind.isPlain = true ∧ kind ≠ .keyword .SELECT)
    (spec : ∀ cursor, parser cursor = match choose cursor.current.kind with
      | some value => .ok value cursor.advance
      | none => Parser.unexpected expected cursor) :
    Candid parser := by
  intro cursor
  cases found : choose cursor.current.kind with
  | some value =>
      obtain ⟨plain, other⟩ := plain _ _ found
      have taken : CandidAt (do let _ ← Parser.advance; return value) cursor :=
        CandidAt.advance_bind plain other (pure value _)
      refine taken.of_run ?_
      rw [spec, found]
      rfl
  | none =>
      have refused : CandidAt (Parser.unexpected expected : Parser α) cursor := unexpected cursor
      refine refused.of_run ?_
      rw [spec, found]

theorem eat (plain : kind.isPlain = true) (other : kind ≠ .keyword .SELECT) :
    Candid (eat kind) := by
  intro cursor
  by_cases found : cursor.current.kind = kind
  · have taken : CandidAt (do let _ ← advance; return true) cursor :=
      CandidAt.advance_bind (found ▸ plain) (found ▸ other) (pure true _)
    exact taken.of_run (if_pos found)
  · exact (pure false cursor).of_run (if_neg found)

theorem eatSymbol (mark : Symbol) : Candid (eatSymbol mark) := eat rfl nofun

theorem eatKeyword (word : Keyword) (other : word ≠ .SELECT) :
    Candid (eatKeyword word) :=
  eat rfl fun same => other (TokenKind.keyword.inj same)

theorem eatName (name : String) : Candid (eatName name) := eat rfl nofun

/-- Behind a token that was taken if it was there, a choice goes on. -/
theorem choice {guard : Parser Bool} {yes no : Parser α} (first : Candid guard)
    (present : Candid yes) (absent : Candid no) :
    Candid (do if ← guard then yes else no) := by
  refine first.bind fun found => ?_
  cases found with
  | true => exact present
  | false => exact absent

theorem expectSymbol (mark : Symbol) : Candid (expectSymbol mark) :=
  (eatSymbol mark).choice (pure ()) unexpected

theorem expectKeyword (word : Keyword) (other : word ≠ .SELECT) :
    Candid (expectKeyword word) :=
  (eatKeyword word other).choice (pure ()) unexpected

theorem expectName : Candid expectName := by
  refine of_choice TokenKind.name? .identifier (fun kind name named => ?_) fun cursor => ?_
  · refine ⟨isPlain_of_name? named, ?_⟩
    rintro rfl
    cases named
  · unfold Parser.expectName
    cases cursor.current.kind.name? <;> rfl

section Lists

variable {item : Parser (Option α)}

theorem collectWithin (candid : Candid item) (fuel : Nat) : Candid (collectWithin item fuel) := by
  induction fuel with
  | zero => exact pure []
  | succ fuel inductionHypothesis =>
      refine candid.bind fun found => ?_
      cases found with
      | none => exact pure []
      | some value => exact inductionHypothesis.bind fun _ => pure _

theorem collect (candid : Candid item) : Candid (collect item) :=
  read_bind fun _ => candid.collectWithin _

theorem manyAfter {guard : Parser Bool} {item : Parser α} (first : Candid guard)
    (candid : Candid item) : Candid (manyAfter guard item) :=
  (first.choice (candid.bind fun _ => pure _) (pure none)).collect

theorem separated {item : Parser α} (candid : Candid item) : Candid (separated item) :=
  candid.bind fun _ => ((eatSymbol .comma).manyAfter candid).bind fun _ => pure _

theorem optionalAfter (word : Keyword) {item : Parser α} (candid : Candid item)
    (other : word ≠ .SELECT) : Candid (optionalAfter word item) :=
  (eatKeyword word other).choice (candid.bind fun _ => pure _) (pure none)

theorem parenthesized {item : Parser α} (candid : Candid item) : Candid (parenthesized item) :=
  (expectSymbol .leftParen).bind fun _ => candid.bind fun _ =>
    (expectSymbol .rightParen).bind fun _ => pure _

end Lists

end Candid

end Parser

end SqlTree
