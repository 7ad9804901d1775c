import SqlTree.Proofs.Grammar.Admission
import SqlTree.Proofs.Grammar.Blindness
import SqlTree.Proofs.Grammar.EnclosedRules
import SqlTree.Proofs.Grammar.Independence
import SqlTree.Proofs.Grammar.Statements

/-!
# Subqueries

A query that is accepted as a statement is accepted, as the same query, wherever the grammar has
room for one: in parentheses, behind `IN` and `EXISTS`, behind the target of an insertion, and as a
table. Only the levels may run out there, because a query in parentheses takes one more than a
statement.
-/

namespace SqlTree

open SqlTree.Parser SqlTree.Grammar

section Query

/-- Tokens of some kinds are admitted as a query by the rules on every level, before whatever can
close a subquery. -/
structure AdmitsQuery (query : Select) (kinds : List TokenKind) : Prop where
  opens : ∃ others, kinds = .keyword .SELECT :: others
  going : Going kinds
  admits : ∀ levels rest, (kindAt rest 0).Closes →
    Admits (rules levels).query kinds query rest

/-- A parser makes a value at a cursor, and stops at another one. -/
def Parser.Makes {α : Type} (parser : Parser α) (cursor : Cursor) (value : α) (stopped : Cursor) :
    Prop :=
  parser cursor = .ok value stopped

namespace Parser.Makes

variable {α β : Type} {parser : Parser α} {make : α → β} {cursor stopped : Cursor} {result : β}

/-- What is returned is made of what was read. -/
theorem returned (makes : Makes (do return make (← parser)) cursor result stopped) :
    ∃ value, make value = result ∧ parser.Makes cursor value stopped := by
  obtain ⟨value, between, first, returned⟩ := ok_of_bind_ok makes
  cases returned
  exact ⟨value, rfl, first⟩

theorem ne_of_differs (differs : ∀ value, make value ≠ result) :
    ¬ Makes (do return make (← parser)) cursor result stopped := by
  intro makes
  obtain ⟨value, same, _⟩ := makes.returned
  exact differs value same

theorem not_unsupported (verb : Keyword) (takesObject : Bool) :
    ¬ (unsupportedStatement verb takesObject : Parser β).Makes cursor result stopped := by
  intro makes
  obtain ⟨_, _, _, failed⟩ := ok_of_bind_ok makes
  cases failed

end Parser.Makes

/-- Only what starts with `SELECT` is a statement that selects rows. -/
theorem Grammar.query_of_body {cursor stopped : Cursor} {query : Select}
    (makes : statementBody.Makes cursor (.select query) stopped) :
    cursor.current.kind = .keyword .SELECT ∧ topRules.query.Makes cursor query stopped := by
  have looked {places : Nat} {next : TokenKind → Parser Statement}
      (makes : (look places >>= next).Makes cursor (.select query) stopped) :
      (next (cursor.peek places).kind).Makes cursor (.select query) stopped := makes
  unfold statementBody at makes
  replace makes := looked makes
  split at makes
  · next found =>
      obtain ⟨_, same, first⟩ := makes.returned
      cases same
      exact ⟨found, first⟩
  · exact absurd makes (Makes.ne_of_differs fun _ => Statement.noConfusion)
  · exact absurd makes (Makes.ne_of_differs fun _ => Statement.noConfusion)
  · exact absurd makes (Makes.ne_of_differs fun _ => Statement.noConfusion)
  · replace makes := looked makes
    replace makes := looked makes
    split at makes
    · exact absurd makes (Makes.ne_of_differs fun _ => Statement.noConfusion)
    · exact absurd makes (Makes.not_unsupported _ _)
  · replace makes := looked makes
    split at makes
    · exact absurd makes (Makes.ne_of_differs fun _ => Statement.noConfusion)
    · exact absurd makes (Makes.not_unsupported _ _)
  · replace makes := looked makes
    split at makes
    · exact absurd makes (Makes.ne_of_differs fun _ => Statement.noConfusion)
    · exact absurd makes (Makes.not_unsupported _ _)
  · exact absurd makes (Makes.not_unsupported _ _)
  · exact absurd makes (Makes.not_unsupported _ _)
  · cases makes

/-- A token that is seen ahead and does not end the input stands there. -/
theorem mem_of_kindAt {kinds : List TokenKind} {places : Nat} (going : kindAt kinds places ≠ .finish) :
    kindAt kinds places ∈ kinds := by
  unfold kindAt at going ⊢
  cases found : kinds[places]? with
  | none =>
      rw [found] at going
      exact absurd rfl going
  | some kind => exact List.mem_of_getElem? found

/-- What is accepted as a statement that selects rows, up to the end of its tokens, is accepted as a
query. -/
theorem AdmitsQuery.of_statement {kinds : List TokenKind} {query : Select}
    {alone stopped : Cursor} (going : Going kinds) (noSemicolon : .symbol .semicolon ∉ kinds)
    (faces : alone.Faces kinds) (parsed : Grammar.statement alone = .ok (.select query) stopped) :
    AdmitsQuery query kinds := by
  have other {places : Nat} : kindAt kinds places ≠ .symbol .semicolon := by
    intro semicolon
    have goes : kindAt kinds places ≠ .finish := by simp [semicolon]
    exact noSemicolon (semicolon ▸ mem_of_kindAt goes)
  obtain ⟨between, body, terminates⟩ := body_of_statement faces other parsed
  obtain ⟨selects, makes⟩ := query_of_body body
  have steady := (rules_areSteady maximalNesting).query
  obtain ⟨taken, rfl, _, _⟩ := steady.stopped_of_ok faces.closed makes
  have ends : (alone.past taken).current.kind = .finish := by
    rcases TokenKind.eq_of_isTerminator terminates with finish | semicolon
    · exact finish
    · rw [Cursor.current_past, faces.peek_kind] at semicolon
      exact absurd semicolon other
  refine ⟨?_, going, fun levels rest closes cursor facesToo => ?_⟩
  · rw [faces.current_kind] at selects
    cases kinds with
    | nil => cases selects
    | cons kind others =>
        obtain rfl : kind = .keyword .SELECT := selects
        exact ⟨others, rfl⟩
  · have enclosed : alone.Enclosed cursor rest := ⟨closes, kinds, going, faces, facesToo⟩
    have carried := (rules_carriedTo maximalNesting levels).query enclosed
    rw [show (rules maximalNesting).query alone = _ from makes] at carried
    generalize ran : (rules levels).query cursor = result at carried
    cases carried with
    | ok _ enclosedBehind =>
        have left := enclosedBehind.faces_behind ends
        obtain ⟨count, rfl, clear, _⟩ :=
          (rules_areSteady levels).query.stopped_of_ok facesToo.closed ran
        have inside := clear.inside facesToo.closed
        have size := left.length_ahead
        rw [Cursor.past, List.length_drop, facesToo.length_ahead, List.length_append] at size
        rw [facesToo.length_ahead, List.length_append] at inside
        obtain rfl : count = kinds.length := by omega
        exact .inl rfl
    | deep _ span => exact .inr ⟨span, _, rfl⟩

end Query

namespace AdmitsQuery

variable {query : Select} {kinds rest : List TokenKind}

/-- A query is admitted where the rule finds the `SELECT` first. -/
theorem behindSelect {α : Type} (admits : AdmitsQuery query kinds) (levels : Nat)
    (closes : (kindAt rest 0).Closes) {next : Parser α} {yes : Select → α} :
    Admits (do
      if ← atKeyword .SELECT then return yes (← (rules levels).query) else next)
      kinds (yes query) rest := by
  obtain ⟨others, rfl⟩ := admits.opens
  exact Admits.bind_none (Reads.atKeyword_true rfl)
    (Admits.bind_last (admits.admits levels rest closes) (Reads.pure _ _))

/-- A query in parentheses is an operand. -/
theorem scalar (admits : AdmitsQuery query kinds) (levels : Nat) :
    Admits (operand (rules levels)) (inParens kinds) (.select query) rest :=
  Admits.bind_none (Reads.look _ 0) (Admits.bind_none (Reads.look _ 0)
    (Admits.parenthesized (admits.behindSelect levels (.inr rfl))))

/-- The test whether a query has rows is an operand. -/
theorem existence (admits : AdmitsQuery query kinds) (levels : Nat) :
    Admits (operand (rules levels)) (.keyword .EXISTS :: inParens kinds)
      (.call (.plain "exists") [.select query] false) rest := by
  apply Admits.bind_none (Reads.look _ 0)
  apply Admits.bind_none (Reads.look _ 0)
  apply Admits.bind_none (Reads.look _ 1)
  exact Admits.bind_one (Reads.expectKeyword _ _) (Admits.bind_last
    (Admits.parenthesized (admits.admits levels _ (.inr rfl))) (Reads.pure _ _))

/-- A query behind `IN` is the one entry of the list. -/
theorem membership (admits : AdmitsQuery query kinds) (levels : Nat) :
    Admits (nextSuffix (rules levels) 0) (.keyword .IN :: inParens kinds)
      (some (.inList [.select query] false)) rest := by
  apply Admits.bind_none (Reads.look _ 0)
  apply Admits.bind_none (Reads.look _ 1)
  refine Admits.bind_last (Admits.advance_bind nofun ?_) (Reads.pure _ _)
  rintro ⟨first, span⟩ (rfl : first = _)
  exact Admits.bind_none (Reads.pure _ _)
    (Admits.parenthesized (admits.behindSelect levels (.inr rfl)))

/-- A query in parentheses with an alias is a table. -/
theorem source (admits : AdmitsQuery query kinds) (levels : Nat) (aliasName : String)
    (ends : EndsTable (kindAt rest 0)) :
    Admits (tableFactor (rules levels)) (inParens kinds ++ aliasKinds (some aliasName))
      (.subquery query aliasName) rest := by
  have behind : Reads optionalAlias (aliasKinds (some aliasName)) (some aliasName) rest :=
    Reads.optionalAlias (some aliasName) ends.plain ends.ends
  have read := admits.admits levels
    (.symbol .rightParen :: (aliasKinds (some aliasName) ++ rest)) (.inr rfl)
  obtain ⟨others, rfl⟩ := admits.opens
  have shape : inParens (.keyword .SELECT :: others) ++ aliasKinds (some aliasName)
      = .symbol .leftParen :: ((.keyword .SELECT :: others) ++
        .symbol .rightParen :: aliasKinds (some aliasName)) := by
    simp [inParens]
  rw [shape]
  exact Admits.bind_one (Reads.eatSymbol _ _) (Admits.bind_none (Reads.atKeyword_true rfl)
    (Admits.bind read (Admits.bind_one (Reads.expectSymbol _ _)
      (Admits.bind_last behind.admits (Reads.pure _ _)))))

/-- The test whether a column is in a query is an expression. -/
theorem membershipExpression (admits : AdmitsQuery query kinds) (levels : Nat) (column : String) :
    Admits ((rules (levels + 1)).expression 0)
      (.identifier column :: .keyword .IN :: inParens kinds)
      (.inList (.column column) [.select query] false) [] := by
  have stops : Reads (nextSuffix (rules levels) 0) [] none [] :=
    Reads.nextSuffix_none (EndsExpression.follows ⟨rfl, fun _ => rfl⟩ 0)
  refine Admits.bind_one (Reads.nameExpression_reference none column rfl) ?_
  exact Admits.bind_last (Admits.collect_one (List.cons_ne_nil _ _) (admits.membership levels)
    stops) (Reads.pure _ _)

/-- The rows of an insertion may be those of a query. -/
theorem insertion (admits : AdmitsQuery query kinds) (target : String) :
    Admits insert (.keyword .INSERT :: .keyword .INTO :: .identifier target :: kinds)
      { target := .plain target, columns := [], source := .query query, returning := [] } [] := by
  have read := admits.admits maximalNesting [] (.inl rfl)
  obtain ⟨others, rfl⟩ := admits.opens
  have rows : Admits insertSource (.keyword .SELECT :: others) (.query query) [] :=
    Admits.bind_none (Reads.eat_false nofun) (Admits.bind_none (Reads.atKeyword_true rfl)
      (Admits.bind_last read (Reads.pure _ _)))
  have noColumns : Reads targetColumns [] [] (.keyword .SELECT :: (others ++ [])) :=
    Reads.bind_none (Reads.eat_false nofun) (Reads.pure _ _)
  have unreturned : Reads returning [] [] [] :=
    Reads.bind_none (Reads.optionalAfter_none _ _) (Reads.pure _ _)
  exact Admits.bind_one (Reads.expectKeyword _ _) (Admits.bind_one (Reads.expectKeyword _ _)
    (Admits.bind_one (Reads.objectName (.plain target) nofun) (Admits.bind_none noColumns
      (Admits.bind_last rows (Reads.bind_none unreturned (Reads.pure _ _))))))

/-- The only table of a query may be another query. -/
theorem sourceQuery (admits : AdmitsQuery query kinds) (levels : Nat) (aliasName : String) :
    Admits (rules (levels + 2)).query (.keyword .SELECT :: .integer 1 :: .keyword .FROM ::
        (inParens kinds ++ [.keyword .AS, .identifier aliasName]))
      { distinct := false, columns := [⟨.literal (.integer 1), none⟩]
        source := some (.subquery query aliasName), filter := none, groupBy := [], having := none
        orderBy := [], limit := none, offset := none } [] := by
  have ends : EndsTable (kindAt [] 0) := ⟨⟨rfl, fun _ => rfl⟩, nofun⟩
  have constant : ReadsColumn (levels + 1) ⟨.literal (.integer 1), none⟩ [.integer 1] :=
    ReadsColumn.value none (ReadsOperand.of_operand rfl fun rest _ =>
      Reads.operand_of_literal (.integer 1) rest)
  have columns {rest : List TokenKind} :
      Reads (outputColumns (rules (levels + 1))) [.integer 1] [⟨.literal (.integer 1), none⟩]
        (.keyword .FROM :: rest) := by
    have later : 0 < clausePlace (kindAt (.keyword .FROM :: rest) 0) := Nat.one_pos
    exact Reads.outputColumns (List.cons_ne_nil ⟨_, [.integer 1]⟩ [])
      (List.forall_mem_singleton.mpr constant) later
  have noJoin : Reads (collect (nextJoin (rules (levels + 1)))) [] [] [] := by
    apply ReadsEach.collect
    exact .none (Reads.nextJoin_none (Nat.zero_lt_succ 8))
  have noTable :
      Reads (manyAfter (eatSymbol .comma) (joinedTables (rules (levels + 1)))) [] [] [] := by
    apply ReadsEach.collect
    exact .none (Reads.bind_none (Reads.eat_false nofun) (Reads.pure _ _))
  have table : Admits (joinedTables (rules (levels + 1)))
      (inParens kinds ++ [.keyword .AS, .identifier aliasName]) (.subquery query aliasName) [] :=
    Admits.bind_last (admits.source (levels + 1) aliasName ends)
      (Reads.bind_none noJoin (Reads.pure _ _))
  have tables : Admits (tableList (rules (levels + 1)))
      (inParens kinds ++ [.keyword .AS, .identifier aliasName]) (.subquery query aliasName) [] :=
    table.bind_last (Reads.bind_none noTable (Reads.pure _ _))
  have source : Admits (optionalAfter .FROM (tableList (rules (levels + 1))))
      (.keyword .FROM :: (inParens kinds ++ [.keyword .AS, .identifier aliasName]))
      (some (.subquery query aliasName)) [] :=
    Admits.bind_one (Reads.eatKeyword _ _) (Admits.bind_last tables (Reads.pure _ _))
  have plain : [] ∈ distinctWords false := List.mem_cons_self
  refine Admits.bind_one (Reads.expectKeyword _ _) (Admits.bind_none
    (Reads.distinctness plain ⟨nofun, nofun⟩) (Admits.bind_one columns
      (Admits.bind_last source ?_)))
  exact Reads.bind_none (Reads.optionalAfter_none _ _) (Reads.bind_none (Reads.listBy_none _ _)
    (Reads.bind_none (Reads.optionalAfter_none _ _) (Reads.bind_none (Reads.listBy_none _ _)
      (Reads.bind_none (Reads.optionalAfter_none _ _)
        (Reads.bind_none (Reads.optionalAfter_none _ _)
          (Reads.bind_none (Reads.noSetOperation (Nat.le_succ 8)) (Reads.pure _ _)))))))

end AdmitsQuery

section Places

/-- A place that the grammar has for a query. -/
inductive QueryPlace where
  /-- An expression of its own. -/
  | scalar
  /-- The list that a column is looked for in. -/
  | membership (column : String)
  /-- The test for rows. -/
  | existence
  /-- The rows of an insertion. -/
  | insertion (target : String)
  /-- The table of another query. -/
  | source (aliasName : String)

namespace QueryPlace

/-- The kinds of the tokens at a place, around those of the query. -/
def around (place : QueryPlace) (kinds : List TokenKind) : List TokenKind :=
  match place with
  | scalar => inParens kinds
  | membership column => .identifier column :: .keyword .IN :: inParens kinds
  | existence => .keyword .EXISTS :: inParens kinds
  | insertion target => .keyword .INSERT :: .keyword .INTO :: .identifier target :: kinds
  | source aliasName =>
    .keyword .SELECT :: .integer 1 :: .keyword .FROM ::
      (inParens kinds ++ [.keyword .AS, .identifier aliasName])

/-- The step that reads what stands at a place. -/
def step : QueryPlace → Step
  | scalar | membership _ | existence => .expression
  | insertion _ | source _ => .statement

/-- What stands at a place, with a query in it. -/
def answer (place : QueryPlace) (query : Select) : Answer :=
  match place with
  | scalar => .expression (.select query)
  | membership column => .expression (.inList (.column column) [.select query] false)
  | existence => .expression (.call (.plain "exists") [.select query] false)
  | insertion target => .statement (.insert
      { target := .plain target, columns := [], source := .query query, returning := [] })
  | source aliasName => .statement (.select
      { distinct := false, columns := [⟨.literal (.integer 1), none⟩]
        source := some (.subquery query aliasName), filter := none, groupBy := [], having := none
        orderBy := [], limit := none, offset := none })

theorem going_around (place : QueryPlace) {kinds : List TokenKind} (going : Going kinds) :
    Going (place.around kinds) := by
  cases place <;> simp [around, going]

end QueryPlace

/-- A query is admitted at every place for one. -/
theorem AdmitsQuery.at_place {query : Select} {kinds : List TokenKind}
    (admits : AdmitsQuery query kinds) (place : QueryPlace) :
    Admits place.step.parser (place.around kinds) (place.answer query) [] := by
  cases place with
  | scalar => exact (admits.scalar 127).expression.map
  | existence => exact (admits.existence 127).expression.map
  | membership column => exact (admits.membershipExpression 127 column).map
  | insertion target =>
      have body : Admits statementBody _ (.insert _) [] :=
        Admits.bind_none (Reads.look _ 0) (admits.insertion target).map
      exact (body.statement nofun).map
  | source aliasName =>
      have body : Admits statementBody _ (.select _) [] :=
        Admits.bind_none (Reads.look _ 0) (admits.sourceQuery 126 aliasName).map
      exact (body.statement nofun).map

/-- Whatever is accepted as a statement that selects rows is accepted at every place for a query, as
the same query, up to the end of the stream, unless it is nested too deeply there. The query has no
semicolon behind it and no end of input in it. -/
theorem QueryPlace.run_around {query : List Token} {select : Select}
    (plain : ∀ token ∈ query, token.kind ≠ .finish ∧ token.kind ≠ .symbol .semicolon)
    (accepted : (Step.statement.run (.ofTokens query)).1 = .ok (.statement (.select select)))
    (place : QueryPlace) {tokens : List Token}
    (spells : Spells tokens (place.around (query.map Token.kind))) :
    (∃ cursor, place.step.run (.ofTokens tokens) = (.ok (place.answer select), cursor) ∧
      cursor.current.kind = .finish) ∨
    ∃ span cursor, place.step.run (.ofTokens tokens)
      = (.error ⟨.nestedTooDeeply, span⟩, cursor) := by
  have missing {kind : TokenKind} (other : ∀ token ∈ query, token.kind ≠ kind) :
      kind ∉ query.map Token.kind := by
    intro among
    obtain ⟨token, present, same⟩ := List.mem_map.mp among
    exact other token present same
  have going : Going (query.map Token.kind) := missing fun token among => (plain token among).1
  have parsed := Step.parser_of_answered accepted
  change (Answer.statement <$> Grammar.statement) (.ofTokens query) = _ at parsed
  rw [map_eq_pure_bind] at parsed
  obtain ⟨body, same, statement⟩ := Makes.returned parsed
  cases same
  have admits : AdmitsQuery select (query.map Token.kind) :=
    .of_statement going (missing fun token among => (plain token among).2)
      (Cursor.faces_ofTokens going (.inl rfl)) statement
  have answers := (admits.at_place place).ofTokens (place.going_around going) spells
  rcases answers with ⟨cursor, ran, ends⟩ | ⟨span, cursor, ran⟩
  · exact .inl ⟨cursor, by rw [Step.run, ran], ends⟩
  · exact .inr ⟨span, cursor, by rw [Step.run, ran]⟩

/-- `EXISTS (SELECT x)` is read with the query that `SELECT x` is. -/
theorem QueryPlace.run_around_existence :
    (Step.statement.run (.ofTokens [⟨.keyword .SELECT, ⟨0, 6⟩⟩, ⟨.identifier "x", ⟨7, 8⟩⟩])).1
        = .ok (.statement (.select
          ⟨false, [⟨.column "x", none⟩], none, none, [], none, [], none, none⟩)) ∧
      ∃ cursor, Step.expression.run (.ofTokens
          [⟨.keyword .EXISTS, ⟨0, 6⟩⟩, ⟨.symbol .leftParen, ⟨7, 8⟩⟩, ⟨.keyword .SELECT, ⟨8, 14⟩⟩,
            ⟨.identifier "x", ⟨15, 16⟩⟩, ⟨.symbol .rightParen, ⟨16, 17⟩⟩])
        = (.ok (.expression (.call (.plain "exists") [.select
          ⟨false, [⟨.column "x", none⟩], none, none, [], none, [], none, none⟩] false)), cursor) ∧
        cursor.current.kind = .finish := by
  have accepted : (Step.statement.run
      (.ofTokens [⟨.keyword .SELECT, ⟨0, 6⟩⟩, ⟨.identifier "x", ⟨7, 8⟩⟩])).1
        = .ok (.statement (.select
          ⟨false, [⟨.column "x", none⟩], none, none, [], none, [], none, none⟩)) := rfl
  have spells : Spells
      [⟨.keyword .EXISTS, ⟨0, 6⟩⟩, ⟨.symbol .leftParen, ⟨7, 8⟩⟩, ⟨.keyword .SELECT, ⟨8, 14⟩⟩,
        ⟨.identifier "x", ⟨15, 16⟩⟩, ⟨.symbol .rightParen, ⟨16, 17⟩⟩]
      (QueryPlace.existence.around [.keyword .SELECT, .identifier "x"]) := .inl rfl
  refine ⟨accepted, ?_⟩
  rcases QueryPlace.run_around (by decide) accepted .existence spells with taken | deep
  · exact taken
  · obtain ⟨span, cursor, deep⟩ := deep
    cases congrArg Prod.fst deep

end Places

end SqlTree
