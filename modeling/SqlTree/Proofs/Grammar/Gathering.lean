import SqlTree.Proofs.Grammar.Consuming
import SqlTree.Proofs.Grammar.SteadyRules
import SqlTree.Proofs.Tree.Throughout

/-!
# Calls throughout expressions and queries

Every call below what a parser makes was read by the rule of names or by the test of existence,
somewhere in the stream from which the parser started. So what holds of all calls that these two
rules read there holds of all calls throughout the tree.
-/

namespace SqlTree

/-- A cursor stands somewhere in the stream that another one has ahead. -/
structure Cursor.LeadsTo (origin cursor : Cursor) : Prop where
  closed : origin.close.kind = .finish
  past : ∃ count, cursor = origin.past count

namespace Cursor.LeadsTo

variable {origin cursor : Cursor}

theorem refl (closed : origin.close.kind = .finish) : origin.LeadsTo origin :=
  ⟨closed, 0, origin.past_zero.symm⟩

theorem closedHere (leads : origin.LeadsTo cursor) : cursor.close.kind = .finish := by
  obtain ⟨closed, _, rfl⟩ := leads
  exact closed

theorem on (leads : origin.LeadsTo cursor) (count : Nat) :
    origin.LeadsTo (cursor.past count) := by
  obtain ⟨closed, before, rfl⟩ := leads
  exact ⟨closed, before + count, origin.past_past before count⟩

theorem advance (leads : origin.LeadsTo cursor) : origin.LeadsTo cursor.advance := by
  by_cases ends : cursor.current.kind = .finish
  · have still : cursor.advance = cursor := by
      unfold Cursor.advance
      split
      · rfl
      · next token ahead found =>
          rw [Cursor.current, peek, found] at ends
          exact if_pos ends
    rwa [still]
  · rw [advance_of_ne leads.closedHere ends]
    exact leads.on 1

/-- What is read from a place of the stream is a part of the stream. -/
theorem infix_of_faces (leads : origin.LeadsTo cursor) {kinds rest : List TokenKind}
    (faces : cursor.Faces (kinds ++ rest)) : kinds <:+: origin.ahead.map Token.kind := by
  obtain ⟨_, count, rfl⟩ := leads
  refine ⟨(origin.ahead.take count).map Token.kind, rest, ?_⟩
  rw [List.append_assoc, ← faces.ahead, Cursor.past, ← List.map_append, List.take_append_drop]

end Cursor.LeadsTo

namespace Parser

variable {α β : Type}

/-- Every value that a parser makes somewhere in a stream is of a certain sort, and the parser stops
in the stream. -/
def YieldsFrom (origin : Cursor) (parser : Parser α) (sort : α → Prop) : Prop :=
  ∀ ⦃cursor : Cursor⦄, origin.LeadsTo cursor → ∀ ⦃value : α⦄ ⦃stopped : Cursor⦄,
    parser cursor = .ok value stopped → origin.LeadsTo stopped ∧ sort value

namespace YieldsFrom

variable {origin : Cursor} {parser : Parser α} {next : α → Parser β} {sort : α → Prop}
  {sort' : β → Prop} {value : α}

theorem pure (holds : sort value) : YieldsFrom origin (pure value) sort := by
  rintro cursor leads _ _ ⟨⟩
  exact ⟨leads, holds⟩

theorem pureNone :
    YieldsFrom origin (Pure.pure none) fun found : Option α => ∀ value ∈ found, sort value :=
  pure nofun

theorem pureSome (holds : sort value) :
    YieldsFrom origin (Pure.pure (some value)) fun found => ∀ value ∈ found, sort value := by
  apply pure
  rintro _ ⟨⟩
  exact holds

theorem fail {cause : Cause} {span : Span} : YieldsFrom origin (fail cause span) sort := by
  rintro cursor leads _ _ ⟨⟩

theorem unexpected {expected : Expectation} : YieldsFrom origin (unexpected expected) sort := by
  rintro cursor leads _ _ ⟨⟩

theorem unexpected_bind {expected : Expectation} :
    YieldsFrom origin (Parser.unexpected expected >>= next) sort' := by
  rintro cursor leads _ _ ⟨⟩

theorem bind (first : YieldsFrom origin parser sort)
    (second : ∀ value, sort value → YieldsFrom origin (next value) sort') :
    YieldsFrom origin (parser >>= next) sort' := by
  intro cursor leads result stopped parsed
  obtain ⟨value, between, firstParsed, secondParsed⟩ := ok_of_bind_ok parsed
  obtain ⟨leadsBetween, holds⟩ := first leads firstParsed
  exact second value holds leadsBetween secondParsed

theorem weaken {weak : α → Prop} (yields : YieldsFrom origin parser sort)
    (weaker : ∀ value, sort value → weak value) : YieldsFrom origin parser weak := by
  intro cursor leads value stopped parsed
  obtain ⟨leadsBehind, holds⟩ := yields leads parsed
  exact ⟨leadsBehind, weaker value holds⟩

theorem and {other : α → Prop} (yields : YieldsFrom origin parser sort)
    (yieldsToo : YieldsFrom origin parser other) :
    YieldsFrom origin parser fun value => sort value ∧ other value :=
  fun _ leads _ _ parsed =>
    ⟨(yields leads parsed).1, (yields leads parsed).2, (yieldsToo leads parsed).2⟩

/-- What a parser consumes is a part of the stream. -/
theorem of_consumes {said : α → List TokenKind → Prop} (consumes : Consumes parser said) :
    YieldsFrom origin parser fun value =>
      ∃ kinds, kinds <:+: origin.ahead.map Token.kind ∧ said value kinds := by
  intro cursor leads value stopped parsed
  obtain ⟨kinds, rest, faces, rfl, holds⟩ := consumes cursor leads.closedHere parsed
  exact ⟨leads.on _, kinds, leads.infix_of_faces faces, holds⟩

/-- Behind a steady parser the stream goes on. -/
theorem steady_bind (steady : Steady parser)
    (second : ∀ value, YieldsFrom origin (next value) sort') :
    YieldsFrom origin (parser >>= next) sort' :=
  (of_consumes (Consumes.of_moving steady)).bind fun value _ => second value

/-- What is only read off the cursor leaves it where it is. -/
theorem read_bind {γ : Type} {read : Cursor → γ} {next : γ → Parser β}
    (second : ∀ value, YieldsFrom origin (next value) sort') :
    YieldsFrom origin ((fun cursor => .ok (read cursor) cursor : Parser γ) >>= next) sort' :=
  fun cursor leads _ _ parsed => second (read cursor) leads parsed

theorem advance_bind {next : Token → Parser β}
    (second : ∀ token, YieldsFrom origin (next token) sort') :
    YieldsFrom origin (advance >>= next) sort' :=
  fun cursor leads _ _ parsed => second cursor.current leads.advance parsed

theorem eat_bind {kind : TokenKind} {next : Bool → Parser β}
    (second : ∀ found, YieldsFrom origin (next found) sort') :
    YieldsFrom origin (eat kind >>= next) sort' := by
  intro cursor leads value stopped parsed
  obtain ⟨found, between, eaten, rest⟩ := ok_of_bind_ok parsed
  refine second found ?_ rest
  unfold eat at eaten
  split at eaten
  · cases eaten
    exact leads.advance
  · cases eaten
    exact leads

theorem choice {kind : TokenKind} {yes no : Parser α} (present : YieldsFrom origin yes sort)
    (absent : YieldsFrom origin no sort) :
    YieldsFrom origin (do if ← eat kind then yes else no) sort := by
  refine eat_bind fun found => ?_
  cases found with
  | true => exact present
  | false => exact absent

theorem collectWithin {item : Parser (Option α)}
    (each : YieldsFrom origin item fun found => ∀ value ∈ found, sort value) (fuel : Nat) :
    YieldsFrom origin (collectWithin item fuel) fun values => ∀ value ∈ values, sort value := by
  induction fuel with
  | zero => exact pure (List.forall_mem_nil _)
  | succ fuel inductionHypothesis =>
      refine each.bind fun found holds => ?_
      cases found with
      | none => exact pure (List.forall_mem_nil _)
      | some value =>
          refine inductionHypothesis.bind fun values others => pure ?_
          exact List.forall_mem_cons.mpr ⟨holds value rfl, others⟩

theorem collect {item : Parser (Option α)}
    (each : YieldsFrom origin item fun found => ∀ value ∈ found, sort value) :
    YieldsFrom origin (collect item) fun values => ∀ value ∈ values, sort value :=
  read_bind fun _ => collectWithin each _

theorem manyAfter {kind : TokenKind} {item : Parser α} (each : YieldsFrom origin item sort) :
    YieldsFrom origin (manyAfter (eat kind) item) fun values => ∀ value ∈ values, sort value :=
  collect (choice (each.bind fun _ holds => pureSome holds) pureNone)

theorem separated {item : Parser α} (each : YieldsFrom origin item sort) :
    YieldsFrom origin (separated item) fun values => ∀ value ∈ values, sort value :=
  each.bind fun _ holds => (manyAfter each).bind fun _ others =>
    pure (List.forall_mem_cons.mpr ⟨holds, others⟩)

theorem optionalAfter (word : Keyword) {item : Parser α} (yields : YieldsFrom origin item sort) :
    YieldsFrom origin (optionalAfter word item) fun found => ∀ value ∈ found, sort value :=
  choice (yields.bind fun _ holds => pureSome holds) pureNone

theorem symbol_bind {mark : Symbol} {next : Unit → Parser β}
    (second : YieldsFrom origin (next ()) sort') :
    YieldsFrom origin (expectSymbol mark >>= next) sort' :=
  steady_bind (Taking.expectSymbol mark).steady fun _ => second

theorem keyword_bind {word : Keyword} {next : Unit → Parser β}
    (second : YieldsFrom origin (next ()) sort') :
    YieldsFrom origin (expectKeyword word >>= next) sort' :=
  steady_bind (Taking.expectKeyword word).steady fun _ => second

theorem parenthesized {item : Parser α} (yields : YieldsFrom origin item sort) :
    YieldsFrom origin (parenthesized item) sort :=
  symbol_bind (yields.bind fun _ holds => symbol_bind (pure holds))

end YieldsFrom

end Parser

end SqlTree
