import SqlTree.Proofs.Grammar.Repetition
import SqlTree.Proofs.Grammar.SteadyLists

/-!
# What parsers consume

A parser that succeeds consumes tokens. Their kinds, in the order of the stream, and the value that
the parser makes of them fit together, whatever stands behind them. This composes along the grammar:
the tokens of two parsers in turn are those of the first and then those of the second.
-/

namespace SqlTree.Parser

variable {α β : Type}

/-- Somewhere in a stream a parser takes exactly the tokens of some kinds, and makes a value of
them. -/
def CanRead (parser : Parser α) (kinds : List TokenKind) (value : α) : Prop :=
  ∃ (cursor : Cursor) (rest : List TokenKind), cursor.Faces (kinds ++ rest) ∧
    parser cursor = .ok value (cursor.past kinds.length)

/-- From a cursor, a parser that succeeds consumes tokens, of whose kinds something is said along
with its value. -/
def ConsumesAt (parser : Parser α) (cursor : Cursor) (said : α → List TokenKind → Prop) : Prop :=
  cursor.close.kind = .finish → ∀ ⦃value : α⦄ ⦃stopped : Cursor⦄,
    parser cursor = .ok value stopped → ∃ kinds rest, cursor.Faces (kinds ++ rest) ∧
      stopped = cursor.past kinds.length ∧ said value kinds

/-- From every cursor, a parser that succeeds consumes tokens of which something is said. -/
def Consumes (parser : Parser α) (said : α → List TokenKind → Prop) : Prop :=
  ∀ cursor, ConsumesAt parser cursor said

namespace ConsumesAt

variable {parser : Parser α} {next : α → Parser β} {cursor : Cursor}
  {said : β → List TokenKind → Prop} {saidFirst : α → List TokenKind → Prop}

theorem pure {value : β} (holds : said value []) : ConsumesAt (pure value) cursor said := by
  rintro closed _ _ ⟨⟩
  exact ⟨[], _, ⟨closed, rfl⟩, cursor.past_zero.symm, holds⟩

/-- What fails consumes nothing. -/
theorem fail {cause : Cause} {span : Span} : ConsumesAt (fail cause span) cursor said := by
  rintro closed _ _ ⟨⟩

theorem unexpected {expected : Expectation} : ConsumesAt (unexpected expected) cursor said := by
  rintro closed _ _ ⟨⟩

theorem bind (first : ConsumesAt parser cursor saidFirst)
    (second : ∀ value front, saidFirst value front →
      ConsumesAt (next value) (cursor.past front.length) fun result back =>
        said result (front ++ back)) :
    ConsumesAt (parser >>= next) cursor said := by
  intro closed result stopped parsed
  obtain ⟨value, between, firstParsed, secondParsed⟩ := ok_of_bind_ok parsed
  obtain ⟨front, behind, faces, rfl, holds⟩ := first closed firstParsed
  obtain ⟨back, rest, facesBack, rfl, holdsToo⟩ := second value front holds closed secondParsed
  obtain rfl : behind = back ++ rest := faces.past.ahead.symm.trans facesBack.ahead
  refine ⟨front ++ back, rest, ?_, ?_, holdsToo⟩
  · rwa [List.append_assoc]
  · rw [Cursor.past_past, List.length_append]

theorem weaken {strong : β → List TokenKind → Prop} {parser : Parser β}
    (consumes : ConsumesAt parser cursor strong)
    (weaker : ∀ value kinds, strong value kinds → said value kinds) :
    ConsumesAt parser cursor said := by
  intro closed value stopped parsed
  obtain ⟨kinds, rest, faces, past, holds⟩ := consumes closed parsed
  exact ⟨kinds, rest, faces, past, weaker value kinds holds⟩

/-- What is consumed starts with the current token, unless it is nothing. -/
theorem opening {parser : Parser β} (consumes : ConsumesAt parser cursor said) :
    ConsumesAt parser cursor fun value kinds =>
      said value kinds ∧ ∀ kind ∈ kinds.head?, kind = cursor.current.kind := by
  intro closed value stopped parsed
  obtain ⟨kinds, rest, faces, past, holds⟩ := consumes closed parsed
  refine ⟨kinds, rest, faces, past, holds, ?_⟩
  rw [faces.current_kind]
  cases kinds with
  | nil => exact nofun
  | cons first kinds =>
      rintro _ ⟨⟩
      rfl

/-- A rule may go by the cursor itself. -/
theorem get_bind {next : Cursor → Parser β} (after : ConsumesAt (next cursor) cursor said) :
    ConsumesAt (get >>= next) cursor said :=
  after

/-- A rule may go by what the cursor shows. -/
theorem look_bind {places : Nat} {next : TokenKind → Parser β}
    (after : ConsumesAt (next (cursor.peek places).kind) cursor said) :
    ConsumesAt (look places >>= next) cursor said :=
  after

theorem atSymbol_bind {mark : Symbol} {next : Bool → Parser β}
    (after : ConsumesAt (next (decide (cursor.current.kind = .symbol mark))) cursor said) :
    ConsumesAt (atSymbol mark >>= next) cursor said :=
  after

/-- What is steady consumes some tokens for the values for which it takes one. -/
theorem of_steadyAt {moves : β → Prop} {parser : Parser β}
    (steady : SteadyAt parser cursor moves) :
    ConsumesAt parser cursor fun value kinds => moves value → kinds ≠ [] := by
  intro closed value stopped parsed
  obtain ⟨outcome, taken, comes, moved⟩ := steady closed
  have run := comes.run closed
  rw [parsed] at run
  have size : ((cursor.ahead.take taken).map Token.kind).length = taken := by
    rw [List.length_map, List.length_take, Nat.min_eq_left (comes.clear.inside closed)]
  cases outcome with
  | error failure => cases run
  | ok value =>
      cases run
      refine ⟨(cursor.ahead.take taken).map Token.kind, (cursor.ahead.drop taken).map Token.kind,
        ⟨closed, ?_⟩, by rw [size], fun found => List.ne_nil_of_length_pos ?_⟩
      · rw [← List.map_append, List.take_append_drop]
      · rw [size]
        exact moved value rfl found

/-- A token that may be taken is the first one that is consumed. -/
theorem advance_bind {next : Token → Parser β} (plain : cursor.current.kind.isPlain = true)
    (after : ConsumesAt (next cursor.current) (cursor.past 1) fun result back =>
      said result (cursor.current.kind :: back)) :
    ConsumesAt (advance >>= next) cursor said := by
  have taken : ConsumesAt advance cursor fun token kinds =>
      token = cursor.current ∧ kinds = [cursor.current.kind] := by
    rintro closed _ _ ⟨⟩
    have inside : 0 < cursor.ahead.length := Cursor.lt_of_isPlain closed plain
    obtain ⟨first, others, ahead⟩ := List.exists_cons_of_length_pos inside
    have shown : cursor.current = first := by
      rw [Cursor.current, Cursor.peek, ahead]
      rfl
    refine ⟨[cursor.current.kind], others.map Token.kind, ⟨closed, ?_⟩,
      Cursor.advance_of_isPlain closed plain, rfl, rfl⟩
    rw [shown, ahead]
    rfl
  refine taken.bind ?_
  rintro _ _ ⟨rfl, rfl⟩
  exact after

end ConsumesAt

namespace Consumes

variable {parser : Parser α} {next : α → Parser β} {said : β → List TokenKind → Prop}
  {saidFirst : α → List TokenKind → Prop} {kind : TokenKind}

theorem pure {value : β} (holds : said value []) : Consumes (pure value) said :=
  fun _ => ConsumesAt.pure holds

theorem fail {cause : Cause} {span : Span} : Consumes (fail cause span) said :=
  fun _ => ConsumesAt.fail

theorem unexpected {expected : Expectation} : Consumes (unexpected expected) said :=
  fun _ => ConsumesAt.unexpected

/-- Behind a failure nothing is consumed. -/
theorem unexpected_bind {expected : Expectation} :
    Consumes (Parser.unexpected expected >>= next) said := by
  rintro cursor closed _ _ ⟨⟩

theorem bind (first : Consumes parser saidFirst)
    (second : ∀ value front, saidFirst value front →
      Consumes (next value) fun result back => said result (front ++ back)) :
    Consumes (parser >>= next) said :=
  fun cursor => (first cursor).bind fun value front holds => second value front holds _

theorem weaken {strong : β → List TokenKind → Prop} {parser : Parser β}
    (consumes : Consumes parser strong)
    (weaker : ∀ value kinds, strong value kinds → said value kinds) : Consumes parser said :=
  fun cursor => (consumes cursor).weaken weaker

/-- What is made of a value is said of the tokens of that value. -/
theorem returned {make : α → β}
    (consumes : Consumes parser fun value kinds => said (make value) kinds) :
    Consumes (do return make (← parser)) said :=
  consumes.bind fun _ _ holds => pure (by rwa [List.append_nil])

/-- A value that was made of tokens can be read from them. -/
theorem canRead (consumes : Consumes parser saidFirst) :
    Consumes parser fun value kinds => saidFirst value kinds ∧ CanRead parser kinds value := by
  intro cursor closed value stopped parsed
  obtain ⟨kinds, rest, faces, past, holds⟩ := consumes cursor closed parsed
  exact ⟨kinds, rest, faces, past, holds, cursor, rest, faces, past ▸ parsed⟩

/-- A parser that takes a token for certain values consumes some tokens for them. -/
theorem of_moving {moves : α → Prop} (moving : Moving parser moves) :
    Consumes parser fun value kinds => moves value → kinds ≠ [] :=
  fun cursor => ConsumesAt.of_steadyAt (moving cursor)

/-- Behind a steady parser, whatever it consumed, the others are consumed. -/
theorem steady_bind (steady : Steady parser)
    (second : ∀ value front, Consumes (next value) fun result back => said result (front ++ back)) :
    Consumes (parser >>= next) said :=
  (of_moving steady).bind fun value front _ => second value front

/-- What is only read off the cursor consumes nothing. -/
theorem read {γ : Type} (read : Cursor → γ) :
    Consumes (fun cursor => .ok (read cursor) cursor) fun _ kinds => kinds = [] :=
  fun _ => ConsumesAt.pure rfl

theorem look (places : Nat) : Consumes (look places) fun _ kinds => kinds = [] := read _

theorem current : Consumes current fun _ kinds => kinds = [] := read _

/-- A rule may go by the token that comes next. -/
theorem current_bind {next : Token → Parser β} (after : ∀ token, Consumes (next token) said) :
    Consumes (Parser.current >>= next) said :=
  fun cursor => after cursor.current cursor

theorem previousSpan : Consumes previousSpan fun _ kinds => kinds = [] := read _

theorem atSymbol (mark : Symbol) : Consumes (atSymbol mark) fun _ kinds => kinds = [] := read _

theorem atKeyword (word : Keyword) : Consumes (atKeyword word) fun _ kinds => kinds = [] := read _

/-- A parser that takes the current token where it chooses it, and else fails, consumes a token that
it chooses. -/
theorem of_choice (choose : TokenKind → Option α) (expected : Expectation)
    (plain : ∀ kind value, choose kind = some value → kind.isPlain = true)
    (spec : ∀ cursor, parser cursor = match choose cursor.current.kind with
      | some value => .ok value cursor.advance
      | none => Parser.unexpected expected cursor) :
    Consumes parser fun value kinds => ∃ kind, choose kind = some value ∧ kinds = [kind] := by
  intro cursor closed value stopped parsed
  rw [spec] at parsed
  cases chosen : choose cursor.current.kind with
  | none =>
      rw [chosen] at parsed
      cases parsed
  | some found =>
      rw [chosen] at parsed
      cases parsed
      have taken : ConsumesAt (do let _ ← advance; return value) cursor fun value kinds =>
          ∃ kind, choose kind = some value ∧ kinds = [kind] :=
        ConsumesAt.advance_bind (plain _ _ chosen) (ConsumesAt.pure ⟨_, chosen, rfl⟩)
      exact taken closed rfl

theorem expectName :
    Consumes expectName fun name kinds => ∃ kind, kind.name? = some name ∧ kinds = [kind] := by
  refine of_choice TokenKind.name? .identifier (fun _ _ => isPlain_of_name?) fun cursor => ?_
  unfold Parser.expectName
  cases cursor.current.kind.name? <;> rfl

/-- A token that was asked for is consumed, if it stands there. -/
theorem eat (plain : kind.isPlain = true) :
    Consumes (eat kind) fun found kinds => kinds = if found then [kind] else [] := by
  intro cursor closed found stopped parsed
  unfold Parser.eat at parsed
  split at parsed
  · next same =>
      cases parsed
      have taken : ConsumesAt (do let _ ← advance; return true) cursor fun found kinds =>
          kinds = if found then [kind] else [] :=
        ConsumesAt.advance_bind (same ▸ plain) (ConsumesAt.pure (congrArg ([·]) same))
      exact taken closed rfl
  · cases parsed
    exact ⟨[], _, ⟨closed, rfl⟩, cursor.past_zero.symm, rfl⟩

theorem eatSymbol (mark : Symbol) :
    Consumes (eatSymbol mark) fun found kinds => kinds = if found then [.symbol mark] else [] :=
  eat rfl

theorem eatKeyword (word : Keyword) :
    Consumes (eatKeyword word) fun found kinds => kinds = if found then [.keyword word] else [] :=
  eat rfl

/-- Whichever way a choice by the next token goes, the same is said. -/
theorem choice {yes no : Parser β} (plain : kind.isPlain = true)
    (present : Consumes yes fun value kinds => said value (kind :: kinds))
    (absent : Consumes no said) : Consumes (do if ← Parser.eat kind then yes else no) said := by
  refine (eat plain).bind ?_
  rintro found _ rfl
  cases found with
  | true => exact present
  | false => exact absent

theorem expectSymbol (mark : Symbol) :
    Consumes (expectSymbol mark) fun _ kinds => kinds = [.symbol mark] :=
  choice rfl (pure rfl) unexpected

theorem expectKeyword (word : Keyword) :
    Consumes (expectKeyword word) fun _ kinds => kinds = [.keyword word] :=
  choice rfl (pure rfl) unexpected

/-- Behind a symbol that has to come next, the others are consumed. -/
theorem symbol_bind {mark : Symbol} {next : Unit → Parser β}
    (after : Consumes (next ()) fun result back => said result (.symbol mark :: back)) :
    Consumes (Parser.expectSymbol mark >>= next) said := by
  refine (expectSymbol mark).bind ?_
  rintro _ _ rfl
  exact after

theorem keyword_bind {word : Keyword} {next : Unit → Parser β}
    (after : Consumes (next ()) fun result back => said result (.keyword word :: back)) :
    Consumes (Parser.expectKeyword word >>= next) said := by
  refine (expectKeyword word).bind ?_
  rintro _ _ rfl
  exact after

section Lists

variable {item : Parser α} {optional : Parser (Option α)} {guard : Parser Bool} {mark : TokenKind}

/-- Pieces of which something is said, with their tokens as they are given. -/
def Each (saidFirst : α → List TokenKind → Prop) (tokens : List (Piece α) → List TokenKind)
    (values : List α) (kinds : List TokenKind) : Prop :=
  ∃ pieces : List (Piece α), values = pieces.map Piece.value ∧ kinds = tokens pieces ∧
    ∀ piece ∈ pieces, saidFirst piece.value piece.kinds

theorem collectWithin_marked
    (each : Consumes optional fun found kinds => match found with
      | some value => ∃ back, kinds = mark :: back ∧ saidFirst value back
      | none => kinds = []) (fuel : Nat) :
    Consumes (collectWithin optional fuel) (Each saidFirst (Piece.marked mark)) := by
  induction fuel with
  | zero => exact pure ⟨[], rfl, rfl, nofun⟩
  | succ fuel inductionHypothesis =>
      refine each.bind fun found front holds => ?_
      cases found with
      | none =>
          subst holds
          exact pure ⟨[], rfl, rfl, nofun⟩
      | some value =>
          obtain ⟨kinds, rfl, holds⟩ := holds
          refine (inductionHypothesis.weaken ?_).returned
          rintro _ _ ⟨pieces, rfl, rfl, others⟩
          exact ⟨⟨value, kinds⟩ :: pieces, rfl, rfl, List.forall_mem_cons.mpr ⟨holds, others⟩⟩

/-- A loop that makes nothing consumes nothing, if no turn that makes nothing does. -/
theorem collectWithin_nothing
    (each : Consumes optional fun found kinds => found = none → kinds = []) (fuel : Nat) :
    Consumes (collectWithin optional fuel) fun values kinds => values = [] → kinds = [] := by
  induction fuel with
  | zero => exact pure fun _ => rfl
  | succ fuel inductionHypothesis =>
      refine each.bind fun found front holds => ?_
      cases found with
      | none => exact pure fun _ => by rw [holds rfl, List.append_nil]
      | some value => exact (inductionHypothesis.weaken fun _ _ _ => nofun).returned

theorem collect_nothing
    (each : Consumes optional fun found kinds => found = none → kinds = []) :
    Consumes (collect optional) fun values kinds => values = [] → kinds = [] := by
  refine (read _).bind ?_
  rintro cursor _ rfl
  exact collectWithin_nothing each _

/-- Items behind a mark are consumed with the mark before each. -/
theorem manyAfter (asks : Consumes guard fun found kinds => kinds = if found then [mark] else [])
    (each : Consumes item saidFirst) :
    Consumes (manyAfter guard item) (Each saidFirst (Piece.marked mark)) := by
  refine (read _).bind ?_
  rintro cursor _ rfl
  refine collectWithin_marked (asks.bind ?_) _
  rintro found _ rfl
  cases found with
  | true => exact (each.weaken fun _ _ holds => ⟨_, rfl, holds⟩).returned
  | false => exact pure rfl

/-- Items are consumed with commas between them, and there is one at least. -/
theorem separated (each : Consumes item saidFirst) :
    Consumes (separated item) fun values kinds =>
      values ≠ [] ∧ Each saidFirst Piece.separated values kinds := by
  refine each.bind fun first front holds => ?_
  refine ((manyAfter (eatSymbol .comma) each).weaken ?_).returned
  rintro _ _ ⟨pieces, rfl, rfl, others⟩
  exact ⟨List.cons_ne_nil _ _, ⟨first, front⟩ :: pieces, rfl, rfl,
    List.forall_mem_cons.mpr ⟨holds, others⟩⟩

end Lists

/-- An item is consumed with the parentheses around it. -/
theorem parenthesized {item : Parser β}
    (consumes : Consumes item fun value kinds => said value (inParens kinds)) :
    Consumes (parenthesized item) said := by
  refine symbol_bind (consumes.bind fun value kinds holds => symbol_bind (pure ?_))
  exact holds

end Consumes

end SqlTree.Parser
