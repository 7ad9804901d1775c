import SqlTree.Grammar.Parser

/-!
# Readings

What a parser does is stated on the kinds of the tokens ahead: it reads some of them as a value when
others follow. Readings compose, so that the reading of a rule is put together from those of its
parts.
-/

namespace SqlTree

/-- The kind of token that stands a number of places ahead in a stream of kinds. -/
def kindAt (kinds : List TokenKind) (places : Nat) : TokenKind := kinds[places]?.getD .finish

@[simp] theorem kindAt_nil (places : Nat) : kindAt [] places = .finish := rfl

@[simp] theorem kindAt_cons_zero (kind : TokenKind) (kinds : List TokenKind) :
    kindAt (kind :: kinds) 0 = kind := rfl

@[simp] theorem kindAt_cons_succ (kind : TokenKind) (kinds : List TokenKind) (places : Nat) :
    kindAt (kind :: kinds) (places + 1) = kindAt kinds places := rfl

namespace Cursor

/-- The cursor behind a number of tokens. -/
def past (cursor : Cursor) (count : Nat) : Cursor :=
  { cursor with
    ahead := cursor.ahead.drop count
    consumed := cursor.consumed + count
    previous := ((cursor.ahead.take count).getLast?.map Token.span).or cursor.previous }

/-- The tokens ahead are of the given kinds, and an end of input closes them. -/
structure Faces (cursor : Cursor) (kinds : List TokenKind) : Prop where
  closed : cursor.close.kind = .finish
  ahead : cursor.ahead.map Token.kind = kinds

@[simp] theorem past_zero (cursor : Cursor) : cursor.past 0 = cursor := by
  simp [past]

theorem past_past (cursor : Cursor) (first second : Nat) :
    (cursor.past first).past second = cursor.past (first + second) := by
  simp [past, Nat.add_assoc, List.take_add, List.getLast?_append, Option.or_assoc, Option.map_or]

theorem peek_past (cursor : Cursor) (count places : Nat) :
    (cursor.past count).peek places = cursor.peek (count + places) := by
  simp only [peek, past, List.getElem?_drop]

/-- Behind some tokens stands the one that many places ahead. -/
theorem current_past (cursor : Cursor) (count : Nat) :
    (cursor.past count).current = cursor.peek count :=
  cursor.peek_past count 0

/-- What does not end the input stands before the end of the stream. -/
theorem lt_of_peek_ne {cursor : Cursor} {places : Nat} (closed : cursor.close.kind = .finish)
    (going : (cursor.peek places).kind ≠ .finish) : places < cursor.ahead.length := by
  apply Nat.lt_of_not_le
  intro outside
  rw [peek, List.getElem?_eq_none outside, Option.getD_none] at going
  exact going closed

/-- A token that does not end the input is passed by advancing. -/
theorem advance_of_ne {cursor : Cursor} (closed : cursor.close.kind = .finish)
    (going : cursor.current.kind ≠ .finish) : cursor.advance = cursor.past 1 := by
  have inside : 0 < cursor.ahead.length := lt_of_peek_ne closed going
  obtain ⟨source, ahead, close, consumed, previous⟩ := cursor
  cases ahead with
  | nil => cases inside
  | cons token ahead =>
      have goes : token.kind ≠ .finish := going
      simp [advance, past, goes]

theorem Faces.length_ahead {cursor : Cursor} {kinds : List TokenKind}
    (faces : cursor.Faces kinds) : cursor.ahead.length = kinds.length := by
  rw [← faces.ahead, List.length_map]

/-- What stands ahead is told by the kinds ahead. -/
theorem Faces.peek_kind {cursor : Cursor} {kinds : List TokenKind} (faces : cursor.Faces kinds)
    (places : Nat) : (cursor.peek places).kind = kindAt kinds places := by
  have looked : kinds[places]? = cursor.ahead[places]?.map Token.kind := by
    rw [← faces.ahead, List.getElem?_map]
  cases found : cursor.ahead[places]? with
  | none => simp [Cursor.peek, kindAt, looked, found, faces.closed]
  | some token => simp [Cursor.peek, kindAt, looked, found]

theorem Faces.current_kind {cursor : Cursor} {kinds : List TokenKind}
    (faces : cursor.Faces kinds) : cursor.current.kind = kindAt kinds 0 :=
  faces.peek_kind 0

/-- Behind the tokens of some kinds, the others stand ahead. -/
theorem Faces.past {cursor : Cursor} {front back : List TokenKind}
    (faces : cursor.Faces (front ++ back)) : (cursor.past front.length).Faces back where
  closed := faces.closed
  ahead := by
    simp only [Cursor.past, List.map_drop, faces.ahead, List.drop_left]

/-- Behind one token, the others stand ahead. -/
theorem Faces.tail {cursor : Cursor} {kind : TokenKind} {kinds : List TokenKind}
    (faces : cursor.Faces (kind :: kinds)) : (cursor.past 1).Faces kinds :=
  Faces.past (show cursor.Faces ([kind] ++ kinds) from faces)

/-- A token that ends no input is passed by advancing. -/
theorem Faces.advance {cursor : Cursor} {kind : TokenKind} {kinds : List TokenKind}
    (faces : cursor.Faces (kind :: kinds)) (going : kind ≠ .finish) :
    cursor.advance = cursor.past 1 :=
  advance_of_ne faces.closed (by rwa [faces.current_kind])

end Cursor

namespace Parser

variable {α β : Type}

/-- What a choice of parsers does is the choice of what they do. -/
theorem run_ite {condition : Prop} [Decidable condition] (yes no : Parser α) (cursor : Cursor) :
    (if condition then yes else no : Parser α) cursor
      = if condition then yes cursor else no cursor := by
  split <;> rfl

/-- A parser that goes by the cursor goes by the one that it starts from. -/
theorem run_get (next : Cursor → Parser α) (cursor : Cursor) :
    (get >>= next : Parser α) cursor = next cursor cursor :=
  rfl

/-- A choice by the token that comes next, which is taken. -/
theorem run_eat (kind : TokenKind) (yes no : Parser α) (cursor : Cursor) :
    (do if ← eat kind then yes else no : Parser α) cursor
      = if cursor.current.kind = kind then yes cursor.advance else no cursor := by
  change EStateM.bind _ _ _ = _
  by_cases found : cursor.current.kind = kind
  · simp only [EStateM.bind, eat, if_pos found]
    rfl
  · simp only [EStateM.bind, eat, if_neg found]
    rfl

section Run

variable {parser : Parser α} {next : α → Parser β} {cursor between stopped : Cursor} {value : α}
  {result : β} {failure : Failure}

/-- Behind a parser that succeeds the next one runs. -/
theorem bind_of_ok (first : parser cursor = .ok value between) :
    (parser >>= next) cursor = next value between := by
  change EStateM.bind parser next cursor = _
  simp only [EStateM.bind, first]

/-- A parser that fails takes down the parsers behind it. -/
theorem bind_of_error (fails : parser cursor = .error failure stopped) :
    (parser >>= next) cursor = .error failure stopped := by
  change EStateM.bind parser next cursor = _
  simp only [EStateM.bind, fails]

/-- A success of two parsers in turn is a success of each. -/
theorem ok_of_bind_ok (parsed : (parser >>= next) cursor = .ok result stopped) :
    ∃ value between, parser cursor = .ok value between ∧
      next value between = .ok result stopped := by
  change EStateM.bind parser next cursor = _ at parsed
  unfold EStateM.bind at parsed
  split at parsed
  · next value between first => exact ⟨value, between, first, parsed⟩
  · cases parsed

/-- What two parsers do from two cursors, they do with the same parser behind them. -/
theorem bind_congr {other : Parser α} {start : Cursor} (same : parser cursor = other start) :
    (parser >>= next) cursor = (other >>= next) start := by
  change EStateM.bind _ _ _ = EStateM.bind _ _ _
  simp only [EStateM.bind, same]

end Run

/-- A parser takes exactly the tokens of some kinds and makes a value of them, whatever the tokens'
spans are, when tokens of other kinds follow. -/
def Reads (parser : Parser α) (kinds : List TokenKind) (value : α) (rest : List TokenKind) : Prop :=
  ∀ cursor : Cursor, cursor.Faces (kinds ++ rest) →
    parser cursor = .ok value (cursor.past kinds.length)

namespace Reads

variable {parser : Parser α} {next : α → Parser β} {value : α} {result : β} {kind : TokenKind}
  {front back kinds rest : List TokenKind}

theorem pure (value : α) (rest : List TokenKind) :
    Reads (pure value) [] value rest := by
  intro cursor _
  simp only [List.length_nil, Cursor.past_zero]
  rfl

/-- A parser that reads the tokens ahead comes to nothing else. -/
theorem eq_of_ok (read : Reads parser front value rest) {other : α} {cursor stopped : Cursor}
    (faces : cursor.Faces (front ++ rest)) (parsed : parser cursor = .ok other stopped) :
    other = value ∧ stopped = cursor.past front.length := by
  rw [read cursor faces] at parsed
  cases parsed
  exact ⟨rfl, rfl⟩

/-- Behind a reading the next parser runs, whatever comes of it. -/
theorem step (first : Reads parser front value rest) {cursor : Cursor}
    (faces : cursor.Faces (front ++ rest)) :
    (parser >>= next) cursor = next value (cursor.past front.length) :=
  bind_of_ok (first cursor faces)

/-- Behind a reading that takes nothing the next parser runs at the same cursor. -/
theorem step_none (first : Reads parser [] value rest) {cursor : Cursor}
    (faces : cursor.Faces rest) : (parser >>= next) cursor = next value cursor := by
  rw [first.step faces, List.length_nil, Cursor.past_zero]

/-- Readings compose: the second parser reads on where the first one stopped. -/
theorem bind (first : Reads parser front value (back ++ rest))
    (second : Reads (next value) back result rest) :
    Reads (parser >>= next) (front ++ back) result rest := by
  intro cursor faces
  rw [List.append_assoc] at faces
  rw [first.step faces, second _ faces.past, Cursor.past_past, List.length_append]

/-- Composition with a parser that takes one token. -/
theorem bind_one (first : Reads parser [kind] value (back ++ rest))
    (second : Reads (next value) back result rest) :
    Reads (parser >>= next) (kind :: back) result rest :=
  bind first second

/-- Composition with a parser that takes nothing. -/
theorem bind_none (first : Reads parser [] value (back ++ rest))
    (second : Reads (next value) back result rest) :
    Reads (parser >>= next) back result rest :=
  bind first second

/-- Composition with a parser behind which nothing is taken. -/
theorem bind_last (first : Reads parser kinds value rest)
    (second : Reads (next value) [] result rest) :
    Reads (parser >>= next) kinds result rest := by
  have composed : Reads (parser >>= next) (kinds ++ []) result rest := bind first second
  rwa [List.append_nil] at composed

theorem map {function : α → β} (read : Reads parser kinds value rest) :
    Reads (function <$> parser) kinds (function value) rest :=
  bind_last read (pure _ _)

/-- What stands ahead can be looked at. -/
theorem look (kinds : List TokenKind) (places : Nat) :
    Reads (look places) [] (kindAt kinds places) kinds := by
  intro cursor faces
  have seen : (cursor.peek places).kind = kindAt kinds places := faces.peek_kind places
  change EStateM.Result.ok (cursor.peek places).kind cursor = _
  rw [seen, List.length_nil, Cursor.past_zero]

/-- A rule may go by the token at the position, of which only the kind is known. -/
theorem current_bind {next : Token → Parser β}
    (every : ∀ token : Token, token.kind = kindAt (back ++ rest) 0 →
      Reads (next token) back result rest) :
    Reads (current >>= next) back result rest := by
  intro cursor faces
  exact every cursor.current faces.current_kind cursor faces

/-- A rule may go by the cursor, of which only the kinds ahead are known. -/
theorem get_bind {next : Cursor → Parser β}
    (every : ∀ cursor : Cursor, cursor.Faces (back ++ rest) →
      Reads (next cursor) back result rest) :
    Reads (get >>= next) back result rest := by
  intro cursor faces
  exact every cursor faces cursor faces

theorem previousSpan_bind {next : Span → Parser β}
    (every : ∀ span : Span, Reads (next span) back result rest) :
    Reads (previousSpan >>= next) back result rest := by
  intro cursor faces
  exact every cursor.previousSpan cursor faces

/-- Taking a token is a reading of it, of which only the kind is known behind it. -/
theorem advance_bind {next : Token → Parser β} (going : kind ≠ .finish)
    (every : ∀ token : Token, token.kind = kind → Reads (next token) back result rest) :
    Reads (advance >>= next) (kind :: back) result rest := by
  intro cursor faces
  have stepped : (advance >>= next) cursor = next cursor.current (cursor.past 1) := by
    change next cursor.current cursor.advance = _
    rw [faces.advance going]
  rw [stepped, every _ faces.current_kind _ faces.tail, Cursor.past_past, List.length_cons,
    Nat.add_comm]

/-- A token that was asked for is taken. -/
theorem eat_true (going : kind ≠ .finish) (rest : List TokenKind) :
    Reads (eat kind) [kind] true rest := by
  intro cursor faces
  simp only [eat, faces.current_kind, List.singleton_append, kindAt_cons_zero, if_true,
    List.length_singleton]
  rw [Cursor.Faces.advance faces going]

/-- A token that was not asked for is left. -/
theorem eat_false (other : kindAt rest 0 ≠ kind) : Reads (eat kind) [] false rest := by
  intro cursor faces
  simp only [eat, faces.current_kind, List.nil_append, if_neg other, List.length_nil,
    Cursor.past_zero]

theorem eatSymbol (mark : Symbol) (rest : List TokenKind) :
    Reads (eatSymbol mark) [.symbol mark] true rest :=
  eat_true TokenKind.noConfusion rest

theorem eatKeyword (word : Keyword) (rest : List TokenKind) :
    Reads (eatKeyword word) [.keyword word] true rest :=
  eat_true TokenKind.noConfusion rest

theorem eatName (name : String) (rest : List TokenKind) :
    Reads (eatName name) [.identifier name] true rest :=
  eat_true TokenKind.noConfusion rest

theorem expectSymbol (mark : Symbol) (rest : List TokenKind) :
    Reads (expectSymbol mark) [.symbol mark] () rest :=
  bind_last (eatSymbol mark rest) (pure () rest)

theorem expectKeyword (word : Keyword) (rest : List TokenKind) :
    Reads (expectKeyword word) [.keyword word] () rest :=
  bind_last (eatKeyword word rest) (pure () rest)

/-- A token that stands for a name is read as it. -/
theorem expectName_of_name {name : String} (named : kind.name? = some name)
    (rest : List TokenKind) : Reads expectName [kind] name rest := by
  intro cursor faces
  have going : kind ≠ .finish := by
    rintro rfl
    cases named
  simp only [expectName, faces.current_kind, List.singleton_append, kindAt_cons_zero, named,
    List.length_singleton]
  rw [Cursor.Faces.advance faces going]

theorem expectName (name : String) (rest : List TokenKind) :
    Reads expectName [.identifier name] name rest :=
  expectName_of_name rfl rest

/-- Whether a symbol comes next is seen without taking it. -/
theorem atSymbol (mark : Symbol) (kinds : List TokenKind) :
    Reads (atSymbol mark) [] (decide (kindAt kinds 0 = .symbol mark)) kinds :=
  bind_none (look kinds 0) (pure _ kinds)

theorem atSymbol_true {mark : Symbol} (same : kindAt kinds 0 = .symbol mark) :
    Reads (Parser.atSymbol mark) [] true kinds := by
  have read := atSymbol mark kinds
  rwa [decide_eq_true same] at read

theorem atSymbol_false {mark : Symbol} (other : kindAt kinds 0 ≠ .symbol mark) :
    Reads (Parser.atSymbol mark) [] false kinds := by
  have read := atSymbol mark kinds
  rwa [decide_eq_false other] at read

/-- Whether a keyword comes next is seen without taking it. -/
theorem atKeyword (word : Keyword) (kinds : List TokenKind) :
    Reads (atKeyword word) [] (decide (kindAt kinds 0 = .keyword word)) kinds :=
  bind_none (look kinds 0) (pure _ kinds)

theorem atKeyword_true {word : Keyword} (same : kindAt kinds 0 = .keyword word) :
    Reads (Parser.atKeyword word) [] true kinds := by
  have read := atKeyword word kinds
  rwa [decide_eq_true same] at read

theorem atKeyword_false {word : Keyword} (other : kindAt kinds 0 ≠ .keyword word) :
    Reads (Parser.atKeyword word) [] false kinds := by
  have read := atKeyword word kinds
  rwa [decide_eq_false other] at read

end Reads

end Parser

end SqlTree
