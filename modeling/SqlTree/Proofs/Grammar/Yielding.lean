import SqlTree.Proofs.Grammar.Repetition
import SqlTree.Proofs.Token.Content

/-!
# What parsers yield

What holds of every value that a parser makes of the tokens of a text. The tokens ahead stay tokens
of a text wherever the parser stops, so that what parsers yield composes.
-/

namespace SqlTree

/-- The tokens ahead are such as a text can be read as. -/
def Cursor.IsLexical (cursor : Cursor) : Prop := ∀ places, (cursor.peek places).kind.IsLexical

theorem Cursor.IsLexical.advance {cursor : Cursor} (lexical : cursor.IsLexical) :
    cursor.advance.IsLexical := by
  unfold Cursor.advance
  split
  · exact lexical
  · next token ahead found =>
      split
      · exact lexical
      · intro places
        have shown := lexical (places + 1)
        rwa [peek, found, List.getElem?_cons_succ] at shown

namespace Parser

variable {α β : Type}

/-- The value that a parser makes of the tokens of a text, at one place of it, is of a certain
sort. -/
def YieldsAt (parser : Parser α) (cursor : Cursor) (sort : α → Prop) : Prop :=
  cursor.IsLexical → ∀ ⦃value : α⦄ ⦃stopped : Cursor⦄,
    parser cursor = .ok value stopped → stopped.IsLexical ∧ sort value

/-- Every value that a parser makes of the tokens of a text is of a certain sort. -/
def Yields (parser : Parser α) (sort : α → Prop) : Prop :=
  ∀ cursor : Cursor, YieldsAt parser cursor sort

namespace Yields

variable {parser : Parser α} {next : α → Parser β} {sort : α → Prop} {sort' : β → Prop}
  {value : α}

theorem pure (holds : sort value) : Yields (pure value) sort := by
  rintro cursor lexical _ _ ⟨⟩
  exact ⟨lexical, holds⟩

theorem pureNone : Yields (Pure.pure none) fun found : Option α => ∀ value ∈ found, sort value :=
  pure nofun

theorem pureSome (holds : sort value) :
    Yields (Pure.pure (some value)) fun found => ∀ value ∈ found, sort value := by
  apply pure
  rintro _ ⟨⟩
  exact holds

/-- What always fails yields whatever is asked. -/
theorem fail {cause : Cause} {span : Span} : Yields (fail cause span) sort := by
  rintro cursor lexical _ _ ⟨⟩

theorem unexpected {expected : Expectation} : Yields (unexpected expected) sort := by
  rintro cursor lexical _ _ ⟨⟩

/-- Behind a failure nothing is made. -/
theorem fail_bind {cause : Cause} {span : Span} :
    Yields (Parser.fail cause span >>= next) sort' := by
  rintro cursor lexical _ _ ⟨⟩

theorem unexpected_bind {expected : Expectation} :
    Yields (Parser.unexpected expected >>= next) sort' := by
  rintro cursor lexical _ _ ⟨⟩

theorem bind (first : Yields parser sort)
    (second : ∀ value, sort value → Yields (next value) sort') :
    Yields (parser >>= next) sort' := by
  intro cursor lexical result stopped parsed
  obtain ⟨value, between, firstParsed, secondParsed⟩ := ok_of_bind_ok parsed
  obtain ⟨lexicalBetween, holds⟩ := first cursor lexical firstParsed
  exact second value holds between lexicalBetween secondParsed

theorem weaken {weak : α → Prop} (yields : Yields parser sort)
    (weaker : ∀ value, sort value → weak value) : Yields parser weak := by
  intro cursor lexical value stopped parsed
  obtain ⟨lexicalBehind, holds⟩ := yields cursor lexical parsed
  exact ⟨lexicalBehind, weaker value holds⟩

/-- What is only read off the cursor leaves it where it is. -/
theorem read {γ : Type} {read : Cursor → γ} {sort : γ → Prop}
    (holds : ∀ cursor : Cursor, cursor.IsLexical → sort (read cursor)) :
    Yields (fun cursor => .ok (read cursor) cursor) sort := by
  rintro cursor lexical _ _ ⟨⟩
  exact ⟨lexical, holds cursor lexical⟩

theorem look (places : Nat) : Yields (look places) TokenKind.IsLexical :=
  read fun _ lexical => lexical places

theorem current : Yields current fun token => token.kind.IsLexical :=
  read fun _ lexical => lexical 0

theorem previousSpan : Yields previousSpan fun _ => True := read fun _ _ => trivial

theorem get : Yields (get : Parser Cursor) Cursor.IsLexical := read fun _ lexical => lexical

/-- A rule may go by the cursor, at the place where it stands. -/
theorem get_bind {next : Cursor → Parser β}
    (after : ∀ cursor, YieldsAt (next cursor) cursor sort') :
    Yields (Bind.bind MonadState.get next) sort' :=
  fun cursor => after cursor

theorem advance : Yields advance fun token => token.kind.IsLexical := by
  rintro cursor lexical _ _ ⟨⟩
  exact ⟨lexical.advance, lexical 0⟩

theorem eat (kind : TokenKind) : Yields (eat kind) fun _ => True := by
  intro cursor lexical value stopped parsed
  unfold Parser.eat at parsed
  split at parsed
  · cases parsed
    exact ⟨lexical.advance, trivial⟩
  · cases parsed
    exact ⟨lexical, trivial⟩

/-- Whichever way a choice by the next token goes, the same sort of values is made. -/
theorem choice {kind : TokenKind} {yes no : Parser α} (present : Yields yes sort)
    (absent : Yields no sort) : Yields (do if ← Parser.eat kind then yes else no) sort := by
  refine (eat kind).bind fun found _ => ?_
  cases found with
  | true => exact present
  | false => exact absent

theorem atSymbol (mark : Symbol) : Yields (atSymbol mark) fun _ => True :=
  (look 0).bind fun _ _ => pure trivial

theorem atKeyword (word : Keyword) : Yields (atKeyword word) fun _ => True :=
  (look 0).bind fun _ _ => pure trivial

theorem expectSymbol (mark : Symbol) : Yields (expectSymbol mark) fun _ => True :=
  choice (pure trivial) unexpected

theorem expectKeyword (word : Keyword) : Yields (expectKeyword word) fun _ => True :=
  choice (pure trivial) unexpected

/-- A parser that takes the current token where it chooses it, and else fails, yields what is
chosen. -/
theorem of_choice (choose : TokenKind → Option α) (expected : Expectation)
    (holds : ∀ kind value, kind.IsLexical → choose kind = some value → sort value)
    (spec : ∀ cursor, parser cursor = match choose cursor.current.kind with
      | some value => .ok value cursor.advance
      | none => Parser.unexpected expected cursor) :
    Yields parser sort := by
  intro cursor lexical value stopped parsed
  rw [spec] at parsed
  cases chosen : choose cursor.current.kind with
  | none =>
      rw [chosen] at parsed
      cases parsed
  | some _ =>
      rw [chosen] at parsed
      cases parsed
      exact ⟨lexical.advance, holds _ _ (lexical 0) chosen⟩

theorem expectName : Yields expectName (· ≠ "") := by
  refine of_choice TokenKind.name? .identifier
    (fun _ _ lexical named => lexical.name_ne_empty named) fun cursor => ?_
  unfold Parser.expectName
  cases cursor.current.kind.name? <;> rfl

theorem collectWithin {item : Parser (Option α)}
    (each : Yields item fun found => ∀ value ∈ found, sort value) (fuel : Nat) :
    Yields (collectWithin item fuel) fun values => ∀ value ∈ values, sort value := by
  induction fuel with
  | zero => exact pure (List.forall_mem_nil _)
  | succ fuel inductionHypothesis =>
      refine each.bind fun found holds => ?_
      cases found with
      | none => exact pure (List.forall_mem_nil _)
      | some value =>
          refine inductionHypothesis.bind fun values others => pure ?_
          exact List.forall_mem_cons.mpr ⟨holds value rfl, others⟩

theorem collect {item : Parser (Option α)}
    (each : Yields item fun found => ∀ value ∈ found, sort value) :
    Yields (collect item) fun values => ∀ value ∈ values, sort value :=
  get.bind fun cursor _ => collectWithin each (cursor.ahead.length + 1)

theorem manyAfter {guard : Parser Bool} {item : Parser α} (asks : Yields guard fun _ => True)
    (each : Yields item sort) :
    Yields (manyAfter guard item) fun values => ∀ value ∈ values, sort value := by
  refine collect (asks.bind fun found _ => ?_)
  cases found with
  | true => exact each.bind fun value holds => pureSome holds
  | false => exact pureNone

/-- Items with commas between them are of their sort, and there is one at least. -/
theorem separated {item : Parser α} (each : Yields item sort) :
    Yields (separated item) fun values => values ≠ [] ∧ ∀ value ∈ values, sort value :=
  each.bind fun _ holds => (manyAfter (eat _) each).bind fun _ others =>
    pure ⟨List.cons_ne_nil _ _, List.forall_mem_cons.mpr ⟨holds, others⟩⟩

theorem optionalAfter (word : Keyword) {item : Parser α} (yields : Yields item sort) :
    Yields (optionalAfter word item) fun found => ∀ value ∈ found, sort value :=
  choice (yields.bind fun _ holds => pureSome holds) pureNone

theorem parenthesized {item : Parser α} (yields : Yields item sort) :
    Yields (parenthesized item) sort :=
  (expectSymbol .leftParen).bind fun _ _ => yields.bind fun _ holds =>
    (expectSymbol .rightParen).bind fun _ _ => pure holds

end Yields

end Parser

end SqlTree
