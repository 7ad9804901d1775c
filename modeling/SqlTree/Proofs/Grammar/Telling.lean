import Mathlib.Data.List.Forall2
import SqlTree.Proofs.Tree.Roles

/-!
# What parsers tell of their tokens

A parser that succeeds took every token for something. What it took the tokens for, in the order of
the stream, and the value that it made of them fit together: no token is passed over, and none is
used twice. This composes along the grammar, where the value of a rule is put together behind the
tokens of its parts.
-/

namespace SqlTree

/-- The tokens ahead can be taken for something, in turn. -/
def Cursor.Shows : Cursor → List Role → Prop
  | _, [] => True
  | cursor, role :: roles => role.Fits cursor.current.kind ∧ (cursor.past 1).Shows roles

/-- What can be taken for one thing can be taken for another as well, which can be told if that
can. -/
def Role.Recasts (role other : Role) : Prop :=
  (role.isTold = true → other.isTold = true) ∧ ∀ kind : TokenKind, role.Fits kind → other.Fits kind

namespace Role.Recasts

/-- Roles recast as they are. -/
theorem refl_all (roles : List Role) : List.Forall₂ Role.Recasts roles roles :=
  List.forall₂_same.mpr fun _ _ => ⟨id, fun _ fits => fits⟩

/-- A name may be the column of a reference. -/
theorem column (name : String) (qualifier : Option ObjectName) :
    (Role.name name).Recasts (.leaf (.reference qualifier name)) :=
  ⟨fun _ => rfl, fun _ named => .column named⟩

/-- A column may be looked up in any table. -/
theorem qualifier (table other : Option ObjectName) (column : String) :
    (Role.leaf (.reference table column)).Recasts (.leaf (.reference other column)) := by
  refine ⟨fun _ => rfl, ?_⟩
  rintro kind (named | _)
  · exact .column named
  · exact .star other

/-- The first word of a data type is told by longer names that start with it. -/
theorem type {text longer : String} (starts : text.toList <+: longer.toList) :
    (Role.type text).Recasts (.type longer) := by
  refine ⟨fun _ => rfl, ?_⟩
  rintro kind ⟨word, named, front⟩
  exact ⟨word, named, front.trans starts⟩

end Role.Recasts

namespace Cursor.Shows

variable {cursor : Cursor} {role : Role} {roles front back : List Role}

theorem append (first : cursor.Shows front) (second : (cursor.past front.length).Shows back) :
    cursor.Shows (front ++ back) := by
  induction front generalizing cursor with
  | nil => rwa [List.length_nil, past_zero] at second
  | cons role front inductionHypothesis =>
      refine ⟨first.1, inductionHypothesis first.2 ?_⟩
      rwa [past_past, Nat.add_comm]

/-- What is shown at a place fits the token there. -/
theorem fits (shows : cursor.Shows roles) {places : Nat} (found : roles[places]? = some role) :
    role.Fits (cursor.peek places).kind := by
  induction roles generalizing cursor places with
  | nil => cases found
  | cons first roles inductionHypothesis =>
      cases places with
      | zero =>
          cases found
          exact shows.1
      | succ places =>
          have behind := inductionHypothesis shows.2 found
          rwa [peek_past, Nat.add_comm] at behind

/-- What can be told may be told otherwise, if that can be taken for the same tokens. -/
theorem recast (shows : cursor.Shows roles) {told : List Role}
    (recasts : List.Forall₂ Role.Recasts (roles.filter Role.isTold) told) :
    ∃ others, others.length = roles.length ∧ cursor.Shows others ∧
      others.filter Role.isTold = told := by
  induction roles generalizing cursor told with
  | nil =>
      cases recasts
      exact ⟨[], rfl, trivial, rfl⟩
  | cons role roles inductionHypothesis =>
      cases isTold : role.isTold with
      | false =>
          rw [List.filter_cons_of_neg (by simp [isTold])] at recasts
          obtain ⟨others, same, showsToo, rfl⟩ := inductionHypothesis shows.2 recasts
          refine ⟨role :: others, congrArg Nat.succ same, ⟨shows.1, showsToo⟩, ?_⟩
          exact List.filter_cons_of_neg (by simp [isTold])
      | true =>
          rw [List.filter_cons_of_pos isTold] at recasts
          cases recasts with
          | cons first rest =>
              obtain ⟨others, same, showsToo, rfl⟩ := inductionHypothesis shows.2 rest
              refine ⟨_ :: others, congrArg Nat.succ same, ⟨first.2 _ shows.1, showsToo⟩, ?_⟩
              exact List.filter_cons_of_pos (first.1 isTold)

end Cursor.Shows

namespace Parser

variable {α β : Type}

/-- From a cursor, a parser that succeeds took its tokens for something, in turn, of which something
is said of its value. -/
def TellsAt (parser : Parser α) (cursor : Cursor) (said : α → List Role → Prop) : Prop :=
  cursor.close.kind = .finish → ∀ ⦃value : α⦄ ⦃stopped : Cursor⦄,
    parser cursor = .ok value stopped → ∃ roles : List Role,
      stopped = cursor.past roles.length ∧ cursor.Shows roles ∧
        said value (roles.filter Role.isTold)

/-- From every cursor, a parser tells something of its tokens. -/
def Reports (parser : Parser α) (said : α → List Role → Prop) : Prop :=
  ∀ cursor, TellsAt parser cursor said

/-- What a parser takes its tokens for is told by its value. -/
def Tells (parser : Parser α) (listing : α → List Role) : Prop :=
  Reports parser fun value told => told = listing value

namespace TellsAt

variable {parser : Parser α} {next : α → Parser β} {cursor : Cursor} {said : β → List Role → Prop}
  {saidFirst : α → List Role → Prop}

theorem pure {value : β} (holds : said value []) : TellsAt (pure value) cursor said := by
  rintro closed _ _ ⟨⟩
  exact ⟨[], cursor.past_zero.symm, trivial, holds⟩

/-- What fails has nothing to tell. -/
theorem fail {cause : Cause} {span : Span} : TellsAt (fail cause span) cursor said := by
  rintro closed _ _ ⟨⟩

theorem unexpected {expected : Expectation} : TellsAt (unexpected expected) cursor said := by
  rintro closed _ _ ⟨⟩

/-- The tokens of two parsers in turn are those of the first and then those of the second. -/
theorem bind (first : TellsAt parser cursor saidFirst)
    (second : ∀ value front taken, saidFirst value front →
      TellsAt (next value) (cursor.past taken) fun result back => said result (front ++ back)) :
    TellsAt (parser >>= next) cursor said := by
  intro closed result stopped parsed
  obtain ⟨value, between, firstParsed, secondParsed⟩ := ok_of_bind_ok parsed
  obtain ⟨front, rfl, shows, told⟩ := first closed firstParsed
  obtain ⟨back, rfl, showsToo, toldToo⟩ := second value _ _ told closed secondParsed
  refine ⟨front ++ back, ?_, shows.append showsToo, ?_⟩
  · rw [Cursor.past_past, List.length_append]
  · rwa [List.filter_append]

theorem weaken {strong : β → List Role → Prop} {parser : Parser β}
    (tells : TellsAt parser cursor strong)
    (weaker : ∀ value told, strong value told → said value told) :
    TellsAt parser cursor said := by
  intro closed value stopped parsed
  obtain ⟨roles, past, shows, told⟩ := tells closed parsed
  exact ⟨roles, past, shows, weaker value _ told⟩

/-- A rule may go by what the cursor shows. -/
theorem look_bind {places : Nat} {next : TokenKind → Parser β}
    (after : TellsAt (next (cursor.peek places).kind) cursor said) :
    TellsAt (look places >>= next) cursor said :=
  after

theorem atSymbol_bind {mark : Symbol} {next : Bool → Parser β}
    (after : TellsAt (next (decide (cursor.current.kind = .symbol mark))) cursor said) :
    TellsAt (atSymbol mark >>= next) cursor said :=
  after

/-- Behind a token that can be taken for something the rule goes on with that token. -/
theorem advance_bind {next : Token → Parser β} (role : Role) (fits : role.Fits cursor.current.kind)
    (after : TellsAt (next cursor.current) (cursor.past 1) fun result back =>
      said result ([role].filter Role.isTold ++ back)) :
    TellsAt (advance >>= next) cursor said := by
  intro closed result stopped parsed
  obtain ⟨token, between, taken, rest⟩ := ok_of_bind_ok parsed
  obtain ⟨rfl, rfl⟩ : cursor.current = token ∧ cursor.advance = between := by
    cases taken
    exact ⟨rfl, rfl⟩
  rw [Cursor.advance_of_isPlain closed fits.isPlain] at rest
  obtain ⟨back, rfl, shows, told⟩ := after closed rest
  refine ⟨role :: back, ?_, ⟨fits, shows⟩, ?_⟩
  · rw [Cursor.past_past, List.length_cons, Nat.add_comm]
  · rwa [← List.singleton_append, List.filter_append]

theorem advance_word {next : Token → Parser β} (isWord : cursor.current.kind.isWord = true)
    (after : TellsAt (next cursor.current) (cursor.past 1) said) :
    TellsAt (advance >>= next) cursor said :=
  advance_bind .word isWord after

end TellsAt

namespace Reports

variable {parser : Parser α} {next : α → Parser β} {said : β → List Role → Prop}
  {saidFirst : α → List Role → Prop}

theorem pure {value : β} (holds : said value []) : Reports (pure value) said :=
  fun _ => TellsAt.pure holds

theorem fail {cause : Cause} {span : Span} : Reports (fail cause span) said := fun _ => TellsAt.fail

theorem unexpected {expected : Expectation} : Reports (unexpected expected) said :=
  fun _ => TellsAt.unexpected

theorem bind (first : Reports parser saidFirst)
    (second : ∀ value front, saidFirst value front →
      Reports (next value) fun result back => said result (front ++ back)) :
    Reports (parser >>= next) said :=
  fun cursor => (first cursor).bind fun value front _ told => second value front told _

theorem weaken {strong : β → List Role → Prop} {parser : Parser β} (reports : Reports parser strong)
    (weaker : ∀ value told, strong value told → said value told) : Reports parser said :=
  fun cursor => (reports cursor).weaken weaker

/-- What is made of a value says what the value says. -/
theorem returned {make : α → β}
    (reports : Reports parser fun value told => said (make value) told) :
    Reports (do return make (← parser)) said :=
  reports.bind fun _ _ holds => Reports.pure (by rwa [List.append_nil])

theorem map {make : α → β} (reports : Reports parser fun value told => said (make value) told) :
    Reports (make <$> parser) said := by
  rw [map_eq_pure_bind]
  exact reports.returned

end Reports

namespace Tells

variable {parser : Parser α} {next : α → Parser β} {said : β → List Role → Prop}
  {listing : α → List Role} {kind : TokenKind}

/-- Behind a parser whose value tells its tokens, theirs stand before those of the others. -/
theorem bind {listing : α → List Role} (first : Tells parser listing)
    (second : ∀ value,
      Reports (next value) fun result back => said result (listing value ++ back)) :
    Reports (parser >>= next) said :=
  Reports.bind first fun value _ told => told ▸ second value

/-- A parser tells what recasts as its listing. -/
theorem of_recasts
    (reports : Reports parser fun value told => List.Forall₂ Role.Recasts told (listing value)) :
    Tells parser listing := by
  intro cursor closed value stopped parsed
  obtain ⟨roles, rfl, shows, recasts⟩ := reports cursor closed parsed
  obtain ⟨others, same, showsToo, told⟩ := shows.recast recasts
  exact ⟨others, same ▸ rfl, showsToo, told⟩

/-- A parser that takes the current token where it chooses it, and else fails, tells what it was
chosen for. -/
theorem of_choice {listing : α → Role} (choose : TokenKind → Option α) (expected : Expectation)
    (told : ∀ value, (listing value).isTold = true)
    (fits : ∀ kind value, choose kind = some value → (listing value).Fits kind)
    (spec : ∀ cursor, parser cursor = match choose cursor.current.kind with
      | some value => .ok value cursor.advance
      | none => Parser.unexpected expected cursor) :
    Tells parser fun value => [listing value] := by
  intro cursor closed value stopped parsed
  rw [spec] at parsed
  cases chosen : choose cursor.current.kind with
  | none =>
      rw [chosen] at parsed
      cases parsed
  | some value =>
      rw [chosen] at parsed
      cases parsed
      have fitting := fits _ _ chosen
      refine ⟨[listing value], Cursor.advance_of_isPlain closed fitting.isPlain,
        ⟨fitting, trivial⟩, ?_⟩
      exact List.filter_cons_of_pos (told value)

/-- A token that is no part of the tree, taken if it is there, is not told. -/
theorem eatAs (role : Role) (untold : role.isTold = false) (fits : role.Fits kind) :
    Tells (eat kind) fun _ => [] := by
  intro cursor closed value stopped parsed
  unfold Parser.eat at parsed
  split at parsed
  · next found =>
      cases parsed
      have here : role.Fits cursor.current.kind := found ▸ fits
      refine ⟨[role], Cursor.advance_of_isPlain closed here.isPlain, ⟨here, trivial⟩, ?_⟩
      exact List.filter_cons_of_neg (by simp [untold])
  · cases parsed
    exact ⟨[], cursor.past_zero.symm, trivial, rfl⟩

theorem eat (isWord : kind.isWord = true) : Tells (Parser.eat kind) fun _ => [] :=
  eatAs .word rfl isWord

theorem eatSymbol (mark : Symbol) : Tells (Parser.eatSymbol mark) fun _ => [] := eat rfl

/-- Whichever way a choice by a word goes, the same is said. -/
theorem choice {yes no : Parser β} (isWord : kind.isWord = true) (present : Reports yes said)
    (absent : Reports no said) : Reports (do if ← Parser.eat kind then yes else no) said := by
  refine (eat isWord).bind fun found => ?_
  cases found with
  | true => exact present
  | false => exact absent

theorem expectSymbol (mark : Symbol) : Tells (Parser.expectSymbol mark) fun _ => [] :=
  choice rfl (Reports.pure rfl) Reports.unexpected

theorem expectKeyword (word : Keyword) (isWord : (TokenKind.keyword word).isWord = true) :
    Tells (Parser.expectKeyword word) fun _ => [] :=
  choice isWord (Reports.pure rfl) Reports.unexpected

/-- A token that has to come next, and is told. -/
theorem expectAs (listed : Role) (kind : TokenKind) (told : listed.isTold = true)
    (fits : listed.Fits kind) (expected : Expectation) :
    Tells (do unless ← Parser.eat kind do Parser.unexpected expected) fun _ => [listed] := by
  refine of_choice (fun found => if found = kind then some () else none) expected
    (fun _ => told) ?_ fun cursor => ?_
  · intro found value chosen
    split at chosen
    · next same => exact same ▸ fits
    · cases chosen
  · refine (run_eat kind _ _ cursor).trans ?_
    split <;> rfl

/-- What is only read off the cursor tells nothing. -/
theorem read {γ : Type} (read : Cursor → γ) :
    Tells (fun cursor => .ok (read cursor) cursor : Parser γ) fun _ => [] := by
  rintro cursor closed _ _ ⟨⟩
  exact ⟨[], cursor.past_zero.symm, trivial, rfl⟩

theorem atKeyword (word : Keyword) : Tells (Parser.atKeyword word) fun _ => [] :=
  read _

theorem atSymbol (mark : Symbol) : Tells (Parser.atSymbol mark) fun _ => [] :=
  read _

theorem look (places : Nat) : Tells (Parser.look places) fun _ => [] := read _

theorem current : Tells Parser.current fun _ => [] := read _

theorem previousSpan : Tells Parser.previousSpan fun _ => [] := read _

theorem get : Tells (get : Parser Cursor) fun _ => [] := read _

theorem expectName : Tells Parser.expectName fun name => [.name name] := by
  refine of_choice TokenKind.name? .identifier (fun _ => rfl) (fun _ _ named => named)
    fun cursor => ?_
  unfold Parser.expectName
  cases cursor.current.kind.name? <;> rfl

section Lists

variable {item : Parser α} {guard : Parser Bool}

theorem collectWithin {item : Parser (Option α)}
    (each : Tells item fun found => found.toList.flatMap listing) (fuel : Nat) :
    Tells (collectWithin item fuel) fun values => values.flatMap listing := by
  induction fuel with
  | zero => exact Reports.pure rfl
  | succ fuel inductionHypothesis =>
      refine each.bind fun found => ?_
      cases found with
      | none => exact Reports.pure rfl
      | some value => exact inductionHypothesis.bind fun values => Reports.pure (by simp)

theorem collect {item : Parser (Option α)}
    (each : Tells item fun found => found.toList.flatMap listing) :
    Tells (Parser.collect item) fun values => values.flatMap listing :=
  get.bind fun cursor => collectWithin each (cursor.ahead.length + 1)

theorem collect_nothing {item : Parser (Option α)} (each : Tells item fun _ => []) :
    Tells (Parser.collect item) fun _ => [] := by
  have listed : Tells item fun found => found.toList.flatMap fun _ => [] :=
    each.weaken fun found told nothing => by cases found <;> exact nothing
  exact (collect listed).weaken fun values told nothing =>
    nothing.trans (List.flatMap_eq_nil_iff.mpr fun _ _ => rfl)

theorem manyAfter (asks : Tells guard fun _ => []) (each : Tells item listing) :
    Tells (Parser.manyAfter guard item) fun values => values.flatMap listing := by
  refine collect (asks.bind fun found => ?_)
  cases found with
  | true => exact each.bind fun value => Reports.pure (by simp)
  | false => exact Reports.pure rfl

theorem separated (each : Tells item listing) :
    Tells (Parser.separated item) fun values => values.flatMap listing :=
  each.bind fun value => (manyAfter (eatSymbol .comma) each).bind fun values =>
    Reports.pure (by simp)

/-- Items of one part each, with commas between them. -/
theorem separated_parts {part : α → Role} (each : Tells item fun value => [part value]) :
    Tells (Parser.separated item) fun values => values.map part :=
  each.separated.weaken fun _ _ listed => listed.trans List.map_eq_flatMap.symm

theorem optionalAfter (word : Keyword) (isWord : (TokenKind.keyword word).isWord = true)
    (each : Tells item listing) :
    Tells (Parser.optionalAfter word item) fun found => found.toList.flatMap listing :=
  choice isWord (each.bind fun value => Reports.pure (by simp)) (Reports.pure rfl)

theorem parenthesized {said : α → List Role → Prop} (reports : Reports item said) :
    Reports (Parser.parenthesized item) said :=
  (expectSymbol .leftParen).bind fun _ => reports.bind fun value told holds =>
    (expectSymbol .rightParen).bind fun _ => Reports.pure (by simpa using holds)

end Lists

end Tells

end Parser

end SqlTree
