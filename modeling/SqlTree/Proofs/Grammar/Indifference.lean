import SqlTree.Proofs.Grammar.NoiseWords
import SqlTree.Proofs.Grammar.SteadyLists

/-!
# Parsers that are indifferent to noise words

A parser is indifferent if a noise word that is dropped changes nothing: what it reads with the
noise word, it reads without it, with the same value. It may stray, though, where it stops before
the noise word and would go on without it. For the whole to be indifferent, nothing may come of
that: what follows on the stray cursor has to fail, or to stray as well.

Indifference composes, with the class of cursors to which a parser may stray. Failures are not
compared: a stream that is refused may well be accepted without its noise words.
-/

namespace SqlTree

namespace Parser

open Cursor

variable {α β : Type}

/-- From a cursor, a parser fails or comes to a cursor of a certain class. -/
def Ends (stray : Cursor → Prop) (cursor : Cursor) (parser : Parser α) : Prop :=
  ∀ value stopped, parser cursor = .ok value stopped → stray stopped

/-- What a parser reads from a cursor, another one reads from a second cursor, with the same value
and up to where the second cursor may lack a noise word; or else the first parser strays. -/
def Tracks (stray : Cursor → Prop) (full bare : Cursor) (parser other : Parser α) : Prop :=
  ∀ value stopped, parser full = .ok value stopped →
    (∃ stoppedToo, other bare = .ok value stoppedToo ∧ stopped.Drops stoppedToo) ∨ stray stopped

/-- From the cursors of one class, a parser fails or comes to those of another one. -/
def Confined (start stray : Cursor → Prop) (parser : Parser α) : Prop :=
  ∀ ⦃cursor : Cursor⦄, start cursor → Ends stray cursor parser

/-- Without a noise word a parser reads what it reads with it, unless it strays. -/
def Indifferent (stray : Cursor → Prop) (parser : Parser α) : Prop :=
  ∀ ⦃full bare : Cursor⦄, full.Drops bare → Tracks stray full bare parser parser

/-- A parser takes the current token where it chooses a value by it, and else fails at it. -/
def Chooses (parser : Parser α) (choose : TokenKind → Option α) (expected : Expectation) : Prop :=
  ∀ cursor, parser cursor = match choose cursor.current.kind with
    | some value => .ok value cursor.advance
    | none => unexpected expected cursor

section Ends

variable {start middle stray : Cursor → Prop} {parser : Parser α} {cursor stopped : Cursor}
  {kind : TokenKind}

namespace Ends

theorem of_ok {value : α} (read : parser cursor = .ok value stopped) (within : stray stopped) :
    Ends stray cursor parser := by
  intro _ _ readToo
  rw [read] at readToo
  cases readToo
  exact within

theorem of_error {failure : Failure} (failed : parser cursor = .error failure stopped) :
    Ends stray cursor parser := by
  intro _ _ read
  rw [failed] at read
  cases read

theorem weaken {weak : Cursor → Prop} (ends : Ends stray cursor parser)
    (weaker : ∀ cursor, stray cursor → weak cursor) : Ends weak cursor parser :=
  fun value stopped read => weaker stopped (ends value stopped read)

theorem bind {next : α → Parser β} (first : Ends middle cursor parser)
    (second : ∀ value, Confined middle stray (next value)) :
    Ends stray cursor (parser >>= next) := by
  intro result stopped read
  obtain ⟨value, between, readFirst, readNext⟩ := ok_of_bind_ok read
  exact second value (first value between readFirst) result stopped readNext

/-- Behind a token that is not there, a choice goes on without it. -/
theorem choice {yes no : Parser β} (refused : cursor.current.kind ≠ kind)
    (absent : Ends stray cursor no) : Ends stray cursor (do if ← eat kind then yes else no) := by
  have passed : eat kind cursor = .ok false cursor := if_neg refused
  intro value stopped read
  rw [bind_of_ok passed] at read
  exact absent value stopped read

/-- A parser that takes the current token where it chooses it fails elsewhere. -/
theorem of_chooses {choose : TokenKind → Option α} {expected : Expectation}
    (chooses : Chooses parser choose expected)
    (within : ∀ value, choose cursor.current.kind = some value → stray cursor.advance) :
    Ends stray cursor parser := by
  intro value _ read
  rw [chooses] at read
  cases chosen : choose cursor.current.kind with
  | none =>
      rw [chosen] at read
      cases read
  | some value =>
      rw [chosen] at read
      cases read
      exact within value chosen

end Ends

theorem expectName_chooses : Chooses expectName TokenKind.name? .identifier := by
  intro cursor
  unfold expectName
  cases cursor.current.kind.name? <;> rfl

namespace Confined

theorem pure (value : α) (within : ∀ cursor, start cursor → stray cursor) :
    Confined start stray (pure value) :=
  fun cursor started => Ends.of_ok rfl (within cursor started)

theorem fail {cause : Cause} {span : Span} : Confined start stray (fail cause span : Parser α) :=
  fun _ _ => Ends.of_error rfl

theorem unexpected {expected : Expectation} :
    Confined start stray (unexpected expected : Parser α) :=
  fun _ _ => Ends.of_error rfl

theorem bind {next : α → Parser β} (first : Confined start middle parser)
    (second : ∀ value, Confined middle stray (next value)) :
    Confined start stray (parser >>= next) :=
  fun _ started => (first started).bind second

theorem nowhere : Confined Nowhere stray parser := fun _ => False.elim

/-- Behind a parser that fails in any case, anything may follow. -/
theorem bind_nowhere {next : α → Parser β} (first : Confined start Nowhere parser) :
    Confined start stray (parser >>= next) :=
  first.bind fun _ => nowhere

/-- What is made of a value leaves the cursor where it is. -/
theorem bind_pure {make : α → β} (first : Confined start stray parser) :
    Confined start stray (do return make (← parser)) :=
  first.bind fun _ => pure _ fun _ => id

theorem weaken {other weak : Cursor → Prop} (confined : Confined start stray parser)
    (stronger : ∀ cursor, other cursor → start cursor)
    (weaker : ∀ cursor, stray cursor → weak cursor) : Confined other weak parser :=
  fun cursor started => (confined (stronger cursor started)).weaken weaker

/-- What is only read off the cursor leaves it where it is. -/
theorem read_bind {γ : Type} {read : Cursor → γ} {next : γ → Parser β}
    (after : ∀ cursor, start cursor → Ends stray cursor (next (read cursor))) :
    Confined start stray ((fun cursor => .ok (read cursor) cursor : Parser γ) >>= next) :=
  after

/-- A rule goes by a test that fails. -/
theorem test_bind {test : Parser Bool} {next : Bool → Parser β}
    (tests : ∀ cursor, test cursor = .ok (decide (cursor.current.kind = kind)) cursor)
    (refused : ∀ cursor, start cursor → cursor.current.kind ≠ kind)
    (absent : Confined start stray (next false)) : Confined start stray (test >>= next) := by
  intro cursor started value stopped read
  rw [bind_of_ok (tests cursor), decide_eq_false (refused cursor started)] at read
  exact absent started value stopped read

theorem eat (refused : ∀ cursor, start cursor → cursor.current.kind ≠ kind) :
    Confined start start (Parser.eat kind) :=
  fun cursor started => Ends.of_ok (if_neg (refused cursor started)) started

/-- A token that is not there is not taken. -/
theorem choice {yes no : Parser β} (refused : ∀ cursor, start cursor → cursor.current.kind ≠ kind)
    (absent : Confined start stray no) :
    Confined start stray (do if ← Parser.eat kind then yes else no) :=
  fun cursor started => Ends.choice (refused cursor started) (absent started)

theorem expectSymbol {mark : Symbol}
    (refused : ∀ cursor, start cursor → cursor.current.kind ≠ .symbol mark) :
    Confined start Nowhere (expectSymbol mark) :=
  choice refused unexpected

theorem expectKeyword {word : Keyword}
    (refused : ∀ cursor, start cursor → cursor.current.kind ≠ .keyword word) :
    Confined start Nowhere (expectKeyword word) :=
  choice refused unexpected

/-- A cursor that is stuck is still stuck behind a name. -/
theorem expectName : Confined Stuck Stuck expectName :=
  fun _ stuck => Ends.of_chooses expectName_chooses fun _ named =>
    stuck.advance (TokenKind.isNoise_of_name? named)

/-- No name stands where a noise word does. -/
theorem expectName_noise : Confined OnNoise Nowhere Parser.expectName := by
  refine fun cursor noise => Ends.of_chooses expectName_chooses fun _ named => ?_
  have noiseless := TokenKind.isNoise_of_name? named
  rw [noise] at noiseless
  cases noiseless

section Lists

theorem collectWithin {item : Parser (Option α)} (confined : Confined stray stray item)
    (fuel : Nat) : Confined stray stray (collectWithin item fuel) := by
  induction fuel with
  | zero => exact pure [] fun _ => id
  | succ fuel inductionHypothesis =>
      refine confined.bind fun found => ?_
      cases found with
      | none => exact pure [] fun _ => id
      | some value => exact inductionHypothesis.bind_pure

theorem collect {item : Parser (Option α)} (confined : Confined stray stray item) :
    Confined stray stray (collect item) :=
  read_bind fun _ started => confined.collectWithin _ started

theorem manyAfter {item : Parser α}
    (refused : ∀ cursor, stray cursor → cursor.current.kind ≠ kind) :
    Confined stray stray (manyAfter (Parser.eat kind) item) :=
  collect (choice refused (pure none fun _ => id))

/-- Behind one item, no other one follows where no comma does. -/
theorem separated {item : Parser α} (first : Confined start stray item)
    (refused : ∀ cursor, stray cursor → cursor.current.kind ≠ .symbol .comma) :
    Confined start stray (separated item) :=
  first.bind fun _ => (manyAfter refused).bind_pure

theorem optionalAfter {word : Keyword} {item : Parser α}
    (refused : ∀ cursor, start cursor → cursor.current.kind ≠ .keyword word)
    (within : ∀ cursor, start cursor → stray cursor) :
    Confined start stray (optionalAfter word item) :=
  choice refused (pure none within)

end Lists

end Confined

end Ends

namespace Tracks

variable {middle stray : Cursor → Prop} {parser other : Parser α} {full bare : Cursor}

theorem ok {value : α} {stopped stoppedToo : Cursor} (read : parser full = .ok value stopped)
    (readToo : other bare = .ok value stoppedToo) (drops : stopped.Drops stoppedToo) :
    Tracks stray full bare parser other := by
  intro _ _ found
  rw [read] at found
  cases found
  exact .inl ⟨stoppedToo, readToo, drops⟩

/-- A parser that fails or strays is tracked by any other one. -/
theorem of_ends (ends : Ends stray full parser) : Tracks stray full bare parser other :=
  fun value stopped read => .inr (ends value stopped read)

theorem weaken {weak : Cursor → Prop} (tracks : Tracks stray full bare parser other)
    (weaker : ∀ cursor, stray cursor → weak cursor) : Tracks weak full bare parser other :=
  fun value stopped read => (tracks value stopped read).imp_right (weaker stopped)

/-- What goes on in the same way behind parsers of which one tracks the other does so as well, if
nothing comes of what strays. -/
theorem bind {next others : α → Parser β} (first : Tracks middle full bare parser other)
    (second : ∀ value ⦃full bare⦄, full.Drops bare →
      Tracks stray full bare (next value) (others value))
    (astray : ∀ value, Confined middle stray (next value)) :
    Tracks stray full bare (parser >>= next) (other >>= others) := by
  intro result stopped read
  obtain ⟨value, between, readFirst, readNext⟩ := ok_of_bind_ok read
  rcases first value between readFirst with ⟨betweenToo, readToo, drops⟩ | strays
  · rw [bind_of_ok readToo]
    exact second value drops result stopped readNext
  · exact .inr (astray value strays result stopped readNext)

theorem bind_strict {next others : α → Parser β}
    (first : Tracks Nowhere full bare parser other)
    (second : ∀ value ⦃full bare⦄, full.Drops bare →
      Tracks stray full bare (next value) (others value)) :
    Tracks stray full bare (parser >>= next) (other >>= others) :=
  first.bind second fun _ => Confined.nowhere

/-- A rule may go by the current token, if it keeps track where the noise word is dropped. -/
theorem look_bind {next : TokenKind → Parser β} (drops : full.Drops bare)
    (inStep : full.InStep bare →
      Tracks stray full bare (next full.current.kind) (next full.current.kind))
    (atNoise : full.AtNoise bare →
      Tracks stray full bare (next full.current.kind) (next bare.current.kind)) :
    Tracks stray full bare (look 0 >>= next) (look 0 >>= next) := by
  change Tracks stray full bare (next full.current.kind) (next bare.current.kind)
  rcases drops.cases with same | noise
  · rw [same.kind]
    exact inStep same
  · exact atNoise noise

/-- A rule may go by whether a kind of token comes next, if it keeps track where the noise word is
dropped. -/
theorem test_bind {kind : TokenKind} {test : Parser Bool} {next others : Bool → Parser β}
    (drops : full.Drops bare)
    (tests : ∀ cursor, test cursor = .ok (decide (cursor.current.kind = kind)) cursor)
    (inStep : full.InStep bare → Tracks stray full bare
      (next (decide (full.current.kind = kind))) (others (decide (full.current.kind = kind))))
    (atNoise : full.AtNoise bare → Tracks stray full bare
      (next (decide (full.current.kind = kind))) (others (decide (bare.current.kind = kind)))) :
    Tracks stray full bare (test >>= next) (test >>= others) := by
  intro value stopped read
  rw [bind_of_ok (tests full)] at read
  rw [bind_of_ok (tests bare)]
  rcases drops.cases with same | noise
  · rw [same.kind]
    exact inStep same value stopped read
  · exact atNoise noise value stopped read

/-- A token that is shown on both sides is taken on both. -/
theorem advance_bind {next : Token → Parser β} (inStep : full.InStep bare)
    (plain : full.current.kind.isPlain = true)
    (after : full.advance.Drops bare.advance →
      Tracks stray full.advance bare.advance (next full.current) (next full.current)) :
    Tracks stray full bare (advance >>= next) (advance >>= next) := by
  have goes := (TokenKind.ne_of_isPlain plain).1
  have tracks := after (inStep.advance goes)
  intro value stopped read
  have token := inStep.token goes
  change next full.current full.advance = _ at read
  change (∃ stoppedToo, next bare.current bare.advance = _ ∧ _) ∨ _
  rw [token]
  exact tracks value stopped read

/-- What a rule sees of both cursors is compared. -/
theorem get_bind {next : Cursor → Parser β}
    (after : Tracks stray full bare (next full) (next bare)) :
    Tracks stray full bare (get >>= next) (get >>= next) :=
  after

/-- A rule that goes by the span of the current token only may do so, where spans have no say. -/
theorem start_bind {next : Token → Parser β}
    (after : ∀ token tokenToo, Tracks stray full bare (next token) (next tokenToo)) :
    Tracks stray full bare (current >>= next) (current >>= next) :=
  after full.current bare.current

/-- A rule goes by the kind of the current token, and by its span only where that has no say. -/
theorem current_bind {next : Token → Parser β} (drops : full.Drops bare)
    (inStep : full.InStep bare → ∀ tokenToo, tokenToo.kind = full.current.kind →
      Tracks stray full bare (next full.current) (next tokenToo))
    (atNoise : full.AtNoise bare → Ends stray full (next full.current)) :
    Tracks stray full bare (current >>= next) (current >>= next) := by
  change Tracks stray full bare (next full.current) (next bare.current)
  rcases drops.cases with same | noise
  · exact inStep same bare.current same.kind
  · exact of_ends (atNoise noise)

/-- The last span that was taken only shows in failures. -/
theorem previousSpan_bind {next others : Span → Parser β}
    (after : ∀ span spanToo, Tracks stray full bare (next span) (others spanToo)) :
    Tracks stray full bare (previousSpan >>= next) (previousSpan >>= others) :=
  after full.previousSpan bare.previousSpan

theorem fail {cause : Cause} {span : Span} :
    Tracks stray full bare (Parser.fail cause span : Parser α) other :=
  of_ends (Ends.of_error rfl)

end Tracks

namespace Indifferent

variable {middle stray : Cursor → Prop} {parser : Parser α} {kind : TokenKind}

theorem pure (value : α) : Indifferent stray (pure value) := fun _ _ drops => .ok rfl rfl drops

theorem unexpected {expected : Expectation} :
    Indifferent stray (unexpected expected : Parser α) :=
  fun _ _ _ => .of_ends (.of_error rfl)

theorem fail {cause : Cause} {span : Span} : Indifferent stray (fail cause span : Parser α) :=
  fun _ _ _ => .fail

theorem bind {next : α → Parser β} (first : Indifferent middle parser)
    (second : ∀ value, Indifferent stray (next value))
    (astray : ∀ value, Confined middle stray (next value)) : Indifferent stray (parser >>= next) :=
  fun _ _ drops => (first drops).bind (fun value _ _ drops => second value drops) astray

/-- Behind a parser that never strays, the others need only be indifferent. -/
theorem bind_strict {next : α → Parser β} (first : Indifferent Nowhere parser)
    (second : ∀ value, Indifferent stray (next value)) : Indifferent stray (parser >>= next) :=
  first.bind second fun _ => Confined.nowhere

/-- What is made of a value strays as little as the parser of the value. -/
theorem bind_pure {make : α → β} (indifferent : Indifferent stray parser) :
    Indifferent stray (do return make (← parser)) :=
  indifferent.bind (fun _ => pure _) fun _ => Confined.pure _ fun _ => id

theorem weaken {weak : Cursor → Prop} (indifferent : Indifferent stray parser)
    (weaker : ∀ cursor, stray cursor → weak cursor) : Indifferent weak parser :=
  fun _ _ drops => (indifferent drops).weaken weaker

/-- What never strays may be said to stray anywhere. -/
theorem strict (indifferent : Indifferent Nowhere parser) : Indifferent stray parser :=
  indifferent.weaken fun _ => False.elim

theorem choice {yes no : Parser β} (noiseless : kind.isNoise = false) (plain : kind.isPlain = true)
    (present : Indifferent stray yes) (absent : Indifferent stray no)
    (astray : Confined (Hides kind) stray no) :
    Indifferent stray (do if ← Parser.eat kind then yes else no) := by
  intro full bare drops value stopped read
  have taken {cursor : Cursor} (found : cursor.current.kind = kind) :
      Parser.eat kind cursor = .ok true cursor.advance := if_pos found
  have passed {cursor : Cursor} (missed : cursor.current.kind ≠ kind) :
      Parser.eat kind cursor = .ok false cursor := if_neg missed
  rcases drops.cases with inStep | atNoise
  · by_cases found : full.current.kind = kind
    · have goes : full.current.kind ≠ .finish := found ▸ (TokenKind.ne_of_isPlain plain).1
      rw [bind_of_ok (taken found)] at read
      rw [bind_of_ok (taken (inStep.kind.trans found))]
      exact present (inStep.advance goes) value stopped read
    · have missed : bare.current.kind ≠ kind := inStep.kind ▸ found
      rw [bind_of_ok (passed found)] at read
      rw [bind_of_ok (passed missed)]
      exact absent drops value stopped read
  · rw [bind_of_ok (passed (OnNoise.ne atNoise.noise noiseless))] at read
    by_cases next : bare.current.kind = kind
    · exact .inr (astray (atNoise.hides next) value stopped read)
    · rw [bind_of_ok (passed next)]
      exact absent drops value stopped read

/-- A token is taken on both sides or on none, unless the noise word hides it. -/
theorem eat (noiseless : kind.isNoise = false) (plain : kind.isPlain = true) :
    Indifferent (Hides kind) (eat kind) := by
  have split : Parser.eat kind = (do if ← Parser.eat kind then return true else return false) := by
    funext cursor
    by_cases found : cursor.current.kind = kind
    · have taken : Parser.eat kind cursor = .ok true cursor.advance := if_pos found
      rw [bind_of_ok taken, taken]
      rfl
    · have passed : Parser.eat kind cursor = .ok false cursor := if_neg found
      rw [bind_of_ok passed, passed]
      rfl
  rw [split]
  exact choice noiseless plain (pure true) (pure false) (Confined.pure false fun _ => id)

/-- A parser that goes by the current token alone never strays if it chooses no noise word. -/
theorem of_chooses {choose : TokenKind → Option α} {expected : Expectation}
    (chooses : Chooses parser choose expected)
    (chosen : ∀ kind value, choose kind = some value →
      kind.isNoise = false ∧ kind.isPlain = true) : Indifferent Nowhere parser := by
  intro full bare drops
  cases found : choose full.current.kind with
  | none =>
      refine .of_ends (Ends.of_chooses chooses fun value chosen => ?_)
      rw [found] at chosen
      cases chosen
  | some value =>
      obtain ⟨noiseless, plain⟩ := chosen _ _ found
      rcases drops.cases with inStep | atNoise
      · have read : parser full = .ok value full.advance := by
          rw [chooses, found]
        have readToo : parser bare = .ok value bare.advance := by
          rw [chooses, inStep.kind, found]
        exact .ok read readToo (inStep.advance (TokenKind.ne_of_isPlain plain).1)
      · rw [atNoise.noise] at noiseless
        cases noiseless

section Tokens

theorem expectSymbol (mark : Symbol) : Indifferent Nowhere (expectSymbol mark) :=
  choice rfl rfl (pure ()) unexpected Confined.unexpected

theorem expectKeyword (word : Keyword) (noiseless : (TokenKind.keyword word).isNoise = false) :
    Indifferent Nowhere (expectKeyword word) :=
  choice noiseless rfl (pure ()) unexpected Confined.unexpected

theorem expectName : Indifferent Nowhere expectName :=
  of_chooses expectName_chooses fun _ _ named =>
    ⟨TokenKind.isNoise_of_name? named, isPlain_of_name? named⟩

/-- A rule may go by whether a kind of token comes next. -/
theorem test_bind {test : Parser Bool} {next : Bool → Parser β}
    (tests : ∀ cursor, test cursor = .ok (decide (cursor.current.kind = kind)) cursor)
    (noiseless : kind.isNoise = false) (present : Indifferent stray (next true))
    (absent : Indifferent stray (next false))
    (astray : Confined (Hides kind) stray (next false)) : Indifferent stray (test >>= next) := by
  intro full bare drops
  refine Tracks.test_bind drops tests (fun _ => ?_) fun atNoise => ?_
  · cases decide (full.current.kind = kind) with
    | true => exact present drops
    | false => exact absent drops
  · rw [decide_eq_false (OnNoise.ne atNoise.noise noiseless)]
    by_cases next : bare.current.kind = kind
    · exact .of_ends (astray (atNoise.hides next))
    · rw [decide_eq_false next]
      exact absent drops

end Tokens

section Lists

/-- A loop that settles is indifferent if it is so for any number of turns. -/
theorem of_settles {loop : Nat → Parser α}
    (settles : ∀ cursor : Cursor, cursor.close.kind = .finish → Settles loop cursor)
    (indifferent : ∀ fuel, Indifferent stray (loop fuel)) :
    Indifferent stray (do loop ((← get).ahead.length + 1)) := by
  intro full bare drops
  have shorter := drops.ahead.length_le
  -- Both sides may take as many turns as the longer stream has tokens.
  have turns : (do loop ((← get).ahead.length + 1) : Parser α) bare =
      loop (full.ahead.length + 1) bare :=
    (settles bare drops.closedToo).run_eq drops.closedToo (Nat.lt_succ_self _)
      (Nat.lt_succ_of_le shorter)
  intro value stopped read
  rw [turns]
  exact indifferent _ drops value stopped read

theorem collect {item : Parser (Option α)} (moving : Moving item (·.isSome = true))
    (indifferent : Indifferent stray item) (astray : Confined stray stray item) :
    Indifferent stray (collect item) := by
  refine of_settles
    (fun _ closed => collectWithin_settles moving closed (Nat.lt_succ_self _)) fun fuel => ?_
  induction fuel with
  | zero => exact pure []
  | succ fuel inductionHypothesis =>
      refine indifferent.bind (fun found => ?_) fun found => ?_
      · cases found with
        | none => exact pure []
        | some value => exact inductionHypothesis.bind_pure
      · cases found with
        | none => exact Confined.pure [] fun _ => id
        | some value => exact (astray.collectWithin fuel).bind_pure

/-- Items behind a token are indifferent if the items are, where they stray to cursors that refuse
the token. -/
theorem manyAfter {item : Parser α} (noiseless : kind.isNoise = false)
    (plain : kind.isPlain = true) (steady : Steady item) (indifferent : Indifferent stray item)
    (hidden : ∀ cursor, Hides kind cursor → stray cursor)
    (refused : ∀ cursor, stray cursor → cursor.current.kind ≠ kind) :
    Indifferent stray (manyAfter (Parser.eat kind) item) := by
  refine collect ((Moving.eat plain).guarded steady) ?_ ?_
  · exact choice noiseless plain indifferent.bind_pure (pure none) (Confined.pure none hidden)
  · exact Confined.choice refused (Confined.pure none fun _ => id)

theorem separated {item : Parser α} (steady : Steady item) (indifferent : Indifferent stray item)
    (halted : ∀ cursor, Halted cursor → stray cursor)
    (refused : ∀ cursor, stray cursor → cursor.current.kind ≠ .symbol .comma) :
    Indifferent stray (separated item) := by
  have others : Indifferent stray (Parser.manyAfter (Parser.eat (.symbol .comma)) item) :=
    manyAfter rfl rfl steady indifferent (fun cursor hides => halted cursor hides.halted) refused
  exact indifferent.bind (fun _ => others.bind_pure) fun _ =>
    (Confined.manyAfter refused).bind_pure

theorem optionalAfter (word : Keyword) {item : Parser α}
    (noiseless : (TokenKind.keyword word).isNoise = false) (indifferent : Indifferent stray item)
    (hidden : ∀ cursor, Hides (.keyword word) cursor → stray cursor) :
    Indifferent stray (optionalAfter word item) :=
  choice noiseless rfl indifferent.bind_pure (pure none) (Confined.pure none hidden)

/-- Parentheses are closed nowhere that their content strays to. -/
theorem parenthesized {item : Parser α} (indifferent : Indifferent Lost item) :
    Indifferent Nowhere (parenthesized item) :=
  (expectSymbol .leftParen).bind_strict fun _ =>
    indifferent.bind (fun _ => (expectSymbol .rightParen).bind_strict fun _ => pure _) fun _ =>
      (Confined.expectSymbol fun _ lost => lost.ne rfl).bind_nowhere

end Lists

end Indifferent

/-- A parser is indifferent, and what strayed before it strays behind it as well, or fails. -/
structure Sealed (start stray : Cursor → Prop) (parser : Parser α) : Prop where
  indifferent : Indifferent stray parser
  confined : Confined start stray parser

namespace Sealed

variable {start middle stray : Cursor → Prop} {parser : Parser α}

/-- Sealed parsers compose, each of them behind what the one before strays to. -/
theorem bind {next : α → Parser β} (first : Sealed start middle parser)
    (second : ∀ value, Sealed middle stray (next value)) : Sealed start stray (parser >>= next) :=
  ⟨first.indifferent.bind (fun value => (second value).indifferent) fun value =>
      (second value).confined,
    first.confined.bind fun value => (second value).confined⟩

/-- Behind a parser that is indifferent, the others have to be sealed. -/
theorem behind {next : α → Parser β} (first : Indifferent middle parser)
    (second : ∀ value, Sealed middle stray (next value)) : Indifferent stray (parser >>= next) :=
  first.bind (fun value => (second value).indifferent) fun value => (second value).confined

theorem pure (value : α) (within : ∀ cursor, start cursor → stray cursor) :
    Sealed start stray (pure value) :=
  ⟨Indifferent.pure value, Confined.pure value within⟩

theorem bind_pure {make : α → β} (first : Sealed start stray parser) :
    Sealed start stray (do return make (← parser)) :=
  first.bind fun _ => pure _ fun _ => id

/-- Where a token is not there, a choice goes on without it. -/
theorem choice {yes no : Parser α} {kind : TokenKind} (noiseless : kind.isNoise = false)
    (plain : kind.isPlain = true) (refused : ∀ cursor, start cursor → cursor.current.kind ≠ kind)
    (hidden : ∀ cursor, Hides kind cursor → start cursor) (present : Indifferent stray yes)
    (absent : Sealed start stray no) :
    Sealed start stray (do if ← Parser.eat kind then yes else no) :=
  ⟨Indifferent.choice noiseless plain present absent.indifferent
      (absent.confined.weaken hidden fun _ => id),
    Confined.choice refused absent.confined⟩

/-- What is asked for stops whatever strayed before it. -/
theorem expectSymbol {mark : Symbol}
    (refused : ∀ cursor, start cursor → cursor.current.kind ≠ .symbol mark) :
    Sealed start Nowhere (expectSymbol mark) :=
  ⟨Indifferent.expectSymbol mark, Confined.expectSymbol refused⟩

theorem expectKeyword {word : Keyword} (noiseless : (TokenKind.keyword word).isNoise = false)
    (refused : ∀ cursor, start cursor → cursor.current.kind ≠ .keyword word) :
    Sealed start Nowhere (expectKeyword word) :=
  ⟨Indifferent.expectKeyword word noiseless, Confined.expectKeyword refused⟩

/-- Where nothing strays before a parser, it need only be indifferent. -/
theorem of_strict (indifferent : Indifferent stray parser) : Sealed Nowhere stray parser :=
  ⟨indifferent, Confined.nowhere⟩

theorem weaken {other weak : Cursor → Prop} (guarded : Sealed start stray parser)
    (stronger : ∀ cursor, other cursor → start cursor)
    (weaker : ∀ cursor, stray cursor → weak cursor) : Sealed other weak parser :=
  ⟨guarded.indifferent.weaken weaker, guarded.confined.weaken stronger weaker⟩

/-- A part behind a keyword is there on both sides or on none, where the keyword lets go on. -/
theorem optionalHalted (word : Keyword) {item : Parser α}
    (halts : (TokenKind.keyword word).halts = false) (indifferent : Indifferent Halted item) :
    Sealed Halted Halted (optionalAfter word item) :=
  ⟨Indifferent.optionalAfter word (Bool.or_eq_false_iff.mp halts).1 indifferent fun _ hides =>
      hides.halted,
    Confined.optionalAfter (fun _ halted => halted.ne halts) fun _ => id⟩

/-- A part behind a keyword is there on both sides or on none, where the keyword closes a sort
key. -/
theorem optionalLost (word : Keyword) {item : Parser α}
    (closes : (TokenKind.keyword word).closesSortKey = true)
    (noiseless : (TokenKind.keyword word).isNoise = false) (indifferent : Indifferent Lost item) :
    Sealed Lost Lost (optionalAfter word item) :=
  ⟨Indifferent.optionalAfter word noiseless indifferent fun _ hides => hides.halted.lost,
    Confined.optionalAfter (fun _ lost => lost.ne closes) fun _ => id⟩

end Sealed

end Parser

end SqlTree
