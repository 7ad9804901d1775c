import SqlTree.Proofs.Grammar.Bigints
import SqlTree.Proofs.Grammar.Consuming
import SqlTree.Proofs.Grammar.SteadyStatements

/-!
# Places of integers

A stream of tokens may hold any bigint in its integer tokens, also those that no text is read as.
Among the tokens that a parser of sequences consumes, every integer has a place: it is a modifier,
in a list in parentheses, or stands behind the words of a clause and a sign. The tokens in front of
an integer tell which of these it is, and which clause.
-/

namespace SqlTree

open SqlTree.Parser SqlTree.Grammar

namespace Sign

/-- What a sign makes of an integer. -/
def apply (sign : Sign) (number : Int) : Int := if sign.isNegative then -number else number

/-- What a sign makes of a bigint. -/
def applyBigint (sign : Sign) (number : Int64) : Int64 :=
  if sign.isNegative then -number else number

/-- Within the bigints every negative is found but that of the least one. -/
theorem toInt_applyBigint {sign : Sign} {number : Int64}
    (inRange : ¬ (sign = .minus ∧ number = Int64.minValue)) :
    (sign.applyBigint number).toInt = sign.apply number.toInt := by
  unfold applyBigint apply
  split
  · next negative =>
      have other : number ≠ Int64.minValue := fun least =>
        inRange ⟨of_decide_eq_true negative, least⟩
      have low := Int64.le_toInt number
      have high := Int64.toInt_lt number
      have apart : number.toInt ≠ -2 ^ 63 := fun least =>
        other (Int64.toInt_inj.mp (least.trans Int64.toInt_minValue.symm))
      rw [Int64.toInt_neg]
      apply Int.bmod_eq_of_le <;> omega
  · rfl

end Sign

/-- A place of an integer behind other tokens: as a modifier, in a list in parentheses; or behind
the words of a clause that holds with it, and a sign. -/
inductive IntegerPlace (verb : SequenceVerb) (holds : SequenceClause → Prop)
    (front : List TokenKind) (number : Int64) : Prop
  | modifier {mark : Symbol} (opens : mark = .leftParen ∨ mark = .comma)
      (behind : [.symbol mark] <:+ front) : IntegerPlace verb holds front number
  | clause {make : Int64 → SequenceClause} {words : List TokenKind}
      (form : IntegerForm verb make words) (sign : Sign) (behind : words ++ sign.kinds <:+ front)
      (held : holds (make (sign.applyBigint number))) : IntegerPlace verb holds front number

/-- Every integer among some tokens has a place. -/
def IntegersPlaced (verb : SequenceVerb) (holds : SequenceClause → Prop)
    (kinds : List TokenKind) : Prop :=
  ∀ ⦃front : List TokenKind⦄ ⦃number : Int64⦄ ⦃back : List TokenKind⦄,
    kinds = front ++ .integer number :: back → IntegerPlace verb holds front number

section Integers

variable {verb : SequenceVerb} {holds weaker : SequenceClause → Prop}
  {make : Int64 → SequenceClause} {words front back kinds : List TokenKind} {kind : TokenKind}
  {number : Int64}

/-- Tokens further in front leave a place as it is. -/
theorem IntegerPlace.append (place : IntegerPlace verb holds front number)
    (further : List TokenKind) : IntegerPlace verb holds (further ++ front) number := by
  cases place with
  | modifier opens behind => exact .modifier opens (behind.trans (List.suffix_append _ _))
  | clause form sign behind held =>
      exact .clause form sign (behind.trans (List.suffix_append _ _)) held

theorem IntegersPlaced.weaken (placed : IntegersPlaced verb holds kinds)
    (weaken : ∀ {make words}, IntegerForm verb make words → ∀ value, holds (make value) →
      weaker (make value)) : IntegersPlaced verb weaker kinds := by
  intro front number back split
  cases placed split with
  | modifier opens behind => exact .modifier opens behind
  | clause form sign behind held => exact .clause form sign behind (weaken form _ held)

/-- Where there is no integer, each has a place. -/
theorem IntegersPlaced.of_none (none : ∀ number, .integer number ∉ kinds) :
    IntegersPlaced verb holds kinds := by
  rintro front number back rfl
  exact absurd (List.mem_append_right front List.mem_cons_self) (none number)

theorem IntegersPlaced.append (first : IntegersPlaced verb holds front)
    (second : IntegersPlaced verb holds back) : IntegersPlaced verb holds (front ++ back) := by
  intro before number behind split
  rcases List.append_eq_append_iff.mp split with ⟨between, rfl, inside⟩ | ⟨between, inside, rest⟩
  · exact (second inside).append front
  · cases between with
    | nil =>
        rw [List.append_nil] at inside
        have place : IntegerPlace verb holds [] number := second rest.symm
        have further := place.append front
        rwa [List.append_nil, inside] at further
    | cons head between =>
        obtain ⟨rfl, -⟩ := List.cons.inj rest
        exact first inside

/-- Only the last of some tokens may be an integer, whose place is known. -/
theorem IntegersPlaced.of_last (none : ∀ number, .integer number ∉ front)
    (place : ∀ number, kind = .integer number → IntegerPlace verb holds front number) :
    IntegersPlaced verb holds (front ++ [kind]) := by
  intro before number behind split
  rcases List.append_eq_append_iff.mp split with ⟨between, rfl, inside⟩ | ⟨between, rfl, rest⟩
  · cases between with
    | nil =>
        obtain ⟨same, -⟩ := List.cons.inj inside
        rw [List.append_nil]
        exact place number same
    | cons head between => simp at inside
  · cases between with
    | nil =>
        obtain ⟨same, -⟩ := List.cons.inj rest
        have found := place number same.symm
        rwa [List.append_nil] at found
    | cons head between =>
        obtain ⟨rfl, -⟩ := List.cons.inj rest
        exact absurd (List.mem_append_right before List.mem_cons_self) (none number)

/-- Neither words nor a sign are integers. -/
theorem IntegerForm.integer_notMem (form : IntegerForm verb make words) (sign : Sign)
    (number : Int64) : .integer number ∉ words ++ sign.kinds := by
  cases form <;> cases sign <;> simp [Sign.kinds]

/-- Nor are they the marks of a list in parentheses. -/
theorem IntegerForm.mark_notMem (form : IntegerForm verb make words) (sign : Sign) {mark : Symbol}
    (opens : mark = .leftParen ∨ mark = .comma) : .symbol mark ∉ words ++ sign.kinds := by
  rcases opens with rfl | rfl <;> cases form <;> cases sign <;> simp [Sign.kinds]

/-- The integer of a clause has its place behind the words and the sign. -/
theorem IntegersPlaced.of_form (form : IntegerForm verb make words) {sign : Sign} {value : Int64}
    (worth : ∀ number, kind = .integer number → value = sign.applyBigint number) :
    IntegersPlaced verb (· = make value) (words ++ (sign.kinds ++ [kind])) := by
  rw [← List.append_assoc]
  refine .of_last (form.integer_notMem sign) fun number same => ?_
  exact .clause form sign List.suffix_rfl (congrArg make (worth number same).symm)

/-- A clause starts with the first word, and nowhere else in front of the integer. -/
theorem IntegerForm.phrase (form : IntegerForm verb make words) (sign : Sign) :
    ∃ first others, words ++ sign.kinds = first :: others ∧ startsClause first = true ∧
      ∀ kind ∈ others, startsClause kind = false := by
  cases form <;> cases sign <;> exact ⟨_, _, rfl, rfl, by decide⟩

/-- The words in front of an integer and its sign are told apart. -/
theorem IntegerForm.filter_phrase (form : IntegerForm verb make words) (sign : Sign) :
    (words ++ sign.kinds).filter startsSignedNumber = sign.kinds ∧
      (words ++ sign.kinds).filter (fun kind => !startsSignedNumber kind) = words := by
  cases form <;> cases sign <;> exact ⟨rfl, rfl⟩

theorem Sign.kinds_injective {sign other : Sign} (same : sign.kinds = other.kinds) :
    sign = other := by
  cases sign <;> cases other <;> first | rfl | cases same

section Forms

variable {other : Int64 → SequenceClause} {others : List TokenKind} {sign sign' : Sign}

/-- What ends with the words and the sign of one clause does not hold more of another. -/
theorem IntegerForm.phrase_eq_of_suffix (form : IntegerForm verb make words)
    (form' : IntegerForm verb other others)
    (suffix : words ++ sign.kinds <:+ others ++ sign'.kinds) :
    words ++ sign.kinds = others ++ sign'.kinds := by
  obtain ⟨before, split⟩ := suffix
  cases before with
  | nil => exact split
  | cons head before =>
      obtain ⟨first, rest, phrase, starts, -⟩ := form.phrase sign
      obtain ⟨first', rest', phrase', -, plain⟩ := form'.phrase sign'
      rw [phrase, phrase', List.cons_append] at split
      obtain ⟨-, split⟩ := List.cons.inj split
      have among : first ∈ rest' := split ▸ List.mem_append_right before List.mem_cons_self
      rw [plain first among] at starts
      cases starts

/-- The tokens in front of an integer tell the clause that it stands in, and its sign. -/
theorem IntegerForm.eq_of_suffix (form : IntegerForm verb make words)
    (form' : IntegerForm verb other others) (suffix : words ++ sign.kinds <:+ front)
    (suffix' : others ++ sign'.kinds <:+ front) : make = other ∧ sign = sign' := by
  have same : words ++ sign.kinds = others ++ sign'.kinds := by
    rcases List.suffix_or_suffix_of_suffix suffix suffix' with first | second
    · exact form.phrase_eq_of_suffix form' first
    · exact (form'.phrase_eq_of_suffix form second).symm
  have signs : sign.kinds = sign'.kinds := by
    rw [← (form.filter_phrase sign).1, same, (form'.filter_phrase sign').1]
  have wordsToo : words = others := by
    rw [← (form.filter_phrase sign).2, same, (form'.filter_phrase sign').2]
  subst wordsToo
  refine ⟨?_, Sign.kinds_injective signs⟩
  cases form <;> cases form' <;> rfl

/-- An integer behind the words and the sign of a clause stands in that clause. -/
theorem IntegerPlace.held (place : IntegerPlace verb holds front number)
    (form : IntegerForm verb make words) (suffix : words ++ sign.kinds <:+ front) :
    holds (make (sign.applyBigint number)) := by
  cases place with
  | modifier opens behind =>
      obtain ⟨first, rest, phrase, -, -⟩ := form.phrase sign
      have least : 1 ≤ (words ++ sign.kinds).length := by
        rw [phrase]
        exact Nat.succ_le_succ (Nat.zero_le _)
      have among := List.suffix_of_suffix_length_le behind suffix least
      exact absurd (among.mem List.mem_cons_self) (form.mark_notMem sign opens)
  | clause form' sign' behind held =>
      obtain ⟨rfl, rfl⟩ := form.eq_of_suffix form' suffix behind
      exact held

end Forms

/-- A token that is no integer leaves the integers behind it in their places. -/
theorem IntegersPlaced.cons (other : ∀ number, kind ≠ .integer number)
    (placed : IntegersPlaced verb holds kinds) : IntegersPlaced verb holds (kind :: kinds) := by
  have alone : IntegersPlaced verb holds [kind] :=
    .of_none fun number among => other number (List.mem_singleton.mp among).symm
  exact alone.append placed

theorem IntegersPlaced.of_modifier {mark : Symbol} (opens : mark = .leftParen ∨ mark = .comma) :
    IntegersPlaced verb holds ([.symbol mark] ++ [.integer number]) :=
  .of_last (by simp) fun _ _ => .modifier opens List.suffix_rfl

namespace Parser

variable {α β : Type}

/-- From a cursor, every integer that a parser consumes has a place, and the clauses of the integers
hold of what the parser makes. -/
def PlacesAt (verb : SequenceVerb) (parser : Parser α) (cursor : Cursor)
    (holds : α → SequenceClause → Prop) : Prop :=
  ConsumesAt parser cursor fun value => IntegersPlaced verb (holds value)

/-- From every cursor, the integers that a parser consumes have places. -/
def Places (verb : SequenceVerb) (parser : Parser α) (holds : α → SequenceClause → Prop) : Prop :=
  ∀ cursor, PlacesAt verb parser cursor holds

/-- A parser of no clauses, for which every integer is a modifier. -/
abbrev PlacesModifiers (verb : SequenceVerb) (parser : Parser α) : Prop :=
  Places verb parser fun _ _ => False

variable {verb : SequenceVerb} {parser : Parser α} {next : α → Parser β}
  {holds : β → SequenceClause → Prop} {kind : TokenKind}

/-- A token that is known to be no integer may be taken. -/
theorem PlacesAt.advance_bind {next : Token → Parser β} {cursor : Cursor}
    (known : cursor.current.kind = kind) (plain : kind.isPlain = true)
    (other : ∀ number, kind ≠ .integer number)
    (after : PlacesAt verb (next cursor.current) (cursor.past 1) holds) :
    PlacesAt verb (advance >>= next) cursor holds := by
  subst known
  exact ConsumesAt.advance_bind plain (after.weaken fun _ _ placed => placed.cons other)

namespace Places

theorem of_none (consumes : Consumes parser fun _ kinds => ∀ number, .integer number ∉ kinds) :
    PlacesModifiers verb parser :=
  consumes.weaken fun _ _ none => .of_none none

/-- What consumes nothing consumes no integer. -/
theorem of_nil (consumes : Consumes parser fun _ kinds => kinds = []) :
    PlacesModifiers verb parser :=
  of_none (consumes.weaken fun _ _ same number => by simp [same])

theorem pure (value : β) : Places verb (pure value) holds :=
  Consumes.pure (.of_none fun _ => List.not_mem_nil)

theorem fail {cause : Cause} {span : Span} : Places verb (fail cause span) holds := Consumes.fail

theorem unexpected {expected : Expectation} : Places verb (unexpected expected) holds :=
  Consumes.unexpected

/-- Behind a parser of no clauses the others are placed. -/
theorem bind (first : PlacesModifiers verb parser)
    (second : ∀ value, Places verb (next value) holds) : Places verb (parser >>= next) holds :=
  Consumes.bind first fun value _ placed => Consumes.weaken (second value) fun _ _ others =>
    (placed.weaken fun _ _ => False.elim).append others

/-- What is made of a value of no clauses has none. -/
theorem returned {make : α → β} (places : PlacesModifiers verb parser) :
    Places verb (do return make (← parser)) holds :=
  places.bind fun _ => pure _

theorem eat (plain : kind.isPlain = true) (other : ∀ number, kind ≠ .integer number) :
    PlacesModifiers verb (eat kind) := by
  refine of_none ((Consumes.eat plain).weaken ?_)
  rintro found _ rfl number among
  split at among
  · exact other number (List.mem_singleton.mp among).symm
  · exact List.not_mem_nil among

theorem eatSymbol (mark : Symbol) : PlacesModifiers verb (eatSymbol mark) := eat rfl (by simp)

/-- Whichever way a choice by the next token goes, the integers are placed. -/
theorem choice {yes no : Parser β} (plain : kind.isPlain = true)
    (other : ∀ number, kind ≠ .integer number) (present : Places verb yes holds)
    (absent : Places verb no holds) :
    Places verb (do if ← Parser.eat kind then yes else no) holds :=
  (eat plain other).bind fun found => by
    cases found with
    | true => exact present
    | false => exact absent

theorem expectSymbol (mark : Symbol) : PlacesModifiers verb (expectSymbol mark) :=
  choice rfl (by simp) (pure _) unexpected

theorem expectKeyword (word : Keyword) : PlacesModifiers verb (expectKeyword word) :=
  choice rfl (by simp) (pure _) unexpected

/-- A token that names something is no integer. -/
theorem of_name {parser : Parser String}
    (consumes : Consumes parser fun name kinds => ∃ kind, kind.name? = some name ∧ kinds = [kind]) :
    PlacesModifiers verb parser := by
  refine of_none (consumes.weaken ?_)
  rintro name _ ⟨kind, named, rfl⟩ number among
  cases List.mem_singleton.mp among
  cases named

theorem expectName : PlacesModifiers verb expectName := of_name Consumes.expectName

theorem look (places : Nat) : PlacesModifiers verb (look places) := of_nil (Consumes.look places)

theorem collectWithin {optional : Parser (Option α)} (each : PlacesModifiers verb optional)
    (fuel : Nat) : PlacesModifiers verb (collectWithin optional fuel) := by
  induction fuel with
  | zero => exact pure _
  | succ fuel inductionHypothesis =>
      refine each.bind fun found => ?_
      cases found with
      | none => exact pure _
      | some value => exact inductionHypothesis.returned

theorem collect {optional : Parser (Option α)} (each : PlacesModifiers verb optional) :
    PlacesModifiers verb (collect optional) :=
  fun cursor => collectWithin each (cursor.ahead.length + 1) cursor

theorem manyAfter {guard : Parser Bool} (asks : PlacesModifiers verb guard)
    (each : PlacesModifiers verb parser) : PlacesModifiers verb (manyAfter guard parser) :=
  collect (asks.bind fun found => by
    cases found with
    | true => exact each.returned
    | false => exact pure _)

end Places

end Parser

end Integers

end SqlTree
