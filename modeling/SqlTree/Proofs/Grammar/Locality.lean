import SqlTree.Grammar.Name
import SqlTree.Proofs.Grammar.Reading

/-!
# Locality

A parser is local if what it makes of a group of tokens in front of the end of a statement, it makes
of them in front of another clause as well. The parser may look at what follows the group, but what
starts a clause tells it no more than the end does.
-/

namespace SqlTree

open SqlTree.Parser SqlTree.Grammar

/-- Whether a token starts a clause of a statement on sequences. -/
def startsClause : TokenKind → Bool
  | .keyword .AS | .keyword .START | .keyword .INCREMENT | .keyword .MINVALUE
  | .keyword .MAXVALUE | .keyword .CACHE | .keyword .CYCLE | .keyword .NO | .keyword .OWNED
  | .keyword .RESTART => true
  | _ => false

/-- Whether a token ends a clause of a statement on sequences: it starts the next one or stands at
the end of the statement. -/
def endsClause (kind : TokenKind) : Bool := startsClause kind || kind.isTerminator

theorem endsClause_of_isTerminator {kind : TokenKind} (ends : kind.isTerminator = true) :
    endsClause kind = true := by
  rw [endsClause, ends, Bool.or_true]

/-- What starts a clause does not end the statement. -/
theorem going_of_startsClause {kind : TokenKind} (starts : startsClause kind = true) :
    kind.isTerminator = false := by
  unfold startsClause at starts
  split at starts <;> first | rfl | cases starts

theorem name?_of_isTerminator {kind : TokenKind} (ends : kind.isTerminator = true) :
    kind.name? = none := by
  unfold TokenKind.isTerminator at ends
  split at ends
  · rfl
  · rfl
  · cases ends

/-- What ends a clause is none of the tokens that do not. -/
theorem ne_of_endsClause {kind other : TokenKind} (ends : endsClause kind = true)
    (plain : endsClause other = false) : kind ≠ other := by
  rintro rfl
  rw [plain] at ends
  cases ends

/-- The same group of tokens stands ahead of two cursors on one text: alone before the end of a
statement, and within a statement that may go on with a clause. -/
structure Aligned (group : List Token) (alone within : Cursor) : Prop where
  source : alone.source = within.source
  alone_ahead : alone.ahead.take group.length = group
  within_ahead : within.ahead.take group.length = group
  alone_ends : (alone.peek group.length).kind.isTerminator = true
  within_ends : endsClause (within.peek group.length).kind = true

/-- A token of a group at the front is the one that stands ahead. -/
theorem Cursor.peek_of_take {cursor : Cursor} {group : List Token} {places : Nat}
    (ahead : cursor.ahead.take group.length = group) (inside : places < group.length) :
    cursor.peek places = group[places] := by
  have found : cursor.ahead[places]? = some group[places] := by
    rw [← List.getElem?_eq_getElem inside]
    conv => rhs; rw [← ahead]
    rw [List.getElem?_take_of_lt inside]
  rw [Cursor.peek, found, Option.getD_some]

/-- A token that ends no input is passed by advancing. -/
theorem Cursor.advance_of_take {cursor : Cursor} {group : List Token}
    (ahead : cursor.ahead.take group.length = group) (inside : 0 < group.length)
    (going : cursor.current.kind ≠ .finish) : cursor.advance = cursor.past 1 := by
  obtain ⟨source, tokens, close, consumed, previous⟩ := cursor
  cases tokens with
  | nil =>
      rw [List.take_nil] at ahead
      subst ahead
      cases inside
  | cons token tokens =>
      have other : token.kind ≠ .finish := going
      simp [Cursor.advance, Cursor.past, other]

namespace Aligned

variable {group : List Token} {alone within : Cursor}

/-- Inside the group both cursors see the same tokens. -/
theorem peek (aligned : Aligned group alone within) {places : Nat}
    (inside : places < group.length) : alone.peek places = within.peek places := by
  rw [Cursor.peek_of_take aligned.alone_ahead inside,
    Cursor.peek_of_take aligned.within_ahead inside]

/-- What does not end the statement stands inside the group. -/
theorem inside (aligned : Aligned group alone within)
    (going : alone.current.kind.isTerminator = false) : 0 < group.length := by
  refine Nat.pos_of_ne_zero fun empty => ?_
  have ends : (alone.peek 0).kind.isTerminator = true := empty ▸ aligned.alone_ends
  rw [Cursor.current, ends] at going
  cases going

/-- Behind some tokens of the group both cursors face the others. -/
theorem past (aligned : Aligned group alone within) {count : Nat} (le : count ≤ group.length) :
    Aligned (group.drop count) (alone.past count) (within.past count) where
  source := aligned.source
  alone_ahead := by
    rw [List.length_drop, Cursor.past, ← List.drop_take, aligned.alone_ahead]
  within_ahead := by
    rw [List.length_drop, Cursor.past, ← List.drop_take, aligned.within_ahead]
  alone_ends := by
    rw [Cursor.peek_past, List.length_drop, Nat.add_sub_cancel' le]
    exact aligned.alone_ends
  within_ends := by
    rw [Cursor.peek_past, List.length_drop, Nat.add_sub_cancel' le]
    exact aligned.within_ends

/-- Both cursors advance over what does not end the statement. -/
theorem advance (aligned : Aligned group alone within)
    (going : alone.current.kind.isTerminator = false) :
    alone.current = within.current ∧ alone.advance = alone.past 1
      ∧ within.advance = within.past 1 := by
  have inside := aligned.inside going
  have same : alone.current = within.current := aligned.peek inside
  have notFinish : alone.current.kind ≠ .finish := fun finish => by
    rw [finish] at going
    cases going
  exact ⟨same, Cursor.advance_of_take aligned.alone_ahead inside notFinish,
    Cursor.advance_of_take aligned.within_ahead inside (same ▸ notFinish)⟩

/-- A test that fails on what ends a clause gives the same answer for both cursors, if everything
before the token that it is about stands inside the group. -/
theorem test (aligned : Aligned group alone within) (test : TokenKind → Bool)
    (plain : ∀ kind, endsClause kind = true → test kind = false) {places : Nat}
    (le : places ≤ group.length) :
    test (alone.peek places).kind = test (within.peek places).kind := by
  rcases Nat.lt_or_eq_of_le le with inside | rfl
  · rw [aligned.peek inside]
  · rw [plain _ (endsClause_of_isTerminator aligned.alone_ends), plain _ aligned.within_ends]

end Aligned

namespace Parser

variable {α β : Type}

/-- What a parser makes of a group alone, it makes of it within a statement. -/
def Local (parser : Parser α) : Prop :=
  ∀ ⦃group : List Token⦄ ⦃alone within : Cursor⦄, Aligned group alone within →
    ∀ ⦃value : α⦄ ⦃stopped : Cursor⦄, parser alone = .ok value stopped →
      ∃ taken ≤ group.length, stopped = alone.past taken ∧
        parser within = .ok value (within.past taken)

/-- A parser of optional values takes a token at least for each. -/
def Advances (item : Parser (Option α)) : Prop :=
  ∀ ⦃group : List Token⦄ ⦃alone within : Cursor⦄, Aligned group alone within →
    ∀ ⦃value : α⦄ ⦃stopped : Cursor⦄, item alone = .ok (some value) stopped →
      alone.consumed < stopped.consumed

namespace Local

variable {parser : Parser α} {next : α → Parser β} {group : List Token} {alone within : Cursor}

theorem pure (value : α) : Local (pure value) := by
  rintro group alone within aligned _ _ ⟨⟩
  refine ⟨0, Nat.zero_le _, ?_, ?_⟩
  · rw [Cursor.past_zero]
  · rw [Cursor.past_zero]
    rfl

/-- What never succeeds is local. -/
theorem of_error (fails : ∀ cursor value stopped, parser cursor ≠ .ok value stopped) :
    Local parser := by
  intro group alone within _ value stopped parsed
  exact absurd parsed (fails _ _ _)

theorem unexpected (expected : Expectation) : Local (unexpected expected : Parser α) :=
  of_error fun _ _ _ parsed => by cases parsed

theorem bind (first : Local parser) (second : ∀ value, Local (next value)) :
    Local (parser >>= next) := by
  intro group alone within aligned result stopped parsed
  obtain ⟨value, between, firstParsed, secondParsed⟩ := ok_of_bind_ok parsed
  obtain ⟨front, frontLe, rfl, firstWithin⟩ := first aligned firstParsed
  obtain ⟨back, backLe, rfl, secondWithin⟩ := second value (aligned.past frontLe) secondParsed
  rw [List.length_drop] at backLe
  refine ⟨front + back, by omega, Cursor.past_past _ _ _, ?_⟩
  rw [bind_of_ok firstWithin, secondWithin, Cursor.past_past]

/-- A parser that takes the current token, as long as it is one of those that it chooses, is local
if it chooses none at the end of a statement. It may choose by the text of the token. -/
theorem of_choice (choose : TokenKind → Option (List Char) → Option α)
    (plain : ∀ kind text?, kind.isTerminator = true → choose kind text? = none)
    (spec : ∀ cursor value stopped, parser cursor = .ok value stopped ↔
      choose cursor.current.kind cursor.currentText? = some value ∧ stopped = cursor.advance) :
    Local parser := by
  intro group alone within aligned value stopped parsed
  obtain ⟨chosen, rfl⟩ := (spec _ _ _).mp parsed
  have going : alone.current.kind.isTerminator = false := by
    cases ends : alone.current.kind.isTerminator with
    | false => rfl
    | true =>
        rw [plain _ _ ends] at chosen
        cases chosen
  obtain ⟨same, aloneAdvance, withinAdvance⟩ := aligned.advance going
  have text : alone.currentText? = within.currentText? := by
    rw [Cursor.currentText?, Cursor.currentText?, same, aligned.source]
  rw [same, text] at chosen
  exact ⟨1, aligned.inside going, aloneAdvance, (spec _ _ _).mpr ⟨chosen, withinAdvance.symm⟩⟩

/-- What is taken by its kind does not end the statement. -/
theorem going_of_plain {kind : TokenKind} (plain : endsClause kind = false) {cursor : Cursor}
    (found : cursor.current.kind = kind) : cursor.current.kind.isTerminator = false := by
  rw [found]
  exact (Bool.or_eq_false_iff.mp plain).2

theorem eat {kind : TokenKind} (plain : endsClause kind = false) : Local (eat kind) := by
  intro group alone within aligned value stopped parsed
  have same : decide (alone.current.kind = kind) = decide (within.current.kind = kind) :=
    aligned.test (fun other => decide (other = kind))
      (fun other ends => decide_eq_false (ne_of_endsClause ends plain)) (Nat.zero_le _)
  rw [decide_eq_decide] at same
  unfold Parser.eat at parsed ⊢
  split at parsed
  · next found =>
      have going := going_of_plain plain found
      obtain ⟨_, aloneAdvance, withinAdvance⟩ := aligned.advance going
      cases parsed
      exact ⟨1, aligned.inside going, aloneAdvance, withinAdvance ▸ if_pos (same.mp found)⟩
  · next missed =>
      cases parsed
      refine ⟨0, Nat.zero_le _, (Cursor.past_zero _).symm, ?_⟩
      rw [if_neg fun found => missed (same.mpr found), Cursor.past_zero]

theorem expectName : Local expectName := by
  refine of_choice (fun kind _ => kind.name?) (fun _ _ ends => name?_of_isTerminator ends) ?_
  intro cursor value stopped
  unfold Parser.expectName
  split
  · next found => simp only [found, EStateM.Result.ok.injEq, Option.some.injEq, eq_comm]
  · next missed =>
      rw [missed]
      exact ⟨nofun, nofun⟩

theorem collectWithin {item : Parser (Option α)} (read : Local item) (advances : Advances item)
    {fuel other : Nat} {group : List Token} {alone within : Cursor}
    (aligned : Aligned group alone within) (enough : group.length < fuel)
    (enoughToo : group.length < other) {values : List α} {stopped : Cursor}
    (parsed : collectWithin item fuel alone = .ok values stopped) :
    ∃ taken ≤ group.length, stopped = alone.past taken ∧
      Parser.collectWithin item other within = .ok values (within.past taken) := by
  induction fuel generalizing group alone within other values with
  | zero => cases enough
  | succ fuel inductionHypothesis =>
      obtain ⟨other, rfl⟩ := Nat.exists_eq_succ_of_ne_zero (Nat.ne_zero_of_lt enoughToo)
      obtain ⟨found, between, itemParsed, restParsed⟩ := ok_of_bind_ok parsed
      obtain ⟨front, frontLe, rfl, itemWithin⟩ := read aligned itemParsed
      cases found with
      | none =>
          cases restParsed
          exact ⟨front, frontLe, rfl, bind_of_ok itemWithin⟩
      | some first =>
          have positive : 0 < front := Nat.lt_add_right_iff_pos.mp (advances aligned itemParsed)
          obtain ⟨others, behind, othersParsed, done⟩ := ok_of_bind_ok restParsed
          cases done
          have shorter : (group.drop front).length < fuel := by
            rw [List.length_drop]
            omega
          have shorterToo : (group.drop front).length < other := by
            rw [List.length_drop]
            omega
          obtain ⟨back, backLe, rfl, othersWithin⟩ :=
            inductionHypothesis (aligned.past frontLe) shorter shorterToo othersParsed
          rw [List.length_drop] at backLe
          refine ⟨front + back, by omega, Cursor.past_past _ _ _, ?_⟩
          refine (bind_of_ok itemWithin).trans ((bind_of_ok othersWithin).trans ?_)
          rw [Cursor.past_past]
          rfl

theorem collect {item : Parser (Option α)} (read : Local item) (advances : Advances item) :
    Local (collect item) := by
  intro group alone within aligned values stopped parsed
  have enough {cursor : Cursor} (ahead : cursor.ahead.take group.length = group) :
      group.length < cursor.ahead.length + 1 := by
    have size := congrArg List.length ahead
    rw [List.length_take] at size
    omega
  exact collectWithin read advances aligned (enough aligned.alone_ahead)
    (enough aligned.within_ahead) parsed

theorem manyAfter {kind : TokenKind} (plain : endsClause kind = false) {item : Parser α}
    (read : Local item) : Local (manyAfter (Parser.eat kind) item) := by
  refine collect (bind (eat plain) fun found => ?_) ?_
  · cases found with
    | true => exact bind read fun value => pure _
    | false => exact pure none
  · intro group alone within aligned value stopped parsed
    obtain ⟨found, between, guardParsed, itemParsed⟩ := ok_of_bind_ok parsed
    cases found with
    | false => cases itemParsed
    | true =>
        unfold Parser.eat at guardParsed
        split at guardParsed
        · next here =>
            have going := going_of_plain plain here
            have advanced := (aligned.advance going).2.1
            cases guardParsed
            obtain ⟨_, _, valueParsed, done⟩ := ok_of_bind_ok itemParsed
            cases done
            rw [advanced] at valueParsed
            obtain ⟨taken, _, rfl, _⟩ := read (aligned.past (aligned.inside going)) valueParsed
            simp only [Cursor.past]
            omega
        · cases guardParsed

theorem separated {item : Parser α} (read : Local item) : Local (separated item) :=
  bind read fun _ => bind (manyAfter rfl read) fun _ => pure _

theorem expectSymbol {mark : Symbol} (plain : endsClause (.symbol mark) = false) :
    Local (expectSymbol mark) := by
  refine bind (eat plain) fun found => ?_
  cases found with
  | true => exact pure ()
  | false => exact unexpected _

theorem expectKeyword {word : Keyword} (plain : endsClause (.keyword word) = false) :
    Local (expectKeyword word) := by
  refine bind (eat plain) fun found => ?_
  cases found with
  | true => exact pure ()
  | false => exact unexpected _

end Local

end Parser

end SqlTree
