import SqlTree.Proofs.Grammar.Sequences
import SqlTree.Proofs.Token.Numerals

/-!
# Integers in clauses

A clause of a statement on sequences may hold an integer, written with an optional sign and digits.
The reader of tokens knows the digits only, and keeps them as an integer as long as they are one
without a sign. The least bigint is known by its digits: it is read where they are written without
zeros in front. Every other integer is read as what it is worth, or refused where it is no bigint.
-/

namespace SqlTree

open SqlTree.Decimal SqlTree.Parser SqlTree.Grammar

/-- The sign of an integer, if there is one. -/
inductive Sign where
  | unsigned
  | plus
  | minus
deriving DecidableEq, Repr

namespace Sign

/-- The tokens of a sign. -/
def kinds : Sign → List TokenKind
  | .unsigned => []
  | .plus => [.symbol .plus]
  | .minus => [.symbol .minus]

/-- Whether a sign is a minus. -/
def isNegative (sign : Sign) : Bool := sign = .minus

/-- The integer that a sign and a magnitude write. -/
def value (sign : Sign) (magnitude : Nat) : Int :=
  if sign.isNegative then -magnitude else magnitude

/-- Whether a sign and digits are read as a bigint: they are in range, and the least one is written
without zeros in front. -/
def Fits (sign : Sign) (digits : List Char) : Prop :=
  -9223372036854775808 ≤ sign.value (numeralValue digits) ∧
    sign.value (numeralValue digits) < 9223372036854775808 ∧
    (sign.value (numeralValue digits) = -9223372036854775808 → digits = leastMagnitude)

end Sign

/-- The clauses of a statement that hold an integer, with the words before it. -/
inductive IntegerForm (verb : SequenceVerb) : (Int64 → SequenceClause) → List TokenKind → Prop
  | start : IntegerForm verb .start [.keyword .START]
  | startWith : IntegerForm verb .start [.keyword .START, .keyword .WITH]
  | increment : IntegerForm verb .increment [.keyword .INCREMENT]
  | incrementBy : IntegerForm verb .increment [.keyword .INCREMENT, .keyword .BY]
  | minimum : IntegerForm verb (fun value => .minimum (.value value)) [.keyword .MINVALUE]
  | maximum : IntegerForm verb (fun value => .maximum (.value value)) [.keyword .MAXVALUE]
  | cache : IntegerForm verb .cache [.keyword .CACHE]
  | restart (changes : verb = .alter) :
      IntegerForm verb (fun value => .restart (.value value)) [.keyword .RESTART]
  | restartWith (changes : verb = .alter) :
      IntegerForm verb (fun value => .restart (.value value)) [.keyword .RESTART, .keyword .WITH]

section Numerals

variable {digits : List Char}

theorem numberKind_of_lt (small : numeralValue digits < 9223372036854775808) :
    numberKind digits none none = .integer (.ofNat (numeralValue digits)) :=
  if_pos small

theorem numberKind_of_le (large : 9223372036854775808 ≤ numeralValue digits) :
    ∃ number, numberKind digits none none = .numeric number :=
  ⟨_, if_neg (Nat.not_lt.mpr large)⟩

theorem numeralValue_leastMagnitude : numeralValue leastMagnitude = 9223372036854775808 := by
  decide

/-- Digits of a bigint without a sign fit behind every sign. -/
theorem Sign.fits_of_lt (sign : Sign) (small : numeralValue digits < 9223372036854775808) :
    sign.Fits digits := by
  unfold Fits value
  split <;> omega

/-- Larger digits fit only as those of the least bigint. -/
theorem Sign.fits_iff_of_le {sign : Sign} (large : 9223372036854775808 ≤ numeralValue digits) :
    sign.Fits digits ↔ sign.isNegative = true ∧ digits = leastMagnitude := by
  unfold Fits value
  constructor
  · rintro ⟨low, high, least⟩
    split at least
    · next negative =>
        rw [if_pos negative] at low
        exact ⟨negative, least (by omega)⟩
    · next positive =>
        rw [if_neg positive] at high
        omega
  · rintro ⟨negative, rfl⟩
    rw [if_pos negative, numeralValue_leastMagnitude]
    decide

/-- The integer that a sign makes of a small one. -/
theorem Sign.toInt_value (sign : Sign) {magnitude : Nat} (small : magnitude < 9223372036854775808) :
    (if sign.isNegative then -Int64.ofNat magnitude else Int64.ofNat magnitude).toInt =
      sign.value magnitude := by
  unfold value
  split
  · exact Int64.toInt_neg_ofNat_of_le (Nat.le_of_lt small)
  · exact Int64.toInt_ofNat_of_lt small

/-- What a numeral is read as behind its sign. -/
theorem integerBehind_of_numeral {cursor : Cursor} (sign : Sign)
    (kind : cursor.current.kind = numberKind digits none none)
    (text : cursor.currentText? = some digits) (numeral : isNumeral digits = true) :
    (sign.Fits digits → ∃ value : Int64, value.toInt = sign.value (numeralValue digits) ∧
      integerBehind sign.isNegative cursor = .ok value cursor.advance) ∧
    (¬ sign.Fits digits → integerBehind sign.isNegative cursor =
      .error ⟨.integerOutOfRange, cursor.current.span⟩ cursor) := by
  by_cases small : numeralValue digits < 9223372036854775808
  · have read : integerBehind sign.isNegative cursor = .ok
        (if sign.isNegative then -Int64.ofNat (numeralValue digits)
          else Int64.ofNat (numeralValue digits)) cursor.advance := by
      refine (run_get _ cursor).trans ?_
      rw [numberKind_of_lt small] at kind
      simp only [kind]
      rfl
    constructor
    · intro _
      exact ⟨_, sign.toInt_value small, read⟩
    · intro misfit
      exact absurd (sign.fits_of_lt small) misfit
  · have large : 9223372036854775808 ≤ numeralValue digits := Nat.le_of_not_lt small
    obtain ⟨number, numeric⟩ := numberKind_of_le large
    have read : integerBehind sign.isNegative cursor =
        if sign.isNegative = true ∧ digits = leastMagnitude then .ok Int64.minValue cursor.advance
        else .error ⟨.integerOutOfRange, cursor.current.span⟩ cursor := by
      refine (run_get _ cursor).trans ?_
      rw [numeric] at kind
      simp only [kind, text, Option.any_some, numeral]
      refine (run_ite _ _ cursor).trans ?_
      simp only [Bool.and_eq_true, beq_iff_eq, Option.some.injEq]
      rfl
    rw [Sign.fits_iff_of_le large]
    constructor
    · rintro ⟨negative, rfl⟩
      refine ⟨Int64.minValue, ?_, read.trans (if_pos ⟨negative, rfl⟩)⟩
      rw [Sign.value, if_pos negative, numeralValue_leastMagnitude]
      exact Int64.toInt_minValue
    · intro misfit
      exact read.trans (if_neg misfit)

end Numerals

section Clauses

variable {verb : SequenceVerb} {make : Int64 → SequenceClause} {words : List TokenKind}
  {kind : TokenKind} {kinds : List TokenKind} {cursor : Cursor}

/-- Whether a token is a number. -/
def TokenKind.isNumber : TokenKind → Bool
  | .integer _ | .numeric _ => true
  | _ => false

/-- In front of an integer its sign is passed. -/
theorem signedInteger_of_sign (sign : Sign) (number : kind.isNumber = true)
    (faces : cursor.Faces (sign.kinds ++ kind :: kinds)) :
    signedInteger cursor = integerBehind sign.isNegative (cursor.past sign.kinds.length) := by
  have other {mark : Symbol} : kind ≠ .symbol mark := by
    rintro rfl
    cases number
  cases sign with
  | unsigned =>
      have noMinus : Reads (eatSymbol .minus) [] false (kind :: kinds) := .eat_false other
      have noPlus : Reads (eatSymbol .plus) [] false (kind :: kinds) := .eat_false other
      exact (noMinus.step_none faces).trans ((noPlus.step_none faces).trans
        (congrArg _ (Cursor.past_zero cursor).symm))
  | plus =>
      have noMinus : Reads (eatSymbol .minus) [] false (.symbol .plus :: kind :: kinds) :=
        .eat_false nofun
      exact (noMinus.step_none faces).trans ((Reads.eatSymbol .plus _).step faces)
  | minus => exact (Reads.eatSymbol .minus _).step faces

/-- What starts a clause of both statements is behind its keyword what it is in either. -/
theorem SequenceVerb.clause_of_body (verb : SequenceVerb) {first : TokenKind}
    {body : Parser (Option SequenceClause)} (found : clauseBody? first = some body)
    (faces : cursor.Faces (first :: kinds)) : verb.clause cursor = body (cursor.past 1) := by
  have going : first ≠ .finish := by
    rintro rfl
    cases found
  have current : cursor.current.kind = first := faces.current_kind
  have advanced := faces.advance going
  cases verb with
  | create => rw [clause, sequenceClause_eq, current, found, advanced]
  | alter =>
      have noRestart : first ≠ .keyword .RESTART := by
        rintro rfl
        cases found
      have foundToo : changeBody? first = some body := by
        unfold changeBody?
        split
        · exact absurd rfl noRestart
        · exact found
      rw [clause, changeClause_eq, current, foundToo, advanced]

/-- A restart goes on with `WITH` and a number, with a number, or without one. -/
theorem changeClause_of_restart (faces : cursor.Faces (.keyword .RESTART :: kinds)) :
    changeClause cursor = (do
      if ← eatKeyword .WITH then return some (.restart (.value (← signedInteger)))
      if startsSignedNumber (← look 0) then return some (.restart (.value (← signedInteger)))
      return some (.restart .atStart) : Parser _) (cursor.past 1) := by
  have current : cursor.current.kind = .keyword .RESTART := faces.current_kind
  rw [changeClause_eq, current, faces.advance nofun]
  rfl

section Integers

variable (sign : Sign) (number : kind.isNumber = true)

include number

/-- Neither a sign nor a number is a keyword. -/
theorem Sign.kindAt_ne (word : Keyword) :
    kindAt (sign.kinds ++ kind :: kinds) 0 ≠ .keyword word := by
  cases sign with
  | unsigned =>
      rintro rfl
      cases number
  | plus => exact nofun
  | minus => exact nofun

/-- What is made of an integer is made of what stands behind its sign. -/
theorem Sign.made (make : Int64 → SequenceClause)
    (faces : cursor.Faces (sign.kinds ++ kind :: kinds)) :
    (do return some (make (← signedInteger)) : Parser _) cursor =
      (do return some (make (← integerBehind sign.isNegative)) : Parser _)
        (cursor.past sign.kinds.length) :=
  bind_congr (signedInteger_of_sign sign number faces)

/-- A word that may stand before an integer does so, or not. -/
theorem Sign.made_behind (make : Int64 → SequenceClause) (word : Keyword) :
    (cursor.Faces (sign.kinds ++ kind :: kinds) →
      (do let _ ← eatKeyword word; return some (make (← signedInteger)) : Parser _) cursor =
        (do return some (make (← integerBehind sign.isNegative)) : Parser _)
          (cursor.past sign.kinds.length)) ∧
    (cursor.Faces (.keyword word :: (sign.kinds ++ kind :: kinds)) →
      (do let _ ← eatKeyword word; return some (make (← signedInteger)) : Parser _) cursor =
        (do return some (make (← integerBehind sign.isNegative)) : Parser _)
          ((cursor.past 1).past sign.kinds.length)) := by
  constructor
  · intro faces
    have noWord : Reads (eatKeyword word) [] false (sign.kinds ++ kind :: kinds) :=
      .eat_false (sign.kindAt_ne number word)
    exact (noWord.step_none faces).trans (sign.made number make faces)
  · intro faces
    exact ((Reads.eatKeyword word _).step faces).trans (sign.made number make faces.tail)

/-- A sign or a number starts a signed number. -/
theorem Sign.startsSignedNumber :
    startsSignedNumber (kindAt (sign.kinds ++ kind :: kinds) 0) = true := by
  cases sign with
  | unsigned =>
      cases kind with
      | integer | numeric => rfl
      | _ => cases number
  | plus => rfl
  | minus => rfl

/-- A clause with an integer is read up to the integer, and is what is made of it. -/
theorem IntegerForm.clause_of_words (form : IntegerForm verb make words)
    (faces : cursor.Faces (words ++ (sign.kinds ++ kind :: kinds))) :
    verb.clause cursor = (do return some (make (← integerBehind sign.isNegative)) : Parser _)
      (cursor.past (words.length + sign.kinds.length)) := by
  have twice : (cursor.past 1).past 1 = cursor.past 2 := Cursor.past_past cursor 1 1
  rw [← Cursor.past_past]
  cases form with
  | start =>
      have read := (sign.made_behind number .start .WITH).1 faces.tail
      exact (verb.clause_of_body rfl faces).trans read
  | startWith =>
      have read := (sign.made_behind number .start .WITH).2 faces.tail
      rw [twice] at read
      exact (verb.clause_of_body rfl faces).trans read
  | increment =>
      have read := (sign.made_behind number .increment .BY).1 faces.tail
      exact (verb.clause_of_body rfl faces).trans read
  | incrementBy =>
      have read := (sign.made_behind number .increment .BY).2 faces.tail
      rw [twice] at read
      exact (verb.clause_of_body rfl faces).trans read
  | minimum => exact (verb.clause_of_body rfl faces).trans (sign.made number _ faces.tail)
  | maximum => exact (verb.clause_of_body rfl faces).trans (sign.made number _ faces.tail)
  | cache => exact (verb.clause_of_body rfl faces).trans (sign.made number _ faces.tail)
  | restart changes =>
      subst changes
      have noWith : Reads (eatKeyword .WITH) [] false (sign.kinds ++ kind :: kinds) :=
        .eat_false (sign.kindAt_ne number .WITH)
      refine (changeClause_of_restart faces).trans ((noWith.step_none faces.tail).trans ?_)
      refine ((Reads.look _ 0).step_none faces.tail).trans ((run_ite _ _ _).trans ?_)
      exact (if_pos (sign.startsSignedNumber number)).trans (sign.made number _ faces.tail)
  | restartWith changes =>
      subst changes
      have facesWith : (cursor.past 1).Faces (.keyword .WITH :: (sign.kinds ++ kind :: kinds)) :=
        faces.tail
      have facesInteger : (cursor.past 2).Faces (sign.kinds ++ kind :: kinds) := by
        rw [← twice]
        exact facesWith.tail
      refine (changeClause_of_restart faces).trans
        (((Reads.eatKeyword .WITH _).step facesWith).trans ?_)
      rw [List.length_singleton, twice]
      exact sign.made number _ facesInteger

end Integers

/-- All clauses of a form have one name. -/
theorem IntegerForm.name_eq (form : IntegerForm verb make words) (value other : Int64) :
    (make value).name = (make other).name := by
  cases form <;> rfl

/-- The words of a form start a clause. -/
theorem IntegerForm.starts (form : IntegerForm verb make words) :
    ∃ first others, words = first :: others ∧ startsClause first = true := by
  cases form <;> exact ⟨_, _, rfl, rfl⟩

end Clauses

/-- An integer of a clause in a text: the digits and the token that shows them, the sign, and the
tokens of the words and the sign. -/
structure ShownInteger (text : String) (words : List TokenKind) where
  digits : List Char
  number : Token
  sign : Sign
  leading : List Token
  found : number ∈ tokenize text
  under : textUnder? text.toList number.span = some digits
  numeral : isNumeral digits = true
  spelled : leading.map Token.kind = words ++ sign.kinds

namespace ShownInteger

variable {text : String} {words : List TokenKind} {verb : SequenceVerb}
  {make : Int64 → SequenceClause}

/-- The tokens of the clause with the integer. -/
def tokens (shown : ShownInteger text words) : List Token := shown.leading ++ [shown.number]

/-- The integer that is written. -/
def value (shown : ShownInteger text words) : Int :=
  shown.sign.value (numeralValue shown.digits)

/-- The clause with an integer as a group of tokens. -/
def group (shown : ShownInteger text words) (clause : SequenceClause) : ClauseGroup :=
  ⟨shown.tokens, clause⟩

theorem isNumber (shown : ShownInteger text words) : shown.number.kind.isNumber = true := by
  rw [kind_of_numeral shown.found shown.under shown.numeral]
  rcases Nat.lt_or_ge (numeralValue shown.digits) (9223372036854775808) with small | large
  · rw [numberKind_of_lt small]
    rfl
  · obtain ⟨number, numeric⟩ := numberKind_of_le large
    rw [numeric]
    rfl

/-- At the tokens of a clause the integer is read as what it is worth, or the clause is refused at
the digits. -/
theorem clause_of_ahead (shown : ShownInteger text words) (form : IntegerForm verb make words)
    {cursor : Cursor} (source : cursor.source = text.toList) (closed : cursor.close.kind = .finish)
    {tail : List Token} (ahead : cursor.ahead = shown.tokens ++ tail) :
    (shown.sign.Fits shown.digits → ∃ value : Int64, value.toInt = shown.value ∧
      verb.clause cursor = .ok (some (make value)) (cursor.past shown.tokens.length)) ∧
    (¬ shown.sign.Fits shown.digits → ∃ stopped,
      verb.clause cursor = .error ⟨.integerOutOfRange, shown.number.span⟩ stopped) := by
  have faces : cursor.Faces (words ++ (shown.sign.kinds ++
      shown.number.kind :: tail.map Token.kind)) := by
    refine ⟨closed, ?_⟩
    rw [ahead, tokens, List.map_append, List.map_append, shown.spelled]
    simp
  have size : words.length + shown.sign.kinds.length = shown.leading.length := by
    rw [← List.length_map Token.kind, shown.spelled, List.length_append]
  have clause := form.clause_of_words shown.sign shown.isNumber faces
  rw [size] at clause
  have aheadToo : cursor.ahead = shown.leading ++ shown.number :: tail := by
    rw [ahead, tokens, List.append_assoc, List.singleton_append]
  have current : (cursor.past shown.leading.length).current = shown.number := by
    rw [Cursor.current_past, Cursor.peek_length aheadToo]
    rfl
  have advanced : (cursor.past shown.leading.length).advance = cursor.past shown.tokens.length := by
    have behind : (cursor.past shown.leading.length).Faces
        (shown.number.kind :: tail.map Token.kind) :=
      ⟨closed, by rw [Cursor.past, aheadToo, List.drop_left]; rfl⟩
    have going : shown.number.kind ≠ .finish := by
      intro ends
      have number := shown.isNumber
      rw [ends] at number
      cases number
    rw [behind.advance going, Cursor.past_past, tokens, List.length_append, List.length_singleton]
  have shows : (cursor.past shown.leading.length).currentText? = some shown.digits := by
    rw [Cursor.currentText?, current, ← shown.under, ← source]
    rfl
  have kind : (cursor.past shown.leading.length).current.kind =
      numberKind shown.digits none none := by
    rw [current, kind_of_numeral shown.found shown.under shown.numeral]
  obtain ⟨fits, misfits⟩ := integerBehind_of_numeral shown.sign kind shows shown.numeral
  constructor
  · intro inRange
    obtain ⟨value, same, read⟩ := fits inRange
    refine ⟨value, same, clause.trans ((bind_of_ok read).trans ?_)⟩
    rw [advanced]
    rfl
  · intro outOfRange
    rw [current] at misfits
    exact ⟨_, clause.trans (bind_of_error (misfits outOfRange))⟩

/-- The first token of a clause with an integer starts a clause. -/
theorem opens (shown : ShownInteger text words) (form : IntegerForm verb make words) :
    ∃ first others, shown.tokens = first :: others ∧ startsClause first.kind = true := by
  obtain ⟨first, others, rfl, starts⟩ := form.starts
  have spelled := shown.spelled
  rw [List.cons_append] at spelled
  obtain ⟨token, more, leading, kind, _⟩ := List.map_eq_cons_iff.mp spelled
  rw [← kind] at starts
  exact ⟨token, more ++ [shown.number], by rw [tokens, leading, List.cons_append], starts⟩

/-- An integer in range makes its clause a group of its own. -/
theorem standsAlone (shown : ShownInteger text words) (form : IntegerForm verb make words)
    (fits : shown.sign.Fits shown.digits) : ∃ value : Int64, value.toInt = shown.value ∧
      (shown.group (make value)).StandsAlone verb.clause text.toList := by
  let start : Cursor := ⟨text.toList, shown.tokens, ⟨.finish, .point 0⟩, 0, none⟩
  have ahead : start.ahead = shown.tokens ++ [] := (List.append_nil _).symm
  obtain ⟨value, same, read⟩ := (shown.clause_of_ahead form rfl rfl ahead).1 fits
  exact ⟨value, same, start, [], rfl, ahead, rfl, read⟩

end ShownInteger

/-- A clause with an integer is accepted if and only if the integer is a bigint, but that the least
one must be written without zeros in front. The options hold exactly the integer that is written.
Any other integer is refused at its digits. -/
theorem Grammar.statement_of_integer {verb : SequenceVerb} {name : ObjectName} {text : String}
    {make : Int64 → SequenceClause} {words : List TokenKind} (form : IntegerForm verb make words)
    (shown : ShownInteger text words) {before after : List ClauseGroup}
    (alone : ∀ group ∈ before ++ after, group.StandsAlone verb.clause text.toList)
    (distinct : ((before ++ shown.group (make 0) :: after).map ClauseGroup.name).Nodup)
    {cursor : Cursor}
    (faces : cursor.FacesSequence verb name text.toList
      (before ++ shown.group (make 0) :: after)) :
    (shown.sign.Fits shown.digits → ∃ (value : Int64) (options : SequenceOptions)
      (restart : Option Restart) (behind : Cursor), value.toInt = shown.value ∧
        Grammar.statement cursor = .ok (verb.statement name options restart) behind ∧
        (make value).HeldBy options restart) ∧
    (¬ shown.sign.Fits shown.digits → ∃ (failure : Failure) (behind : Cursor),
      Grammar.statement cursor = .error failure behind ∧
        failure.cause.message = "Integer out of range for bigint" ∧
        failure.span = shown.number.span) := by
  constructor
  · intro fits
    obtain ⟨value, same, standsAlone⟩ := shown.standsAlone form fits
    have aloneAll : ∀ group ∈ before ++ shown.group (make value) :: after,
        group.StandsAlone verb.clause text.toList := by
      intro group among
      rcases List.mem_append.mp among with front | rest
      · exact alone group (List.mem_append_left _ front)
      · rcases List.mem_cons.mp rest with rfl | back
        · exact standsAlone
        · exact alone group (List.mem_append_right _ back)
    have names : (before ++ shown.group (make value) :: after).map ClauseGroup.name =
        (before ++ shown.group (make 0) :: after).map ClauseGroup.name := by
      simp only [List.map_append, List.map_cons, ShownInteger.group, ClauseGroup.name,
        form.name_eq value 0]
    have facesValue : cursor.FacesSequence verb name text.toList
        (before ++ shown.group (make value) :: after) := by
      obtain ⟨source, closed, ahead⟩ := faces
      refine ⟨source, closed, ?_⟩
      simpa only [groupTokens, List.flatMap_append, List.flatMap_cons, ShownInteger.group]
        using ahead
    have enough : verb.least ≤ (before ++ shown.group (make value) :: after).length := by
      rw [List.length_append, List.length_cons]
      cases verb with
      | create => exact Nat.zero_le _
      | alter =>
          change 1 ≤ _
          omega
    rw [← names] at distinct
    obtain ⟨behind, parsed⟩ := facesValue.accepted aloneAll enough distinct
    refine ⟨value, _, _, behind, same, parsed, ?_⟩
    apply (heldBy_groups distinct (make value)).mpr
    exact ⟨_, List.mem_append_right _ List.mem_cons_self, rfl⟩
  · intro misfit
    obtain ⟨first, others, tokens, starts⟩ := shown.opens form
    have distinctBefore : (before.map ClauseGroup.name).Nodup := by
      rw [List.map_append] at distinct
      exact (List.nodup_append.mp distinct).1
    have fails (place : Cursor) (source : place.source = text.toList)
        (closed : place.close.kind = .finish)
        (stands : ∃ tail, place.ahead = (shown.group (make 0)).tokens ++ tail) :
        ∃ stopped, verb.clause place =
          .error ⟨.integerOutOfRange, shown.number.span⟩ stopped := by
      obtain ⟨tail, ahead⟩ := stands
      exact (shown.clause_of_ahead form source closed ahead).2 misfit
    obtain ⟨stopped, failed⟩ := faces.fails
      (fun group among => alone group (List.mem_append_left _ among)) distinctBefore tokens starts
      fails
    exact ⟨_, stopped, failed, rfl, rfl⟩

/-- `ALTER SEQUENCE s START WITH -9223372036854775808 CYCLE` sets the start to the least bigint. -/
theorem Grammar.statement_of_integer_least :
    ∃ (value : Int64) (options : SequenceOptions) (restart : Option Restart) (behind : Cursor),
      value.toInt = -9223372036854775808 ∧
        Grammar.statement (.ofText "ALTER SEQUENCE s START WITH -9223372036854775808 CYCLE") =
          .ok (.alterSequence ⟨⟨"s", none⟩, false, .options options restart⟩) behind ∧
        (SequenceClause.start value).HeldBy options restart := by
  let text := "ALTER SEQUENCE s START WITH -9223372036854775808 CYCLE"
  let shown : ShownInteger text [.keyword .START, .keyword .WITH] :=
    { digits := leastMagnitude
      number := ⟨numberKind leastMagnitude none none, ⟨29, 48⟩⟩
      sign := .minus
      leading := [⟨.keyword .START, ⟨17, 22⟩⟩, ⟨.keyword .WITH, ⟨23, 27⟩⟩,
        ⟨.symbol .minus, ⟨28, 29⟩⟩]
      found := by decide
      under := by
        change textUnder? "ALTER SEQUENCE s START WITH -9223372036854775808 CYCLE".toList ⟨29, 48⟩
          = some leastMagnitude
        exact textUnder?_utf8Length "ALTER SEQUENCE s START WITH -".toList leastMagnitude
          " CYCLE".toList
      numeral := by decide
      spelled := rfl }
  let cycles : ClauseGroup := ⟨[⟨.keyword .CYCLE, ⟨49, 54⟩⟩], .cycling .cycle⟩
  have alone : ∀ group ∈ [] ++ [cycles],
      group.StandsAlone SequenceVerb.alter.clause text.toList := by
    intro group among
    cases List.mem_singleton.mp among
    exact ⟨⟨text.toList, cycles.tokens, ⟨.finish, .point 0⟩, 0, none⟩, [], rfl, rfl, rfl, rfl⟩
  have faces : (Cursor.ofText text).FacesSequence .alter ⟨"s", none⟩ text.toList
      ([] ++ shown.group (.start 0) :: [cycles]) :=
    ⟨rfl, by decide, [⟨.keyword .ALTER, ⟨0, 5⟩⟩, ⟨.keyword .SEQUENCE, ⟨6, 14⟩⟩,
      ⟨.identifier "s", ⟨15, 16⟩⟩], _, [], by decide, rfl, .plain rfl, by decide⟩
  have fits : shown.sign.Fits shown.digits := by
    rw [Sign.fits_iff_of_le (by decide)]
    exact ⟨rfl, rfl⟩
  obtain ⟨value, options, restart, behind, same, parsed, held⟩ :=
    (statement_of_integer .startWith shown alone (by decide) faces).1 fits
  refine ⟨value, options, restart, behind, ?_, parsed, held⟩
  rw [same]
  decide

/-- With a zero in front of its digits the least bigint is refused as out of range. -/
theorem Grammar.statement_of_integer_zeros :
    parseStatement "ALTER SEQUENCE s RESTART -09223372036854775808" =
        .error ⟨.integerOutOfRange, ⟨26, 46⟩⟩ ∧
      Sign.minus.value (numeralValue "09223372036854775808".toList) = -9223372036854775808 := by
  have refused : (parseStatement "ALTER SEQUENCE s RESTART -09223372036854775808").map
      (fun _ => ()) = .error ⟨.integerOutOfRange, ⟨26, 46⟩⟩ := by
    decide +kernel
  constructor
  · cases outcome : parseStatement "ALTER SEQUENCE s RESTART -09223372036854775808" with
    | error failure =>
        rw [outcome] at refused
        exact congrArg Except.error (Except.error.inj refused)
    | ok statement =>
        rw [outcome] at refused
        cases refused
  · decide

end SqlTree
