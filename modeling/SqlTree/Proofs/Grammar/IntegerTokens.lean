import SqlTree.Proofs.Grammar.IntegerPlaces

/-!
# Integer tokens in clauses

Where a statement sets options of a sequence, every integer among its tokens is a modifier of a data
type or stands behind the words of a clause and a sign. The options then hold what the sign makes of
the integer, for any bigint but the least one, whose negative is no bigint.
-/

namespace SqlTree

open SqlTree.Parser SqlTree.Grammar

/-- A change of options holds what they hold. Other changes hold nothing. -/
def SequenceChange.Holds : SequenceChange → SequenceClause → Prop
  | .options chosen restart, clause => clause.HeldBy chosen restart
  | _, _ => False

/-- A statement sets options of a sequence, and may restart it. -/
inductive Statement.Sets : Statement → SequenceVerb → SequenceOptions → Option Restart → Prop
  | create (create : CreateSequence) : Sets (.createSequence create) .create create.options none
  | alter (name : ObjectName) (ifExists : Bool) (options : SequenceOptions)
      (restart : Option Restart) :
      Sets (.alterSequence ⟨name, ifExists, .options options restart⟩) .alter options restart

/-- If a statement sets options, every integer among its tokens has a place, and the options hold
the clauses of the integers. -/
def Statement.PlacesIntegers (verb : SequenceVerb) (body : Statement) (kinds : List TokenKind) :
    Prop :=
  ∀ ⦃options : SequenceOptions⦄ ⦃restart : Option Restart⦄, body.Sets verb options restart →
    IntegersPlaced verb (·.HeldBy options restart) kinds

namespace Grammar

section Names

variable {verb : SequenceVerb}

theorem objectName_places : PlacesModifiers verb objectName :=
  Places.expectName.bind fun _ =>
    Places.choice rfl (by simp) Places.expectName.returned (Places.pure _)

theorem ifExists_places : PlacesModifiers verb ifExists := by
  refine (Places.look 0).bind fun _ => (Places.look 1).bind fun _ => ?_
  split
  · exact (Places.expectKeyword .IF).bind fun _ => (Places.expectKeyword .EXISTS).bind fun _ =>
      Places.pure _
  · exact Places.pure _

theorem ifNotExists_places : PlacesModifiers verb ifNotExists := by
  refine (Places.look 0).bind fun _ => (Places.look 1).bind fun _ => ?_
  split
  · exact (Places.expectKeyword .IF).bind fun _ => (Places.expectKeyword .NOT).bind fun _ =>
      (Places.expectKeyword .EXISTS).bind fun _ => Places.pure _
  · exact Places.pure _

theorem typeName_places : PlacesModifiers verb typeName := by
  have word : PlacesModifiers verb typeWord := by
    refine Places.of_name (Consumes.of_choice TokenKind.name? .dataType
      (fun _ _ => isPlain_of_name?) fun cursor => ?_)
    unfold typeWord
    cases cursor.current.kind.name? <;> rfl
  refine word.bind fun name => ?_
  have varying : PlacesModifiers verb (if name = "character" ∨ name = "char" then do
      if ← eatName "varying" then return "character varying" else return name
      else return name) := by
    split
    · exact Places.choice rfl (by simp) (Places.pure _) (Places.pure _)
    · exact Places.pure _
  dsimp only
  split
  · exact Places.choice rfl (by simp) (Places.pure _) varying
  · exact varying

theorem plainInteger_consumes :
    Consumes plainInteger fun value kinds => kinds = [.integer value] := by
  refine (Consumes.of_choice plainInteger? .integer (fun kind value chosen => ?_)
    fun cursor => ?_).weaken ?_
  · cases kind <;> cases chosen
    rfl
  · unfold plainInteger plainInteger?
    cases cursor.current.kind <;> rfl
  · rintro value _ ⟨kind, chosen, rfl⟩
    cases kind <;> cases chosen
    rfl

/-- Modifiers behind commas have places. -/
theorem integersPlaced_marked {holds : SequenceClause → Prop} {pieces : List (Piece Int64)}
    (each : ∀ piece ∈ pieces, piece.kinds = [.integer piece.value]) :
    IntegersPlaced verb holds (Piece.marked (.symbol .comma) pieces) := by
  induction pieces with
  | nil => exact .of_none fun _ => List.not_mem_nil
  | cons piece pieces inductionHypothesis =>
      obtain ⟨first, others⟩ := List.forall_mem_cons.mp each
      rw [Piece.marked_cons, first]
      exact (IntegersPlaced.of_modifier (.inr rfl)).append (inductionHypothesis others)

theorem typeModifiers_places : PlacesModifiers verb typeModifiers := by
  refine fun cursor => Consumes.choice rfl ?_ (Places.pure _) cursor
  refine (Consumes.separated plainInteger_consumes).bind ?_
  rintro _ _ ⟨-, pieces, rfl, rfl, each⟩
  have placed : IntegersPlaced verb (fun _ => False)
      (.symbol .leftParen :: Piece.separated pieces) := by
    cases pieces with
    | nil => exact .of_none (by simp [Piece.separated])
    | cons piece pieces =>
        obtain ⟨first, others⟩ := List.forall_mem_cons.mp each
        rw [Piece.separated, first]
        exact (IntegersPlaced.of_modifier (.inl rfl)).append (integersPlaced_marked others)
  have closing : PlacesModifiers verb (do
      expectSymbol .rightParen
      return pieces.map Piece.value) :=
    (Places.expectSymbol .rightParen).bind fun _ => Places.pure _
  exact Consumes.weaken closing fun _ _ others => placed.append others

theorem timeZoneMark_places : PlacesModifiers verb timeZoneMark := by
  intro cursor
  refine ConsumesAt.look_bind (ConsumesAt.look_bind ?_)
  split
  · next words =>
      refine ConsumesAt.look_bind ?_
      split
      · next mark =>
          have behind : PlacesAt verb (do
              let _ ← advance
              let _ ← advance
              return if (cursor.peek 0).kind = .keyword .WITH then " with time zone"
                else " without time zone" : Parser String) (cursor.past 1)
              fun _ _ => False := by
            have time : (cursor.past 1).current.kind = .identifier "time" := by
              rw [Cursor.current_past]
              exact words.1
            have zone : ((cursor.past 1).past 1).current.kind = .identifier "zone" := by
              rw [Cursor.current_past, Cursor.peek_past]
              exact words.2
            exact PlacesAt.advance_bind time rfl (by simp)
              (PlacesAt.advance_bind zone rfl (by simp) (Places.pure _ _))
          rcases mark with withZone | without
          · exact PlacesAt.advance_bind withZone rfl (by simp) behind
          · exact PlacesAt.advance_bind without rfl (by simp) behind
      · exact Places.pure _ _
  · exact Places.pure _ _

theorem arrayMark_places : PlacesModifiers verb arrayMark := by
  intro cursor
  refine ConsumesAt.look_bind (ConsumesAt.look_bind ?_)
  split
  · next brackets =>
      have closing : (cursor.past 1).current.kind = .symbol .rightBracket := by
        rw [Cursor.current_past]
        exact brackets.2
      exact PlacesAt.advance_bind brackets.1 rfl (by simp)
        (PlacesAt.advance_bind closing rfl (by simp) (Places.pure _ _))
  · exact Places.pure _ _

/-- The only integers of a data type are its modifiers. -/
theorem dataType_places : PlacesModifiers verb dataType := by
  have brackets (name zone : String) (modifiers : List Int64) : PlacesModifiers verb (do
      let brackets ← collect arrayMark
      return (⟨name ++ zone ++ String.join brackets, modifiers⟩ : DataType)) :=
    (Places.collect arrayMark_places).returned
  refine typeName_places.bind fun name => typeModifiers_places.bind fun modifiers => ?_
  dsimp only
  split
  · exact timeZoneMark_places.bind fun zone => brackets name zone modifiers
  · exact (Places.pure "").bind fun zone => brackets name zone modifiers

end Names

section Clauses

variable {verb : SequenceVerb} {make : Int64 → SequenceClause} {words : List TokenKind}

/-- Behind a sign an integer is read as what the sign makes of it. -/
theorem integerBehind_consumes (negative : Bool) :
    Consumes (integerBehind negative) fun value kinds => ∃ kind, kinds = [kind] ∧
      ∀ number, kind = .integer number → value = if negative then -number else number := by
  intro cursor
  refine ConsumesAt.get_bind ?_
  split
  · next value known =>
      refine ConsumesAt.advance_bind (isPlain_of_eq known rfl) (ConsumesAt.pure ⟨_, rfl, ?_⟩)
      intro number same
      cases known.symm.trans same
      rfl
  · next value known =>
      split
      · refine ConsumesAt.advance_bind (isPlain_of_eq known rfl) (ConsumesAt.pure ⟨_, rfl, ?_⟩)
        intro number same
        cases known.symm.trans same
      · split
        · exact ConsumesAt.fail
        · exact ConsumesAt.unexpected
  · exact ConsumesAt.unexpected

/-- An integer is consumed with its sign. -/
theorem signedInteger_consumes :
    Consumes signedInteger fun value kinds => ∃ (sign : Sign) (kind : TokenKind),
      kinds = sign.kinds ++ [kind] ∧
        ∀ number, kind = .integer number → value = sign.applyBigint number := by
  have behind (sign : Sign) : Consumes (integerBehind sign.isNegative) fun value kinds =>
      ∃ (sign' : Sign) (kind : TokenKind), sign.kinds ++ kinds = sign'.kinds ++ [kind] ∧
        ∀ number, kind = .integer number → value = sign'.applyBigint number := by
    refine (integerBehind_consumes sign.isNegative).weaken ?_
    rintro value _ ⟨kind, rfl, worth⟩
    exact ⟨sign, kind, rfl, worth⟩
  rw [signedInteger_eq]
  refine (Consumes.eatSymbol .minus).bind ?_
  rintro negative _ rfl
  cases negative with
  | true => exact behind .minus
  | false =>
      refine (Consumes.eatSymbol .plus).bind ?_
      rintro found _ rfl
      cases found with
      | true => exact behind .plus
      | false => exact behind .unsigned

/-- A clause of a form is consumed with the place of its integer. -/
theorem signedInteger_placed (form : IntegerForm verb make words) :
    Consumes (do return some (make (← signedInteger))) fun found kinds =>
      IntegersPlaced verb (fun clause => found = some clause) (words ++ kinds) := by
  refine (signedInteger_consumes.weaken ?_).returned
  rintro value _ ⟨sign, kind, rfl, worth⟩
  exact (IntegersPlaced.of_form form worth).weaken fun _ _ same => congrArg some same.symm

theorem ownership_places : PlacesModifiers verb ownership := by
  intro cursor
  refine ConsumesAt.look_bind (ConsumesAt.look_bind ?_)
  split
  · next nothing =>
      exact PlacesAt.advance_bind nothing.1 rfl (by simp) (Places.pure _ _)
  · have others : PlacesModifiers verb (manyAfter (eatSymbol .dot) expectName) :=
      Places.manyAfter (Places.eatSymbol .dot) Places.expectName
    refine ((Places.of_nil Consumes.current).bind fun start => Places.expectName.bind fun first =>
      others.bind fun others => ?_) cursor
    split
    · exact Places.pure _
    · exact Places.pure _
    · exact (Places.of_nil Consumes.previousSpan).bind fun _ => Places.fail

theorem negatedClause_places : PlacesModifiers verb negatedClause :=
  Places.choice rfl (by simp) (Places.pure _)
    (Places.choice rfl (by simp) (Places.pure _)
      (Places.choice rfl (by simp) (Places.pure _) Places.unexpected))

/-- An integer of a clause stands behind the words that the clause starts with. -/
theorem sequenceClause_places :
    Places verb sequenceClause fun found clause => found = some clause := by
  have behind {word : Keyword} {parser : Parser (Option SequenceClause)}
      (places : Places verb parser fun found clause => found = some clause) :
      Consumes parser fun found kinds =>
        IntegersPlaced verb (fun clause => found = some clause) (.keyword word :: kinds) :=
    Consumes.weaken places fun _ _ placed => placed.cons (by simp)
  have joined {make : Int64 → SequenceClause} {words : List TokenKind} {word : Keyword}
      (form : IntegerForm verb make words)
      (form' : IntegerForm verb make (words ++ [.keyword word])) :
      Consumes (do let _ ← eatKeyword word; return some (make (← signedInteger)))
        fun found kinds => IntegersPlaced verb (fun clause => found = some clause)
          (words ++ kinds) := by
    refine (Consumes.eatKeyword word).bind ?_
    rintro found _ rfl
    cases found with
    | true =>
        refine (signedInteger_placed form').weaken fun _ kinds placed => ?_
        rwa [List.append_assoc] at placed
    | false => exact signedInteger_placed form
  refine Consumes.choice rfl (behind dataType_places.returned) ?_
  refine Consumes.choice rfl (joined .start .startWith) ?_
  refine Consumes.choice rfl (joined .increment .incrementBy) ?_
  refine Consumes.choice rfl (signedInteger_placed .minimum) ?_
  refine Consumes.choice rfl (signedInteger_placed .maximum) ?_
  refine Consumes.choice rfl (signedInteger_placed .cache) ?_
  refine Consumes.choice rfl (behind (Places.pure _)) ?_
  refine Consumes.choice rfl (behind negatedClause_places.returned) ?_
  refine Consumes.choice rfl (behind ?_) (Places.pure _)
  exact (Places.expectKeyword .BY).bind fun _ => ownership_places.returned

theorem changeClause_places :
    Places .alter changeClause fun found clause => found = some clause := by
  refine Consumes.choice rfl ?_ sequenceClause_places
  refine Consumes.choice rfl (signedInteger_placed (.restartWith rfl)) ?_
  refine (Consumes.look 0).bind ?_
  rintro kind _ rfl
  split
  · exact signedInteger_placed (.restart rfl)
  · exact Consumes.pure (.of_none (by simp))

/-- What is known of clauses and the tokens of the last of them, when those before are given: these
are kept, no two share a name, and every integer has its place in one of them. -/
structure Extends (verb : SequenceVerb) (behind clauses : List SequenceClause)
    (kinds : List TokenKind) : Prop where
  kept : behind ⊆ clauses
  distinct : (clauses.map SequenceClause.name).Nodup
  placed : IntegersPlaced verb (· ∈ clauses) kinds

/-- Where the clauses end nothing is added. -/
theorem Extends.reverse {behind : List SequenceClause}
    (distinct : (behind.map SequenceClause.name).Nodup) :
    Extends verb behind behind.reverse [] where
  kept := fun _ => List.mem_reverse.mpr
  distinct := by rwa [List.map_reverse, (List.reverse_perm _).nodup_iff]
  placed := .of_none fun _ => List.not_mem_nil

/-- A clause is added with its tokens. -/
theorem Extends.cons {value : SequenceClause} {behind clauses : List SequenceClause}
    {front back : List TokenKind}
    (placed : IntegersPlaced verb (fun clause => some value = some clause) front)
    (others : Extends verb (value :: behind) clauses back) :
    Extends verb behind clauses (front ++ back) where
  kept := (List.cons_subset.mp others.kept).2
  distinct := others.distinct
  placed := by
    refine IntegersPlaced.append ?_ others.placed
    exact placed.weaken fun _ _ same =>
      Option.some.inj same ▸ (List.cons_subset.mp others.kept).1

/-- Each turn of the loop over clauses adds one to those behind. -/
theorem clausesWithin_extends {clause : Parser (Option SequenceClause)}
    (places : Places verb clause fun found clause => found = some clause) (fuel : Nat)
    {behind : List SequenceClause} (distinct : (behind.map SequenceClause.name).Nodup) :
    Consumes (clausesWithin clause fuel behind) (Extends verb behind) := by
  induction fuel generalizing behind with
  | zero => exact Consumes.pure (.reverse distinct)
  | succ fuel inductionHypothesis =>
      refine Consumes.current_bind fun start => ?_
      split
      · exact Consumes.pure (.reverse distinct)
      · refine Consumes.bind places fun found front placed => ?_
        cases found with
        | none => exact Consumes.unexpected
        | some value =>
            dsimp only
            split
            · rintro cursor closed _ _ ⟨⟩
            · next fresh =>
                have unused : value.name ∉ behind.map SequenceClause.name := by
                  intro among
                  obtain ⟨other, earlier, same⟩ := List.mem_map.mp among
                  exact fresh (List.any_eq_true.mpr ⟨other, earlier, beq_iff_eq.mpr same⟩)
                have distinctAll : ((value :: behind).map SequenceClause.name).Nodup :=
                  List.nodup_cons.mpr ⟨unused, distinct⟩
                exact (inductionHypothesis distinctAll).weaken fun _ _ others => others.cons placed

/-- What the clauses of a statement say is held by the options that are made of them. -/
theorem clauses_places {clause : Parser (Option SequenceClause)}
    (places : Places verb clause fun found clause => found = some clause) :
    Places verb (clauses clause) fun clauses asked =>
      asked.HeldBy (optionsOf clauses) (restartOf clauses) := by
  intro cursor
  have nothing : (([] : List SequenceClause).map SequenceClause.name).Nodup := List.nodup_nil
  refine (clausesWithin_extends places (cursor.ahead.length + 1) nothing cursor).weaken ?_
  intro clauses kinds all
  exact all.placed.weaken fun _ _ => (SequenceClause.heldBy_optionsOf all.distinct).mpr

end Clauses

section Statements

variable {verb : SequenceVerb} {make : Int64 → SequenceClause} {words : List TokenKind}

theorem persistence_places : PlacesModifiers verb persistence :=
  Places.choice rfl (by simp) (Places.pure _)
    (Places.choice rfl (by simp) (Places.pure _)
      (Places.choice rfl (by simp) (Places.pure _) (Places.pure _)))

/-- Where a sequence is made no clause restarts it. -/
theorem heldBy_none (form : IntegerForm .create make words) {value : Int64}
    {options : SequenceOptions} {restart : Option Restart}
    (held : (make value).HeldBy options restart) : (make value).HeldBy options none := by
  cases form with
  | restart changes => cases changes
  | restartWith changes => cases changes
  | _ => exact held

theorem createSequence_places : Places .create createSequence fun create clause =>
    clause.HeldBy create.options none := by
  refine (Places.expectKeyword .CREATE).bind fun _ => persistence_places.bind fun persistent => ?_
  refine (Places.expectKeyword .SEQUENCE).bind fun _ => ifNotExists_places.bind fun _ => ?_
  refine objectName_places.bind fun name => ?_
  have listed : Places .create (clauses sequenceClause) fun clauses asked =>
      asked.HeldBy (optionsOf clauses) (restartOf clauses) := clauses_places sequenceClause_places
  refine (Consumes.weaken listed ?_).returned
  exact fun clauses _ placed => placed.weaken fun form _ => heldBy_none form

theorem sequenceChange_places : Places .alter sequenceChange SequenceChange.Holds := by
  have named {holds : SequenceChange → SequenceClause → Prop} (make : String → SequenceChange) :
      Places .alter (do return make (← expectName)) holds :=
    Places.expectName.returned
  intro cursor
  refine ConsumesAt.get_bind ?_
  split
  · next known =>
      refine PlacesAt.advance_bind known rfl (by simp) ?_
      exact (Places.expectKeyword .TO).bind (fun _ => named .rename) _
  · next known =>
      refine PlacesAt.advance_bind known rfl (by simp) ?_
      exact (Places.expectKeyword .TO).bind (fun _ => named .owner) _
  · next known =>
      refine ConsumesAt.look_bind ?_
      split
      · next schema =>
          have behind : (cursor.past 1).current.kind = .keyword .SCHEMA := by
            rw [Cursor.current_past]
            exact schema
          exact PlacesAt.advance_bind known rfl (by simp)
            (PlacesAt.advance_bind behind rfl (by simp) (named .schema _))
      · exact ConsumesAt.fail
  · dsimp only
    split
    · exact Consumes.unexpected_bind cursor
    · have listed : Consumes (clauses changeClause) fun clauses => IntegersPlaced .alter
          (SequenceChange.Holds (.options (optionsOf clauses) (restartOf clauses))) :=
        clauses_places changeClause_places
      refine (listed.bind fun clauses kinds placed => Consumes.pure ?_) cursor
      rwa [List.append_nil]

theorem alterSequence_places :
    Places .alter alterSequence fun alter => alter.change.Holds := by
  refine (Places.expectKeyword .ALTER).bind fun _ => ?_
  refine (Places.expectKeyword .SEQUENCE).bind fun _ => ?_
  refine ifExists_places.bind fun _ => objectName_places.bind fun _ => ?_
  exact Consumes.returned sequenceChange_places

variable (verb)

theorem statementBody_places : Consumes statementBody (Statement.PlacesIntegers verb) := by
  have other {α : Type} {parser : Parser α} (steady : Steady parser) (make : α → Statement)
      (plain : ∀ value options restart, ¬ (make value).Sets verb options restart) :
      Consumes (do return make (← parser)) (Statement.PlacesIntegers verb) :=
    ((Consumes.of_moving steady).weaken fun value _ _ _ _ sets =>
      absurd sets (plain value _ _)).returned
  have refused {α : Type} (word : Keyword) (takesObject : Bool) (said : α → List TokenKind → Prop) :
      Consumes (unsupportedStatement word takesObject) said :=
    fun cursor => ConsumesAt.get_bind ConsumesAt.fail
  intro cursor
  refine ConsumesAt.look_bind ?_
  split
  · exact other topRules_areSteady.query.steady .select (fun _ _ _ sets => by cases sets) cursor
  · exact other insert_taking.steady .insert (fun _ _ _ sets => by cases sets) cursor
  · exact other update_taking.steady .update (fun _ _ _ sets => by cases sets) cursor
  · exact other delete_taking.steady .delete (fun _ _ _ sets => by cases sets) cursor
  · refine ConsumesAt.look_bind (ConsumesAt.look_bind ?_)
    split
    · refine (Consumes.weaken createSequence_places ?_).returned cursor
      rintro create kinds placed _ _ ⟨⟩
      exact placed
    · exact refused _ _ _ cursor
  · refine ConsumesAt.look_bind ?_
    split
    · refine (Consumes.weaken alterSequence_places ?_).returned cursor
      rintro _ kinds placed _ _ ⟨⟩
      exact placed
    · exact refused _ _ _ cursor
  · refine ConsumesAt.look_bind ?_
    split
    · exact other dropSequence_taking.steady .dropSequence (fun _ _ _ sets => by cases sets) cursor
    · exact refused _ _ _ cursor
  · exact refused _ _ _ cursor
  · exact refused _ _ _ cursor
  · exact ConsumesAt.unexpected

theorem skipSemicolons_places : PlacesModifiers verb skipSemicolons :=
  (Places.manyAfter (Places.eatSymbol .semicolon) (Places.pure ())).returned

theorem endOfStatement_consumes : Consumes endOfStatement fun _ kinds => kinds = [] := by
  refine (Consumes.look 0).bind ?_
  rintro kind _ rfl
  split
  · exact Consumes.pure rfl
  · exact Consumes.unexpected

theorem locatedStatement_places : Consumes locatedStatement fun located kinds =>
    located.statement.PlacesIntegers verb kinds := by
  have ends : PlacesModifiers verb (eatSymbol .semicolon) := Places.eatSymbol .semicolon
  refine Consumes.bind (skipSemicolons_places verb) fun _ front leading => ?_
  refine Consumes.current_bind fun start => ?_
  refine (statementBody_places verb).bind fun body middle placed => ?_
  refine endOfStatement_consumes.bind ?_
  rintro _ _ rfl
  refine Consumes.previousSpan.bind ?_
  rintro _ _ rfl
  refine Consumes.bind ends fun _ back trailing => Consumes.pure ?_
  intro options restart sets
  have ending : IntegersPlaced verb (·.HeldBy options restart) back :=
    trailing.weaken fun _ _ => False.elim
  rw [List.append_nil]
  exact (leading.weaken fun _ _ => False.elim).append ((placed sets).append ending)

theorem statement_places : Consumes statement (Statement.PlacesIntegers verb) :=
  (locatedStatement_places verb).returned

/-- What a statement sets where a clause has an integer token behind an optional sign: the integer
that the sign makes of the one in the token. The only exception is the least bigint behind a minus,
whose negative is no bigint. -/
theorem statement_of_integerToken {verb : SequenceVerb} {make : Int64 → SequenceClause}
    {words front back : List TokenKind} {cursor behind : Cursor} {body : Statement}
    {options : SequenceOptions} {restart : Option Restart}
    (parsed : statement cursor = .ok body behind) (sets : body.Sets verb options restart)
    (form : IntegerForm verb make words) (sign : Sign) (number : Int64)
    (faces : cursor.Faces (front ++ (words ++ (sign.kinds ++ .integer number :: back))))
    (taken : cursor.consumed + (front ++ (words ++ sign.kinds)).length < behind.consumed)
    (inRange : ¬ (sign = .minus ∧ number = Int64.minValue)) :
    ∃ value : Int64, value.toInt = sign.apply number.toInt ∧
      (make value).HeldBy options restart := by
  obtain ⟨kinds, rest, facesToo, rfl, placed⟩ :=
    statement_places verb cursor faces.closed parsed
  -- The tokens up to the integer are the first of those that were consumed.
  have upTo : front ++ (words ++ sign.kinds) ++ [TokenKind.integer number] <+: kinds ++ rest := by
    refine ⟨back, ?_⟩
    rw [← facesToo.ahead, faces.ahead]
    simp only [List.append_assoc, List.singleton_append]
  have inside :
      (front ++ (words ++ sign.kinds) ++ [TokenKind.integer number]).length ≤ kinds.length := by
    rw [List.length_append]
    exact Nat.lt_of_add_lt_add_left taken
  obtain ⟨others, split⟩ :=
    List.prefix_of_prefix_length_le upTo (List.prefix_append kinds rest) inside
  rw [List.append_assoc, List.singleton_append] at split
  refine ⟨_, Sign.toInt_applyBigint inRange, (placed sets split.symm).held form ?_⟩
  exact List.suffix_append _ _

/-- The tokens of `CREATE SEQUENCE s START - n`. -/
def startTokens (number : Int64) : List Token :=
  [⟨.keyword .CREATE, ⟨0, 1⟩⟩, ⟨.keyword .SEQUENCE, ⟨1, 2⟩⟩, ⟨.identifier "s", ⟨2, 3⟩⟩,
    ⟨.keyword .START, ⟨3, 4⟩⟩, ⟨.symbol .minus, ⟨4, 5⟩⟩, ⟨.integer number, ⟨5, 6⟩⟩]

/-- The integer of these tokens stands behind the words of a clause and a sign. -/
theorem faces_startTokens (number : Int64) : (Cursor.ofTokens (startTokens number)).Faces
    ([.keyword .CREATE, .keyword .SEQUENCE, .identifier "s"] ++
      ([.keyword .START] ++ (Sign.minus.kinds ++ .integer number :: []))) :=
  ⟨rfl, rfl⟩

/-- A minus makes the greatest bigint of the least but one. -/
theorem statement_of_integerToken_greatest :
    (∃ behind, statement (.ofTokens (startTokens (-9223372036854775807))) =
      .ok (.createSequence ⟨.plain "s", false, false, false,
        { start := some 9223372036854775807 }⟩) behind) ∧
    ∃ value : Int64, value.toInt = 9223372036854775807 ∧
      (SequenceClause.start value).HeldBy { start := some 9223372036854775807 } none := by
  have parsed : statement (.ofTokens (startTokens (-9223372036854775807))) =
      .ok (.createSequence ⟨.plain "s", false, false, false,
        { start := some 9223372036854775807 }⟩)
        ((Cursor.ofTokens (startTokens (-9223372036854775807))).past 6) := rfl
  exact ⟨⟨_, parsed⟩, statement_of_integerToken parsed (.create _) .start .minus
    (-9223372036854775807) (faces_startTokens _) (by decide) (by decide)⟩

/-- A minus leaves the least bigint as it is, although its negative is another integer. -/
theorem statement_of_integerToken_unrestricted :
    (∃ behind, statement (.ofTokens (startTokens Int64.minValue)) =
      .ok (.createSequence ⟨.plain "s", false, false, false,
        { start := some Int64.minValue }⟩) behind) ∧
    ¬ ∀ {verb : SequenceVerb} {make : Int64 → SequenceClause} {words front back : List TokenKind}
        {cursor behind : Cursor} {body : Statement} {options : SequenceOptions}
        {restart : Option Restart},
        statement cursor = .ok body behind → body.Sets verb options restart →
        IntegerForm verb make words → ∀ (sign : Sign) (number : Int64),
        cursor.Faces (front ++ (words ++ (sign.kinds ++ .integer number :: back))) →
        cursor.consumed + (front ++ (words ++ sign.kinds)).length < behind.consumed →
        ∃ value : Int64, value.toInt = sign.apply number.toInt ∧
          (make value).HeldBy options restart := by
  have parsed : statement (.ofTokens (startTokens Int64.minValue)) =
      .ok (.createSequence ⟨.plain "s", false, false, false, { start := some Int64.minValue }⟩)
        ((Cursor.ofTokens (startTokens Int64.minValue)).past 6) := rfl
  refine ⟨⟨_, parsed⟩, fun every => ?_⟩
  obtain ⟨value, same, -⟩ := every parsed (.create _) .start .minus Int64.minValue
    (faces_startTokens _) (by decide)
  have negative : Sign.minus.apply Int64.minValue.toInt = 9223372036854775808 := by decide
  have bound := Int64.toInt_lt value
  omega

end Statements

end Grammar

end SqlTree
