import SqlTree.Proofs.Grammar.Consuming
import SqlTree.Proofs.Grammar.References
import SqlTree.Proofs.Grammar.Sequences
import SqlTree.Proofs.Grammar.SteadyRules
import SqlTree.Proofs.Tree.Throughout

/-!
# Calls and what they are read from

A call is read from the name of its function and a list of arguments in parentheses. A star that
opens the parentheses is a list of its own. Everywhere else in a list a star is an expression like
any other, and it is read from nothing but a star, or from the name `*` in quotes.
-/

namespace SqlTree

open SqlTree.Parser SqlTree.Grammar

/-- On some level of the grammar, tokens of some kinds are read as an expression. -/
def Expr.ReadFrom (body : Expr) (kinds : List TokenKind) : Prop :=
  ∃ levels, ((rules levels).expression 0).CanRead kinds body

/-- On some level of the grammar, tokens of some kinds are read as a query. -/
def Select.ReadFrom (query : Select) (kinds : List TokenKind) : Prop :=
  ∃ levels, (rules levels).query.CanRead kinds query

/-- The kinds of a star as an expression: it stands in parentheses or not, and may be a name in
quotes. -/
inductive StarKinds : List TokenKind → Prop
  | star : StarKinds [.symbol .star]
  | quoted : StarKinds [.identifier "*"]
  | parens {kinds : List TokenKind} (inner : StarKinds kinds) : StarKinds (inParens kinds)

/-- The arguments of a call, and the kinds of the tokens between its parentheses, behind `DISTINCT`
if it is distinct. -/
inductive ArgumentsRead : (distinct : Bool) → List TokenKind → List Expr → Prop
  | none : ArgumentsRead false [] []
  | star : ArgumentsRead false [.symbol .star] [.star]
  /-- Expressions with commas between them, of which the first one does not start with a star
  unless the call is distinct. -/
  | list (distinct : Bool) {arguments : List (Piece Expr)} (nonempty : arguments ≠ [])
      (each : ∀ piece ∈ arguments, piece.value.ReadFrom piece.kinds)
      (stars : ∀ piece ∈ arguments, piece.value = .star → StarKinds piece.kinds)
      (opening : distinct = false →
        .symbol .star ∉ (Piece.separated arguments).head?) :
      ArgumentsRead distinct (Piece.separated arguments) (arguments.map Piece.value)

/-- A call and the kinds of its tokens. Nothing is said of the arguments of a distinct call whose
list is left out. -/
inductive CallRead : List TokenKind → ObjectName → List Expr → Bool → Prop
  | test {query : Select} {kinds : List TokenKind} (inner : query.ReadFrom kinds) :
      CallRead (.keyword .EXISTS :: inParens kinds) (.plain "exists") [.select query] false
  | named {function : ObjectName} {spelled kinds : List TokenKind} {arguments : List Expr}
      {distinct : Bool} (spelling : function.Spelled spelled)
      (inside : distinct = false ∨ kinds ≠ [] → ArgumentsRead distinct kinds arguments) :
      CallRead (spelled ++ callKinds distinct kinds) function arguments distinct

namespace Grammar

variable {inner : Rules}

section Names

/-- The only name that a star can be is one in quotes. -/
theorem eq_of_name?_star {kind : TokenKind} (named : kind.name? = some "*") :
    kind = .identifier "*" := by
  cases kind with
  | identifier name =>
      cases named
      rfl
  | keyword word => cases word <;> exact absurd named (by decide)
  | _ => cases named

theorem nameOfParts_consumes (parts : List String) (span : Span) :
    Consumes (nameOfParts parts span) fun function kinds =>
      kinds = [] ∧ parts = function.parts := by
  unfold nameOfParts
  split
  · exact Consumes.pure ⟨rfl, rfl⟩
  · exact Consumes.pure ⟨rfl, rfl⟩
  · exact Consumes.fail

theorem eatInnerDot_consumes :
    Consumes eatInnerDot fun found kinds => kinds = if found then [.symbol .dot] else [] := by
  refine (Consumes.look 0).bind ?_
  rintro _ _ rfl
  refine (Consumes.look 1).bind ?_
  rintro _ _ rfl
  split
  · exact Consumes.eatSymbol .dot
  · exact Consumes.pure rfl

/-- A token that stands for a name. -/
def Names (name : String) (kinds : List TokenKind) : Prop :=
  ∃ kind : TokenKind, kind.name? = some name ∧ kinds = [kind]

/-- Names with points between them spell the name that they are the parts of. -/
theorem spelled_of_parts {first : TokenKind} {name : String} (named : first.name? = some name)
    {others : List (Piece String)} (each : ∀ piece ∈ others, Names piece.value piece.kinds)
    {function : ObjectName} (parts : name :: others.map Piece.value = function.parts) :
    function.Spelled (first :: Piece.marked (.symbol .dot) others) := by
  obtain ⟨last, _ | schema⟩ := function
  · obtain ⟨rfl, none⟩ := List.cons.inj parts
    obtain rfl : others = [] := List.map_eq_nil_iff.mp none
    exact .plain named
  · obtain ⟨rfl, single⟩ := List.cons.inj parts
    obtain ⟨piece, rfl, rfl⟩ := List.map_eq_singleton_iff.mp single
    obtain ⟨kind, namedToo, kinds⟩ := each piece List.mem_cons_self
    rw [Piece.marked_cons, Piece.marked_nil, List.append_nil, kinds]
    exact .qualified named namedToo

end Names

section Stars

/-- A star is made of nothing but a star. -/
def OnlyOfStars (body : Expr) (kinds : List TokenKind) : Prop := body = .star → StarKinds kinds

/-- What starts with a name is a reference, or a call whose function is spelled. -/
theorem nameExpression_consumes {said : ObjectName → Expr → List TokenKind → Prop}
    (calls : ∀ function, Consumes (functionCall inner function) (said function)) :
    Consumes (nameExpression inner) fun body kinds =>
      (∃ table column, body = .reference table column ∧ OnlyOfStars body kinds) ∨
        ∃ function spelled behind, function.Spelled spelled ∧ kinds = spelled ++ behind ∧
          said function body behind := by
  refine Consumes.current_bind fun start => ?_
  refine Consumes.expectName.bind ?_
  rintro name _ ⟨first, named, rfl⟩
  refine (Consumes.manyAfter eatInnerDot_consumes Consumes.expectName).bind ?_
  rintro _ _ ⟨others, rfl, rfl, each⟩
  refine Consumes.choice rfl ?_ ?_
  · refine Consumes.symbol_bind (Consumes.previousSpan.bind ?_)
    rintro stop _ rfl
    refine (nameOfParts_consumes _ _).bind ?_
    rintro table _ ⟨rfl, _⟩
    exact Consumes.pure (.inl ⟨some table, "*", rfl, nofun⟩)
  · refine Consumes.previousSpan.bind ?_
    rintro stop _ rfl
    refine (Consumes.atSymbol .leftParen).bind ?_
    rintro called _ rfl
    split
    · refine (nameOfParts_consumes _ _).bind ?_
      rintro function _ ⟨rfl, parts⟩
      refine (calls function).weaken fun body behind holds => .inr ?_
      exact ⟨function, _, behind, spelled_of_parts named each parts, rfl, holds⟩
    · cases others with
      | nil =>
          refine Consumes.pure (.inl ⟨none, name, rfl, fun star => ?_⟩)
          cases star
          rw [eq_of_name?_star named]
          exact .quoted
      | cons second others =>
          refine (nameOfParts_consumes _ _).bind ?_
          rintro table _ ⟨rfl, _⟩
          exact Consumes.pure (.inl ⟨some table, _, rfl, nofun⟩)

theorem nameExpression_ofStars (steady : inner.AreSteady) :
    Consumes (nameExpression inner) OnlyOfStars := by
  have call (function : ObjectName) :
      Consumes (functionCall inner function) fun body _ => body ≠ .star :=
    Consumes.parenthesized (Consumes.steady_bind (Moving.eatKeyword .DISTINCT).steady
      fun distinct _ => Consumes.steady_bind (callArguments_steady steady distinct) fun _ _ =>
        Consumes.pure nofun)
  refine (nameExpression_consumes call).weaken ?_
  rintro body kinds (⟨_, _, _, ofStars⟩ | ⟨_, _, _, _, _, other⟩)
  · exact ofStars
  · exact fun star => absurd star other

theorem parenthesizedExpression_ofStars (steady : inner.AreSteady)
    (ofStars : Consumes (inner.expression 0) OnlyOfStars) :
    Consumes (parenthesizedExpression inner) OnlyOfStars := by
  refine Consumes.parenthesized ((Consumes.atKeyword .SELECT).bind ?_)
  rintro selects _ rfl
  split
  · exact Consumes.steady_bind steady.query.steady fun _ _ => Consumes.pure nofun
  · exact ofStars.weaken fun body kinds holds star => .parens (holds star)

theorem castExpression_ofStars (steady : inner.AreSteady) :
    Consumes (castExpression inner) OnlyOfStars :=
  Consumes.keyword_bind (Consumes.parenthesized
    (Consumes.steady_bind (steady.expression 0) fun _ _ => Consumes.keyword_bind
      (Consumes.steady_bind dataType_taking.steady fun _ _ => Consumes.pure nofun)))

theorem existsTest_ofStars (steady : inner.AreSteady) :
    Consumes (existsTest inner) OnlyOfStars :=
  Consumes.keyword_bind (Consumes.steady_bind (Taking.parenthesized steady.query.steady).steady
    fun _ _ => Consumes.pure nofun)

theorem caseExpression_ofStars (steady : inner.AreSteady) :
    Consumes (caseExpression inner) OnlyOfStars := by
  have ended (subject : Option Expr) (arms : List CaseArm) (front : List TokenKind) :
      Consumes (caseEnd inner subject arms) fun body back => OnlyOfStars body (front ++ back) :=
    Consumes.steady_bind (Steady.optionalAfter .ELSE (steady.expression 0)) fun _ _ =>
      Consumes.keyword_bind (Consumes.pure nofun)
  have behind (front : List TokenKind) (subject : Option Expr) (direct : List TokenKind) :
      Consumes (caseBehind inner subject) fun body back =>
        OnlyOfStars body (front ++ (direct ++ back)) := by
    refine Consumes.steady_bind (Steady.manyAfter (Moving.eatKeyword .WHEN)
      (caseArm_steady steady)) fun arms taken => ?_
    simp only [← List.append_assoc]
    split
    · exact Consumes.unexpected_bind
    · exact ended subject arms _
  rw [caseExpression_eq]
  refine Consumes.keyword_bind ((Consumes.atKeyword .WHEN).bind ?_)
  rintro direct _ rfl
  cases direct with
  | true => exact Consumes.steady_bind (Steady.pure none) (behind [_])
  | false => exact Consumes.steady_bind (steady.expression 0).map (behind [_])

theorem primary_ofStars (steady : inner.AreSteady)
    (ofStars : Consumes (inner.expression 0) OnlyOfStars) :
    Consumes (primary inner) OnlyOfStars := by
  intro cursor
  have named := nameExpression_ofStars steady
  rw [primary_eq]
  refine ConsumesAt.look_bind ?_
  refine primaryBy_cases (fun parser => ConsumesAt parser cursor OnlyOfStars) _ ?_ ?_ ?_
    (parenthesizedExpression_ofStars steady ofStars cursor) (caseExpression_ofStars steady cursor)
    (castExpression_ofStars steady cursor) (fun _ => ?_) (named cursor) ConsumesAt.unexpected
  · exact fun value literal =>
      ConsumesAt.advance_bind (isPlain_of_literalOf? literal) (ConsumesAt.pure nofun)
  · exact fun number known =>
      ConsumesAt.advance_bind (isPlain_of_eq known rfl) (ConsumesAt.pure nofun)
  · intro known
    refine ConsumesAt.advance_bind (isPlain_of_eq known rfl) (ConsumesAt.pure fun _ => ?_)
    rw [Cursor.current, known]
    exact .star
  · refine ConsumesAt.look_bind ?_
    split
    · exact existsTest_ofStars steady cursor
    · exact named cursor

theorem operand_ofStars (steady : inner.AreSteady)
    (ofStars : Consumes (inner.expression 0) OnlyOfStars) :
    Consumes (operand inner) OnlyOfStars := by
  intro cursor
  refine ConsumesAt.look_bind ?_
  split
  · next operator power leading =>
      refine ConsumesAt.advance_bind (isPlain_of_leadingOperator? leading) ?_
      exact Consumes.steady_bind (steady.expression power) (fun _ _ => Consumes.pure nofun) _
  · exact primary_ofStars steady ofStars cursor

/-- Where no suffix is found, nothing is taken. -/
theorem nextSuffix_consumes (steady : inner.AreSteady) (power : Nat) :
    Consumes (nextSuffix inner power) fun found kinds => found = none → kinds = [] := by
  intro cursor
  refine ConsumesAt.look_bind (ConsumesAt.look_bind ?_)
  split
  · exact ConsumesAt.pure fun _ => rfl
  · next found starts =>
      split
      · have suffix : SteadyAt (suffix inner (found + 1)) cursor fun _ => True :=
          suffix_steadyAt steady starts _
        exact (ConsumesAt.of_steadyAt suffix).bind fun _ _ _ => ConsumesAt.pure nofun
      · exact ConsumesAt.pure fun _ => rfl

/-- What has a suffix is no star. -/
theorem foldl_applyTo_ne {suffixes : List Suffix} (some : suffixes ≠ []) (first : Expr) :
    suffixes.foldl (fun left suffix => suffix.applyTo left) first ≠ .star := by
  obtain ⟨others, last, rfl⟩ := (List.eq_nil_or_concat suffixes).resolve_left some
  rw [List.concat_eq_append, List.foldl_append]
  cases last <;> exact nofun

theorem operators_ofStars (steady : inner.AreSteady)
    (ofStars : Consumes (inner.expression 0) OnlyOfStars) (power : Nat) :
    Consumes (operators inner power) OnlyOfStars := by
  refine (operand_ofStars steady ofStars).bind fun first front holds => ?_
  refine ((Consumes.collect_nothing (nextSuffix_consumes steady power)).weaken ?_).returned
  intro suffixes kinds nothing star
  by_cases none : suffixes = []
  · rw [nothing none, List.append_nil]
    subst none
    exact holds star
  · exact absurd star (foldl_applyTo_ne none first)

/-- On every level, a star is read from nothing but a star. -/
theorem rules_ofStars (levels power : Nat) :
    Consumes ((rules levels).expression power) OnlyOfStars := by
  induction levels generalizing power with
  | zero => exact Consumes.current_bind fun _ => Consumes.fail
  | succ levels inductionHypothesis =>
      exact operators_ofStars (rules_areSteady levels) (inductionHypothesis 0) power

end Stars

section Calls

variable (levels : Nat)

theorem callArguments_consumes (distinct : Bool) :
    Consumes (callArguments (rules levels) distinct) fun arguments kinds =>
      distinct = false ∨ kinds ≠ [] → ArgumentsRead distinct kinds arguments := by
  intro cursor
  refine ConsumesAt.atSymbol_bind ?_
  split
  · refine ConsumesAt.pure ?_
    rintro (rfl | given)
    · exact .none
    · exact absurd rfl given
  · refine ConsumesAt.atSymbol_bind ?_
    split
    · next starred =>
        obtain ⟨plain, star⟩ := Bool.and_eq_true_iff.mp starred
        obtain rfl : distinct = false := by simpa using plain
        have current : cursor.current.kind = .symbol .star := of_decide_eq_true star
        refine ConsumesAt.advance_bind (isPlain_of_eq current rfl) (ConsumesAt.pure fun _ => ?_)
        rw [current]
        exact .star
    · next other =>
        have list := (Consumes.separated (rules_ofStars levels 0).canRead cursor).opening
        refine list.weaken ?_
        rintro _ _ ⟨⟨nonempty, arguments, rfl, rfl, each⟩, opens⟩ _
        refine .list distinct (mt List.map_eq_nil_iff.mpr nonempty) ?_ ?_ ?_
        · exact fun piece among => ⟨levels, (each piece among).2⟩
        · exact fun piece among => (each piece among).1
        · rintro rfl star
          exact other (decide_eq_true (opens _ star).symm)

theorem functionCall_consumes (function : ObjectName) :
    Consumes (functionCall (rules levels) function) fun body kinds =>
      ∃ arguments distinct inside, body = .call function arguments distinct ∧
        kinds = callKinds distinct inside ∧
        (distinct = false ∨ inside ≠ [] → ArgumentsRead distinct inside arguments) := by
  refine Consumes.parenthesized ((Consumes.eatKeyword .DISTINCT).bind ?_)
  rintro distinct _ rfl
  refine ((callArguments_consumes levels distinct).weaken ?_).returned
  intro arguments inside read
  refine ⟨arguments, distinct, inside, rfl, ?_, read⟩
  cases distinct <;> rfl

/-- A call that starts with a name is read from its tokens. -/
theorem nameExpression_calls : Consumes (nameExpression (rules levels)) fun body kinds =>
    body.node.IfCall (CallRead kinds) := by
  refine (nameExpression_consumes (functionCall_consumes levels)).weaken ?_
  rintro _ _ (⟨_, _, rfl, _⟩ | ⟨_, _, _, spelling, rfl, _, _, _, rfl, rfl, inside⟩)
  · trivial
  · exact .named spelling inside

theorem existsTest_calls : Consumes (existsTest (rules levels)) fun body kinds =>
    body.node.IfCall (CallRead kinds) := by
  have query := (Consumes.of_moving (rules_areSteady levels).query).canRead
  have inside : Consumes (parenthesized (rules levels).query) fun query kinds =>
      ∃ inside, kinds = inParens inside ∧ query.ReadFrom inside :=
    Consumes.parenthesized (query.weaken fun _ _ read => ⟨_, rfl, levels, read.2⟩)
  refine Consumes.keyword_bind (inside.weaken ?_).returned
  rintro query _ ⟨inside, rfl, read⟩
  exact .test read

end Calls

end Grammar

end SqlTree
