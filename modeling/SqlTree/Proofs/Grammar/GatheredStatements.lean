import SqlTree.Proofs.Grammar.Calls
import SqlTree.Proofs.Grammar.Depth
import SqlTree.Proofs.Grammar.GatheredRules
import SqlTree.Proofs.Grammar.SteadyStatements

/-!
# Calls of accepted texts

Every call below a tree that a text is accepted as, at any depth, is read from tokens of that text.
It is the test of existence with its query, or it stands behind the name of its function. The star
that counts all rows is the one argument of its call; any other star among arguments was written
among them.
-/

namespace SqlTree

namespace Grammar

open SqlTree.Parser

variable {origin : Cursor} {property : ObjectName → List Expr → Bool → Prop}

section Statements

variable (gather : topRules.Gather origin property)

include gather

theorem returning_gathers : YieldsFrom origin returning fun columns =>
    ∀ column ∈ columns, CallsHold property column.nodes := by
  refine (YieldsFrom.optionalAfter .RETURNING (outputColumns_gathers gather)).bind
    fun found holds => YieldsFrom.pure ?_
  cases found with
  | none => exact List.forall_mem_nil _
  | some columns => exact holds columns rfl

theorem rowFilter_gathers : YieldsFrom origin rowFilter fun filter =>
    ∀ body ∈ filter, CallsHold property body.nodes :=
  YieldsFrom.optionalAfter .WHERE (gather.expression 0)

theorem insertSource_gathers : YieldsFrom origin insertSource fun source =>
    CallsHold property source.nodes := by
  refine YieldsFrom.choice ?_ (YieldsFrom.read_bind fun selects => ?_)
  · refine (YieldsFrom.separated (expressionList_gathers gather).parenthesized).bind
      fun rows holds => YieldsFrom.pure ?_
    simpa only [InsertSource.nodes, Node.All.flatMap_iff, Node.All.expressionNodes_iff] using holds
  · split
    · exact gather.query.bind fun query holds => YieldsFrom.pure holds
    · exact YieldsFrom.choice (YieldsFrom.keyword_bind (YieldsFrom.pure Node.All.nil))
        YieldsFrom.unexpected

theorem insert_gathers : YieldsFrom origin insert fun insert =>
    CallsHold property insert.nodes := by
  refine YieldsFrom.keyword_bind (YieldsFrom.keyword_bind ?_)
  refine YieldsFrom.steady_bind objectName_taking.steady fun target => ?_
  refine YieldsFrom.steady_bind targetColumns_steady fun columns => ?_
  refine (insertSource_gathers gather).bind fun source sourceHolds => ?_
  refine (returning_gathers gather).bind fun returning returningHolds => YieldsFrom.pure ?_
  simpa [Insert.nodes, Node.IfCall] using ⟨sourceHolds, returningHolds⟩

theorem update_gathers : YieldsFrom origin update fun update =>
    CallsHold property update.nodes := by
  have assignment : YieldsFrom origin assignment fun assignment =>
      CallsHold property assignment.value.nodes :=
    YieldsFrom.steady_bind Taking.expectName.steady fun column => YieldsFrom.symbol_bind
      ((gather.expression 0).bind fun value holds => YieldsFrom.pure holds)
  refine YieldsFrom.keyword_bind ?_
  refine YieldsFrom.steady_bind objectName_taking.steady fun target => ?_
  refine YieldsFrom.steady_bind optionalAlias_steady fun aliasName => YieldsFrom.keyword_bind ?_
  refine assignment.separated.bind fun assignments assignmentsHold => ?_
  refine (YieldsFrom.optionalAfter .FROM (tableList_gathers gather)).bind fun source tables => ?_
  refine (rowFilter_gathers gather).bind fun filter filterHolds => ?_
  refine (returning_gathers gather).bind fun returning returningHolds => YieldsFrom.pure ?_
  simp only [Update.nodes, Node.All.cons_iff, Node.All.append_iff, Node.All.flatMap_iff,
    Node.IfCall, true_and, Node.All.tableNodes?_iff, Node.All.expressionNodes?_iff,
    Node.All.columnNodes_iff]
  exact ⟨⟨⟨assignmentsHold, tables⟩, filterHolds⟩, returningHolds⟩

theorem delete_gathers : YieldsFrom origin delete fun delete =>
    CallsHold property delete.nodes := by
  refine YieldsFrom.keyword_bind (YieldsFrom.keyword_bind ?_)
  refine YieldsFrom.steady_bind objectName_taking.steady fun target => ?_
  refine YieldsFrom.steady_bind optionalAlias_steady fun aliasName => ?_
  refine (rowFilter_gathers gather).bind fun filter filterHolds => ?_
  refine (returning_gathers gather).bind fun returning returningHolds => YieldsFrom.pure ?_
  simp only [Delete.nodes, Node.All.cons_iff, Node.All.append_iff, Node.IfCall, true_and,
    Node.All.expressionNodes?_iff, Node.All.columnNodes_iff]
  exact ⟨filterHolds, returningHolds⟩

theorem statementBody_gathers : YieldsFrom origin statementBody fun body =>
    CallsHold property body.nodes := by
  have plain {nodes : List Node} (body : Statement) (holds : CallsHold property nodes) :
      CallsHold property (.statement body :: nodes) :=
    .cons trivial holds
  have sequence (node : Node) (here : node.IfCall property)
      (type : Option DataType) : CallsHold property (node :: dataTypeNodes? type) := by
    refine .cons here ?_
    cases type with
    | none => exact .nil
    | some type => exact .one trivial
  have refused (verb : Keyword) (takesObject : Bool) : YieldsFrom origin
      (unsupportedStatement verb takesObject) fun body : Statement =>
        CallsHold property body.nodes :=
    YieldsFrom.read_bind fun _ => YieldsFrom.fail
  refine YieldsFrom.read_bind fun cursor => ?_
  split
  · exact gather.query.bind fun _ holds => YieldsFrom.pure (plain _ holds)
  · exact (insert_gathers gather).bind fun _ holds => YieldsFrom.pure (plain _ holds)
  · exact (update_gathers gather).bind fun _ holds => YieldsFrom.pure (plain _ holds)
  · exact (delete_gathers gather).bind fun _ holds => YieldsFrom.pure (plain _ holds)
  · refine YieldsFrom.read_bind fun _ => YieldsFrom.read_bind fun _ => ?_
    split
    · exact YieldsFrom.steady_bind createSequence_taking.steady fun create =>
        YieldsFrom.pure (plain _ (sequence (.createSequence create) trivial _))
    · exact refused .CREATE true
  · refine YieldsFrom.read_bind fun _ => ?_
    split
    · exact YieldsFrom.steady_bind alterSequence_taking.steady fun alter =>
        YieldsFrom.pure (plain _ (sequence (.alterSequence alter) trivial _))
    · exact refused .ALTER true
  · refine YieldsFrom.read_bind fun _ => ?_
    split
    · exact YieldsFrom.steady_bind dropSequence_taking.steady fun drop =>
        YieldsFrom.pure (plain _ (.one trivial))
    · exact refused .DROP true
  · exact refused .TRUNCATE false
  · exact refused .WITH false
  · exact YieldsFrom.unexpected

theorem locatedStatement_gathers : YieldsFrom origin locatedStatement fun located =>
    CallsHold property located.statement.nodes := by
  refine YieldsFrom.steady_bind skipSemicolons_steady fun _ => YieldsFrom.read_bind fun start => ?_
  refine (statementBody_gathers gather).bind fun body holds => ?_
  refine YieldsFrom.steady_bind endOfStatement_steady fun _ => YieldsFrom.read_bind fun stop => ?_
  exact YieldsFrom.eat_bind fun _ => YieldsFrom.pure holds

theorem statement_gathers : YieldsFrom origin statement fun body =>
    CallsHold property body.nodes :=
  (locatedStatement_gathers gather).bind fun _ holds => YieldsFrom.pure holds

theorem statements_gathers : YieldsFrom origin statements fun statements =>
    ∀ body ∈ statements, CallsHold property body.nodes := by
  have within (fuel : Nat) : YieldsFrom origin (statementsWithin fuel) fun batch =>
      ∀ located ∈ batch, CallsHold property located.statement.nodes := by
    induction fuel with
    | zero => exact YieldsFrom.pure (List.forall_mem_nil _)
    | succ fuel inductionHypothesis =>
        refine YieldsFrom.steady_bind skipSemicolons_steady fun _ => ?_
        refine YieldsFrom.read_bind fun kind => ?_
        split
        · exact YieldsFrom.pure (List.forall_mem_nil _)
        · refine (locatedStatement_gathers gather).bind fun _ holds => ?_
          exact inductionHypothesis.bind fun _ others =>
            YieldsFrom.pure (List.forall_mem_cons.mpr ⟨holds, others⟩)
  rw [statements_eq]
  refine YieldsFrom.read_bind fun cursor => (within _).bind fun batch holds => ?_
  exact YieldsFrom.pure (List.forall_mem_map.mpr holds)

end Statements

end Grammar

open SqlTree.Parser SqlTree.Grammar

/-- What is made of a text, up to its end or not, is of the sort that is made from its start. -/
theorem Parser.YieldsFrom.of_outcome {α : Type} {parser : Parser α} {sort : α → Prop}
    {text : String} (yields : YieldsFrom (.ofText text) parser sort) {value : α}
    (parsed : parser.outcome (.ofText text) = .ok value) : sort value := by
  have start : (Cursor.ofText text).LeadsTo (.ofText text) := .refl (Cursor.ofText_spec text).2.1
  unfold Parser.outcome at parsed
  split at parsed
  · next run =>
      cases parsed
      exact (yields start run).2
  · cases parsed

theorem Parser.YieldsFrom.finished {α : Type} {parser : Parser α} {sort : α → Prop}
    {origin : Cursor} (yields : YieldsFrom origin parser sort) :
    YieldsFrom origin (do let value ← parser; finish; return value) sort :=
  yields.bind fun _ holds => YieldsFrom.steady_bind finish_steady fun _ => YieldsFrom.pure holds

/-- A property of all calls that are read in a text is one of all calls below accepted trees. -/
theorem Accepts.callsHold {text : String} {root : Node} (accepts : Accepts text root)
    {property : ObjectName → List Expr → Bool → Prop}
    (calls : ∀ levels, (rules levels).ReadCalls (.ofText text) property) :
    CallsHold property root.nodes := by
  have gather : topRules.Gather (.ofText text) property := rules_gather calls maximalNesting
  cases accepts with
  | statement parsed among => exact (statements_gathers gather).of_outcome parsed _ among
  | single parsed => exact (statement_gathers gather).finished.of_outcome parsed
  | expression parsed => exact (gather.expression 0).finished.of_outcome parsed

/-- A call below a tree that a text is accepted as is read from tokens of the text that stand in a
row. -/
theorem Accepts.callRead {text : String} {root : Node} (accepts : Accepts text root)
    {function : ObjectName} {arguments : List Expr} {distinct : Bool}
    (below : .call function arguments distinct ∈ root.nodes) :
    ∃ kinds, kinds <:+: (tokenize text).map Token.kind ∧
      CallRead kinds function arguments distinct := by
  have inText : (Cursor.ofText text).ahead.map Token.kind <:+: (tokenize text).map Token.kind := by
    rw [← (Cursor.ofText_spec text).1, Cursor.stream, List.map_append]
    exact (List.prefix_append _ _).isInfix
  have made {parser : Parser Expr} (consumes : Consumes parser fun body kinds =>
      body.node.IfCall (CallRead kinds)) : YieldsFrom (.ofText text) parser fun body =>
        body.node.IfCall fun function arguments distinct => ∃ kinds,
          kinds <:+: (tokenize text).map Token.kind ∧
            CallRead kinds function arguments distinct := by
    refine (YieldsFrom.of_consumes consumes).weaken ?_
    rintro body ⟨kinds, part, holds⟩
    cases body with
    | call => exact ⟨kinds, part.trans inText, holds⟩
    | _ => trivial
  have calls (levels : Nat) : (rules levels).ReadCalls (.ofText text) _ :=
    ⟨made (nameExpression_calls levels), made (existsTest_calls levels)⟩
  exact accepts.callsHold calls _ below

/-- In `f(a, *)` the star is an argument beside another. -/
theorem Accepts.callRead_listed : ∃ kinds,
    kinds <:+: (tokenize "f(a, *)").map Token.kind ∧
      CallRead kinds (.plain "f") [.column "a", .star] false := by
  have accepts : Accepts "f(a, *)" (.expression (.call (.plain "f") [.column "a", .star] false)) :=
    .expression rfl
  exact accepts.callRead (List.mem_cons_of_mem _ List.mem_cons_self)

/-- An accepted call may be distinct without an argument, and may have a star beside another
argument. -/
theorem Accepts.callRead_unrestricted :
    (Accepts "f(DISTINCT)" (.expression (.call (.plain "f") [] true)) ∧
      Accepts "f(a, *)" (.expression (.call (.plain "f") [.column "a", .star] false))) ∧
    ¬ ∀ text root, Accepts text root → ∀ function arguments distinct,
      .call function arguments distinct ∈ root.nodes →
        (distinct = true → arguments ≠ []) ∧
          (.star ∈ arguments → arguments = [.star] ∧ distinct = false) := by
  have bare : Accepts "f(DISTINCT)" (.expression (.call (.plain "f") [] true)) := .expression rfl
  have beside : Accepts "f(a, *)"
      (.expression (.call (.plain "f") [.column "a", .star] false)) := .expression rfl
  refine ⟨⟨bare, beside⟩, fun restricted => ?_⟩
  have alone := (restricted _ _ beside _ _ _ (List.mem_cons_of_mem _ List.mem_cons_self)).2
  have single := (alone (List.mem_cons_of_mem _ List.mem_cons_self)).1
  exact absurd (congrArg List.length single) (by decide)

end SqlTree
