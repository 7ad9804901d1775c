import SqlTree.Traversal.Forest
import SqlTree.Traversal.Trace

/-!
# Agreement of the traversals

A rewriting meets the nodes that a visit meets, in the same order, and ends where the visit ends, as
long as what is edited does not reach the state of the rewriter. Where nothing is edited, it returns
the tree that it was given. Rules and visits are followed side by side, one lemma for each kind of
tree.
-/

namespace SqlTree

variable {σ ε : Type}

namespace Rewriter

/-- Edits do not reach the state of the rewriter: it learns all that it learns on entering
nodes. -/
structure KeepsState (rewriter : Rewriter σ ε) : Prop where
  statement : ∀ body state, (rewriter.leaveStatement body state).2 = state
  select : ∀ body state, (rewriter.leaveSelect body state).2 = state
  table : ∀ body state, (rewriter.leaveTable body state).2 = state
  expression : ∀ body state, (rewriter.leaveExpression body state).2 = state
  dataType : ∀ type state, (rewriter.leaveDataType type state).2 = state

/-- Nodes are left as they are. -/
structure EditsNothing (rewriter : Rewriter σ ε) : Prop where
  statement : ∀ body state, (rewriter.leaveStatement body state).1 = body
  select : ∀ body state, (rewriter.leaveSelect body state).1 = body
  table : ∀ body state, (rewriter.leaveTable body state).1 = body
  expression : ∀ body state, (rewriter.leaveExpression body state).1 = body
  dataType : ∀ type state, (rewriter.leaveDataType type state).1 = type

/-- The visitor that does at every node what the rewriter does on entering it. -/
def visitor (rewriter : Rewriter σ ε) : Visitor (EStateM ε σ) := fun node walk state =>
  match rewriter.enter node state with
  | (.descend, state) => walk state
  | (.skip, state) => .ok () state
  | (.fail error, state) => .error error state

end Rewriter

namespace TracePolicy

variable (policy : TracePolicy)

/-- What is decided at a node is done there, with the events so far. -/
theorem visitor_apply (node : Node) (walk : EStateM String (List TraceEvent) Unit)
    (events : List TraceEvent) :
    policy.visitor node walk events =
      (match (policy.decide node events).1 with
        | .descend => walk
        | .skip => pure ()
        | .fail error => throw error : EStateM String (List TraceEvent) Unit)
        (policy.decide node events).2 :=
  rfl

theorem visitor_rewriter : policy.rewriter.visitor = policy.visitor := by
  funext node walk events
  rw [visitor_apply]
  simp only [Rewriter.visitor, rewriter]
  obtain ⟨entry, events⟩ := policy.decide node events
  cases entry <;> rfl

theorem rewriter_keepsState : policy.rewriter.KeepsState :=
  ⟨fun _ _ => rfl, fun _ _ => rfl, fun _ _ => rfl, fun _ _ => rfl, fun _ _ => rfl⟩

theorem rewriter_editsNothing : policy.rewriter.EditsNothing :=
  ⟨fun _ _ => rfl, fun _ _ => rfl, fun _ _ => rfl, fun _ _ => rfl, fun _ _ => rfl⟩

end TracePolicy

/-- How far one has come after a visit; nothing is visited after a failure. -/
def Progress.after (progress : Progress σ ε) (visit : EStateM ε σ Unit) : Progress σ ε :=
  match progress.failure with
  | some _ => progress
  | none =>
    match visit progress.state with
    | .ok _ state => ⟨state, none⟩
    | .error error state => ⟨state, some error⟩

namespace Progress

theorem after_pure (progress : Progress σ ε) : progress.after (pure ()) = progress := by
  obtain ⟨state, _ | error⟩ := progress <;> rfl

theorem after_seq (progress : Progress σ ε) (first second : EStateM ε σ Unit) :
    progress.after (do first; second) = (progress.after first).after second := by
  obtain ⟨state, _ | error⟩ := progress
  · simp only [Progress.after, bind, EStateM.bind]
    cases first state <;> rfl
  · rfl

end Progress

/-- A rewriting goes as a visit does where edits do not reach the state, and returns what it was
given where nothing is edited. -/
structure Mirrors {α : Type} (rewriter : Rewriter σ ε) (rewriting : Rewriting σ ε α) (kept : α)
    (visit : EStateM ε σ Unit) : Prop where
  goes : rewriter.KeepsState → ∀ progress, (rewriting progress).2 = progress.after visit
  keeps : rewriter.EditsNothing → ∀ progress, (rewriting progress).1 = kept

namespace Mirrors

variable {α β : Type} {rewriter : Rewriter σ ε} {rewriting : Rewriting σ ε α} {given : α}
  {visit others : EStateM ε σ Unit}

theorem pure (given : α) : Mirrors rewriter (pure given) given (pure ()) where
  goes _ progress := progress.after_pure.symm
  keeps _ _ := rfl

/-- What is made of the rewritten parts is made of the given parts where nothing is edited. -/
theorem map (part : Mirrors rewriter rewriting given visit) (make : α → β) :
    Mirrors rewriter (do return make (← rewriting)) (make given) visit where
  goes keepsState := part.goes keepsState
  keeps editsNothing progress := congrArg make (part.keeps editsNothing progress)

theorem bind {next : α → Rewriting σ ε β} {make : α → β}
    (first : Mirrors rewriter rewriting given visit)
    (second : ∀ item, Mirrors rewriter (next item) (make item) others) :
    Mirrors rewriter (rewriting >>= next) (make given) (do visit; others) where
  goes keepsState progress := by
    rw [Progress.after_seq, ← first.goes keepsState progress]
    exact (second _).goes keepsState _
  keeps editsNothing progress := by
    refine ((second _).keeps editsNothing _).trans ?_
    exact congrArg make (first.keeps editsNothing progress)

/-- A node is entered in the same way, and what lies below it is met in the same way. -/
theorem around {node : Node} {leave : α → σ → α × σ}
    (keepsState : rewriter.KeepsState → ∀ body state, (leave body state).2 = state)
    (editsNothing : rewriter.EditsNothing → ∀ body state, (leave body state).1 = body)
    (below : Mirrors rewriter rewriting given visit) :
    Mirrors rewriter (rewriter.around node given leave rewriting) given
      (rewriter.visitor node visit) where
  goes kept progress := by
    obtain ⟨state, _ | error⟩ := progress
    · simp only [Rewriter.around, Rewriter.visitor, Progress.after, Option.isSome_none,
        Bool.false_eq_true, if_false]
      obtain ⟨_ | _ | error, entered⟩ := rewriter.enter node state
      · have met := below.goes kept ⟨entered, none⟩
        dsimp only
        generalize rewriting ⟨entered, none⟩ = run at met ⊢
        obtain ⟨walked, last, _ | error⟩ := run
        · refine Eq.trans ?_ met
          exact congrArg (Progress.mk · none) (keepsState kept walked last)
        · exact met
      · rfl
      · rfl
    · rfl
  keeps kept progress := by
    obtain ⟨state, _ | error⟩ := progress
    · simp only [Rewriter.around, Option.isSome_none, Bool.false_eq_true, if_false]
      obtain ⟨_ | _ | error, entered⟩ := rewriter.enter node state
      · have walked := below.keeps kept ⟨entered, none⟩
        dsimp only
        generalize rewriting ⟨entered, none⟩ = run at walked ⊢
        obtain ⟨body, last, _ | error⟩ := run
        · exact (editsNothing kept body last).trans walked
        · exact walked
      · rfl
      · rfl
    · rfl

/-- A node that is not edited is entered in the same way. -/
theorem enter {node : Node} (below : Mirrors rewriter rewriting given visit) :
    Mirrors rewriter (rewriter.around node given Prod.mk rewriting) given
      (rewriter.visitor node visit) :=
  around (fun _ _ _ => rfl) (fun _ _ _ => rfl) below

theorem expression {rewriting : Rewriting σ ε Expr} {given : Expr} {node : Node}
    (below : Mirrors rewriter rewriting given visit) :
    Mirrors rewriter (rewriter.aroundExpression given node rewriting) given
      (rewriter.visitor (.expression given) (rewriter.visitor node visit)) :=
  around Rewriter.KeepsState.expression Rewriter.EditsNothing.expression below.enter

theorem forList {rewrite : α → Rewriting σ ε α} {visit : α → EStateM ε σ Unit}
    (mirrors : ∀ item, Mirrors rewriter (rewrite item) item (visit item)) (items : List α) :
    Mirrors rewriter (items.mapM rewrite) items (items.forM visit) := by
  induction items with
  | nil => exact .pure []
  | cons item items inductionHypothesis =>
      rw [List.mapM_cons]
      exact (mirrors item).bind fun item => inductionHypothesis.map (item :: ·)

end Mirrors

theorem DataType.rewrite_mirrors (rewriter : Rewriter σ ε) (type : DataType) :
    Mirrors rewriter (type.rewrite rewriter) type (rewriter.visitor (.dataType type) (pure ())) :=
  .around Rewriter.KeepsState.dataType Rewriter.EditsNothing.dataType (.pure type)

section Trees

variable (rewriter : Rewriter σ ε)

mutual

theorem Expr.rewrite_mirrors : (expression : Expr) →
    Mirrors rewriter (expression.rewrite rewriter) expression (expression.visit rewriter.visitor)
  | .reference _ _ => by
      rw [Expr.rewrite, Expr.visit]
      exact .expression (.pure _)
  | .literal _ => by
      rw [Expr.rewrite, Expr.visit]
      exact .expression (.pure _)
  | .parameter _ => by
      rw [Expr.rewrite, Expr.visit]
      exact .expression (.pure _)
  | .unary operator operand => by
      rw [Expr.rewrite, Expr.visit]
      exact .expression (operand.rewrite_mirrors.map (Expr.unary operator))
  | .binary left operator right => by
      rw [Expr.rewrite, Expr.visit]
      exact .expression (left.rewrite_mirrors.bind fun left =>
        right.rewrite_mirrors.map (Expr.binary left operator))
  | .ternary operator value low high => by
      rw [Expr.rewrite, Expr.visit]
      exact .expression (value.rewrite_mirrors.bind fun value =>
        low.rewrite_mirrors.bind fun low =>
          high.rewrite_mirrors.map (Expr.ternary operator value low))
  | .inList operand list negated => by
      rw [Expr.rewrite, Expr.visit]
      exact .expression (operand.rewrite_mirrors.bind fun operand =>
        (rewriteExpressions_mirrors list).map (Expr.inList operand · negated))
  | .call function arguments distinct => by
      rw [Expr.rewrite, Expr.visit]
      exact .expression ((rewriteExpressions_mirrors arguments).map (Expr.call function · distinct))
  | .cast operand target => by
      rw [Expr.rewrite, Expr.visit]
      exact .expression (operand.rewrite_mirrors.bind fun operand =>
        (target.rewrite_mirrors rewriter).map (Expr.cast operand))
  | .case subject arms otherwise => by
      rw [Expr.rewrite, Expr.visit]
      exact .expression ((rewriteExpression?_mirrors subject).bind fun subject =>
        (rewriteArms_mirrors arms).bind fun arms =>
          (rewriteExpression?_mirrors otherwise).map (Expr.case subject arms))
  | .select query => by
      rw [Expr.rewrite, Expr.visit]
      exact .around Rewriter.KeepsState.expression Rewriter.EditsNothing.expression
        (query.rewrite_mirrors.map Expr.select)

theorem rewriteExpression?_mirrors : (expression : Option Expr) →
    Mirrors rewriter (rewriteExpression? rewriter expression) expression
      (visitExpression? rewriter.visitor expression)
  | none => .pure none
  | some expression => by
      rw [rewriteExpression?, visitExpression?]
      exact expression.rewrite_mirrors.map some

theorem rewriteExpressions_mirrors : (expressions : List Expr) →
    Mirrors rewriter (rewriteExpressions rewriter expressions) expressions
      (visitExpressions rewriter.visitor expressions)
  | [] => .pure []
  | expression :: expressions => by
      rw [rewriteExpressions, visitExpressions]
      exact expression.rewrite_mirrors.bind fun expression =>
        (rewriteExpressions_mirrors expressions).map (expression :: ·)

theorem CaseArm.rewrite_mirrors : (arm : CaseArm) →
    Mirrors rewriter (arm.rewrite rewriter) arm (arm.visit rewriter.visitor)
  | ⟨condition, result⟩ => by
      rw [CaseArm.rewrite, CaseArm.visit]
      exact condition.rewrite_mirrors.bind fun condition =>
        result.rewrite_mirrors.map (CaseArm.mk condition)

theorem rewriteArms_mirrors : (arms : List CaseArm) →
    Mirrors rewriter (rewriteArms rewriter arms) arms (visitArms rewriter.visitor arms)
  | [] => .pure []
  | arm :: arms => by
      rw [rewriteArms, visitArms]
      exact arm.rewrite_mirrors.bind fun arm => (rewriteArms_mirrors arms).map (arm :: ·)

theorem Select.rewrite_mirrors : (query : Select) →
    Mirrors rewriter (query.rewrite rewriter) query (query.visit rewriter.visitor)
  | ⟨distinct, columns, source, filter, groupBy, having, orderBy, limit, offset⟩ => by
      rw [Select.rewrite, Select.visit]
      refine .around Rewriter.KeepsState.select Rewriter.EditsNothing.select ?_
      exact (rewriteColumns_mirrors columns).bind fun columns =>
        (rewriteTable?_mirrors source).bind fun source =>
        (rewriteExpression?_mirrors filter).bind fun filter =>
        (rewriteExpressions_mirrors groupBy).bind fun groupBy =>
        (rewriteExpression?_mirrors having).bind fun having =>
        (rewriteSortKeys_mirrors orderBy).bind fun orderBy =>
        (rewriteExpression?_mirrors limit).bind fun limit =>
        (rewriteExpression?_mirrors offset).map
          (Select.mk distinct columns source filter groupBy having orderBy limit)

theorem OutputColumn.rewrite_mirrors : (column : OutputColumn) →
    Mirrors rewriter (column.rewrite rewriter) column (column.visit rewriter.visitor)
  | ⟨value, aliasName⟩ => by
      rw [OutputColumn.rewrite, OutputColumn.visit]
      exact value.rewrite_mirrors.map (OutputColumn.mk · aliasName)

theorem rewriteColumns_mirrors : (columns : List OutputColumn) →
    Mirrors rewriter (rewriteColumns rewriter columns) columns
      (visitColumns rewriter.visitor columns)
  | [] => .pure []
  | column :: columns => by
      rw [rewriteColumns, visitColumns]
      exact column.rewrite_mirrors.bind fun column =>
        (rewriteColumns_mirrors columns).map (column :: ·)

theorem SortKey.rewrite_mirrors : (key : SortKey) →
    Mirrors rewriter (key.rewrite rewriter) key (key.visit rewriter.visitor)
  | ⟨key, direction, nulls⟩ => by
      rw [SortKey.rewrite, SortKey.visit]
      exact key.rewrite_mirrors.map (SortKey.mk · direction nulls)

theorem rewriteSortKeys_mirrors : (keys : List SortKey) →
    Mirrors rewriter (rewriteSortKeys rewriter keys) keys (visitSortKeys rewriter.visitor keys)
  | [] => .pure []
  | key :: keys => by
      rw [rewriteSortKeys, visitSortKeys]
      exact key.rewrite_mirrors.bind fun key => (rewriteSortKeys_mirrors keys).map (key :: ·)

theorem TableRef.rewrite_mirrors : (table : TableRef) →
    Mirrors rewriter (table.rewrite rewriter) table (table.visit rewriter.visitor)
  | .table name aliasName => by
      rw [TableRef.rewrite, TableRef.visit]
      exact .around Rewriter.KeepsState.table Rewriter.EditsNothing.table (.pure _)
  | .subquery query aliasName => by
      rw [TableRef.rewrite, TableRef.visit]
      exact .around Rewriter.KeepsState.table Rewriter.EditsNothing.table
        (query.rewrite_mirrors.map (TableRef.subquery · aliasName))
  | .join left clause => by
      rw [TableRef.rewrite, TableRef.visit]
      exact .around Rewriter.KeepsState.table Rewriter.EditsNothing.table
        (left.rewrite_mirrors.bind fun left => clause.rewrite_mirrors.map (TableRef.join left))

theorem rewriteTable?_mirrors : (table : Option TableRef) →
    Mirrors rewriter (rewriteTable? rewriter table) table (visitTable? rewriter.visitor table)
  | none => .pure none
  | some table => by
      rw [rewriteTable?, visitTable?]
      exact table.rewrite_mirrors.map some

theorem JoinClause.rewrite_mirrors : (clause : JoinClause) →
    Mirrors rewriter (clause.rewrite rewriter) clause (clause.visit rewriter.visitor)
  | ⟨kind, table, condition, columns⟩ => by
      rw [JoinClause.rewrite, JoinClause.visit]
      exact table.rewrite_mirrors.bind fun table =>
        (rewriteExpression?_mirrors condition).map (JoinClause.mk kind table · columns)

end

theorem InsertSource.rewrite_mirrors (source : InsertSource) :
    Mirrors rewriter (source.rewrite rewriter) source (source.visit rewriter.visitor) := by
  cases source with
  | rows cells =>
      exact (Mirrors.forList (rewriteExpressions_mirrors rewriter) cells).map InsertSource.rows
  | query body => exact (body.rewrite_mirrors rewriter).map InsertSource.query
  | defaults => exact .pure _

theorem Insert.rewrite_mirrors (body : Insert) :
    Mirrors rewriter (body.rewrite rewriter) body (body.visit rewriter.visitor) := by
  obtain ⟨target, columns, source, returning⟩ := body
  exact Mirrors.enter <| (source.rewrite_mirrors rewriter).bind fun source =>
    (rewriteColumns_mirrors rewriter returning).map (Insert.mk target columns source)

theorem Assignment.rewrite_mirrors (assignment : Assignment) :
    Mirrors rewriter (assignment.rewrite rewriter) assignment
      (assignment.value.visit rewriter.visitor) := by
  obtain ⟨column, value⟩ := assignment
  exact (value.rewrite_mirrors rewriter).map (Assignment.mk column)

theorem Update.rewrite_mirrors (body : Update) :
    Mirrors rewriter (body.rewrite rewriter) body (body.visit rewriter.visitor) := by
  obtain ⟨target, aliasName, assignments, source, filter, returning⟩ := body
  exact Mirrors.enter <|
    (Mirrors.forList (Assignment.rewrite_mirrors rewriter) assignments).bind fun assignments =>
    (rewriteTable?_mirrors rewriter source).bind fun source =>
    (rewriteExpression?_mirrors rewriter filter).bind fun filter =>
    (rewriteColumns_mirrors rewriter returning).map
      (Update.mk target aliasName assignments source filter)

theorem Delete.rewrite_mirrors (body : Delete) :
    Mirrors rewriter (body.rewrite rewriter) body (body.visit rewriter.visitor) := by
  obtain ⟨target, aliasName, filter, returning⟩ := body
  exact Mirrors.enter <| (rewriteExpression?_mirrors rewriter filter).bind fun filter =>
    (rewriteColumns_mirrors rewriter returning).map (Delete.mk target aliasName filter)

theorem SequenceOptions.rewrite_mirrors (options : SequenceOptions) :
    Mirrors rewriter (options.rewrite rewriter) options
      (visitDataType? rewriter.visitor options.dataType) := by
  rw [SequenceOptions.rewrite]
  cases chosen : options.dataType with
  | none => exact .pure options
  | some type =>
      have same : { options with dataType := some type } = options := by rw [← chosen]
      rw [visitDataType?]
      conv => arg 3; rw [← same]
      exact (type.rewrite_mirrors rewriter).map fun type => { options with dataType := some type }

theorem CreateSequence.rewrite_mirrors (body : CreateSequence) :
    Mirrors rewriter (body.rewrite rewriter) body (body.visit rewriter.visitor) := by
  obtain ⟨name, temporary, unlogged, ifNotExists, options⟩ := body
  exact Mirrors.enter <| (options.rewrite_mirrors rewriter).map
    (CreateSequence.mk name temporary unlogged ifNotExists)

theorem SequenceChange.rewrite_mirrors (change : SequenceChange) :
    Mirrors rewriter (change.rewrite rewriter) change
      (visitDataType? rewriter.visitor change.dataType?) := by
  cases change with
  | options chosen restart =>
      exact (chosen.rewrite_mirrors rewriter).map (SequenceChange.options · restart)
  | rename name => exact .pure _
  | owner role => exact .pure _
  | schema target => exact .pure _

theorem AlterSequence.rewrite_mirrors (body : AlterSequence) :
    Mirrors rewriter (body.rewrite rewriter) body (body.visit rewriter.visitor) := by
  obtain ⟨name, ifExists, change⟩ := body
  exact Mirrors.enter <| (change.rewrite_mirrors rewriter).map (AlterSequence.mk name ifExists)

theorem Statement.rewrite_mirrors (statement : Statement) :
    Mirrors rewriter (statement.rewrite rewriter) statement (statement.visit rewriter.visitor) := by
  refine .around Rewriter.KeepsState.statement Rewriter.EditsNothing.statement ?_
  cases statement with
  | select body => exact (body.rewrite_mirrors rewriter).map Statement.select
  | insert body => exact (body.rewrite_mirrors rewriter).map Statement.insert
  | update body => exact (body.rewrite_mirrors rewriter).map Statement.update
  | delete body => exact (body.rewrite_mirrors rewriter).map Statement.delete
  | createSequence body => exact (body.rewrite_mirrors rewriter).map Statement.createSequence
  | alterSequence body => exact (body.rewrite_mirrors rewriter).map Statement.alterSequence
  | dropSequence body =>
      exact (Mirrors.enter (.pure body)).map Statement.dropSequence

theorem Forest.rewrite_mirrors (forest : Forest) :
    Mirrors rewriter (forest.rewrite rewriter) forest (forest.visit rewriter.visitor) := by
  cases forest with
  | statement tree => exact (tree.rewrite_mirrors rewriter).map Forest.statement
  | expression tree => exact (tree.rewrite_mirrors rewriter).map Forest.expression
  | statements trees =>
      exact (Mirrors.forList (Statement.rewrite_mirrors rewriter) trees).map Forest.statements
  | expressions trees =>
      exact (Mirrors.forList (Expr.rewrite_mirrors rewriter) trees).map Forest.expressions

end Trees

/-- The trace of a rewriting that goes as a visit does is the trace of the visit. -/
theorem Trace.ofRewriting_eq {α : Type} {rewriting : Rewriting (List TraceEvent) String α}
    {visit : EStateM String (List TraceEvent) Unit}
    (goes : (rewriting ⟨[], none⟩).2 = Progress.after ⟨[], none⟩ visit) :
    Trace.ofRewriting rewriting = Trace.ofVisit visit := by
  change Trace.mk (rewriting ⟨[], none⟩).2.state (rewriting ⟨[], none⟩).2.failure = _
  rw [goes, Progress.after, Trace.ofVisit]
  dsimp only
  cases visit [] <;> rfl

/-- A rewriting with a policy has the trace of the visit with that policy, and returns the tree that
it was given. So does every rewriter that learns all on entering nodes: its state and its failure
are those of the visit, whatever it edits, and where it edits nothing the tree stays as it is. -/
theorem Forest.rewrite_agrees (forest : Forest) :
    (∀ policy : TracePolicy,
      Trace.ofRewriting (forest.rewrite policy.rewriter) =
          Trace.ofVisit (forest.visit policy.visitor) ∧
        (forest.rewrite policy.rewriter ⟨[], none⟩).1 = forest) ∧
      ∀ {σ ε : Type} (rewriter : Rewriter σ ε) (progress : Progress σ ε),
        (rewriter.KeepsState →
          (forest.rewrite rewriter progress).2 = progress.after (forest.visit rewriter.visitor)) ∧
        (rewriter.EditsNothing → (forest.rewrite rewriter progress).1 = forest) := by
  refine ⟨fun policy => ⟨?_, ?_⟩, fun rewriter progress => ⟨fun keepsState => ?_, fun kept => ?_⟩⟩
  · have goes := (forest.rewrite_mirrors policy.rewriter).goes policy.rewriter_keepsState ⟨[], none⟩
    rw [policy.visitor_rewriter] at goes
    exact Trace.ofRewriting_eq goes
  · exact (forest.rewrite_mirrors policy.rewriter).keeps policy.rewriter_editsNothing _
  · exact (forest.rewrite_mirrors rewriter).goes keepsState progress
  · exact (forest.rewrite_mirrors rewriter).keeps kept progress

/-- Counts the nodes that are entered. -/
def Rewriter.counting : Rewriter Nat String where
  enter _ count := (.descend, count + 1)

theorem Forest.rewrite_agrees_counting :
    Rewriter.counting.KeepsState ∧ Rewriter.counting.EditsNothing ∧
      (Forest.expression (.binary (.parameter "a") .add (.parameter "b"))).rewrite
          Rewriter.counting ⟨0, none⟩ =
        (.expression (.binary (.parameter "a") .add (.parameter "b")), ⟨6, none⟩) := by
  have keepsState : Rewriter.counting.KeepsState :=
    ⟨fun _ _ => rfl, fun _ _ => rfl, fun _ _ => rfl, fun _ _ => rfl, fun _ _ => rfl⟩
  have editsNothing : Rewriter.counting.EditsNothing :=
    ⟨fun _ _ => rfl, fun _ _ => rfl, fun _ _ => rfl, fun _ _ => rfl, fun _ _ => rfl⟩
  obtain ⟨goes, keeps⟩ := (Forest.expression
    (.binary (.parameter "a") .add (.parameter "b"))).rewrite_agrees.2 Rewriter.counting ⟨0, none⟩
  exact ⟨keepsState, editsNothing, Prod.ext (keeps editsNothing) (goes keepsState)⟩

end SqlTree
