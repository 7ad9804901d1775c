import SqlTree.Proofs.Traversal.Leaves
import SqlTree.Traversal.Edit

/-!
# Failures

A traversal in which a handler fails has seen what the traversal without the failure sees up to
there, and has seen it in the same state; a rewriting has edited what it handled before and nothing
else. The rewriting that fails is followed next to the one that does not and to the refilling of the
tree, one lemma for each kind of tree.
-/

namespace SqlTree

variable {σ ε : Type}

namespace Rewriter

variable {α β : Type} {rewriter : Rewriter σ ε} {node : Node} {given : α}

/-- What a node that is not edited is rewritten to was returned by the walk below it, or stood there
before. -/
theorem around_mk_fst (walk : Rewriting σ ε α) (progress : Progress σ ε) :
    (rewriter.around node given Prod.mk walk progress).1 = given ∨
      ∃ reached, (rewriter.around node given Prod.mk walk progress).1 = (walk reached).1 := by
  obtain ⟨state, _ | error⟩ := progress
  · cases entered : rewriter.enter node state with | mk entry reached =>
    cases entry with
    | descend =>
        rw [around_of_descend entered, leaving]
        split
        · exact .inr ⟨_, rfl⟩
        · exact .inr ⟨_, rfl⟩
    | skip => exact .inl (by rw [around_of_skip entered])
    | fail error => exact .inl (by rw [around_of_fail entered])
  · exact .inl rfl

/-- A node that has nothing below it and is not edited stays as it is in what it is a part of. -/
theorem map_around_mk (make : α → β) :
    (do return make (← rewriter.around node given Prod.mk (pure given))) =
      rewriter.around node (make given) Prod.mk (pure (make given)) := by
  funext progress
  obtain ⟨state, _ | error⟩ := progress
  · change (make (rewriter.around node given Prod.mk (pure given) ⟨state, none⟩).1,
      (rewriter.around node given Prod.mk (pure given) ⟨state, none⟩).2) = _
    cases entered : rewriter.enter node state with | mk entry reached =>
    cases entry with
    | descend =>
        rw [around_of_descend entered, around_of_descend entered]
        rfl
    | skip => rw [around_of_skip entered, around_of_skip entered]
    | fail error => rw [around_of_fail entered, around_of_fail entered]
  · rfl

end Rewriter

/-- A rewriting is the one without the failure up to the failure, and leaves the leaves that it did
not handle. -/
structure Stops {α : Type} (rewriter : Rewriter σ ε) (rule : FailureRule σ ε) (given : α)
    (nodes : List Node) (full cut : Rewriting (σ × EventLog σ) ε α)
    (refilling : Rewriting (List Leaf) Empty α) : Prop where
  cuts : Cuts rule given full cut
  refills : rewriter.EditsLeaves → Refills rewriter given nodes cut refilling

namespace Stops

variable {α β : Type} {rewriter : Rewriter σ ε} {rule : FailureRule σ ε} {given : α}
  {nodes others : List Node} {full cut : Rewriting (σ × EventLog σ) ε α}
  {refilling : Rewriting (List Leaf) Empty α}

theorem pure (given : α) :
    Stops rewriter rule given [] (pure given) (pure given) (pure given) where
  cuts := .pure given
  refills _ := .pure given

theorem map (part : Stops rewriter rule given nodes full cut refilling) (make : α → β) :
    Stops rewriter rule (make given) nodes (do return make (← full)) (do return make (← cut))
      (do return make (← refilling)) where
  cuts := part.cuts.map make
  refills edits := (part.refills edits).map make

theorem bind {fullNext cutNext : α → Rewriting (σ × EventLog σ) ε β}
    {refillNext : α → Rewriting (List Leaf) Empty β} {make : α → β}
    (first : Stops rewriter rule given nodes full cut refilling)
    (second : ∀ item,
      Stops rewriter rule (make item) others (fullNext item) (cutNext item) (refillNext item)) :
    Stops rewriter rule (make given) (nodes ++ others) (full >>= fullNext) (cut >>= cutNext)
      (refilling >>= refillNext) where
  cuts := first.cuts.bind fun item => (second item).cuts
  refills edits := (first.refills edits).bind fun item => (second item).refills edits

theorem forList {full cut : α → Rewriting (σ × EventLog σ) ε α}
    {refilling : α → Rewriting (List Leaf) Empty α} {nodes : α → List Node}
    (stops : ∀ item,
      Stops rewriter rule item (nodes item) (full item) (cut item) (refilling item))
    (items : List α) :
    Stops rewriter rule items (items.flatMap nodes) (items.mapM full) (items.mapM cut)
      (items.mapM refilling) := by
  induction items with
  | nil => exact .pure []
  | cons item items inductionHypothesis =>
      rw [List.mapM_cons, List.mapM_cons, List.mapM_cons, List.flatMap_cons]
      exact (stops item).bind fun item => inductionHypothesis.map (item :: ·)

/-- A node that is never edited. -/
theorem enter {node : Node} (below : Stops rewriter rule given node.children full cut refilling)
    (compound : node.leaf? = none) :
    Stops rewriter rule given [node]
      ((rewriter.logged .never).around node given Prod.mk full)
      ((rewriter.logged rule).around node given Prod.mk cut)
      (Rewriter.refilling.around node given Prod.mk refilling) where
  cuts := below.cuts.around rewriter node Prod.mk
  refills edits :=
    (below.refills edits).inner Prod.mk compound (fun _ _ => rfl) (fun _ _ => rfl) rule

/-- An expression that has parts: it is not edited, before or after its parts are. -/
theorem expression {full cut : Rewriting (σ × EventLog σ) ε Expr}
    {refilling : Rewriting (List Leaf) Empty Expr} {given : Expr}
    (below : Stops rewriter rule given given.node.children full cut refilling)
    (compound : given.isLeaf = false) (cutCompound : ∀ progress, (cut progress).1.isLeaf = false)
    (refillCompound : ∀ progress, (refilling progress).1.isLeaf = false) :
    Stops rewriter rule given [.expression given]
      ((rewriter.logged .never).aroundExpression given given.node full)
      ((rewriter.logged rule).aroundExpression given given.node cut)
      (Rewriter.refilling.aroundExpression given given.node refilling) := by
  have inside : given.node.leaf? = none := by
    cases given with
    | reference | literal | parameter => cases compound
    | unary | binary | ternary | inList | call | cast | case | select => rfl
  have stops := below.enter inside
  refine ⟨stops.cuts.around rewriter (.expression given) rewriter.leaveExpression, fun edits => ?_⟩
  refine (stops.refills edits).inner rewriter.leaveExpression
    (by rfl : (Node.expression given).leaf? = none) (fun progress state => ?_)
    (fun progress leaves => ?_) rule
  · refine edits.expression _ _ ?_
    obtain same | ⟨reached, walked⟩ := Rewriter.around_mk_fst cut progress
    · rw [same, compound]
    · rw [walked, cutCompound]
  · refine Rewriter.refilling_editsLeaves.expression _ _ ?_
    obtain same | ⟨reached, walked⟩ := Rewriter.around_mk_fst refilling progress
    · rw [same, compound]
    · rw [walked, refillCompound]

theorem expressionLeaf {given : Expr} (leaf : given.isLeaf) :
    Stops rewriter rule given [.expression given]
      ((rewriter.logged .never).aroundExpression given given.node (Pure.pure given))
      ((rewriter.logged rule).aroundExpression given given.node (Pure.pure given))
      (Rewriter.refilling.aroundExpression given given.node (Pure.pure given)) where
  cuts := ((Cuts.pure given).around rewriter given.node Prod.mk).around rewriter
    (.expression given) rewriter.leaveExpression
  refills _ := by
    have known : given.node.leaf? = some (.expression given) ∧ given.node.children = [] ∧
        given.node.isEnclosed := by
      cases given with
      | reference | literal | parameter => exact ⟨rfl, rfl, rfl⟩
      | unary | binary | ternary | inList | call | cast | case | select => cases leaf
    refine .enclosed Leaf.expression known.1 known.2.1 known.2.2 rfl rfl (fun _ => rfl)
      (fun body rest => ?_) rule
    simp only [Rewriter.refilling, leaf]

/-- The same with the nodes grouped in another way. -/
theorem regroup (stops : Stops rewriter rule given nodes full cut refilling)
    (same : nodes = others) : Stops rewriter rule given others full cut refilling :=
  same ▸ stops

/-- A query, a table, an expression or a statement with parts, where nothing but what the edit would
leave is made of them. -/
theorem around {node : Node} {leave : α → σ → α × σ} {refillLeave : α → List Leaf → α × List Leaf}
    (below : Stops rewriter rule given node.children full cut refilling)
    (compound : node.leaf? = none)
    (kept : rewriter.EditsLeaves → ∀ progress state,
      leave (cut progress).1 state = ((cut progress).1, state))
    (refillKept : ∀ progress leaves,
      refillLeave (refilling progress).1 leaves = ((refilling progress).1, leaves)) :
    Stops rewriter rule given [node]
      ((rewriter.logged .never).around node given (Rewriter.beside leave) full)
      ((rewriter.logged rule).around node given (Rewriter.beside leave) cut)
      (Rewriter.refilling.around node given refillLeave refilling) where
  cuts := below.cuts.around rewriter node leave
  refills edits := (below.refills edits).inner leave compound (kept edits) refillKept rule

end Stops

section Trees

variable (rewriter : Rewriter σ ε) (rule : FailureRule σ ε)

theorem DataType.rewrite_stops (type : DataType) :
    Stops rewriter rule type [.dataType type] (type.rewrite (rewriter.logged .never))
      (type.rewrite (rewriter.logged rule)) (type.rewrite .refilling) where
  cuts := (Cuts.pure type).around rewriter (.dataType type) rewriter.leaveDataType
  refills _ := .whole Leaf.dataType rfl rfl rfl (fun _ => rfl) (fun _ _ => rfl) rule

mutual

theorem Expr.rewrite_stops : (expression : Expr) →
    Stops rewriter rule expression [.expression expression]
      (expression.rewrite (rewriter.logged .never)) (expression.rewrite (rewriter.logged rule))
      (expression.rewrite .refilling)
  | .reference _ _ => by
      rw [Expr.rewrite, Expr.rewrite, Expr.rewrite]
      exact .expressionLeaf rfl
  | .literal _ => by
      rw [Expr.rewrite, Expr.rewrite, Expr.rewrite]
      exact .expressionLeaf rfl
  | .parameter _ => by
      rw [Expr.rewrite, Expr.rewrite, Expr.rewrite]
      exact .expressionLeaf rfl
  | .unary operator operand => by
      rw [Expr.rewrite, Expr.rewrite, Expr.rewrite]
      exact .expression (operand.rewrite_stops.map (Expr.unary operator)) rfl (fun _ => rfl)
        fun _ => rfl
  | .binary left operator right => by
      rw [Expr.rewrite, Expr.rewrite, Expr.rewrite]
      exact .expression (left.rewrite_stops.bind fun left =>
        right.rewrite_stops.map (Expr.binary left operator)) rfl (fun _ => rfl) fun _ => rfl
  | .ternary operator value low high => by
      rw [Expr.rewrite, Expr.rewrite, Expr.rewrite]
      exact .expression (value.rewrite_stops.bind fun value =>
        low.rewrite_stops.bind fun low =>
          high.rewrite_stops.map (Expr.ternary operator value low)) rfl (fun _ => rfl) fun _ => rfl
  | .inList operand list negated => by
      rw [Expr.rewrite, Expr.rewrite, Expr.rewrite]
      exact .expression (operand.rewrite_stops.bind fun operand =>
        (rewriteExpressions_stops list).map (Expr.inList operand · negated)) rfl (fun _ => rfl)
        fun _ => rfl
  | .call function arguments distinct => by
      rw [Expr.rewrite, Expr.rewrite, Expr.rewrite]
      exact .expression ((rewriteExpressions_stops arguments).map (Expr.call function · distinct))
        rfl (fun _ => rfl) fun _ => rfl
  | .cast operand target => by
      rw [Expr.rewrite, Expr.rewrite, Expr.rewrite]
      exact .expression (operand.rewrite_stops.bind fun operand =>
        (target.rewrite_stops rewriter rule).map (Expr.cast operand)) rfl (fun _ => rfl)
        fun _ => rfl
  | .case subject arms otherwise => by
      rw [Expr.rewrite, Expr.rewrite, Expr.rewrite]
      exact .expression (((rewriteExpression?_stops subject).bind fun subject =>
        (rewriteArms_stops arms).bind fun arms =>
          (rewriteExpression?_stops otherwise).map (Expr.case subject arms)).regroup
        (List.append_assoc _ _ _).symm) rfl (fun _ => rfl) fun _ => rfl
  | .select query => by
      rw [Expr.rewrite, Expr.rewrite, Expr.rewrite]
      exact .around (query.rewrite_stops.map Expr.select) rfl
        (fun edits _ _ => edits.expression _ _ rfl)
        fun _ _ => Rewriter.refilling_editsLeaves.expression _ _ rfl

theorem rewriteExpression?_stops : (expression : Option Expr) →
    Stops rewriter rule expression (Node.ofExpression? expression)
      (rewriteExpression? (rewriter.logged .never) expression)
      (rewriteExpression? (rewriter.logged rule) expression)
      (rewriteExpression? .refilling expression)
  | none => .pure none
  | some expression => by
      rw [rewriteExpression?, rewriteExpression?, rewriteExpression?]
      exact expression.rewrite_stops.map some

theorem rewriteExpressions_stops : (expressions : List Expr) →
    Stops rewriter rule expressions (Node.ofExpressions expressions)
      (rewriteExpressions (rewriter.logged .never) expressions)
      (rewriteExpressions (rewriter.logged rule) expressions)
      (rewriteExpressions .refilling expressions)
  | [] => .pure []
  | expression :: expressions => by
      rw [rewriteExpressions, rewriteExpressions, rewriteExpressions]
      exact expression.rewrite_stops.bind fun expression =>
        (rewriteExpressions_stops expressions).map (expression :: ·)

theorem CaseArm.rewrite_stops : (arm : CaseArm) →
    Stops rewriter rule arm [.expression arm.condition, .expression arm.result]
      (arm.rewrite (rewriter.logged .never)) (arm.rewrite (rewriter.logged rule))
      (arm.rewrite .refilling)
  | ⟨condition, result⟩ => by
      rw [CaseArm.rewrite, CaseArm.rewrite, CaseArm.rewrite]
      exact condition.rewrite_stops.bind fun condition =>
        result.rewrite_stops.map (CaseArm.mk condition)

theorem rewriteArms_stops : (arms : List CaseArm) →
    Stops rewriter rule arms (Node.ofArms arms) (rewriteArms (rewriter.logged .never) arms)
      (rewriteArms (rewriter.logged rule) arms) (rewriteArms .refilling arms)
  | [] => .pure []
  | arm :: arms => by
      rw [rewriteArms, rewriteArms, rewriteArms]
      exact arm.rewrite_stops.bind fun arm => (rewriteArms_stops arms).map (arm :: ·)

theorem Select.rewrite_stops : (query : Select) →
    Stops rewriter rule query [.select query] (query.rewrite (rewriter.logged .never))
      (query.rewrite (rewriter.logged rule)) (query.rewrite .refilling)
  | ⟨distinct, columns, source, filter, groupBy, having, orderBy, limit, offset⟩ => by
      rw [Select.rewrite, Select.rewrite, Select.rewrite]
      refine .around (.regroup ((rewriteColumns_stops columns).bind fun columns =>
        (rewriteTable?_stops source).bind fun source =>
        (rewriteExpression?_stops filter).bind fun filter =>
        (rewriteExpressions_stops groupBy).bind fun groupBy =>
        (rewriteExpression?_stops having).bind fun having =>
        (rewriteSortKeys_stops orderBy).bind fun orderBy =>
        (rewriteExpression?_stops limit).bind fun limit =>
        (rewriteExpression?_stops offset).map
          (Select.mk distinct columns source filter groupBy having orderBy limit)) ?_) rfl
        (fun edits _ _ => edits.select _ _) fun _ _ => rfl
      simp only [Node.children, List.append_assoc]

theorem OutputColumn.rewrite_stops : (column : OutputColumn) →
    Stops rewriter rule column [.expression column.value] (column.rewrite (rewriter.logged .never))
      (column.rewrite (rewriter.logged rule)) (column.rewrite .refilling)
  | ⟨value, aliasName⟩ => by
      rw [OutputColumn.rewrite, OutputColumn.rewrite, OutputColumn.rewrite]
      exact value.rewrite_stops.map (OutputColumn.mk · aliasName)

theorem rewriteColumns_stops : (columns : List OutputColumn) →
    Stops rewriter rule columns (Node.ofColumns columns)
      (rewriteColumns (rewriter.logged .never) columns)
      (rewriteColumns (rewriter.logged rule) columns) (rewriteColumns .refilling columns)
  | [] => .pure []
  | column :: columns => by
      rw [rewriteColumns, rewriteColumns, rewriteColumns]
      exact column.rewrite_stops.bind fun column =>
        (rewriteColumns_stops columns).map (column :: ·)

theorem SortKey.rewrite_stops : (key : SortKey) →
    Stops rewriter rule key [.expression key.key] (key.rewrite (rewriter.logged .never))
      (key.rewrite (rewriter.logged rule)) (key.rewrite .refilling)
  | ⟨key, direction, nulls⟩ => by
      rw [SortKey.rewrite, SortKey.rewrite, SortKey.rewrite]
      exact key.rewrite_stops.map (SortKey.mk · direction nulls)

theorem rewriteSortKeys_stops : (keys : List SortKey) →
    Stops rewriter rule keys (Node.ofSortKeys keys)
      (rewriteSortKeys (rewriter.logged .never) keys)
      (rewriteSortKeys (rewriter.logged rule) keys) (rewriteSortKeys .refilling keys)
  | [] => .pure []
  | key :: keys => by
      rw [rewriteSortKeys, rewriteSortKeys, rewriteSortKeys]
      exact key.rewrite_stops.bind fun key => (rewriteSortKeys_stops keys).map (key :: ·)

theorem TableRef.rewrite_stops : (table : TableRef) →
    Stops rewriter rule table [.table table] (table.rewrite (rewriter.logged .never))
      (table.rewrite (rewriter.logged rule)) (table.rewrite .refilling)
  | .table name aliasName => by
      rw [TableRef.rewrite, TableRef.rewrite, TableRef.rewrite]
      exact ⟨(Cuts.pure _).around rewriter _ rewriter.leaveTable, fun _ =>
        .whole Leaf.table rfl rfl rfl (fun _ => rfl) (fun _ _ => rfl) rule⟩
  | .subquery query aliasName => by
      rw [TableRef.rewrite, TableRef.rewrite, TableRef.rewrite]
      exact .around (query.rewrite_stops.map (TableRef.subquery · aliasName)) rfl
        (fun edits _ _ => edits.table _ _ rfl)
        fun _ _ => Rewriter.refilling_editsLeaves.table _ _ rfl
  | .join left clause => by
      rw [TableRef.rewrite, TableRef.rewrite, TableRef.rewrite]
      refine .around (.regroup (left.rewrite_stops.bind fun left =>
        clause.rewrite_stops.map (TableRef.join left)) ?_) rfl
        (fun edits _ _ => edits.table _ _ rfl)
        fun _ _ => Rewriter.refilling_editsLeaves.table _ _ rfl
      cases clause
      rfl

theorem rewriteTable?_stops : (table : Option TableRef) →
    Stops rewriter rule table (Node.ofTable? table) (rewriteTable? (rewriter.logged .never) table)
      (rewriteTable? (rewriter.logged rule) table) (rewriteTable? .refilling table)
  | none => .pure none
  | some table => by
      rw [rewriteTable?, rewriteTable?, rewriteTable?]
      exact table.rewrite_stops.map some

theorem JoinClause.rewrite_stops : (clause : JoinClause) →
    Stops rewriter rule clause (.table clause.table :: Node.ofExpression? clause.condition)
      (clause.rewrite (rewriter.logged .never)) (clause.rewrite (rewriter.logged rule))
      (clause.rewrite .refilling)
  | ⟨kind, table, condition, columns⟩ => by
      rw [JoinClause.rewrite, JoinClause.rewrite, JoinClause.rewrite]
      exact table.rewrite_stops.bind fun table =>
        (rewriteExpression?_stops condition).map (JoinClause.mk kind table · columns)

end

theorem InsertSource.rewrite_stops (source : InsertSource) :
    Stops rewriter rule source (Node.ofInsertSource source)
      (source.rewrite (rewriter.logged .never)) (source.rewrite (rewriter.logged rule))
      (source.rewrite .refilling) := by
  cases source with
  | rows cells =>
      exact (Stops.forList (rewriteExpressions_stops rewriter rule) cells).map InsertSource.rows
  | query body => exact (body.rewrite_stops rewriter rule).map InsertSource.query
  | defaults => exact .pure _

theorem Insert.rewrite_stops (body : Insert) :
    Stops rewriter rule body [.insert body] (body.rewrite (rewriter.logged .never))
      (body.rewrite (rewriter.logged rule)) (body.rewrite .refilling) := by
  obtain ⟨target, columns, source, returning⟩ := body
  exact .enter ((source.rewrite_stops rewriter rule).bind fun source =>
    (rewriteColumns_stops rewriter rule returning).map (Insert.mk target columns source)) rfl

theorem Assignment.rewrite_stops (assignment : Assignment) :
    Stops rewriter rule assignment [.expression assignment.value]
      (assignment.rewrite (rewriter.logged .never)) (assignment.rewrite (rewriter.logged rule))
      (assignment.rewrite .refilling) := by
  obtain ⟨column, value⟩ := assignment
  exact (value.rewrite_stops rewriter rule).map (Assignment.mk column)

theorem Update.rewrite_stops (body : Update) :
    Stops rewriter rule body [.update body] (body.rewrite (rewriter.logged .never))
      (body.rewrite (rewriter.logged rule)) (body.rewrite .refilling) := by
  obtain ⟨target, aliasName, assignments, source, filter, returning⟩ := body
  refine .enter (.regroup
    ((Stops.forList (Assignment.rewrite_stops rewriter rule) assignments).bind fun assignments =>
    (rewriteTable?_stops rewriter rule source).bind fun source =>
    (rewriteExpression?_stops rewriter rule filter).bind fun filter =>
    (rewriteColumns_stops rewriter rule returning).map
      (Update.mk target aliasName assignments source filter)) ?_) rfl
  simp only [Node.children, Node.ofAssignments, List.append_assoc, List.map_eq_flatMap]

theorem Delete.rewrite_stops (body : Delete) :
    Stops rewriter rule body [.delete body] (body.rewrite (rewriter.logged .never))
      (body.rewrite (rewriter.logged rule)) (body.rewrite .refilling) := by
  obtain ⟨target, aliasName, filter, returning⟩ := body
  exact .enter ((rewriteExpression?_stops rewriter rule filter).bind fun filter =>
    (rewriteColumns_stops rewriter rule returning).map (Delete.mk target aliasName filter)) rfl

theorem SequenceOptions.rewrite_stops (options : SequenceOptions) :
    Stops rewriter rule options (Node.ofDataType? options.dataType)
      (options.rewrite (rewriter.logged .never)) (options.rewrite (rewriter.logged rule))
      (options.rewrite .refilling) := by
  rw [SequenceOptions.rewrite, SequenceOptions.rewrite, SequenceOptions.rewrite]
  cases chosen : options.dataType with
  | none => exact .pure options
  | some type =>
      have same : { options with dataType := some type } = options := by rw [← chosen]
      have stops := (type.rewrite_stops rewriter rule).map fun type =>
        { options with dataType := some type }
      rw [same] at stops
      exact stops

theorem CreateSequence.rewrite_stops (body : CreateSequence) :
    Stops rewriter rule body [.createSequence body] (body.rewrite (rewriter.logged .never))
      (body.rewrite (rewriter.logged rule)) (body.rewrite .refilling) := by
  obtain ⟨name, temporary, unlogged, ifNotExists, options⟩ := body
  exact .enter ((options.rewrite_stops rewriter rule).map
    (CreateSequence.mk name temporary unlogged ifNotExists)) rfl

theorem SequenceChange.rewrite_stops (change : SequenceChange) :
    Stops rewriter rule change (Node.ofDataType? change.dataType?)
      (change.rewrite (rewriter.logged .never)) (change.rewrite (rewriter.logged rule))
      (change.rewrite .refilling) := by
  cases change with
  | options chosen restart =>
      exact (chosen.rewrite_stops rewriter rule).map (SequenceChange.options · restart)
  | rename name => exact .pure _
  | owner role => exact .pure _
  | schema target => exact .pure _

theorem AlterSequence.rewrite_stops (body : AlterSequence) :
    Stops rewriter rule body [.alterSequence body] (body.rewrite (rewriter.logged .never))
      (body.rewrite (rewriter.logged rule)) (body.rewrite .refilling) := by
  obtain ⟨name, ifExists, change⟩ := body
  refine .enter (.regroup ((change.rewrite_stops rewriter rule).map
    (AlterSequence.mk name ifExists)) ?_) rfl
  cases change <;> rfl

/-- What a statement is rewritten to before it is edited itself: a statement of its kind. -/
theorem Statement.rewriteBody_isLeaf {τ δ : Type} (rewriter : Rewriter τ δ) (statement : Statement)
    (progress : Progress τ δ) :
    (statement.rewriteBody rewriter progress).1.isLeaf = statement.isLeaf := by
  cases statement <;> rfl

theorem Statement.rewrite_stops (statement : Statement) :
    Stops rewriter rule statement [.statement statement]
      (statement.rewrite (rewriter.logged .never)) (statement.rewrite (rewriter.logged rule))
      (statement.rewrite .refilling) := by
  have compound (parts : statement.isLeaf = false)
      (below : Stops rewriter rule statement [statement.node]
        (statement.rewriteBody (rewriter.logged .never))
        (statement.rewriteBody (rewriter.logged rule)) (statement.rewriteBody .refilling)) :
      Stops rewriter rule statement [.statement statement]
        (statement.rewrite (rewriter.logged .never)) (statement.rewrite (rewriter.logged rule))
        (statement.rewrite .refilling) := by
    refine Stops.around below (by rfl : (Node.statement statement).leaf? = none)
      (fun edits progress state => ?_) fun progress leaves => ?_
    · exact edits.statement _ _ ((statement.rewriteBody_isLeaf _ progress).trans parts)
    · exact Rewriter.refilling_editsLeaves.statement _ _
        ((statement.rewriteBody_isLeaf _ progress).trans parts)
  cases statement with
  | select body => exact compound rfl ((body.rewrite_stops rewriter rule).map Statement.select)
  | insert body => exact compound rfl ((body.rewrite_stops rewriter rule).map Statement.insert)
  | update body => exact compound rfl ((body.rewrite_stops rewriter rule).map Statement.update)
  | delete body => exact compound rfl ((body.rewrite_stops rewriter rule).map Statement.delete)
  | createSequence body =>
      exact compound rfl ((body.rewrite_stops rewriter rule).map Statement.createSequence)
  | alterSequence body =>
      exact compound rfl ((body.rewrite_stops rewriter rule).map Statement.alterSequence)
  | dropSequence body =>
      rw [Statement.rewrite, Statement.rewrite, Statement.rewrite, Statement.rewriteBody,
        Statement.rewriteBody, Statement.rewriteBody, Rewriter.map_around_mk,
        Rewriter.map_around_mk, Rewriter.map_around_mk]
      exact ⟨((Cuts.pure _).around rewriter _ Prod.mk).around rewriter _ rewriter.leaveStatement,
        fun _ => .enclosed Leaf.statement rfl rfl rfl rfl rfl (fun _ => rfl)
          (fun _ _ => rfl) rule⟩

/-- The rewriting of a tree with a handler that is made to fail. -/
theorem Forest.rewrite_stops (forest : Forest) :
    Stops rewriter rule forest forest.roots (forest.rewrite (rewriter.logged .never))
      (forest.rewrite (rewriter.logged rule)) (forest.rewrite .refilling) := by
  cases forest with
  | statement tree => exact (tree.rewrite_stops rewriter rule).map Forest.statement
  | expression tree => exact (tree.rewrite_stops rewriter rule).map Forest.expression
  | statements trees =>
      exact ((Stops.forList (Statement.rewrite_stops rewriter rule) trees).map
        Forest.statements).regroup List.map_eq_flatMap.symm
  | expressions trees =>
      exact ((Stops.forList (Expr.rewrite_stops rewriter rule) trees).map
        Forest.expressions).regroup List.map_eq_flatMap.symm

end Trees

section Traversals

variable {forest : Forest} {rule : FailureRule σ ε} {state : σ} {interruption : Interruption σ ε}

section Visits

variable {handling : Handling σ ε}

end Visits

section Rewritings

variable {rewriter : Rewriter σ ε}

end Rewritings

end Traversals

end SqlTree
