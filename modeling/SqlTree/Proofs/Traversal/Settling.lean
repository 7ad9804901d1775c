import SqlTree.Proofs.Traversal.Editing
import SqlTree.Proofs.Traversal.Preorder

/-!
# Edits that settle

An edit settles if all that it makes of an expression stays as it is when the edit is made again,
as soon as that holds of what lies below the expression. A rewriter that makes such an edit is done
after one run: whatever the edit would change is gone from the whole tree, and another run changes
nothing. The computation of negations and the removal of parameters are such edits.
-/

namespace SqlTree

namespace Fixes

variable {change : Expr → Expr} {node : Node} {nodes others : List Node}

theorem nil : Fixes change [] := nofun

/-- A node that is no expression is never changed. -/
theorem other (noExpression : ∀ body, node ≠ .expression body) (fixed : Fixes change nodes) :
    Fixes change (node :: nodes) := by
  intro body found
  rcases List.mem_cons.mp found with same | found
  · exact absurd same.symm (noExpression body)
  · exact fixed body found

theorem expression {body : Expr} (same : change body = body) (fixed : Fixes change nodes) :
    Fixes change (.expression body :: nodes) := by
  intro other found
  rcases List.mem_cons.mp found with equal | found
  · cases equal
    exact same
  · exact fixed other found

theorem both (first : Fixes change nodes) (second : Fixes change others) :
    Fixes change (nodes ++ others) :=
  append.mpr ⟨first, second⟩

theorem flatMap {α : Type} {items : List α} {parts : α → List Node}
    (each : ∀ item ∈ items, Fixes change (parts item)) : Fixes change (items.flatMap parts) := by
  intro body found
  obtain ⟨item, among, inside⟩ := List.mem_flatMap.mp found
  exact each item among body inside

end Fixes

/-- All that an edit makes of an expression is left as it is, where all below the expression is. -/
def Settles (edit : Expr → Expr) : Prop :=
  ∀ body : Expr, Fixes edit body.node.nodes → Fixes edit (edit body).nodes

variable {edit : Expr → Expr}

section Images

mutual

theorem Expr.image_settled (settles : Settles edit) : (expression : Expr) →
    Fixes edit (expression.image edit).nodes
  | .reference _ _ => by
      rw [Expr.image]
      exact settles _ (.other nofun .nil)
  | .literal _ => by
      rw [Expr.image]
      exact settles _ (.other nofun .nil)
  | .parameter _ => by
      rw [Expr.image]
      exact settles _ (.other nofun .nil)
  | .unary _ operand => by
      rw [Expr.image]
      exact settles _ (.other nofun (operand.image_settled settles))
  | .binary left _ right => by
      rw [Expr.image]
      exact settles _
        (.other nofun (.both (left.image_settled settles) (right.image_settled settles)))
  | .ternary _ value low high => by
      rw [Expr.image]
      exact settles _ (.other nofun (.both
        (.both (value.image_settled settles) (low.image_settled settles))
        (high.image_settled settles)))
  | .inList operand list _ => by
      rw [Expr.image]
      exact settles _ (.other nofun
        (.both (operand.image_settled settles) (expressionImages_settled settles list)))
  | .call _ arguments _ => by
      rw [Expr.image]
      exact settles _ (.other nofun (expressionImages_settled settles arguments))
  | .cast operand _ => by
      rw [Expr.image]
      exact settles _ (.other nofun (.both (operand.image_settled settles) (.other nofun .nil)))
  | .case subject arms otherwise => by
      rw [Expr.image]
      exact settles _ (.other nofun (.both
        (.both (expressionImage?_settled settles subject) (armImages_settled settles arms))
        (expressionImage?_settled settles otherwise)))
  | .select query => by
      rw [Expr.image]
      exact settles _ (query.image_settled settles)

theorem expressionImage?_settled (settles : Settles edit) : (expression : Option Expr) →
    Fixes edit (expressionNodes? (expressionImage? edit expression))
  | none => .nil
  | some expression => by
      rw [expressionImage?, expressionNodes?]
      exact expression.image_settled settles

theorem expressionImages_settled (settles : Settles edit) : (expressions : List Expr) →
    Fixes edit (expressionNodes (expressionImages edit expressions))
  | [] => .nil
  | expression :: expressions => by
      rw [expressionImages, expressionNodes]
      exact .both (expression.image_settled settles)
        (expressionImages_settled settles expressions)

theorem CaseArm.image_settled (settles : Settles edit) : (arm : CaseArm) →
    Fixes edit (arm.image edit).nodes
  | ⟨condition, result⟩ => by
      rw [CaseArm.image, CaseArm.nodes]
      exact .both (condition.image_settled settles) (result.image_settled settles)

theorem armImages_settled (settles : Settles edit) : (arms : List CaseArm) →
    Fixes edit (armNodes (armImages edit arms))
  | [] => .nil
  | arm :: arms => by
      rw [armImages, armNodes]
      exact .both (arm.image_settled settles) (armImages_settled settles arms)

theorem Select.image_settled (settles : Settles edit) : (query : Select) →
    Fixes edit (query.image edit).nodes
  | ⟨distinct, columns, source, filter, groupBy, having, orderBy, limit, offset⟩ => by
      rw [Select.image, Select.nodes]
      exact .other nofun (.both (.both (.both (.both (.both (.both (.both
        (columnImages_settled settles columns) (tableImage?_settled settles source))
        (expressionImage?_settled settles filter)) (expressionImages_settled settles groupBy))
        (expressionImage?_settled settles having)) (sortKeyImages_settled settles orderBy))
        (expressionImage?_settled settles limit)) (expressionImage?_settled settles offset))

theorem OutputColumn.image_settled (settles : Settles edit) : (column : OutputColumn) →
    Fixes edit (column.image edit).nodes
  | ⟨value, _⟩ => by
      rw [OutputColumn.image, OutputColumn.nodes]
      exact value.image_settled settles

theorem columnImages_settled (settles : Settles edit) : (columns : List OutputColumn) →
    Fixes edit (columnNodes (columnImages edit columns))
  | [] => .nil
  | column :: columns => by
      rw [columnImages, columnNodes]
      exact .both (column.image_settled settles) (columnImages_settled settles columns)

theorem SortKey.image_settled (settles : Settles edit) : (key : SortKey) →
    Fixes edit (key.image edit).nodes
  | ⟨key, _, _⟩ => by
      rw [SortKey.image, SortKey.nodes]
      exact key.image_settled settles

theorem sortKeyImages_settled (settles : Settles edit) : (keys : List SortKey) →
    Fixes edit (sortKeyNodes (sortKeyImages edit keys))
  | [] => .nil
  | key :: keys => by
      rw [sortKeyImages, sortKeyNodes]
      exact .both (key.image_settled settles) (sortKeyImages_settled settles keys)

theorem TableRef.image_settled (settles : Settles edit) : (table : TableRef) →
    Fixes edit (table.image edit).nodes
  | .table _ _ => by
      rw [TableRef.image, TableRef.nodes]
      exact .other nofun .nil
  | .subquery query _ => by
      rw [TableRef.image, TableRef.nodes]
      exact .other nofun (query.image_settled settles)
  | .join left clause => by
      rw [TableRef.image, TableRef.nodes]
      exact .other nofun (.both (left.image_settled settles) (clause.image_settled settles))

theorem tableImage?_settled (settles : Settles edit) : (table : Option TableRef) →
    Fixes edit (tableNodes? (tableImage? edit table))
  | none => .nil
  | some table => by
      rw [tableImage?, tableNodes?]
      exact table.image_settled settles

theorem JoinClause.image_settled (settles : Settles edit) : (clause : JoinClause) →
    Fixes edit (clause.image edit).nodes
  | ⟨_, table, condition, _⟩ => by
      rw [JoinClause.image, JoinClause.nodes]
      exact .both (table.image_settled settles) (expressionImage?_settled settles condition)

end

theorem InsertSource.image_settled (settles : Settles edit) (source : InsertSource) :
    Fixes edit (source.image edit).nodes := by
  cases source with
  | rows cells =>
      rw [InsertSource.image, InsertSource.nodes]
      exact .flatMap (List.forall_mem_map.mpr fun row _ => expressionImages_settled settles row)
  | query body => exact body.image_settled settles
  | defaults => exact .nil

theorem dataTypeNodes?_settled (type : Option DataType) :
    Fixes edit (dataTypeNodes? type) := by
  cases type with
  | none => exact .nil
  | some type => exact .other nofun .nil

theorem Statement.image_settled (settles : Settles edit) (statement : Statement) :
    Fixes edit (statement.image edit).nodes := by
  refine .other nofun ?_
  cases statement with
  | select body => exact body.image_settled settles
  | insert body =>
      exact .other nofun (.both (body.source.image_settled settles)
        (columnImages_settled settles body.returning))
  | update body =>
      have assigned : Fixes edit
          ((body.assignments.map (Assignment.image edit)).flatMap fun assignment =>
            assignment.value.nodes) := by
        exact .flatMap (List.forall_mem_map.mpr fun assignment _ =>
          assignment.value.image_settled settles)
      exact .other nofun (.both (.both (.both assigned
        (tableImage?_settled settles body.source))
        (expressionImage?_settled settles body.filter))
        (columnImages_settled settles body.returning))
  | delete body =>
      exact .other nofun (.both (expressionImage?_settled settles body.filter)
        (columnImages_settled settles body.returning))
  | createSequence body => exact .other nofun (dataTypeNodes?_settled _)
  | alterSequence body => exact .other nofun (dataTypeNodes?_settled _)
  | dropSequence body => exact .other nofun .nil

/-- All expressions in the images of trees are left as they are by an edit that settles. -/
theorem Forest.image_settled (settles : Settles edit) (forest : Forest) :
    Fixes edit (forest.image edit).preorder := by
  have rooted : ∀ root ∈ (forest.image edit).roots, Fixes edit root.nodes := by
    cases forest with
    | statement tree => exact List.forall_mem_singleton.mpr (tree.image_settled settles)
    | expression tree => exact List.forall_mem_singleton.mpr (tree.image_settled settles)
    | statements trees =>
        simp only [Forest.image, Forest.roots, List.map_map, List.forall_mem_map]
        exact fun tree _ => tree.image_settled settles
    | expressions trees =>
        simp only [Forest.image, Forest.roots, List.map_map, List.forall_mem_map]
        exact fun tree _ => tree.image_settled settles
  refine .flatMap fun root found => ?_
  rw [← Node.nodes_eq_preorder]
  exact rooted root found

end Images

section Unchanged

theorem Forest.image_eq_self {forest : Forest} (fixed : Fixes edit forest.preorder) :
    forest.image edit = forest := by
  have rooted : ∀ root ∈ forest.roots, Fixes edit root.nodes := by
    intro root found body among
    rw [Node.nodes_eq_preorder] at among
    exact fixed body (List.mem_flatMap_of_mem found among)
  cases forest with
  | statement tree =>
      rw [Forest.image, tree.image_eq_self (rooted _ List.mem_cons_self)]
  | expression tree =>
      rw [Forest.image, tree.image_eq_self (rooted _ List.mem_cons_self)]
  | statements trees =>
      have within : Fixes edit (trees.flatMap Statement.nodes) :=
        .flatMap fun tree found => rooted _ (List.mem_map_of_mem found)
      rw [Forest.image, map_eq_self Statement.image_eq_self within]
  | expressions trees =>
      have within : Fixes edit (trees.flatMap Expr.nodes) :=
        .flatMap fun tree found => rooted _ (List.mem_map_of_mem found)
      rw [Forest.image, map_eq_self Expr.image_eq_self within]

/-- The images of trees under an edit that settles are their own images. -/
theorem Forest.image_image (settles : Settles edit) (forest : Forest) :
    (forest.image edit).image edit = forest.image edit :=
  Forest.image_eq_self (forest.image_settled settles)

end Unchanged

section Edits

/-- The computation of a negation changes the negations of truth values, and nothing else. -/
theorem foldNegation_eq_self_iff {body : Expr} :
    foldNegation body = body ↔ ∀ value, body ≠ .unary .not (.literal (.boolean value)) := by
  fun_cases foldNegation body with
  | case1 value => simp
  | case2 _ other => simpa using other

theorem stripParameter_eq_self_iff {body : Expr} :
    stripParameter body = body ↔ ∀ name, body ≠ .parameter name := by
  fun_cases stripParameter body with
  | case1 name => simp
  | case2 _ other => simpa using other

/-- An edit settles that makes leaves that it leaves as they are. -/
theorem Settles.of_leaves (leaves : ∀ body, edit body = body ∨
    ∃ value, edit body = .literal value ∧ edit (.literal value) = .literal value) :
    Settles edit := by
  intro body below
  rcases leaves body with same | ⟨value, made, same⟩
  · rw [same, Expr.nodes_eq]
    exact .expression same below
  · rw [made]
    exact .expression same (.other nofun .nil)

theorem foldNegation_settles : Settles foldNegation := by
  apply Settles.of_leaves
  intro body
  fun_cases foldNegation body with
  | case1 value => exact .inr ⟨_, rfl, rfl⟩
  | case2 => exact .inl rfl

theorem stripParameter_settles : Settles stripParameter := by
  apply Settles.of_leaves
  intro body
  fun_cases stripParameter body with
  | case1 name => exact .inr ⟨_, rfl, rfl⟩
  | case2 => exact .inl rfl

theorem foldNegations_eq_editing : foldNegations = .editing foldNegation := rfl

/-- A parameter has nothing below it, so that it is the same whether it is replaced before the walk
below it or behind that. -/
theorem stripParameters_eq_editing : stripParameters = .editing stripParameter := rfl

end Edits

/-- A rewriter that edits expressions and does nothing else makes the image of the tree from its
leaves, and ends with the state that it began with. Once negations are computed in a tree, no truth
value is negated anywhere in it, and the tree stays as it is when that is done again. Once
parameters are removed from a tree, there is none anywhere in it. -/
theorem Forest.rewrite_editing (forest : Forest) :
    (∀ {σ ε : Type} (edit : Expr → Expr) (state : σ),
      forest.rewrite (Rewriter.editing edit : Rewriter σ ε) ⟨state, none⟩ =
        (forest.image edit, ⟨state, none⟩)) ∧
    (∀ value, .expression (.unary .not (.literal (.boolean value))) ∉
      (forest.rewrite foldNegations ⟨(), none⟩).1.preorder) ∧
    (forest.rewrite foldNegations ⟨(), none⟩).1.rewrite foldNegations ⟨(), none⟩ =
      forest.rewrite foldNegations ⟨(), none⟩ ∧
    ∀ name, .expression (.parameter name) ∉
      (forest.rewrite stripParameters ⟨(), none⟩).1.preorder := by
  have folded := forest.image_settled foldNegation_settles
  have stripped := forest.image_settled stripParameter_settles
  rw [foldNegations_eq_editing, stripParameters_eq_editing,
    forest.rewrite_makes foldNegation (), forest.rewrite_makes stripParameter (),
    (forest.image foldNegation).rewrite_makes foldNegation (),
    forest.image_image foldNegation_settles]
  refine ⟨fun edit state => forest.rewrite_makes edit state, ?_, rfl, ?_⟩
  · intro value found
    exact foldNegation_eq_self_iff.mp (folded _ found) value rfl
  · intro name found
    exact stripParameter_eq_self_iff.mp (stripped _ found) name rfl

end SqlTree
