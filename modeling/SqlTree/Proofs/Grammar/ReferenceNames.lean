import SqlTree.Proofs.Grammar.Depth
import SqlTree.Proofs.Grammar.Rejection
import SqlTree.Proofs.Grammar.ToldStatements
import SqlTree.Proofs.Traversal.Preorder

/-!
# Names of references

The parts of a tree hold the parts of every node below it. So what a reference is made of was taken
from tokens of the text: its schema, its table and its column are names of tokens there, unless the
column is the star that stands for all.
-/

namespace SqlTree

open SqlTree.Parser SqlTree.Grammar

section Parts

/-- The parts of a statement. Those of a statement about sequences are not told apart. -/
def Statement.roles : Statement → List Role
  | .select body => body.roles
  | .insert body => body.roles
  | .update body => body.roles
  | .delete body => body.roles
  | .createSequence _ | .alterSequence _ | .dropSequence _ => []

/-- The parts of what stands at a node, as far as they are told apart. A data type has no names of
references among its parts. -/
def Node.roles : Node → List Role
  | .statement body => body.roles
  | .select body => body.roles
  | .insert body => body.roles
  | .update body => body.roles
  | .delete body => body.roles
  | .createSequence _ | .alterSequence _ | .dropSequence _ | .dataType _ => []
  | .table body => body.roles
  | .expression body => body.roles
  | .reference qualifier column => (Expr.reference qualifier column).roles
  | .literal value => (Expr.literal value).roles
  | .parameter name => (Expr.parameter name).roles
  | .unary operator operand => (Expr.unary operator operand).roles
  | .binary left operator right => (Expr.binary left operator right).roles
  | .ternary operator value low high => (Expr.ternary operator value low high).roles
  | .inList operand list negated => (Expr.inList operand list negated).roles
  | .call function arguments distinct => (Expr.call function arguments distinct).roles
  | .cast operand target => (Expr.cast operand target).roles
  | .case subject arms otherwise => (Expr.case subject arms otherwise).roles

theorem roles_ofExpressions (expressions : List Expr) :
    (Node.ofExpressions expressions).flatMap Node.roles = expressionRoles expressions := by
  rw [expressionRoles_eq, Node.ofExpressions, List.flatMap_map]
  rfl

theorem roles_ofExpression? (expression : Option Expr) :
    (Node.ofExpression? expression).flatMap Node.roles = expressionRoles? expression := by
  rw [expressionRoles?_eq, Node.ofExpression?, List.flatMap_map]
  rfl

theorem roles_ofTable? (table : Option TableRef) :
    (Node.ofTable? table).flatMap Node.roles = tableRoles? table := by
  rw [tableRoles?_eq, Node.ofTable?, List.flatMap_map]
  rfl

theorem roles_ofSortKeys (keys : List SortKey) :
    (Node.ofSortKeys keys).flatMap Node.roles = sortKeyRoles keys := by
  rw [sortKeyRoles_eq, Node.ofSortKeys, List.flatMap_map]
  refine List.flatMap_congr fun key _ => ?_
  cases key
  rfl

theorem roles_ofArms (arms : List CaseArm) :
    (Node.ofArms arms).flatMap Node.roles = armRoles arms := by
  rw [armRoles_eq, Node.ofArms, List.flatMap_assoc]
  refine List.flatMap_congr fun arm _ => ?_
  cases arm
  simp [Node.roles, CaseArm.roles]

theorem roles_ofColumns (columns : List OutputColumn) :
    ((Node.ofColumns columns).flatMap Node.roles).Sublist (columnRoles columns) := by
  induction columns with
  | nil => exact .slnil
  | cons column columns inductionHypothesis =>
      obtain ⟨value, aliasName⟩ := column
      exact (List.sublist_append_left value.roles _).append inductionHypothesis

theorem roles_ofAssignments (assignments : List Assignment) :
    ((Node.ofAssignments assignments).flatMap Node.roles).Sublist
      (assignments.flatMap Assignment.roles) := by
  induction assignments with
  | nil => exact .slnil
  | cons assignment assignments inductionHypothesis =>
      exact (List.sublist_cons_self _ _).append inductionHypothesis

theorem roles_ofInsertSource (source : InsertSource) :
    (Node.ofInsertSource source).flatMap Node.roles = source.roles := by
  cases source with
  | rows cells =>
      rw [Node.ofInsertSource, List.flatMap_assoc]
      exact List.flatMap_congr fun row _ => roles_ofExpressions row
  | query body => exact List.flatMap_singleton _ _
  | defaults => rfl

/-- The parts of the nodes right below a node are among its own, in their order. -/
theorem Node.roles_children (node : Node) :
    (node.children.flatMap Node.roles).Sublist node.roles := by
  cases node with
  | statement body =>
      rw [children, List.flatMap_singleton]
      cases body <;> exact List.Sublist.refl _
  | select body =>
      obtain ⟨distinct, columns, source, filter, groupBy, having, orderBy, limit, offset⟩ := body
      simp only [children, roles, Select.roles, List.flatMap_append, roles_ofTable?,
        roles_ofExpression?, roles_ofExpressions, roles_ofSortKeys, List.append_assoc]
      exact (roles_ofColumns columns).append_right _
  | insert body =>
      obtain ⟨target, columns, source, returning⟩ := body
      simp only [children, roles, Insert.roles, List.flatMap_append, roles_ofInsertSource]
      exact (List.sublist_append_right _ _).append (roles_ofColumns returning)
  | update body =>
      obtain ⟨target, aliasName, assignments, source, filter, returning⟩ := body
      simp only [children, roles, Update.roles, List.flatMap_append, roles_ofTable?,
        roles_ofExpression?]
      exact ((((roles_ofAssignments assignments).trans (List.sublist_append_right _ _)).append_right
        _).append_right _).append (roles_ofColumns returning)
  | delete body =>
      obtain ⟨target, aliasName, filter, returning⟩ := body
      simp only [children, roles, Delete.roles, List.flatMap_append, roles_ofExpression?]
      exact (List.sublist_append_right _ _).append (roles_ofColumns returning)
  | createSequence body =>
      cases type : body.options.dataType <;> simp [children, ofDataType?, roles, type]
  | alterSequence body =>
      obtain ⟨name, ifExists, change⟩ := body
      cases change with
      | options chosen restart =>
          cases type : chosen.dataType <;> simp [children, ofDataType?, roles, type]
      | _ => exact List.nil_sublist _
  | dropSequence body => exact List.Sublist.refl _
  | table body =>
      rcases body with _ | ⟨query, _⟩ | ⟨left, _, right, condition, _⟩
      · exact List.nil_sublist _
      · simp [children, roles, TableRef.roles]
      · simp [children, roles, TableRef.roles, JoinClause.roles, roles_ofExpression?]
  | expression body =>
      rw [children, List.flatMap_singleton]
      cases body <;> exact List.Sublist.refl _
  | reference qualifier column => exact List.nil_sublist _
  | literal value => exact List.nil_sublist _
  | parameter name => exact List.nil_sublist _
  | unary operator operand => simp [children, roles, Expr.roles]
  | binary left operator right => simp [children, roles, Expr.roles]
  | ternary operator value low high => simp [children, roles, Expr.roles]
  | inList operand list negated =>
      simp [children, roles, Expr.roles, roles_ofExpressions]
  | call function arguments distinct =>
      simp [children, roles, Expr.roles, roles_ofExpressions]
  | cast operand target => simp [children, roles, Expr.roles]
  | case subject arms otherwise =>
      simp [children, roles, Expr.roles, roles_ofExpression?, roles_ofArms]
  | dataType type => exact List.nil_sublist _

/-- The parts of a node are among those of the trees that it stands in. By induction on the tree. -/
theorem Node.roles_subset {node root : Node} (among : node ∈ root.nodes) :
    node.roles ⊆ root.roles := by
  have told : Node.PassesUp fun root => ∀ node ∈ root.nodes, node.roles ⊆ root.roles := by
    intro root below node among
    rw [Node.nodes_eq] at among
    rcases List.mem_cons.mp among with rfl | inside
    · exact List.Subset.refl _
    · obtain ⟨child, childAmong, deeper⟩ := List.mem_flatMap.mp inside
      have parts := root.roles_children.subset
      exact fun role found => parts
        (List.mem_flatMap.mpr ⟨child, childAmong, below child childAmong node deeper found⟩)
  exact Node.holds_of_passesUp told root node among

end Parts

section Acceptance

/-- The parts of a statement are among those that are told of it. -/
theorem Statement.Tells.subset {statement : Statement} {told : List Role}
    (tells : statement.Tells told) : statement.roles ⊆ told := by
  cases statement with
  | select | insert | update | delete =>
      obtain rfl := tells
      exact List.Subset.refl _
  | createSequence | alterSequence | dropSequence => exact List.nil_subset _

theorem StatementsTell.subset {statements : List Statement} {told : List Role}
    (tells : StatementsTell told statements) :
    ∀ statement ∈ statements, statement.roles ⊆ told := by
  induction statements generalizing told with
  | nil => exact List.forall_mem_nil _
  | cons first statements inductionHypothesis =>
      obtain ⟨front, back, rfl, here, others⟩ := tells
      refine List.forall_mem_cons.mpr ⟨?_, fun statement among => ?_⟩
      · exact List.subset_append_of_subset_left _ here.subset
      · exact List.subset_append_of_subset_right _ (inductionHypothesis others statement among)

/-- A role fits a token of a text. -/
def Role.IsReadFrom (text : String) (role : Role) : Prop :=
  ∃ token ∈ tokenize text, role.Fits token.kind

/-- What is told of the tokens of a text fits tokens of the text. -/
theorem Parser.Reports.of_outcome {α : Type} {parser : Parser α} {said : α → List Role → Prop}
    (reports : Reports parser said) {text : String} {value : α}
    (parsed : parser.outcome (.ofText text) = .ok value) :
    ∃ told, said value told ∧ ∀ role ∈ told, role.IsReadFrom text := by
  unfold Parser.outcome at parsed
  split at parsed
  · next run =>
      cases parsed
      obtain ⟨stream, closed, _⟩ := Cursor.ofText_spec text
      obtain ⟨roles, _, shows, holds⟩ := reports _ closed run
      refine ⟨_, holds, fun role among => ?_⟩
      obtain ⟨place, found⟩ := List.mem_iff_getElem?.mp (List.mem_of_mem_filter among)
      refine ⟨_, ?_, shows.fits found⟩
      rw [← stream]
      exact Cursor.peek_mem_stream _ place
  · cases parsed

/-- What is read up to the end of a text tells what it tells. -/
theorem Parser.Reports.finished {α : Type} {parser : Parser α} {said : α → List Role → Prop}
    (reports : Reports parser said) :
    Reports (do let value ← parser; finish; return value) said :=
  reports.bind fun _ _ holds => Tells.bind finish_tells fun _ =>
    Reports.pure (by simpa using holds)

/-- The parts of a tree that a text is accepted as fit tokens of the text. -/
theorem Accepts.isReadFrom {text : String} {root : Node} (accepts : Accepts text root) :
    ∀ role ∈ root.roles, role.IsReadFrom text := by
  cases accepts with
  | statement parsed among =>
      obtain ⟨told, tells, read⟩ := statements_report.of_outcome parsed
      exact fun role found => read role (tells.subset _ among found)
  | single parsed =>
      obtain ⟨told, tells, read⟩ := statement_reports.finished.of_outcome parsed
      exact fun role found => read role (tells.subset found)
  | expression parsed =>
      have reports : Reports Grammar.expression fun body told => told = body.roles :=
        topRules_tell.expression 0
      obtain ⟨told, rfl, read⟩ := reports.finished.of_outcome parsed
      exact read

/-- The names that a reference is shown with. -/
def referenceNames (qualifier : Option ObjectName) (column : String) : List String :=
  qualifier.toList.flatMap (fun table => table.schema.toList ++ [table.name]) ++ [column]

/-- Every name of a reference in a tree that a text is accepted as is that of a token of the text,
or the star that stands for all columns. -/
theorem Accepts.named {text : String} {root : Node} (accepts : Accepts text root)
    {qualifier : Option ObjectName} {column : String}
    (among : .reference qualifier column ∈ root.nodes) :
    ∀ name ∈ referenceNames qualifier column,
      name = "*" ∨ ∃ token ∈ tokenize text, token.kind.name? = some name := by
  have read (role : Role) (found : role ∈ (Expr.reference qualifier column).roles) :
      role.IsReadFrom text :=
    accepts.isReadFrom role (Node.roles_subset among found)
  rw [Expr.roles] at read
  intro name found
  rcases List.mem_append.mp found with qualified | last
  · obtain ⟨table, present, inside⟩ := List.mem_flatMap.mp qualified
    have role : Role.name name ∈ table.roles := List.mem_map_of_mem inside
    obtain ⟨token, among, fits⟩ :=
      read (.name name) (List.mem_append_left _ (List.mem_flatMap.mpr ⟨table, present, role⟩))
    exact .inr ⟨token, among, fits⟩
  · obtain rfl := List.mem_singleton.mp last
    obtain ⟨token, among, fits⟩ :=
      read (.leaf (.reference qualifier name)) (List.mem_append_right _ (List.mem_singleton_self _))
    generalize same : token.kind = kind at fits
    cases fits with
    | column named => exact .inr ⟨token, among, same ▸ named⟩
    | star => exact .inl rfl

end Acceptance

end SqlTree
