import SqlTree.Proofs.Form.Nodes
import SqlTree.Proofs.Tree.Throughout

/-!
# Nulls in forms

What is absent is left out of a form, and never null. A property of JSON values that passes up from
items and members holds of a whole form, if it holds of the forms of its constants; so the nulls of
a form are the values of its constants.
-/

namespace SqlTree

open Json

namespace Json

/-- A step down into a JSON value: to an item of an array, or to a member of an object. -/
inductive Descent where
  | item (index : Nat)
  | member (name : String)
deriving DecidableEq, Repr

/-- A way down into a JSON value leads to another one. -/
inductive Leads : Json → List Descent → Json → Prop where
  | here (value : Json) : Leads value [] value
  | item {items : List Json} {index : Nat} {value inner : Json} {path : List Descent} :
      items[index]? = some value → Leads value path inner →
        Leads (.array items) (.item index :: path) inner
  | member {members : List (String × Json)} {name : String} {value inner : Json}
      {path : List Descent} : (name, value) ∈ members → Leads value path inner →
        Leads (.object members) (.member name :: path) inner

/-- Something holds of the values of all members. -/
def Throughout (holds : Json → Prop) (members : List (String × Json)) : Prop :=
  ∀ entry ∈ members, holds entry.2

/-- What holds of every value but null, if it holds of its items or of the values of its members. -/
structure PassesUp (holds : Json → Prop) : Prop where
  bool : ∀ value, holds (.bool value)
  integer : ∀ value, holds (.integer value)
  number : ∀ value, holds (.number value)
  string : ∀ value, holds (.string value)
  array : ∀ items, (∀ item ∈ items, holds item) → holds (.array items)
  object : ∀ members, Throughout holds members → holds (.object members)

section Members

variable {holds : Json → Prop} {name : String} {value : Json} {items : List Json}
  {members others : List (String × Json)}

@[simp] theorem throughout_nil : Throughout holds [] ↔ True :=
  iff_true_intro (List.forall_mem_nil _)

@[simp] theorem throughout_cons :
    Throughout holds ((name, value) :: members) ↔ holds value ∧ Throughout holds members :=
  List.forall_mem_cons

@[simp] theorem throughout_append :
    Throughout holds (members ++ others) ↔ Throughout holds members ∧ Throughout holds others :=
  List.forall_mem_append

theorem throughout_member? {value : Option Json} (held : ∀ present ∈ value, holds present) :
    Throughout holds (member? name value) := by
  cases value with
  | none => exact throughout_nil.mpr trivial
  | some present => exact throughout_cons.mpr ⟨held present rfl, throughout_nil.mpr trivial⟩

namespace PassesUp

variable (up : PassesUp holds)

include up

theorem flag (value : Bool) : Throughout holds (flag name value) := by
  cases value with
  | false => exact throughout_nil.mpr trivial
  | true => exact throughout_cons.mpr ⟨up.bool true, throughout_nil.mpr trivial⟩

theorem items? (each : ∀ item ∈ items, holds item) : Throughout holds (items? name items) := by
  unfold Json.items?
  split
  · exact throughout_nil.mpr trivial
  · exact throughout_cons.mpr ⟨up.array items each, throughout_nil.mpr trivial⟩

/-- What holds of the members of a node holds of the node. -/
theorem nodeForm (kind : String) (held : Throughout holds members) :
    holds (nodeForm kind members) :=
  up.object _ (throughout_cons.mpr ⟨up.string kind, held⟩)

omit up in
theorem member?_map {α : Type} {form : α → Json} (each : ∀ part, holds (form part))
    (part? : Option α) : Throughout holds (member? name (part?.map form)) := by
  refine throughout_member? fun present among => ?_
  obtain ⟨part, _, rfl⟩ := Option.map_eq_some_iff.mp among
  exact each part

theorem items?_map {α : Type} {form : α → Json} (each : ∀ part, holds (form part))
    (parts : List α) : Throughout holds (Json.items? name (parts.map form)) :=
  up.items? (List.forall_mem_map.mpr fun part _ => each part)

end PassesUp

end Members

namespace PassesUp

variable {holds : Json → Prop} (up : PassesUp holds)

include up

theorem stringForm (value : String) : holds (stringForm value) := up.string value

theorem bigintForm (value : Int64) : holds (bigintForm value) := up.integer _

theorem objectName (name : ObjectName) : holds name.form :=
  up.object _ (throughout_cons.mpr ⟨up.string _, member?_map up.stringForm _⟩)

theorem dataType (type : DataType) : holds type.form :=
  up.object _ (throughout_cons.mpr ⟨up.string _, up.items?_map up.bigintForm _⟩)

theorem sequenceBound (openWord : String) (bound : SequenceBound) :
    holds (bound.form openWord) := by
  cases bound with
  | unbounded => exact up.string openWord
  | value bound => exact up.bigintForm bound

theorem ownership (owner : Ownership) : holds owner.form := by
  cases owner with
  | nothing => exact up.string "none"
  | column owner =>
      refine up.object _ (throughout_append.mpr ⟨member?_map up.stringForm _, ?_⟩)
      simp [up.string]

theorem restart (target : Restart) : holds target.form := by
  cases target with
  | atStart => exact up.bool true
  | value position => exact up.bigintForm position

theorem sequenceOptions (options : SequenceOptions) : Throughout holds options.members := by
  simp only [SequenceOptions.members, throughout_append, member?_map up.dataType,
    member?_map up.bigintForm, member?_map (up.sequenceBound _), member?_map up.ownership,
    member?_map fun mode : Cycling => up.string mode.spelling, and_self]

theorem sequenceName (name : ObjectName) : Throughout holds (sequenceNameMembers name) :=
  throughout_cons.mpr ⟨up.string _, member?_map up.stringForm _⟩

theorem createSequence (create : CreateSequence) : Throughout holds create.members := by
  simp only [CreateSequence.members, throughout_append, up.sequenceName, up.flag,
    up.sequenceOptions, and_self]

theorem sequenceChange (change : SequenceChange) : holds change.form := by
  cases change with
  | options chosen target =>
      exact up.nodeForm _
        (throughout_append.mpr ⟨up.sequenceOptions chosen, member?_map up.restart target⟩)
  | rename name => exact up.nodeForm _ (by simp [up.string])
  | owner role => exact up.nodeForm _ (by simp [up.string])
  | schema target => exact up.nodeForm _ (by simp [up.string])

theorem alterSequence (alter : AlterSequence) : Throughout holds alter.members := by
  simp only [AlterSequence.members, throughout_append, throughout_cons, throughout_nil,
    up.sequenceName, up.flag, up.sequenceChange, and_self]

theorem dropSequence (drop : DropSequence) : Throughout holds drop.members := by
  have names : holds (.array (drop.names.map ObjectName.form)) :=
    up.array _ (List.forall_mem_map.mpr fun name _ => up.objectName name)
  simp only [DropSequence.members, throughout_append, throughout_cons, throughout_nil, names,
    up.flag, member?_map fun mode : DropBehavior => up.string mode.spelling, and_self]

end PassesUp

end Json

section Nodes

variable {holds : Json → Prop}

/-- Something holds of the form of what stands at a node. Of a query and of the other statements it
holds of the members, before which their kind may stand or not. -/
def Node.FormHolds (holds : Json → Prop) : Node → Prop
  | .statement body => holds body.form
  | .select body => Throughout holds body.members
  | .insert body => Throughout holds body.members
  | .update body => Throughout holds body.members
  | .delete body => Throughout holds body.members
  | .createSequence body => Throughout holds body.members
  | .alterSequence body => Throughout holds body.members
  | .dropSequence body => Throughout holds body.members
  | .table body => holds body.form
  | .expression body => holds body.form
  | .reference qualifier column => holds (Expr.reference qualifier column).form
  | .literal value => holds (Expr.literal value).form
  | .parameter name => holds (Expr.parameter name).form
  | .unary operator operand => holds (Expr.unary operator operand).form
  | .binary left operator right => holds (Expr.binary left operator right).form
  | .ternary operator value low high => holds (Expr.ternary operator value low high).form
  | .inList operand list negated => holds (Expr.inList operand list negated).form
  | .call function arguments distinct => holds (Expr.call function arguments distinct).form
  | .cast operand target => holds (Expr.cast operand target).form
  | .case subject arms otherwise => holds (Expr.case subject arms otherwise).form
  | .dataType type => holds type.form

/-- Something holds of the forms of all nodes of a list. -/
abbrev FormsHold (holds : Json → Prop) (nodes : List Node) : Prop :=
  Node.All (Node.FormHolds holds) nodes

theorem holds_expressionForms {expressions : List Expr}
    (below : FormsHold holds (Node.ofExpressions expressions)) :
    ∀ form ∈ expressionForms expressions, holds form := by
  rw [expressionForms_eq]
  exact List.forall_mem_map.mpr fun _ among => below _ (List.mem_map_of_mem among)

theorem throughout_expressionForm? {expression : Option Expr} {name : String}
    (below : FormsHold holds (Node.ofExpression? expression)) :
    Throughout holds (member? name (expressionForm? expression)) := by
  rw [expressionForm?_eq]
  refine throughout_member? fun form among => ?_
  obtain ⟨present, rfl, rfl⟩ := Option.map_eq_some_iff.mp among
  exact below _ (List.mem_singleton_self _)

theorem throughout_tableForm? {table : Option TableRef} {name : String}
    (below : FormsHold holds (Node.ofTable? table)) :
    Throughout holds (member? name (tableForm? table)) := by
  rw [tableForm?_eq]
  refine throughout_member? fun form among => ?_
  obtain ⟨present, rfl, rfl⟩ := Option.map_eq_some_iff.mp among
  exact below _ (List.mem_singleton_self _)

variable (up : Json.PassesUp holds)

include up

theorem holds_armForms {arms : List CaseArm} (below : FormsHold holds (Node.ofArms arms)) :
    ∀ form ∈ armForms arms, holds form := by
  rw [armForms_eq]
  refine List.forall_mem_map.mpr fun arm among => ?_
  obtain ⟨condition, result⟩ := arm
  have both := List.forall_mem_flatMap.mp below _ among
  have condition : holds condition.form := both _ (List.mem_cons_self ..)
  have result : holds result.form := both _ (List.mem_cons_of_mem _ (List.mem_cons_self ..))
  exact up.object _ (by simp [condition, result])

theorem holds_outputColumnForms {columns : List OutputColumn}
    (below : FormsHold holds (Node.ofColumns columns)) :
    ∀ form ∈ outputColumnForms columns, holds form := by
  rw [outputColumnForms_eq]
  refine List.forall_mem_map.mpr fun column among => ?_
  obtain ⟨value, aliasName⟩ := column
  have value : holds value.form := below _ (List.mem_map_of_mem among)
  rw [OutputColumn.form]
  exact up.object _ (throughout_cons.mpr ⟨value, PassesUp.member?_map up.stringForm _⟩)

theorem holds_sortKeyForms {keys : List SortKey}
    (below : FormsHold holds (Node.ofSortKeys keys)) : ∀ form ∈ sortKeyForms keys, holds form := by
  rw [sortKeyForms_eq]
  refine List.forall_mem_map.mpr fun sortKey among => ?_
  obtain ⟨key, direction, nulls⟩ := sortKey
  have key : holds key.form := below _ (List.mem_map_of_mem among)
  rw [SortKey.form]
  refine up.object _ (throughout_append.mpr ⟨?_, PassesUp.member?_map (fun _ => up.string _) _⟩)
  simp [key, up.string]

theorem holds_assignments {assignments : List Assignment}
    (below : FormsHold holds (Node.ofAssignments assignments)) :
    ∀ form ∈ assignments.map Assignment.form, holds form := by
  refine List.forall_mem_map.mpr fun assignment among => ?_
  have value : holds assignment.value.form := below _ (List.mem_map_of_mem among)
  exact up.object _ (by simp [value, up.string])

theorem holds_insertSource {source : InsertSource}
    (below : FormsHold holds (Node.ofInsertSource source)) : holds source.form := by
  cases source with
  | rows cells =>
      have rows : holds (.array (cells.map fun row => .array (expressionForms row))) := by
        refine up.array _ (List.forall_mem_map.mpr fun row among => up.array _ ?_)
        exact holds_expressionForms (List.forall_mem_flatMap.mp below row among)
      exact up.object _ (by simp [rows])
  | query body =>
      have query : Throughout holds body.members := below _ (List.mem_singleton_self _)
      exact up.object _ (by simp [up.object _ query])
  | defaults => exact up.string "defaultValues"

/-- What holds of the forms right below a query holds of its members. -/
theorem throughout_select {query : Select} (below : FormsHold holds (Node.select query).children) :
    Throughout holds query.members := by
  obtain ⟨distinct, columns, source, filter, groupBy, having, orderBy, limit, offset⟩ := query
  simp only [Node.children, FormsHold, Node.All.append_iff] at below
  obtain ⟨⟨⟨⟨⟨⟨⟨columns, source⟩, filter⟩, groupBy⟩, having⟩, orderBy⟩, limit⟩, offset⟩ := below
  simp only [Select.members, throughout_append, throughout_cons, throughout_nil, up.flag,
    up.array _ (holds_outputColumnForms up columns), throughout_tableForm? source,
    throughout_expressionForm? filter, up.items? (holds_expressionForms groupBy),
    throughout_expressionForm? having, up.items? (holds_sortKeyForms up orderBy),
    throughout_expressionForm? limit, throughout_expressionForm? offset, and_self]

theorem throughout_insert {insert : Insert}
    (below : FormsHold holds (Node.insert insert).children) : Throughout holds insert.members := by
  obtain ⟨target, columns, source, returning⟩ := insert
  obtain ⟨source, returning⟩ := Node.All.append_iff.mp below
  simp only [Insert.members, throughout_append, throughout_cons, throughout_nil, up.objectName,
    up.items?_map up.stringForm, holds_insertSource up source,
    up.items? (holds_outputColumnForms up returning), and_self]

theorem throughout_update {update : Update}
    (below : FormsHold holds (Node.update update).children) : Throughout holds update.members := by
  obtain ⟨target, aliasName, assignments, source, filter, returning⟩ := update
  simp only [Node.children, FormsHold, Node.All.append_iff] at below
  obtain ⟨⟨⟨assignments, source⟩, filter⟩, returning⟩ := below
  simp only [Update.members, throughout_append, throughout_cons, throughout_nil, up.objectName,
    PassesUp.member?_map up.stringForm, up.array _ (holds_assignments up assignments),
    throughout_tableForm? source, throughout_expressionForm? filter,
    up.items? (holds_outputColumnForms up returning), and_self]

theorem throughout_delete {delete : Delete}
    (below : FormsHold holds (Node.delete delete).children) : Throughout holds delete.members := by
  obtain ⟨target, aliasName, filter, returning⟩ := delete
  obtain ⟨filter, returning⟩ := Node.All.append_iff.mp below
  simp only [Delete.members, throughout_append, throughout_cons, throughout_nil, up.objectName,
    PassesUp.member?_map up.stringForm, throughout_expressionForm? filter,
    up.items? (holds_outputColumnForms up returning), and_self]

theorem holds_table {table : TableRef} (below : FormsHold holds (Node.table table).children) :
    holds table.form := by
  rcases table with ⟨name, aliasName⟩ | ⟨query, aliasName⟩ | ⟨left, kind, right, condition, columns⟩
  · exact up.nodeForm _
      (throughout_cons.mpr ⟨up.objectName name, PassesUp.member?_map up.stringForm _⟩)
  · have query : Throughout holds query.members := below _ (List.mem_singleton_self _)
    exact up.nodeForm _ (by simp [up.object _ query, up.string])
  · obtain ⟨sides, conditionBelow⟩ := Node.All.append_iff.mp below
    have leftHolds : holds left.form := sides _ (List.mem_cons_self ..)
    have rightHolds : holds right.form := sides _ (List.mem_cons_of_mem _ (List.mem_cons_self ..))
    have clause : holds (JoinClause.form ⟨kind, right, condition, columns⟩) := by
      rw [JoinClause.form]
      refine up.object _ ?_
      simp only [throughout_append, throughout_cons, throughout_nil, up.string, rightHolds,
        throughout_expressionForm? conditionBelow, up.items?_map up.stringForm, and_self]
    exact up.nodeForm _ (by simp [leftHolds, clause])

/-- What holds of the forms right below a node holds of its own form, unless it is a constant. -/
theorem Node.formHolds_of_children (node : Node) (below : FormsHold holds node.children)
    (constant : ∀ value, node = .literal value → holds (Expr.literal value).form) :
    node.FormHolds holds := by
  cases node with
  | statement body =>
      have held := below _ (List.mem_singleton_self _)
      cases body <;> exact up.nodeForm _ held
  | select body => exact throughout_select up below
  | insert body => exact throughout_insert up below
  | update body => exact throughout_update up below
  | delete body => exact throughout_delete up below
  | createSequence body => exact up.createSequence body
  | alterSequence body => exact up.alterSequence body
  | dropSequence body => exact up.dropSequence body
  | table body => exact holds_table up below
  | expression body =>
      have held := below _ (List.mem_singleton_self _)
      cases body with
      | select query => exact up.nodeForm _ held
      | _ => exact held
  | reference qualifier column =>
      have table : Throughout holds (member? "table" (qualifier.map ObjectName.form)) :=
        PassesUp.member?_map up.objectName qualifier
      exact up.nodeForm _ (by simp [table, up.string])
  | literal value => exact constant value rfl
  | parameter name => exact up.nodeForm _ (by simp [up.string])
  | unary operator operand =>
      have inner : holds operand.form := below (.expression operand) (by simp [children])
      exact up.nodeForm _ (by simp [inner, up.string])
  | binary left operator right =>
      have first : holds left.form := below (.expression left) (by simp [children])
      have second : holds right.form := below (.expression right) (by simp [children])
      exact up.nodeForm _ (by simp [first, second, up.string])
  | ternary operator value low high =>
      have first : holds value.form := below (.expression value) (by simp [children])
      have second : holds low.form := below (.expression low) (by simp [children])
      have third : holds high.form := below (.expression high) (by simp [children])
      exact up.nodeForm _ (by simp [first, second, third, up.string])
  | inList operand list negated =>
      obtain ⟨first, others⟩ := Node.All.cons_iff.mp below
      have inner : holds operand.form := first
      have items : holds (.array (expressionForms list)) :=
        up.array _ (holds_expressionForms others)
      exact up.nodeForm _ (by simp [inner, items, up.bool])
  | call function arguments distinct =>
      have items : holds (.array (expressionForms arguments)) :=
        up.array _ (holds_expressionForms below)
      exact up.nodeForm _ (by simp [up.objectName, items, up.flag])
  | cast operand target =>
      have inner : holds operand.form := below (.expression operand) (by simp [children])
      exact up.nodeForm _ (by simp [inner, up.dataType])
  | case subject arms otherwise =>
      obtain ⟨front, otherwiseBelow⟩ := Node.All.append_iff.mp below
      obtain ⟨subjectBelow, armsBelow⟩ := Node.All.append_iff.mp front
      have items : holds (.array (armForms arms)) := up.array _ (holds_armForms up armsBelow)
      refine up.nodeForm _ ?_
      simp [throughout_expressionForm? subjectBelow, items,
        throughout_expressionForm? otherwiseBelow]
  | dataType type => exact up.dataType type

/-- What passes up from items and members holds of the form of what stands at a node, if it holds of
the forms of all constants at the node and below. By induction on the tree. -/
theorem Node.formHolds (node : Node)
    (constants : ∀ value, .literal value ∈ node.nodes → holds (Expr.literal value).form) :
    node.FormHolds holds := by
  have told : Node.PassesUp fun node =>
      (∀ value, .literal value ∈ node.nodes → holds (Expr.literal value).form) →
        node.FormHolds holds := by
    intro node below constants
    rw [Node.nodes_eq] at constants
    refine node.formHolds_of_children up (fun child among => below child among ?_) ?_
    · intro value inside
      exact constants value
        (List.mem_cons_of_mem _ (List.mem_flatMap_of_mem among inside))
    · rintro value rfl
      exact constants value (List.mem_cons_self ..)
  exact Node.holds_of_passesUp told node constants

end Nodes

section Nulls

/-- Every null in a form is the value of a constant among some nodes that is null or no finite
number, and the way down to it leads through the form of that constant. -/
def NullsAreConstants (nodes : List Node) (form : Json) : Prop :=
  ∀ path, form.Leads path .null → ∃ front value,
    path = front ++ [.member "value"] ∧ form.Leads front (Expr.literal value).form ∧
      (value = .null ∨ ∃ number, value = .numeric number ∧ number.isFinite = false) ∧
      .literal value ∈ nodes

theorem NullsAreConstants.passesUp (nodes : List Node) :
    PassesUp (NullsAreConstants nodes) where
  bool _ _ leads := by cases leads
  integer _ _ leads := by cases leads
  number _ _ leads := by cases leads
  string _ _ leads := by cases leads
  -- The way to a null leads through an item or a member, and so does the way to its constant.
  array items each path leads := by
    cases leads with
    | item found behind =>
        obtain ⟨front, value, rfl, inner, absent, among⟩ :=
          each _ (List.mem_of_getElem? found) _ behind
        exact ⟨_ :: front, value, rfl, .item found inner, absent, among⟩
  object members each path leads := by
    cases leads with
    | member found behind =>
        obtain ⟨front, value, rfl, inner, absent, among⟩ := each _ found _ behind
        exact ⟨_ :: front, value, rfl, .member found inner, absent, among⟩

/-- The form of a constant is null if the constant is, or if it is a number that is not finite. -/
theorem Literal.form_eq_null {value : Literal} : value.form = .null ↔
    value = .null ∨ ∃ number, value = .numeric number ∧ number.isFinite = false := by
  cases value with
  | numeric number =>
      by_cases finite : number.isFinite = true
      · simp [Literal.form, finite]
      · simp [Literal.form, finite]
  | _ => simp [Literal.form, bigintForm]

/-- No way leads down from the value of a constant. -/
theorem Literal.eq_of_form_leads (value : Literal) {path : List Descent} {inner : Json}
    (leads : value.form.Leads path inner) : path = [] ∧ inner = value.form := by
  have leaf : (∀ items, value.form ≠ .array items) ∧ ∀ members, value.form ≠ .object members := by
    cases value with
    | numeric number => by_cases finite : number.isFinite = true <;> simp [form, finite]
    | _ => simp [form, bigintForm]
  generalize value.form = whole at leads leaf
  cases leads with
  | here => exact ⟨rfl, rfl⟩
  | item => exact absurd rfl (leaf.1 _)
  | member => exact absurd rfl (leaf.2 _)

/-- The only null in the form of a constant is its value. -/
theorem nullsAreConstants_literal {nodes : List Node} {value : Literal}
    (among : .literal value ∈ nodes) : NullsAreConstants nodes (Expr.literal value).form := by
  intro path leads
  cases leads with
  | member found behind =>
      rcases List.mem_cons.mp found with kind | only
      · cases kind
        cases behind
      · cases List.mem_singleton.mp only
        obtain ⟨rfl, absent⟩ := value.eq_of_form_leads behind
        exact ⟨[], value, rfl, .here _, Literal.form_eq_null.mp absent.symm, among⟩

/-- Every null in the form of a statement or an expression is the value of a constant of it that is
null or no finite number: nothing else that is absent is written as null, however deep it lies. -/
theorem nulls_of_form :
    (∀ statement : Statement, NullsAreConstants statement.nodes statement.form) ∧
      ∀ expression : Expr, NullsAreConstants expression.nodes expression.form := by
  refine ⟨fun statement => ?_, fun expression => ?_⟩
  · exact (Node.statement statement).formHolds (NullsAreConstants.passesUp _) fun _ =>
      nullsAreConstants_literal
  · exact (Node.expression expression).formHolds (NullsAreConstants.passesUp _) fun _ =>
      nullsAreConstants_literal

/-- The test whether an infinite number is null has a null at the value of the number, and none
elsewhere. -/
theorem nulls_of_form_infinity :
    let infinity := Expr.literal (.numeric .infinity)
    let path : List Descent := [.member "operand", .member "value"]
    (Expr.unary .isNull infinity).form.Leads path .null ∧
      ∃ front value, path = front ++ [.member "value"] ∧
        (Expr.unary .isNull infinity).form.Leads front (Expr.literal value).form ∧
        (value = .null ∨ ∃ number, value = .numeric number ∧ number.isFinite = false) ∧
        .literal value ∈ (Expr.unary .isNull infinity).nodes := by
  intro infinity path
  have leads : (Expr.unary .isNull infinity).form.Leads path .null := by
    refine .member (List.mem_of_getElem? (i := 2) rfl) ?_
    exact .member (List.mem_of_getElem? (i := 1) rfl) (.here _)
  exact ⟨leads, nulls_of_form.2 _ path leads⟩

end Nulls

end SqlTree
