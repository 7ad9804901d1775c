import Mathlib.Data.List.Chain
import SqlTree.Proofs.Traversal.Children

/-!
# Branches

A way down a tree goes from a node to a child of it, as often as there are children. Not every step
of it leads one level of nesting deeper: operators group to the left, and so do joins, so that what
stands left of them stands on the level of what they make. A branch is a node together with how it
stands below the node above it, which tells where a way down takes a level.
-/

namespace SqlTree

/-- How a node stands below the node above it. -/
inductive Standing where
  /-- On the level of the node above. -/
  | beside
  /-- As the tables that a statement reads from, which commas may cross. -/
  | listed
  /-- On a level of its own. -/
  | nested
deriving DecidableEq, Repr

/-- How the left side of a join stands. -/
def Standing.left : Standing → Standing
  | .listed => .listed
  | _ => .beside

/-- How the right side of a join stands: without parentheses it is a join only behind a comma,
which crosses it with the tables listed before. -/
def Standing.right (standing : Standing) (kind : JoinKind) : Standing :=
  if standing = .listed ∧ kind = .cross then .beside else .nested

/-- A node and how it stands. -/
structure Branch where
  node : Node
  standing : Standing

/-- Whether the arguments of a call are a star on its own, which is read without nesting. -/
def loneStar : (arguments : List Expr) → (distinct : Bool) → Bool
  | [.reference none "*"], false => true
  | _, _ => false

namespace Branch

/-- What stands as a part of its own: tables may be listed, and all else nests. -/
def part (node : Node) : Branch :=
  match node with
  | .table body => ⟨.table body, .listed⟩
  | node => ⟨node, .nested⟩

/-- Whether a way down takes a level here: expressions and joins do where they nest, and queries
among tables do everywhere. -/
def takesLevel : Branch → Bool
  | ⟨.expression _, standing⟩ => standing = .nested
  | ⟨.table (.subquery _ _), _⟩ => true
  | ⟨.table (.join _ _), standing⟩ => standing = .nested
  | _ => false

/-- The branches right below a branch. -/
def below : Branch → List Branch
  | ⟨.table (.join left ⟨kind, right, condition, _⟩), standing⟩ =>
    ⟨.table left, standing.left⟩ :: ⟨.table right, standing.right kind⟩ ::
      (Node.ofExpression? condition).map part
  | ⟨.unary operator operand, _⟩ =>
    [⟨.expression operand, if operator.followsOperand then .beside else .nested⟩]
  | ⟨.binary left _ right, _⟩ => [⟨.expression left, .beside⟩, ⟨.expression right, .nested⟩]
  | ⟨.ternary _ value low high, _⟩ =>
    [⟨.expression value, .beside⟩, ⟨.expression low, .nested⟩, ⟨.expression high, .nested⟩]
  | ⟨.inList operand list _, _⟩ =>
    ⟨.expression operand, .beside⟩ :: (Node.ofExpressions list).map part
  | ⟨.call _ arguments distinct, _⟩ =>
    (Node.ofExpressions arguments).map
      (⟨·, if loneStar arguments distinct then .beside else .nested⟩)
  | ⟨.cast operand target, _⟩ => [⟨.expression operand, .beside⟩, part (.dataType target)]
  | ⟨node, _⟩ => node.children.map part

@[simp] theorem part_node (node : Node) : (part node).node = node := by
  cases node <;> rfl

/-- The nodes of the branches below are the children of the node. -/
theorem below_nodes (branch : Branch) : branch.below.map node = branch.node.children := by
  have parts (nodes : List Node) : (nodes.map part).map Branch.node = nodes := by
    simp [Function.comp_def]
  obtain ⟨node, standing⟩ := branch
  cases node with
  | table body =>
      cases body with
      | join left clause =>
          obtain ⟨kind, right, condition, columns⟩ := clause
          simp only [below, Node.children, List.map_cons, parts, List.cons_append, List.nil_append]
      | table name aliasName => exact parts _
      | subquery query aliasName => exact parts _
  | inList operand list negated => simp only [below, Node.children, List.map_cons, parts]
  | call function arguments distinct =>
      simp only [below, Node.children, List.map_map, Function.comp_def, List.map_id']
  | unary operator operand => rfl
  | binary left operator right => rfl
  | ternary operator value low high => rfl
  | cast operand target => rfl
  | _ => exact parts _

/-- A way down from a branch, which is listed from the top. -/
inductive Leads : Branch → List Branch → Prop where
  | here (branch : Branch) : Leads branch [branch]
  | down {branch next : Branch} {path : List Branch} (below : next ∈ branch.below)
      (leads : Leads next path) : Leads branch (branch :: path)

/-- Every way down from nodes to children of theirs goes along branches. -/
theorem Leads.exists_of_chain {branch : Branch} {nodes : List Node}
    (chain : (branch.node :: nodes).IsChain fun node child => child ∈ node.children) :
    ∃ path, branch.Leads path ∧ path.map node = branch.node :: nodes := by
  induction nodes generalizing branch with
  | nil => exact ⟨_, .here branch, rfl⟩
  | cons child nodes inductionHypothesis =>
      obtain ⟨among, others⟩ := List.isChain_cons_cons.mp chain
      rw [← below_nodes] at among
      obtain ⟨next, below, rfl⟩ := List.mem_map.mp among
      obtain ⟨path, leads, same⟩ := inductionHypothesis others
      exact ⟨_, .down below leads, by rw [List.map_cons, same]⟩

/-- How many nodes of a kind take a level on a way down. -/
def levelsOf (kind : NodeKind) (path : List Branch) : Nat :=
  path.countP fun branch => branch.takesLevel && branch.node.kind == kind

/-- How many nodes of a kind lie on a way down. -/
def nodesOf (kind : NodeKind) (path : List Branch) : Nat :=
  path.countP fun branch => branch.node.kind == kind

theorem nodesOf_cons (kind : NodeKind) (branch : Branch) (path : List Branch) :
    nodesOf kind (branch :: path)
      = nodesOf kind path + if branch.node.kind == kind then 1 else 0 :=
  List.countP_cons

/-- No way down takes more than so many levels. -/
def Within (branch : Branch) (levels : Nat) : Prop :=
  ∀ path, branch.Leads path → path.countP takesLevel ≤ levels

namespace Within

variable {branch next : Branch} {node : Node} {standing : Standing} {levels more : Nat}

theorem mono (within : branch.Within levels) (enough : levels ≤ more) : branch.Within more :=
  fun path leads => Nat.le_trans (within path leads) enough

/-- A branch leaves one level less for those below. -/
theorem of_below (below : ∀ next ∈ branch.below, next.Within levels) :
    branch.Within (levels + 1) := by
  intro path leads
  cases leads with
  | here => exact Nat.le_trans List.countP_le_length (Nat.le_add_left 1 levels)
  | @down _ next path among leads =>
      have rest : path.countP takesLevel ≤ levels := below next among path leads
      rw [List.countP_cons]
      split <;> omega

/-- A branch that takes no level leaves all levels for those below. -/
theorem of_none (untaken : branch.takesLevel = false)
    (below : ∀ next ∈ branch.below, next.Within levels) : branch.Within levels := by
  intro path leads
  cases leads with
  | here =>
      rw [List.countP_cons_of_neg (Bool.eq_false_iff.mp untaken), List.countP_nil]
      exact Nat.zero_le levels
  | @down _ next path among leads =>
      rw [List.countP_cons_of_neg (Bool.eq_false_iff.mp untaken)]
      exact below next among path leads

theorem below (within : branch.Within levels) (among : next ∈ branch.below) :
    next.Within levels := by
  intro path leads
  have whole : (branch :: path).countP takesLevel ≤ levels := within _ (.down among leads)
  have tail : path.countP takesLevel ≤ (branch :: path).countP takesLevel :=
    (List.sublist_cons_self branch path).countP_le
  exact Nat.le_trans tail whole

/-- A branch with the same branches below, which takes no more, stays within the same levels. -/
theorem of_less {other : Branch} (less : other.takesLevel = true → branch.takesLevel = true)
    (same : other.below = branch.below) (within : branch.Within levels) : other.Within levels := by
  have counts (path : List Branch) :
      (other :: path).countP takesLevel ≤ (branch :: path).countP takesLevel := by
    rw [List.countP_cons, List.countP_cons]
    apply Nat.add_le_add_left
    split
    · next takes => exact Nat.le_of_eq (if_pos (less takes)).symm
    · exact Nat.zero_le _
  intro path leads
  cases leads with
  | here => exact Nat.le_trans (counts []) (within _ (.here branch))
  | down among leads => exact Nat.le_trans (counts _) (within _ (.down (same ▸ among) leads))

end Within

theorem below_nested (node : Node) : below ⟨node, .nested⟩ = below ⟨node, .beside⟩ := by
  cases node with
  | table body =>
      cases body with
      | join left clause => cases clause; rfl
      | _ => rfl
  | _ => rfl

/-- What stands on a level of its own could stand on the level above. -/
theorem Within.beside {node : Node} {levels : Nat} (within : Within ⟨node, .nested⟩ levels) :
    Within ⟨node, .beside⟩ levels := by
  refine within.of_less ?_ (below_nested node).symm
  cases node with
  | table body => cases body <;> simp [takesLevel]
  | _ => simp [takesLevel]

/-- Joins that stand on a level may be listed there, where one more crossing needs no parentheses. -/
theorem Within.listed {levels : Nat} :
    {body : TableRef} → Within ⟨.table body, .beside⟩ levels → Within ⟨.table body, .listed⟩ levels
  | .table _ _, _ => of_none rfl (List.forall_mem_nil _)
  | .subquery _ _, within => by
      refine within.of_less ?_ ?_
      · exact fun takes => takes
      · rfl
  | .join left ⟨kind, right, condition, columns⟩, within => by
      have leftWithin : Within ⟨.table left, .beside⟩ levels := within.below List.mem_cons_self
      have rightWithin : Within ⟨.table right, .nested⟩ levels :=
        within.below (List.mem_cons_of_mem _ List.mem_cons_self)
      refine of_none rfl (List.forall_mem_cons.mpr ⟨leftWithin.listed,
        List.forall_mem_cons.mpr ⟨?_, fun next among => ?_⟩⟩)
      · rw [Standing.right]
        split
        · exact rightWithin.beside
        · exact rightWithin
      · exact within.below (List.mem_cons_of_mem _ (List.mem_cons_of_mem _ among))

end Branch

/-- A node takes one of so many levels, and all below it stays on the levels that are left. -/
def Node.NestsWithin (node : Node) (levels : Nat) : Prop :=
  ∃ inner < levels, ∀ next ∈ Branch.below ⟨node, .beside⟩, next.Within inner

namespace Node.NestsWithin

variable {node : Node} {levels : Nat}

theorem nested (nests : node.NestsWithin levels) : Branch.Within ⟨node, .nested⟩ levels := by
  obtain ⟨inner, less, below⟩ := nests
  rw [← Branch.below_nested] at below
  exact (Branch.Within.of_below below).mono less

theorem beside (nests : node.NestsWithin levels) : Branch.Within ⟨node, .beside⟩ levels :=
  nests.nested.beside

/-- What stays within some levels with all below it nests within one more. -/
theorem of_within (within : Branch.Within ⟨node, .beside⟩ levels) :
    node.NestsWithin (levels + 1) :=
  ⟨levels, Nat.lt_succ_self levels, fun _ => within.below⟩

/-- A query is a level deep as an expression, just as on its own. -/
theorem expression {query : Select} (nests : (Node.select query).NestsWithin levels) :
    (Node.expression (.select query)).NestsWithin levels := by
  obtain ⟨inner, less, below⟩ := nests
  refine ⟨inner, less, List.forall_mem_singleton.mpr ?_⟩
  exact .of_none rfl below

/-- A query among tables takes a level wherever it stands. -/
theorem subquery {query : Select} (nests : (Node.select query).NestsWithin levels)
    (aliasName : String) (standing : Standing) :
    Branch.Within ⟨.table (.subquery query aliasName), standing⟩ levels := by
  obtain ⟨inner, less, below⟩ := nests
  refine (Branch.Within.of_below ?_).mono less
  exact List.forall_mem_singleton.mpr (.of_none rfl below)

end Node.NestsWithin

end SqlTree
