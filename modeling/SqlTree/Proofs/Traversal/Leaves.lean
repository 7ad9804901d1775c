import SqlTree.Proofs.Traversal.Interruption
import SqlTree.Proofs.Traversal.Preorder

/-!
# Leaves

A leaf is a node of a kind that nothing lies below: a reference, a constant, a parameter, a table
that is named, a data type, or a statement that drops sequences. A tree has its leaves in the order
in which they are met, and it is refilled with other leaves by putting them in the places of its own
in that order. A rewriting that edits leaves returns the tree that it was given, refilled: with what
it made of the leaves that it handled, and with those that it did not get to as they were.
-/

namespace SqlTree

variable {σ ε : Type}

/-- Whether an expression has no parts that are met. -/
def Expr.isLeaf : Expr → Bool
  | .reference .. | .literal .. | .parameter .. => true
  | _ => false

/-- Whether a table is one that is named. -/
def TableRef.isLeaf : TableRef → Bool
  | .table .. => true
  | _ => false

/-- Whether a statement has no parts that are met, whatever it says. -/
def Statement.isLeaf : Statement → Bool
  | .dropSequence .. => true
  | _ => false

/-- What stands at a leaf. -/
inductive Leaf where
  | statement (body : Statement)
  | table (body : TableRef)
  | expression (body : Expr)
  | dataType (type : DataType)

namespace Node

/-- The leaf that a node is. -/
def leaf? : Node → Option Leaf
  | .reference qualifier column => some (.expression (.reference qualifier column))
  | .literal value => some (.expression (.literal value))
  | .parameter name => some (.expression (.parameter name))
  | .dropSequence body => some (.statement (.dropSequence body))
  | .table (.table name aliasName) => some (.table (.table name aliasName))
  | .dataType type => some (.dataType type)
  | _ => none

/-- Whether a node is what an expression or a statement is, and is edited along with it. -/
def isEnclosed : Node → Bool
  | .table _ | .dataType _ => false
  | _ => true

end Node

/-- The leaves of trees in turn. -/
def leavesMet (nodes : List Node) : List Leaf := (nodes.flatMap Node.preorder).filterMap Node.leaf?

/-- The leaves of a tree, in the order in which they are met. -/
def Forest.leaves (forest : Forest) : List Leaf := leavesMet forest.roots

theorem leavesMet_append (nodes others : List Node) :
    leavesMet (nodes ++ others) = leavesMet nodes ++ leavesMet others := by
  rw [leavesMet, List.flatMap_append, List.filterMap_append]
  rfl

/-- The leaf that a node is comes before the leaves below it. -/
theorem leavesMet_singleton (node : Node) :
    leavesMet [node] = node.leaf?.toList ++ leavesMet node.children := by
  rw [leavesMet, List.flatMap_singleton, Node.preorder_eq, List.filterMap_cons]
  cases node.leaf? <;> rfl

namespace Rewriter

/-- Only leaves are edited. -/
structure EditsLeaves (rewriter : Rewriter σ ε) : Prop where
  statement : ∀ body state, body.isLeaf = false → rewriter.leaveStatement body state = (body, state)
  select : ∀ body state, rewriter.leaveSelect body state = (body, state)
  table : ∀ body state, body.isLeaf = false → rewriter.leaveTable body state = (body, state)
  expression : ∀ body state, body.isLeaf = false →
    rewriter.leaveExpression body state = (body, state)

/-- Puts leaves in the places of the leaves of a tree, in the order in which these are met. The
state holds those that are left over. -/
def refilling : Rewriter (List Leaf) Empty where
  leaveStatement body leaves :=
    match body.isLeaf, leaves with
    | true, .statement other :: leaves => (other, leaves)
    | _, leaves => (body, leaves)
  leaveTable body leaves :=
    match body.isLeaf, leaves with
    | true, .table other :: leaves => (other, leaves)
    | _, leaves => (body, leaves)
  leaveExpression body leaves :=
    match body.isLeaf, leaves with
    | true, .expression other :: leaves => (other, leaves)
    | _, leaves => (body, leaves)
  leaveDataType type leaves :=
    match leaves with
    | .dataType other :: leaves => (other, leaves)
    | leaves => (type, leaves)

theorem refilling_editsLeaves : refilling.EditsLeaves where
  statement body leaves compound := by simp only [refilling, compound]
  select _ _ := rfl
  table body leaves compound := by simp only [refilling, compound]
  expression body leaves compound := by simp only [refilling, compound]

/-- What becomes of a leaf that is edited. -/
def edited (rewriter : Rewriter σ ε) (state : σ) : Leaf → Leaf
  | .statement body => .statement (rewriter.leaveStatement body state).1
  | .table body => .table (rewriter.leaveTable body state).1
  | .expression body => .expression (rewriter.leaveExpression body state).1
  | .dataType type => .dataType (rewriter.leaveDataType type state).1

/-- The leaves that are done with once an event is over: the leaf that the node is, or all leaves
of the node where the rewriter does not go on below it. -/
def found (rewriter : Rewriter σ ε) (event : Encounter σ) : List Leaf :=
  match (rewriter.enter event.node event.state).1 with
  | .skip => leavesMet [event.node]
  | _ => event.node.leaf?.toList

/-- What stands in the places of the leaves that are done with. A leaf is edited in the state that
the rewriter is in once it has entered it. Where the rewriter does not go on below a node, nothing
is edited there, save for an expression or a statement that the node is and that was entered. -/
def left (rewriter : Rewriter σ ε) (event : Encounter σ) : List Leaf :=
  match rewriter.enter event.node event.state with
  | (.skip, state) =>
    if event.node.isEnclosed ∧ event.node.leaf?.isSome
    then event.node.leaf?.toList.map (rewriter.edited state)
    else leavesMet [event.node]
  | (_, state) => event.node.leaf?.toList.map (rewriter.edited state)

variable {rewriter : Rewriter σ ε} {node : Node} {state reached : σ} {entering : Bool}

theorem found_of_descend (entered : rewriter.enter node state = (.descend, reached)) :
    rewriter.found ⟨node, state, entering⟩ = node.leaf?.toList := by
  rw [found, entered]

theorem found_of_skip (entered : rewriter.enter node state = (.skip, reached)) :
    rewriter.found ⟨node, state, entering⟩ = leavesMet [node] := by
  rw [found, entered]

theorem left_of_descend (entered : rewriter.enter node state = (.descend, reached)) :
    rewriter.left ⟨node, state, entering⟩ = node.leaf?.toList.map (rewriter.edited reached) := by
  rw [left, entered]

theorem left_of_skip (entered : rewriter.enter node state = (.skip, reached))
    (spared : ¬ (node.isEnclosed ∧ node.leaf?.isSome)) :
    rewriter.left ⟨node, state, entering⟩ = leavesMet [node] := by
  rw [left, entered]
  exact if_neg spared

theorem left_of_skip_enclosed (entered : rewriter.enter node state = (.skip, reached))
    (enclosed : node.isEnclosed ∧ node.leaf?.isSome) :
    rewriter.left ⟨node, state, entering⟩ = node.leaf?.toList.map (rewriter.edited reached) := by
  rw [left, entered]
  exact if_pos enclosed

end Rewriter

/-- What a run has done to the leaves that were its own to meet: those of the events that it handled
are done with, and a run that fails has its last event and what lies behind it left. -/
def Progress.Handles (progress : Progress (σ × EventLog σ) ε) (log handled : EventLog σ)
    (unhandled : List Leaf) : Prop :=
  match progress.failure with
  | none => progress.state.2 = log ++ handled ∧ unhandled = []
  | some _ => ∃ last behind, progress.state.2 = log ++ handled ++ [last] ∧
      unhandled = last.node.leaf?.toList ++ behind

theorem Progress.Handles.append {progress : Progress (σ × EventLog σ) ε}
    {log handled more : EventLog σ} {unhandled : List Leaf}
    (handles : progress.Handles (log ++ handled) more unhandled) :
    progress.Handles log (handled ++ more) unhandled := by
  obtain ⟨reached, _ | error⟩ := progress
  · obtain ⟨logged, ends⟩ := handles
    exact ⟨logged.trans (List.append_assoc _ _ _), ends⟩
  · obtain ⟨last, behind, logged, ends⟩ := handles
    exact ⟨last, behind, by rw [logged, List.append_assoc log], ends⟩

/-- A rewriting returns what it is given, refilled with what it left of the leaves. -/
structure Refills {α : Type} (rewriter : Rewriter σ ε) (given : α) (nodes : List Node)
    (rewriting : Rewriting (σ × EventLog σ) ε α) (refilling : Rewriting (List Leaf) Empty α) :
    Prop where
  stays : rewriting.Stays given
  same : ∀ rest, refilling ⟨leavesMet nodes ++ rest, none⟩ = (given, ⟨rest, none⟩)
  edits : ∀ state log, ∃ handled unhandled,
    leavesMet nodes = handled.flatMap rewriter.found ++ unhandled ∧
      (∀ rest, refilling ⟨handled.flatMap rewriter.left ++ unhandled ++ rest, none⟩
        = ((rewriting ⟨(state, log), none⟩).1, ⟨rest, none⟩)) ∧
      (rewriting ⟨(state, log), none⟩).2.Handles log handled unhandled

namespace Refills

variable {α β : Type} {rewriter : Rewriter σ ε} {given : α} {nodes others : List Node}
  {rewriting : Rewriting (σ × EventLog σ) ε α} {refilling : Rewriting (List Leaf) Empty α}

theorem pure (given : α) : Refills rewriter given [] (pure given) (pure given) where
  stays := .pure given
  same _ := rfl
  edits _ log := ⟨[], [], rfl, fun _ => rfl, (List.append_nil log).symm, rfl⟩

/-- The leaves of the second part are left behind those of the first, and are not touched where the
first part fails. -/
theorem bind {next : α → Rewriting (σ × EventLog σ) ε β}
    {refillNext : α → Rewriting (List Leaf) Empty β} {make : α → β}
    (first : Refills rewriter given nodes rewriting refilling)
    (second : ∀ item, Refills rewriter (make item) others (next item) (refillNext item)) :
    Refills rewriter (make given) (nodes ++ others) (rewriting >>= next)
      (refilling >>= refillNext) where
  stays := first.stays.bind fun item => (second item).stays
  same rest := by
    change refillNext (refilling _).1 (refilling _).2 = _
    rw [leavesMet_append, List.append_assoc, first.same]
    exact (second given).same rest
  edits state log := by
    obtain ⟨handled, unhandled, met, refilled, done⟩ := first.edits state log
    change ∃ handled unhandled,
      leavesMet (nodes ++ others) = handled.flatMap rewriter.found ++ unhandled ∧
        (∀ rest,
          refillNext (refilling ⟨handled.flatMap rewriter.left ++ unhandled ++ rest, none⟩).1
              (refilling ⟨handled.flatMap rewriter.left ++ unhandled ++ rest, none⟩).2 =
            ((next (rewriting ⟨(state, log), none⟩).1 (rewriting ⟨(state, log), none⟩).2).1,
              ⟨rest, none⟩)) ∧
        (next (rewriting ⟨(state, log), none⟩).1 (rewriting ⟨(state, log), none⟩).2).2.Handles log
          handled unhandled
    generalize rewriting ⟨(state, log), none⟩ = run at refilled done ⊢
    obtain ⟨item, ⟨reached, was⟩, failure⟩ := run
    cases failure with
    | some error =>
        obtain ⟨last, behind, logged, ends⟩ := done
        have kept := (second item).stays ⟨(reached, was), some error⟩ rfl
        refine ⟨handled, unhandled ++ leavesMet others, ?_, fun rest => ?_, ?_⟩
        · rw [leavesMet_append, met, List.append_assoc]
        · rw [← List.append_assoc, List.append_assoc (_ ++ unhandled), refilled, kept]
          exact (second item).same rest
        · rw [kept]
          exact ⟨last, behind ++ leavesMet others, logged, by rw [ends, List.append_assoc]⟩
    | none =>
        obtain ⟨rfl, rfl⟩ : was = log ++ handled ∧ unhandled = [] := done
        obtain ⟨more, left, metNext, refilledNext, doneNext⟩ :=
          (second item).edits reached (log ++ handled)
        refine ⟨handled ++ more, left, ?_, fun rest => ?_, ?_⟩
        · rw [leavesMet_append, met, metNext, List.append_nil, List.flatMap_append,
            List.append_assoc]
        · rw [List.flatMap_append, List.append_assoc, List.append_assoc]
          have firstRefilled := refilled (more.flatMap rewriter.left ++ (left ++ rest))
          rw [List.append_nil] at firstRefilled
          rw [firstRefilled, ← List.append_assoc]
          exact refilledNext rest
        · exact doneNext.append

theorem map (part : Refills rewriter given nodes rewriting refilling) (make : α → β) :
    Refills rewriter (make given) nodes (do return make (← rewriting))
      (do return make (← refilling)) := by
  have mapped := part.bind fun item => (.pure (make item) : Refills rewriter (make item) [] _ _)
  rwa [List.append_nil] at mapped

/-- A node that is no leaf is refilled by refilling what lies below it. -/
theorem refilling_around {node : Node} {leave : α → List Leaf → α × List Leaf}
    {leaves rest left : List Leaf} {body edited : α}
    (below : refilling ⟨leaves, none⟩ = (body, ⟨rest, none⟩))
    (left_eq : leave body rest = (edited, left)) :
    Rewriter.refilling.around node given leave refilling ⟨leaves, none⟩
      = (edited, ⟨left, none⟩) := by
  rw [Rewriter.around_of_descend rfl, below, Rewriter.leaving]
  change ((leave body rest).1, Progress.mk (leave body rest).2 none) = _
  rw [left_eq]

/-- A node that is no leaf is not edited, so that its leaves are those below it. -/
theorem inner {node : Node} (leave : α → σ → α × σ) {refillLeave : α → List Leaf → α × List Leaf}
    (below : Refills rewriter given node.children rewriting refilling)
    (compound : node.leaf? = none)
    (kept : ∀ progress state,
      leave (rewriting progress).1 state = ((rewriting progress).1, state))
    (refillKept : ∀ progress leaves,
      refillLeave (refilling progress).1 leaves = ((refilling progress).1, leaves))
    (rule : FailureRule σ ε) :
    Refills rewriter given [node]
      ((rewriter.logged rule).around node given (Rewriter.beside leave) rewriting)
      (Rewriter.refilling.around node given refillLeave refilling) := by
  have inside : leavesMet [node] = leavesMet node.children := by
    rw [leavesMet_singleton, compound]
    rfl
  have refills {leaves rest : List Leaf} {body : α}
      (run : refilling ⟨leaves, none⟩ = (body, ⟨rest, none⟩)) :
      Rewriter.refilling.around node given refillLeave refilling ⟨leaves, none⟩
        = (body, ⟨rest, none⟩) := by
    have plain := refillKept ⟨leaves, none⟩ rest
    rw [run] at plain
    exact refilling_around run plain
  have same (rest : List Leaf) := refills (inside ▸ below.same rest)
  refine ⟨.around, same, fun state log => ?_⟩
  obtain ⟨error, reached, entered⟩ | ⟨reached, decided, entered⟩ | ⟨reached, decided, entered⟩ :=
    rewriter.logged_enter_cases rule node state log
  · rw [Rewriter.around_of_fail entered]
    exact ⟨[], leavesMet [node], rfl, same, _, leavesMet node.children,
      by rw [List.append_nil], leavesMet_singleton node⟩
  · rw [Rewriter.around_of_skip entered]
    refine ⟨[⟨node, state, true⟩], [], ?_, fun rest => ?_, rfl, rfl⟩
    · rw [List.flatMap_singleton, Rewriter.found_of_skip decided, List.append_nil]
    · rw [List.flatMap_singleton, Rewriter.left_of_skip decided (by simp [compound]),
        List.append_nil]
      exact same rest
  · obtain ⟨handled, unhandled, met, refilled, handles⟩ :=
      below.edits reached (log ++ [⟨node, state, true⟩])
    have untouched : Rewriter.leaving (Rewriter.beside leave)
        (rewriting ⟨(reached, log ++ [⟨node, state, true⟩]), none⟩) =
        rewriting ⟨(reached, log ++ [⟨node, state, true⟩]), none⟩ := by
      refine Rewriter.leaving_eq_self ?_
      rw [Rewriter.beside, kept]
    rw [Rewriter.around_of_descend entered, untouched]
    refine ⟨⟨node, state, true⟩ :: handled, unhandled, ?_, fun rest => ?_, handles.append⟩
    · rw [List.flatMap_cons, Rewriter.found_of_descend decided, compound, inside, met]
      rfl
    · rw [List.flatMap_cons, Rewriter.left_of_descend decided, compound]
      exact refills (refilled rest)

section Leaf

variable {make : α → Leaf} {node inner outer : Node} {leave : α → σ → α × σ}
  {refillLeave : α → List Leaf → α × List Leaf}

/-- The run of a rewriting that meets one leaf: it fails at the leaf or before it, or it is done
with the leaf and returns what it left there. -/
theorem ofLeaf (met : leavesMet nodes = [make given])
    (refills : ∀ body rest, refilling ⟨make body :: rest, none⟩ = (body, ⟨rest, none⟩))
    (stays : rewriting.Stays given)
    (runs : ∀ state log,
      (∃ handled last reached error, rewriting ⟨(state, log), none⟩ =
          (given, ⟨(reached, log ++ handled ++ [last]), some error⟩) ∧
        handled.flatMap rewriter.found = [] ∧ handled.flatMap rewriter.left = [] ∧
        ∃ behind, [make given] = last.node.leaf?.toList ++ behind) ∨
      ∃ handled body reached, rewriting ⟨(state, log), none⟩ =
          (body, ⟨(reached, log ++ handled), none⟩) ∧
        handled.flatMap rewriter.found = [make given] ∧
        handled.flatMap rewriter.left = [make body]) :
    Refills rewriter given nodes rewriting refilling where
  stays := stays
  same rest := by
    rw [met]
    exact refills given rest
  edits state log := by
    obtain ⟨handled, last, reached, error, run, found, left, behind, ends⟩ |
      ⟨handled, body, reached, run, found, left⟩ := runs state log
    · refine ⟨handled, [make given], ?_, fun rest => ?_, ?_⟩
      · rw [met, found, List.nil_append]
      · rw [left, run]
        exact refills given rest
      · rw [run]
        exact ⟨last, behind, rfl, ends⟩
    · refine ⟨handled, [], ?_, fun rest => ?_, ?_⟩
      · rw [met, found, List.append_nil]
      · rw [left, run]
        exact refills body rest
      · rw [run]
        exact ⟨rfl, rfl⟩

/-- A leaf that is edited where it is met, if it is not left aside. -/
theorem whole (make : α → Leaf) (leaf : node.leaf? = some (make given)) (bare : node.children = [])
    (apart : node.isEnclosed = false)
    (edited : ∀ state, rewriter.edited state (make given) = make (leave given state).1)
    (puts : ∀ body rest, refillLeave given (make body :: rest) = (body, rest))
    (rule : FailureRule σ ε) :
    Refills rewriter given [node]
      ((rewriter.logged rule).around node given (Rewriter.beside leave) (Pure.pure given))
      (Rewriter.refilling.around node given refillLeave (Pure.pure given)) := by
  have met : leavesMet [node] = [make given] := by
    rw [leavesMet_singleton, leaf, bare]
    rfl
  refine ofLeaf met (fun body rest => refilling_around rfl (puts body rest)) .around ?_
  intro state log
  obtain ⟨error, reached, entered⟩ | ⟨reached, decided, entered⟩ | ⟨reached, decided, entered⟩ :=
    rewriter.logged_enter_cases rule node state log
  · refine .inl ⟨[], ⟨node, state, true⟩, reached, error, ?_, rfl, rfl, [], ?_⟩
    · rw [Rewriter.around_of_fail entered, List.append_nil]
    · rw [leaf]
      rfl
  · refine .inr ⟨[⟨node, state, true⟩], given, reached, Rewriter.around_of_skip entered, ?_, ?_⟩
    · rw [List.flatMap_singleton, Rewriter.found_of_skip decided, met]
    · rw [List.flatMap_singleton, Rewriter.left_of_skip decided (by simp [apart]), met]
  · refine .inr ⟨[⟨node, state, true⟩], (leave given reached).1, (leave given reached).2,
      Rewriter.around_of_descend entered, ?_, ?_⟩
    · rw [List.flatMap_singleton, Rewriter.found_of_descend decided, leaf]
      rfl
    · rw [List.flatMap_singleton, Rewriter.left_of_descend decided, leaf]
      exact congrArg (fun leaf => [leaf]) (edited reached)

/-- Such a leaf is met, before it is edited, or the run fails there. -/
theorem enclosed_met (leaf : inner.leaf? = some (make given)) (bare : inner.children = [])
    (within : inner.isEnclosed) (rule : FailureRule σ ε) (state : σ) (log : EventLog σ) :
    (∃ error reached, (rewriter.logged rule).around inner given Prod.mk (Pure.pure given)
        ⟨(state, log), none⟩ = (given, ⟨(reached, log ++ [⟨inner, state, true⟩]), some error⟩)) ∨
      ∃ reached, (rewriter.logged rule).around inner given Prod.mk (Pure.pure given)
          ⟨(state, log), none⟩ = (given, ⟨(reached, log ++ [⟨inner, state, true⟩]), none⟩) ∧
        rewriter.found ⟨inner, state, true⟩ = [make given] ∧
        rewriter.left ⟨inner, state, true⟩ = [rewriter.edited reached (make given)] := by
  obtain ⟨error, reached, entered⟩ | ⟨reached, decided, entered⟩ | ⟨reached, decided, entered⟩ :=
    rewriter.logged_enter_cases rule inner state log
  · exact .inl ⟨error, reached, Rewriter.around_of_fail entered⟩
  · refine .inr ⟨reached, Rewriter.around_of_skip entered, ?_, ?_⟩
    · rw [Rewriter.found_of_skip decided, leavesMet_singleton, leaf, bare]
      rfl
    · rw [Rewriter.left_of_skip_enclosed decided ⟨within, by rw [leaf]; rfl⟩, leaf]
      rfl
  · refine .inr ⟨reached, Rewriter.around_of_descend entered, ?_, ?_⟩
    · rw [Rewriter.found_of_descend decided, leaf]
      rfl
    · rw [Rewriter.left_of_descend decided, leaf]
      rfl

/-- A leaf that an expression or a statement is, and that is edited along with it. -/
theorem enclosed (make : α → Leaf) (leaf : inner.leaf? = some (make given))
    (bare : inner.children = []) (within : inner.isEnclosed) (compound : outer.leaf? = none)
    (holds : outer.children = [inner])
    (edited : ∀ state, rewriter.edited state (make given) = make (leave given state).1)
    (puts : ∀ body rest, refillLeave given (make body :: rest) = (body, rest))
    (rule : FailureRule σ ε) :
    Refills rewriter given [outer]
      ((rewriter.logged rule).around outer given (Rewriter.beside leave)
        ((rewriter.logged rule).around inner given Prod.mk (Pure.pure given)))
      (Rewriter.refilling.around outer given refillLeave
        (Rewriter.refilling.around inner given Prod.mk (Pure.pure given))) := by
  have met : leavesMet [outer] = [make given] := by
    rw [leavesMet_singleton, compound, holds, leavesMet_singleton, leaf, bare]
    rfl
  refine ofLeaf met
    (fun body rest => refilling_around (refilling_around rfl rfl) (puts body rest)) .around ?_
  intro state log
  obtain ⟨error, reached, entered⟩ | ⟨reached, decided, entered⟩ | ⟨reached, decided, entered⟩ :=
    rewriter.logged_enter_cases rule outer state log
  · refine .inl ⟨[], ⟨outer, state, true⟩, reached, error, ?_, rfl, rfl, [make given], ?_⟩
    · rw [Rewriter.around_of_fail entered, List.append_nil]
    · rw [compound]
      rfl
  · refine .inr ⟨[⟨outer, state, true⟩], given, reached, Rewriter.around_of_skip entered, ?_, ?_⟩
    · rw [List.flatMap_singleton, Rewriter.found_of_skip decided, met]
    · rw [List.flatMap_singleton, Rewriter.left_of_skip decided (by simp [compound]), met]
  · have foundNothing : rewriter.found ⟨outer, state, true⟩ = [] := by
      rw [Rewriter.found_of_descend decided, compound]
      rfl
    have leftNothing : rewriter.left ⟨outer, state, true⟩ = [] := by
      rw [Rewriter.left_of_descend decided, compound]
      rfl
    rw [Rewriter.around_of_descend entered]
    obtain ⟨error, last, run⟩ | ⟨last, run, found, left⟩ := enclosed_met leaf bare within rule
      reached (log ++ [⟨outer, state, true⟩])
    · refine .inl ⟨[⟨outer, state, true⟩], ⟨inner, reached, true⟩, last, error, ?_, ?_, ?_, [], ?_⟩
      · rw [run]
        rfl
      · rw [List.flatMap_singleton, foundNothing]
      · rw [List.flatMap_singleton, leftNothing]
      · rw [leaf]
        rfl
    · refine .inr ⟨[⟨outer, state, true⟩, ⟨inner, reached, true⟩], (leave given last).1,
        (leave given last).2, ?_, ?_, ?_⟩
      · rw [run, List.append_assoc]
        rfl
      · rw [List.flatMap_cons, List.flatMap_singleton, foundNothing, found]
        rfl
      · rw [List.flatMap_cons, List.flatMap_singleton, leftNothing, left, edited]
        rfl

end Leaf

end Refills

end SqlTree
