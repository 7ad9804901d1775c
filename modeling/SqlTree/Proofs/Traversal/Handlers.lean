import Mathlib.Data.List.Basic
import Mathlib.Logic.Function.Basic
import SqlTree.Proofs.Traversal.Preorder
import SqlTree.Traversal.Trace

/-!
# Handlers

A handler records the nodes of its kind, and then takes the walk below them or leaves it. What a
traversal with handlers records is the preorder listing without what lies below the nodes where the
walk is left, and of that the nodes that have a handler. So a handler decides about its own subtree
only, and a kind without a handler hides nothing.
-/

namespace SqlTree

/-- A node of a tree and the nodes above it, the nearest first. -/
structure Place where
  above : List Node
  node : Node

/-- The places of a tree that stands below other nodes, in the order of the preorder listing. -/
def Node.places (above : List Node) (node : Node) : List Place :=
  ⟨above, node⟩ :: node.children.attach.flatMap fun child => child.1.places (node :: above)
termination_by node
decreasing_by exact child.2

theorem Node.places_eq (above : List Node) (node : Node) :
    node.places above = ⟨above, node⟩ :: node.children.flatMap (Node.places (node :: above)) := by
  rw [Node.places]
  conv => rhs; rw [← List.attach_map_subtype_val node.children, List.flatMap_map]

/-- The places of trees in turn. -/
def Forest.places (forest : Forest) : List Place := forest.roots.flatMap (Node.places [])

theorem Node.map_node_places (node : Node) (above : List Node) :
    (node.places above).map Place.node = node.preorder := by
  have told : Node.PassesUp fun node =>
      ∀ above, (node.places above).map Place.node = node.preorder := by
    intro node below above
    rw [Node.places_eq, Node.preorder_eq, List.map_cons, List.map_flatMap]
    exact congrArg _ (List.flatMap_congr fun child inside => below child inside (node :: above))
  exact Node.holds_of_passesUp told node above

theorem Forest.map_node_places (forest : Forest) :
    forest.places.map Place.node = forest.preorder := by
  rw [Forest.places, List.map_flatMap]
  exact List.flatMap_congr fun node _ => node.map_node_places []

/-- What a handler does once it has recorded a node. -/
inductive Handler where
  /-- Takes the walk below the node. -/
  | walk
  /-- Leaves what lies below the node. -/
  | prune
deriving DecidableEq, Repr

/-- The handlers of the kinds of nodes that have one. -/
abbrev Handlers := NodeKind → Option Handler

namespace Handlers

variable (handlers : Handlers)

/-- No walk is left above a place. -/
def reaches (place : Place) : Bool :=
  place.above.all fun node => handlers node.kind ≠ some .prune

/-- The node of a place has a handler. -/
def handles (place : Place) : Bool := (handlers place.node.kind).isSome

/-- The places that are recorded of those of a tree. -/
def recorded (places : List Place) : List Place :=
  (places.filter handlers.reaches).filter handlers.handles

/-- The policy that records where there is a handler, and goes on below as the handler does. -/
def policy : TracePolicy := fun kind =>
  match handlers kind with
  | none => none
  | some .walk => some .walk
  | some .prune => some .prune

/-- The visitor that does something where there is a handler. -/
def visitor {m : Type → Type} [Monad m] (record : Node → m Unit) : Visitor m := fun node walk =>
  match handlers node.kind with
  | none => walk
  | some .walk => do
    record node
    walk
  | some .prune => record node

section Recorded

variable {handlers}

theorem reaches_child {above : List Node} {parent child : Node} :
    handlers.reaches ⟨parent :: above, child⟩ =
      (decide (handlers parent.kind ≠ some .prune) && handlers.reaches ⟨above, parent⟩) :=
  rfl

theorem recorded_cons (place : Place) (places : List Place) :
    handlers.recorded (place :: places) =
      if handlers.reaches place ∧ handlers.handles place
      then place :: handlers.recorded places else handlers.recorded places := by
  by_cases reached : handlers.reaches place <;> by_cases handled : handlers.handles place <;>
    simp [recorded, reached, handled]

theorem recorded_flatMap {α : Type} (parts : α → List Place) (items : List α) :
    handlers.recorded (items.flatMap parts) =
      items.flatMap fun item => handlers.recorded (parts item) := by
  rw [recorded, List.filter_flatMap, List.filter_flatMap]
  rfl

/-- Nothing is recorded below a node where the walk is left. -/
theorem recorded_places_of_not_reaches (node : Node) (above : List Node)
    (left : handlers.reaches ⟨above, node⟩ = false) :
    handlers.recorded (node.places above) = [] := by
  have told : Node.PassesUp fun node => ∀ above, handlers.reaches ⟨above, node⟩ = false →
      handlers.recorded (node.places above) = [] := by
    intro node below above left
    rw [Node.places_eq, recorded_cons, recorded_flatMap, left]
    refine (if_neg fun both => Bool.noConfusion both.1).trans ?_
    refine List.flatMap_eq_nil_iff.mpr fun child inside => below child inside _ ?_
    rw [reaches_child, left, Bool.and_false]
  exact Node.holds_of_passesUp told node above left

end Recorded

section Visits

variable {m : Type → Type} [Monad m] [LawfulMonad m] {handlers} (record : Node → m Unit)

/-- The walk of a node that is reached does something at the recorded places in turn. -/
theorem walk_visitor (node : Node) (above : List Node)
    (reached : handlers.reaches ⟨above, node⟩ = true) :
    node.walk (handlers.visitor record) =
      forM (handlers.recorded (node.places above)) fun place => record place.node := by
  have told : Node.PassesUp fun node => ∀ above, handlers.reaches ⟨above, node⟩ = true →
      node.walk (handlers.visitor record) =
        forM (handlers.recorded (node.places above)) fun place => record place.node := by
    intro node below above reached
    -- Where the walk is taken, the children are reached and their walks follow one another.
    have taken (walks_on : handlers node.kind ≠ some .prune) :
        walks (handlers.visitor record) node.children =
          forM (handlers.recorded (node.children.flatMap (Node.places (node :: above))))
            fun place => record place.node := by
      rw [recorded_flatMap]
      refine forM_flatMap fun child inside => below child inside _ ?_
      rw [reaches_child, reached, Bool.and_true]
      exact decide_eq_true walks_on
    rw [Node.walk_eq, Node.places_eq, recorded_cons, Handlers.visitor]
    cases handler : handlers node.kind with
    | none =>
        have unhandled : ¬(handlers.reaches ⟨above, node⟩ ∧ handlers.handles ⟨above, node⟩) := by
          simp [handles, handler]
        rw [if_neg unhandled]
        exact taken (by simp [handler])
    | some action =>
        have handled : handlers.reaches ⟨above, node⟩ ∧ handlers.handles ⟨above, node⟩ := by
          simp [reached, handles, handler]
        rw [if_pos handled, List.forM_cons]
        cases action with
        | walk => exact congrArg _ (funext fun _ => taken (by simp [handler]))
        | prune =>
            have left : handlers.recorded
                (node.children.flatMap (Node.places (node :: above))) = [] := by
              rw [recorded_flatMap]
              refine List.flatMap_eq_nil_iff.mpr fun child _ => ?_
              refine recorded_places_of_not_reaches child _ ?_
              rw [reaches_child, handler]
              rfl
            rw [left]
            exact bind_pure_unit.symm
  exact Node.holds_of_passesUp told node above reached

/-- A visit with handlers does something at the recorded places in turn. -/
theorem visit_visitor (forest : Forest) :
    forest.visit (handlers.visitor record) =
      forM (handlers.recorded forest.places) fun place => record place.node := by
  rw [Forest.visit_eq_walks, Forest.places, recorded_flatMap]
  exact forM_flatMap fun node _ => walk_visitor record node [] rfl

end Visits

end Handlers

/-- A node as it is recorded in a trace. -/
def Node.event (node : Node) : TraceEvent := ⟨node.kind, node.label⟩

/-- Puts a node behind the events so far. -/
def recordEvent (node : Node) : EStateM String (List TraceEvent) Unit := modify (· ++ [node.event])

/-- To follow the policy of handlers is to record events where there is a handler. -/
theorem Handlers.visitor_policy (handlers : Handlers) :
    handlers.policy.visitor = handlers.visitor recordEvent := by
  funext node walk events
  unfold TracePolicy.visitor TracePolicy.decide Handlers.policy Handlers.visitor
  cases handlers node.kind with
  | none => rfl
  | some action => cases action <;> rfl

theorem forM_recordEvent (places : List Place) (events : List TraceEvent) :
    (forM places fun place => recordEvent place.node) events =
      .ok () (events ++ places.map fun place => place.node.event) := by
  induction places generalizing events with
  | nil => rw [List.map_nil, List.append_nil]; rfl
  | cons place places inductionHypothesis =>
      rw [List.forM_cons]
      refine (inductionHypothesis (events ++ [place.node.event])).trans ?_
      rw [List.append_assoc, List.singleton_append, List.map_cons]

/-- The trace of a visit with handlers. -/
def Handlers.trace (handlers : Handlers) (forest : Forest) : Trace :=
  Trace.ofVisit (forest.visit handlers.policy.visitor)

theorem Handlers.trace_eq (handlers : Handlers) (forest : Forest) :
    handlers.trace forest =
      ⟨(handlers.recorded forest.places).map fun place => place.node.event, none⟩ := by
  rw [Handlers.trace, Handlers.visitor_policy, Handlers.visit_visitor, Trace.ofVisit,
    forM_recordEvent]
  rfl

/-- The events of a trace that are of other kinds. -/
def Trace.others (kind : NodeKind) (trace : Trace) : List TraceEvent :=
  trace.events.filter fun event => event.kind ≠ kind

namespace Handlers

open Function (update)

variable (handlers : Handlers) (kind : NodeKind)

/-- A place is recorded, and not for a node of the kind. -/
def recordsOther (place : Place) : Bool :=
  handlers.reaches place && (handlers.handles place && place.node.kind ≠ kind)

theorem others_trace (forest : Forest) :
    (handlers.trace forest).others kind =
      (forest.places.filter (handlers.recordsOther kind)).map fun place => place.node.event := by
  rw [trace_eq, Trace.others, recorded, List.filter_map, List.filter_filter, List.filter_filter]
  refine congrArg _ (List.filter_congr fun place _ => ?_)
  rw [recordsOther, Bool.and_comm, Bool.and_comm (handlers.handles place)]
  rfl

/-- A handler that takes the walk is no more in the way than none. -/
theorem reaches_update_walk (place : Place) :
    reaches (update handlers kind (some .walk)) place =
      reaches (update handlers kind none) place := by
  refine congrArg (List.all place.above) (funext fun node => ?_)
  by_cases same : node.kind = kind
  · rw [same, Function.update_self, Function.update_self]
    rfl
  · rw [Function.update_of_ne same, Function.update_of_ne same]

/-- Whether other kinds have a handler does not depend on the handler of the kind. -/
theorem handles_update_other (handler : Option Handler) (place : Place) :
    (handles (update handlers kind handler) place && place.node.kind ≠ kind) =
      (handlers.handles place && place.node.kind ≠ kind) := by
  by_cases same : place.node.kind = kind
  · simp [same]
  · rw [handles, Function.update_of_ne same, handles]

/-- Where the kind has no handler, all is reached that is reached otherwise. -/
theorem reaches_update_none {place : Place} (reached : handlers.reaches place = true) :
    reaches (update handlers kind none) place = true := by
  refine List.all_eq_true.mpr fun node above => ?_
  by_cases same : node.kind = kind
  · rw [same, Function.update_self]
    rfl
  · rw [Function.update_of_ne same]
    exact List.all_eq_true.mp reached node above

theorem recordsOther_update_walk :
    recordsOther (update handlers kind (some .walk)) kind =
      recordsOther (update handlers kind none) kind := by
  funext place
  rw [recordsOther, recordsOther, reaches_update_walk, handles_update_other, handles_update_other]

theorem recordsOther_update_none {place : Place}
    (records : handlers.recordsOther kind place = true) :
    recordsOther (update handlers kind none) kind place = true := by
  obtain ⟨reached, handled⟩ := (Bool.and_eq_true _ _).mp records
  rw [recordsOther, handles_update_other, handled, reaches_update_none handlers kind reached]
  rfl

/-- A visit with handlers records, of the preorder listing, the places below no node where the walk
is left, and of these the nodes that have a handler. A handler that takes the walk leaves the events
of the other kinds as they are without it, and no event of another kind is lost without a
handler. -/
theorem trace_recorded (forest : Forest) :
    forest.places.map Place.node = forest.preorder ∧
      Trace.ofVisit (forest.visit handlers.policy.visitor) =
        ⟨((forest.places.filter handlers.reaches).filter handlers.handles).map
          fun place => place.node.event, none⟩ ∧
      ∀ kind,
        (trace (update handlers kind (some .walk)) forest).others kind =
            (trace (update handlers kind none) forest).others kind ∧
          List.Sublist ((handlers.trace forest).others kind)
            ((trace (update handlers kind none) forest).others kind) := by
  refine ⟨forest.map_node_places, handlers.trace_eq forest, fun kind => ⟨?_, ?_⟩⟩
  · rw [others_trace, others_trace, recordsOther_update_walk]
  · rw [others_trace, others_trace]
    exact (List.monotone_filter_right _ fun place =>
      recordsOther_update_none handlers kind).map _

end Handlers

end SqlTree
