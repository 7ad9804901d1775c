import SqlTree.Traversal.Rewrite
import SqlTree.Traversal.Visit

/-!
# Traces

A trace is the list of the nodes that a traversal meets. A policy says, for each kind of node,
whether the nodes of that kind are recorded and what is done there.
-/

namespace SqlTree

/-- What is done at a recorded node. -/
inductive TraceAction where
  /-- Go on below. -/
  | walk
  /-- Do not go on below. -/
  | prune
  /-- Do not go on below the node with this ordinal among those of its kind. -/
  | pruneAt (ordinal : Nat)
  /-- End the traversal at the node with this ordinal among those of its kind. -/
  | failAt (ordinal : Nat)
deriving DecidableEq, Repr

/-- The action for each kind of node that is recorded. -/
abbrev TracePolicy := NodeKind → Option TraceAction

/-- A recorded node. -/
structure TraceEvent where
  kind : NodeKind
  label : String
deriving DecidableEq, Repr

/-- A recorded node on one line. -/
def TraceEvent.text (event : TraceEvent) : String := event.kind.name ++ " " ++ event.label

/-- What a trace decides at a node, and the events so far. -/
def TracePolicy.decide (policy : TracePolicy) (node : Node) (events : List TraceEvent) :
    Entry String × List TraceEvent :=
  match policy node.kind with
  | none => (.descend, events)
  | some action =>
    let event : TraceEvent := ⟨node.kind, node.label⟩
    let events := events ++ [event]
    let ordinal := (events.filter fun other => other.kind = event.kind).length
    match action with
    | .walk => (.descend, events)
    | .prune => (.skip, events)
    | .pruneAt wanted => (if ordinal = wanted then .skip else .descend, events)
    | .failAt wanted => (if ordinal = wanted then .fail event.text else .descend, events)

/-- The visitor that follows a policy. -/
def TracePolicy.visitor (policy : TracePolicy) : Visitor (EStateM String (List TraceEvent)) :=
  fun node walk => do
    let (entry, events) := policy.decide node (← get)
    set events
    match entry with
    | .descend => walk
    | .skip => pure ()
    | .fail error => throw error

/-- The rewriter that follows a policy and edits nothing. -/
def TracePolicy.rewriter (policy : TracePolicy) : Rewriter (List TraceEvent) String where
  enter := policy.decide

/-- The events of a traversal, and the event that ended it. -/
structure Trace where
  events : List TraceEvent
  aborted : Option String
deriving DecidableEq, Repr

/-- The trace of a traversal that visits nodes. -/
def Trace.ofVisit (visit : EStateM String (List TraceEvent) Unit) : Trace :=
  match visit [] with
  | .ok _ events => ⟨events, none⟩
  | .error error events => ⟨events, some error⟩

/-- The trace of a traversal that rewrites nodes. -/
def Trace.ofRewriting {α : Type} (rewriting : Rewriting (List TraceEvent) String α) : Trace :=
  let (_, progress) := rewriting ⟨[], none⟩
  ⟨progress.state, progress.failure⟩

end SqlTree
