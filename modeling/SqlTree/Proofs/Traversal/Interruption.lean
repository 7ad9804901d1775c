import SqlTree.Proofs.Traversal.Agreement
import SqlTree.Proofs.Traversal.Walks

/-!
# Interruption

A traversal with a handler that fails is compared with the same traversal where that handler does
not fail. Both keep a log of their events: every node that is met, and whatever else a handler takes
for an event. The run that fails goes as the other one does up to the event at which it fails, and
ends there, with nothing behind it.

A handler is written out step by step, so that an error ends it wherever the error comes from: what
a handler is written in has no step that withholds the error of a walk.
-/

namespace SqlTree

variable {σ ε : Type}

/-- An event of a traversal: a handler is called at a node, or it comes to an event of its own
there. The state is the one that the handler finds. -/
structure Encounter (σ : Type) where
  node : Node
  state : σ
  entering : Bool

/-- The events of a traversal in the order in which they come. -/
abbrev EventLog (σ : Type) := List (Encounter σ)

/-- Whether a handler is made to fail at the last of the events so far, and with which error. -/
abbrev FailureRule (σ ε : Type) := EventLog σ → Option ε

/-- Where a traversal is made to fail: the events up to the one at which it fails, the state there
and the error. -/
structure Interruption (σ ε : Type) where
  log : EventLog σ
  state : σ
  error : ε

/-- A traversal that has failed there. -/
def Interruption.progress (interruption : Interruption σ ε) : Progress (σ × EventLog σ) ε :=
  ⟨(interruption.state, interruption.log), some interruption.error⟩

namespace FailureRule

/-- No handler is made to fail. -/
def never : FailureRule σ ε := fun _ => none

/-- The first of the events behind a log at which a handler is made to fail. -/
def first? (rule : FailureRule σ ε) (log : EventLog σ) : EventLog σ → Option (Interruption σ ε)
  | [] => none
  | event :: events =>
    match rule (log ++ [event]) with
    | some error => some ⟨log ++ [event], event.state, error⟩
    | none => rule.first? (log ++ [event]) events

section First

variable {rule : FailureRule σ ε} {log : EventLog σ} {event : Encounter σ}

theorem first?_cons_of_some {error : ε} (events : EventLog σ)
    (fails : rule (log ++ [event]) = some error) :
    rule.first? log (event :: events) = some ⟨log ++ [event], event.state, error⟩ := by
  rw [first?, fails]

theorem first?_cons_of_none (events : EventLog σ) (passes : rule (log ++ [event]) = none) :
    rule.first? log (event :: events) = rule.first? (log ++ [event]) events := by
  rw [first?, passes]

theorem first?_append (rule : FailureRule σ ε) (log events others : EventLog σ) :
    rule.first? log (events ++ others) =
      (rule.first? log events).or (rule.first? (log ++ events) others) := by
  induction events generalizing log with
  | nil => rw [List.nil_append, List.append_nil, first?, Option.none_or]
  | cons event events inductionHypothesis =>
      rw [List.cons_append]
      cases fails : rule (log ++ [event]) with
      | some error => rw [first?_cons_of_some _ fails, first?_cons_of_some _ fails, Option.some_or]
      | none =>
          rw [first?_cons_of_none _ fails, first?_cons_of_none _ fails, inductionHypothesis,
            List.append_assoc, List.singleton_append]

variable {its : Encounter σ → Bool} {ordinal : Nat} {error : ε}

end First

end FailureRule

/-- How a run ends that is interrupted or not, next to the run that nothing interrupts. -/
def Interruption.Ends {α : Type} (full cut : α × Progress (σ × EventLog σ) ε) :
    Option (Interruption σ ε) → Prop
  | none => cut = full
  | some interruption => cut.2 = interruption.progress

/-- A run that has failed before leaves what it is given as it is, and goes no further. -/
def Rewriting.Stays {α : Type} (given : α) (rewriting : Rewriting σ ε α) : Prop :=
  ∀ progress, progress.failure.isSome → rewriting progress = (given, progress)

/-- One run is the other, up to where a rule makes the former fail. -/
structure Cuts {α : Type} (rule : FailureRule σ ε) (given : α)
    (full cut : Rewriting (σ × EventLog σ) ε α) : Prop where
  fullStays : full.Stays given
  cutStays : cut.Stays given
  goes : ∀ state log, ∃ events, (full ⟨(state, log), none⟩).2.state.2 = log ++ events ∧
    Interruption.Ends (full ⟨(state, log), none⟩) (cut ⟨(state, log), none⟩)
      (rule.first? log events)

namespace Rewriting.Stays

variable {α β : Type} {rewriting : Rewriting σ ε α} {given : α}

theorem pure (given : α) : Rewriting.Stays (ε := ε) (σ := σ) given (pure given) :=
  fun _ _ => rfl

theorem bind {next : α → Rewriting σ ε β} {make : α → β} (first : rewriting.Stays given)
    (second : ∀ item, (next item).Stays (make item)) :
    (rewriting >>= next).Stays (make given) := by
  intro progress ended
  have kept := first progress ended
  change next (rewriting progress).1 (rewriting progress).2 = _
  rw [kept]
  exact second given progress ended

theorem around {rewriter : Rewriter σ ε} {node : Node} {leave : α → σ → α × σ} :
    (rewriter.around node given leave rewriting).Stays given :=
  fun _ ended => if_pos ended

end Rewriting.Stays

namespace Cuts

variable {α β : Type} {rule : FailureRule σ ε} {given : α}
  {full cut : Rewriting (σ × EventLog σ) ε α}

theorem pure (given : α) : Cuts rule given (pure given) (pure given) where
  fullStays := .pure given
  cutStays := .pure given
  goes _ log := ⟨[], (List.append_nil log).symm, rfl⟩

/-- A run that does not fail goes on, and one that has failed does not: either way the log grows by
the events of the second part, and the second part is interrupted only where the first was not. -/
theorem bind {fullNext cutNext : α → Rewriting (σ × EventLog σ) ε β} {make : α → β}
    (first : Cuts rule given full cut)
    (second : ∀ item, Cuts rule (make item) (fullNext item) (cutNext item)) :
    Cuts rule (make given) (full >>= fullNext) (cut >>= cutNext) where
  fullStays := first.fullStays.bind fun item => (second item).fullStays
  cutStays := first.cutStays.bind fun item => (second item).cutStays
  goes state log := by
    obtain ⟨events, logged, ends⟩ := first.goes state log
    change ∃ events,
      (fullNext (full ⟨(state, log), none⟩).1 (full ⟨(state, log), none⟩).2).2.state.2
        = log ++ events ∧
      Interruption.Ends (fullNext (full ⟨(state, log), none⟩).1 (full ⟨(state, log), none⟩).2)
        (cutNext (cut ⟨(state, log), none⟩).1 (cut ⟨(state, log), none⟩).2) (rule.first? log events)
    generalize full ⟨(state, log), none⟩ = fullRun at logged ends ⊢
    generalize cut ⟨(state, log), none⟩ = cutRun at ends ⊢
    obtain ⟨item, ⟨reached, was⟩, failure⟩ := fullRun
    obtain rfl : was = log ++ events := logged
    have rest : ∃ others,
        (fullNext item ⟨(reached, log ++ events), failure⟩).2.state.2 = log ++ events ++ others ∧
          Interruption.Ends (fullNext item ⟨(reached, log ++ events), failure⟩)
            (cutNext item ⟨(reached, log ++ events), failure⟩)
            (rule.first? (log ++ events) others) := by
      cases failure with
      | none => exact (second item).goes reached (log ++ events)
      | some error =>
          refine ⟨[], ?_, ?_⟩
          · rw [(second item).fullStays _ rfl, List.append_nil]
          · exact ((second item).cutStays _ rfl).trans ((second item).fullStays _ rfl).symm
    obtain ⟨others, goesOn, endsOn⟩ := rest
    refine ⟨events ++ others, goesOn.trans (List.append_assoc _ _ _), ?_⟩
    rw [FailureRule.first?_append]
    cases stop : rule.first? log events with
    | none =>
        rw [stop] at ends
        obtain rfl : cutRun = (item, ⟨(reached, log ++ events), failure⟩) := ends
        exact endsOn
    | some interruption =>
        rw [stop] at ends
        have ended : cutRun.2 = interruption.progress := ends
        have kept := (second cutRun.1).cutStays interruption.progress rfl
        change (cutNext cutRun.1 cutRun.2).2 = interruption.progress
        rw [ended, kept]

theorem map (part : Cuts rule given full cut) (make : α → β) :
    Cuts rule (make given) (do return make (← full)) (do return make (← cut)) :=
  part.bind fun item => .pure (make item)

end Cuts

/-- A visit as a rewriting of nothing. -/
def Rewriting.ofVisit (visit : EStateM ε σ Unit) : Rewriting σ ε Unit := fun progress =>
  ((), progress.after visit)

namespace Rewriting

end Rewriting

/-- What a handler does, step by step, and then nothing more: an error ends it, be it an error of
its own, one that it is made to give at an event, or one of a walk. -/
inductive Conduct (σ ε : Type) where
  | done
  | fail (error : ε)
  | look (next : σ → Conduct σ ε)
  | put (state : σ) (next : Conduct σ ε)
  /-- Comes to an event of its own. -/
  | event (next : Conduct σ ε)
  /-- Takes the walk below its node, which may be done at any time and any number of times. -/
  | walk (next : Conduct σ ε)

/-- What is done at each node. -/
abbrev Handling (σ ε : Type) := Node → Conduct σ ε

section Visits

variable (rule : FailureRule σ ε)

/-- Puts an event into the log, and fails if the rule says so. -/
def FailureRule.meet (node : Node) (entering : Bool) : EStateM ε (σ × EventLog σ) Unit :=
  fun reached =>
    match rule (reached.2 ++ [⟨node, reached.1, entering⟩]) with
    | some error => .error error (reached.1, reached.2 ++ [⟨node, reached.1, entering⟩])
    | none => .ok () (reached.1, reached.2 ++ [⟨node, reached.1, entering⟩])

/-- Does at a node what a handler does. -/
def Conduct.run (node : Node) (walk : EStateM ε (σ × EventLog σ) Unit) :
    Conduct σ ε → EStateM ε (σ × EventLog σ) Unit
  | .done => pure ()
  | .fail error => throw error
  | .look next => do (next (← get).1).run node walk
  | .put state next => do
    modify fun reached => (state, reached.2)
    next.run node walk
  | .event next => do
    rule.meet node false
    next.run node walk
  | .walk next => do
    walk
    next.run node walk

/-- The visitor that calls the handlers and keeps a log. -/
def Handling.visitor (handling : Handling σ ε) : Visitor (EStateM ε (σ × EventLog σ)) :=
  fun node walk => do
    rule.meet node true
    (handling node).run rule node walk

end Visits

section Visits

variable {rule : FailureRule σ ε}

variable (handling : Handling σ ε)

end Visits

section Rewriters

namespace Rewriter

variable {α : Type} {rewriter : Rewriter σ ε} {node : Node} {given : α}
  {leave : α → σ → α × σ} {walk : Rewriting σ ε α} {state reached : σ} {error : ε}

theorem around_of_fail (entered : rewriter.enter node state = (.fail error, reached)) :
    rewriter.around node given leave walk ⟨state, none⟩ = (given, ⟨reached, some error⟩) := by
  simp only [Rewriter.around, entered, Option.isSome_none, Bool.false_eq_true, if_false]

theorem around_of_skip (entered : rewriter.enter node state = (.skip, reached)) :
    rewriter.around node given leave walk ⟨state, none⟩ = (given, ⟨reached, none⟩) := by
  simp only [Rewriter.around, entered, Option.isSome_none, Bool.false_eq_true, if_false]

/-- Edits what a walk returns, unless the walk failed. -/
def leaving (leave : α → σ → α × σ) (run : α × Progress σ ε) : α × Progress σ ε :=
  if run.2.failure.isSome then run
  else ((leave run.1 run.2.state).1, ⟨(leave run.1 run.2.state).2, none⟩)

/-- Nothing is edited where the edit changes nothing. -/
theorem leaving_eq_self {run : α × Progress σ ε}
    (kept : leave run.1 run.2.state = (run.1, run.2.state)) : leaving leave run = run := by
  obtain ⟨walked, reached, _ | error⟩ := run
  · rw [leaving, kept]
    rfl
  · rfl

theorem around_of_descend (entered : rewriter.enter node state = (.descend, reached)) :
    rewriter.around node given leave walk ⟨state, none⟩ = leaving leave (walk ⟨reached, none⟩) := by
  simp only [Rewriter.around, entered, Option.isSome_none, Bool.false_eq_true, if_false]
  rfl

/-- An edit next to a log. -/
def beside (leave : α → σ → α × σ) (body : α) (reached : σ × EventLog σ) : α × (σ × EventLog σ) :=
  ((leave body reached.1).1, ((leave body reached.1).2, reached.2))

/-- The rewriter that keeps a log of the nodes that it enters, and is made to fail there. -/
def logged (rewriter : Rewriter σ ε) (rule : FailureRule σ ε) : Rewriter (σ × EventLog σ) ε where
  enter node reached :=
    match rule (reached.2 ++ [⟨node, reached.1, true⟩]) with
    | some error => (.fail error, (reached.1, reached.2 ++ [⟨node, reached.1, true⟩]))
    | none =>
      ((rewriter.enter node reached.1).1,
        ((rewriter.enter node reached.1).2, reached.2 ++ [⟨node, reached.1, true⟩]))
  leaveStatement := beside rewriter.leaveStatement
  leaveSelect := beside rewriter.leaveSelect
  leaveTable := beside rewriter.leaveTable
  leaveExpression := beside rewriter.leaveExpression
  leaveDataType := beside rewriter.leaveDataType

theorem leaving_beside_log (run : α × Progress (σ × EventLog σ) ε) :
    (leaving (beside leave) run).2.state.2 = run.2.state.2 := by
  rw [leaving]
  split <;> rfl

variable {rule : FailureRule σ ε} {log : EventLog σ}

theorem logged_enter_of_some (fails : rule (log ++ [⟨node, state, true⟩]) = some error) :
    (rewriter.logged rule).enter node (state, log) =
      (.fail error, (state, log ++ [⟨node, state, true⟩])) := by
  simp only [logged, fails]

theorem logged_enter_of_none (passes : rule (log ++ [⟨node, state, true⟩]) = none) :
    (rewriter.logged rule).enter node (state, log) =
      ((rewriter.enter node state).1,
        ((rewriter.enter node state).2, log ++ [⟨node, state, true⟩])) := by
  simp only [logged, passes]

/-- What comes of entering a node with a log: the run fails there, by the rule or by the rewriter,
or the rewriter goes on as it decides. -/
theorem logged_enter_cases (rewriter : Rewriter σ ε) (rule : FailureRule σ ε) (node : Node)
    (state : σ) (log : EventLog σ) :
    (∃ error reached, (rewriter.logged rule).enter node (state, log) =
        (.fail error, (reached, log ++ [⟨node, state, true⟩]))) ∨
      (∃ reached, rewriter.enter node state = (.skip, reached) ∧
        (rewriter.logged rule).enter node (state, log) =
          (.skip, (reached, log ++ [⟨node, state, true⟩]))) ∨
      ∃ reached, rewriter.enter node state = (.descend, reached) ∧
        (rewriter.logged rule).enter node (state, log) =
          (.descend, (reached, log ++ [⟨node, state, true⟩])) := by
  cases fails : rule (log ++ [⟨node, state, true⟩]) with
  | some error => exact .inl ⟨error, state, logged_enter_of_some fails⟩
  | none =>
      have entered : (rewriter.logged rule).enter node (state, log) = _ :=
        logged_enter_of_none fails
      generalize rewriter.enter node state = decided at entered ⊢
      obtain ⟨entry, reached⟩ := decided
      cases entry with
      | descend => exact .inr (.inr ⟨reached, rfl, entered⟩)
      | skip => exact .inr (.inl ⟨reached, rfl, entered⟩)
      | fail error => exact .inl ⟨error, reached, entered⟩

/-- What a rewriter decides on entering a node, as what a handler does. -/
def handling (rewriter : Rewriter σ ε) : Handling σ ε := fun node => .look fun state =>
  .put (rewriter.enter node state).2 <|
    match (rewriter.enter node state).1 with
    | .descend => .walk .done
    | .skip => .done
    | .fail error => .fail error

/-- The visitor that does what a rewriter does on entering nodes calls handlers. -/
theorem logged_visitor (rewriter : Rewriter σ ε) (rule : FailureRule σ ε) :
    (rewriter.logged rule).visitor = rewriter.handling.visitor rule := by
  funext node walk reached
  obtain ⟨state, log⟩ := reached
  cases fails : rule (log ++ [⟨node, state, true⟩]) with
  | some error =>
      simp only [Rewriter.visitor, logged_enter_of_some fails, Handling.visitor, bind,
        EStateM.bind, FailureRule.meet, fails]
  | none =>
      have called : rewriter.handling.visitor rule node walk (state, log) =
          (rewriter.handling node).run rule node walk (state, log ++ [⟨node, state, true⟩]) := by
        simp only [Handling.visitor, bind, EStateM.bind, FailureRule.meet, fails]
      simp only [called, Rewriter.visitor, logged_enter_of_none fails, handling]
      change _ = Conduct.run rule node walk _ ((rewriter.enter node state).2,
        log ++ [⟨node, state, true⟩])
      cases (rewriter.enter node state).1 with
      | descend => exact (congrFun (bind_pure walk) _).symm
      | skip => rfl
      | fail error => rfl

end Rewriter

variable {α : Type} {rule : FailureRule σ ε} {given : α}
  {full cut : Rewriting (σ × EventLog σ) ε α}

theorem Interruption.Ends.leaving {full cut : α × Progress (σ × EventLog σ) ε}
    {stop : Option (Interruption σ ε)} (ends : Interruption.Ends full cut stop)
    (leave : α → σ × EventLog σ → α × (σ × EventLog σ)) :
    Interruption.Ends (Rewriter.leaving leave full) (Rewriter.leaving leave cut) stop := by
  cases stop with
  | none => exact congrArg (Rewriter.leaving leave) ends
  | some interruption =>
      have failed : cut.2 = interruption.progress := ends
      have left : Rewriter.leaving leave cut = cut := if_pos (by rw [failed]; rfl)
      rw [left]
      exact ends

/-- Where a node is entered in the same way, what follows is the same up to the interruption. -/
theorem Cuts.goes_around (below : Cuts rule given full cut)
    {first second : Rewriter (σ × EventLog σ) ε} {node : Node} (leave : α → σ → α × σ)
    {state reached : σ} {was log : EventLog σ} {entry : Entry ε}
    (entered : first.enter node (state, was) = (entry, (reached, log)))
    (same : second.enter node (state, was) = (entry, (reached, log))) :
    ∃ events,
      (first.around node given (Rewriter.beside leave) full ⟨(state, was), none⟩).2.state.2
          = log ++ events ∧
        Interruption.Ends
          (first.around node given (Rewriter.beside leave) full ⟨(state, was), none⟩)
          (second.around node given (Rewriter.beside leave) cut ⟨(state, was), none⟩)
          (rule.first? log events) := by
  cases entry with
  | descend =>
      obtain ⟨events, logged, ends⟩ := below.goes reached log
      rw [Rewriter.around_of_descend entered, Rewriter.around_of_descend same]
      exact ⟨events, (Rewriter.leaving_beside_log _).trans logged, ends.leaving _⟩
  | skip =>
      rw [Rewriter.around_of_skip entered, Rewriter.around_of_skip same]
      exact ⟨[], (List.append_nil log).symm, rfl⟩
  | fail error =>
      rw [Rewriter.around_of_fail entered, Rewriter.around_of_fail same]
      exact ⟨[], (List.append_nil log).symm, rfl⟩

/-- A node is entered in the same way, or it is the one at which the run is made to fail. -/
theorem Cuts.around (below : Cuts rule given full cut) (rewriter : Rewriter σ ε) (node : Node)
    (leave : α → σ → α × σ) :
    Cuts rule given
      ((rewriter.logged .never).around node given (Rewriter.beside leave) full)
      ((rewriter.logged rule).around node given (Rewriter.beside leave) cut) where
  fullStays := .around
  cutStays := .around
  goes state log := by
    have entered : (rewriter.logged .never).enter node (state, log) = _ :=
      Rewriter.logged_enter_of_none rfl
    cases fails : rule (log ++ [⟨node, state, true⟩]) with
    | none =>
        obtain ⟨events, logged, ends⟩ := below.goes_around leave entered
          (Rewriter.logged_enter_of_none fails)
        refine ⟨⟨node, state, true⟩ :: events, ?_, ?_⟩
        · rw [logged, List.append_assoc, List.singleton_append]
        · rw [FailureRule.first?_cons_of_none _ fails]
          exact ends
    | some error =>
        obtain ⟨events, logged, -⟩ := below.goes_around leave entered entered
        refine ⟨⟨node, state, true⟩ :: events, ?_, ?_⟩
        · rw [logged, List.append_assoc, List.singleton_append]
        · rw [FailureRule.first?_cons_of_some _ fails,
            Rewriter.around_of_fail (Rewriter.logged_enter_of_some fails)]
          rfl

end Rewriters

end SqlTree
