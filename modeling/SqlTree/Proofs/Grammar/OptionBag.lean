import Mathlib.Tactic.Tauto
import SqlTree.Proofs.Grammar.Clauses

/-!
# Bags of options

Clauses set the options of a sequence one by one. Where no two share a name, the options hold what
the clauses say and nothing else, whatever the order.
-/

namespace SqlTree

open SqlTree.Parser SqlTree.Grammar

namespace Grammar.SequenceClause

/-- Options and a restart hold what a clause says. -/
def HeldBy (options : SequenceOptions) (restart : Option Restart) : SequenceClause → Prop
  | .dataType type => options.dataType = some type
  | .start value => options.start = some value
  | .increment value => options.increment = some value
  | .minimum bound => options.minimum = some bound
  | .maximum bound => options.maximum = some bound
  | .cache value => options.cache = some value
  | .cycling mode => options.cycling = some mode
  | .ownership owner => options.ownership = some owner
  | .restart target => restart = some target

variable {options : SequenceOptions} {restart : Option Restart} {set asked : SequenceClause}
  {clauses : List SequenceClause}

/-- Setting a clause changes what is held under its name, and only that. -/
theorem heldBy_setIn (option : asked.restart? = none) :
    asked.HeldBy (setIn options set) restart ↔
      asked = set ∨ asked.name ≠ set.name ∧ asked.HeldBy options restart := by
  cases asked <;> cases set <;> simp_all [HeldBy, setIn, name, restart?, eq_comm]

/-- Setting clauses of different names changes what is held under their names, and only that. -/
theorem heldBy_foldl (option : asked.restart? = none) (distinct : (clauses.map name).Nodup) :
    asked.HeldBy (clauses.foldl setIn options) restart ↔
      asked ∈ clauses ∨ asked.name ∉ clauses.map name ∧ asked.HeldBy options restart := by
  induction clauses generalizing options with
  | nil => simp
  | cons set clauses inductionHypothesis =>
      rw [List.map_cons, List.nodup_cons] at distinct
      have apart : asked = set → asked.name ∉ clauses.map name := fun same => same ▸ distinct.1
      rw [List.foldl_cons, inductionHypothesis distinct.2, heldBy_setIn option, List.mem_cons,
        List.map_cons, List.mem_cons]
      tauto

/-- The restart is the one that a clause asks for. -/
theorem restartOf_eq_some {target : Restart} (distinct : (clauses.map name).Nodup) :
    restartOf clauses = some target ↔ .restart target ∈ clauses := by
  induction clauses with
  | nil => simp [restartOf]
  | cons first clauses inductionHypothesis =>
      rw [List.map_cons, List.nodup_cons] at distinct
      have others := inductionHypothesis distinct.2
      unfold restartOf at others ⊢
      rw [List.findSome?_cons, List.mem_cons]
      cases first with
      | restart other =>
          have absent : .restart target ∉ clauses := fun among =>
            distinct.1 (List.mem_map.mpr ⟨_, among, rfl⟩)
          simp [restart?, absent, eq_comm]
      | _ => simpa [restart?] using others

/-- Options hold exactly the clauses that set them, if no two share a name. -/
theorem heldBy_optionsOf (distinct : (clauses.map name).Nodup) :
    asked.HeldBy (optionsOf clauses) (restartOf clauses) ↔ asked ∈ clauses := by
  cases found : asked.restart? with
  | some target =>
      cases asked <;> cases found
      exact restartOf_eq_some distinct
  | none =>
      have nothing : ¬ asked.HeldBy {} (restartOf clauses) := by
        cases asked with
        | restart => cases found
        | _ => simp [HeldBy]
      rw [optionsOf, heldBy_foldl found distinct]
      tauto

end Grammar.SequenceClause

/-- Options and a restart are told by the clauses that they hold. -/
theorem eq_of_heldBy {options others : SequenceOptions} {restart other : Option Restart}
    (same : ∀ clause : SequenceClause,
      clause.HeldBy options restart ↔ clause.HeldBy others other) :
    options = others ∧ restart = other := by
  obtain ⟨dataType, start, increment, minimum, maximum, cache, cycling, ownership⟩ := options
  obtain ⟨dataType', start', increment', minimum', maximum', cache', cycling', ownership'⟩ := others
  have first : dataType = dataType' := Option.ext fun value => same (.dataType value)
  have second : start = start' := Option.ext fun value => same (.start value)
  have third : increment = increment' := Option.ext fun value => same (.increment value)
  have fourth : minimum = minimum' := Option.ext fun bound => same (.minimum bound)
  have fifth : maximum = maximum' := Option.ext fun bound => same (.maximum bound)
  have sixth : cache = cache' := Option.ext fun value => same (.cache value)
  have seventh : cycling = cycling' := Option.ext fun mode => same (.cycling mode)
  have eighth : ownership = ownership' := Option.ext fun owner => same (.ownership owner)
  subst first second third fourth fifth sixth seventh eighth
  exact ⟨rfl, Option.ext fun target => same (.restart target)⟩

end SqlTree
