import SqlTree.Proofs.Routine.Runs

/-!
# Termination

Every step of a session comes to an end on every stream of tokens, though its loops are not bounded:
no loop goes on behind a turn that took no token, and no more calls are ever under way than may
nest.
-/

namespace SqlTree

open SqlTree.Grammar

/-- The grammar can be written out as code that comes back to a rule by calls alone, each of which
counts itself. Whatever tokens a stream holds and whatever the steps before did, the code of the
next step has one run from there, which ends as the step does. Every loop in it that goes on took a
token in the turn before, never are more calls under way than may nest, and at the end none is. On
every return from any part of the code, as many calls are under way as there were before. -/
theorem Step.run_terminates : Nonempty Code ∧ ∀ code : Code,
    (∀ (source : List Char) (tokens : List Token) (earlier : List Step) (step : Step),
      let start := (Cursor.atStart source tokens).afterSteps earlier
      ∃ log, code.Runs (code.step step) [] ⟨start, 0⟩ (step.run start).1 ⟨(step.run start).2, 0⟩ log ∧
        (∀ result stop record, code.Runs (code.step step) [] ⟨start, 0⟩ result stop record →
          result = (step.run start).1 ∧ stop = ⟨(step.run start).2, 0⟩ ∧ record = log) ∧
        ∀ moment ∈ log, moment.position.depth ≤ maximalNesting ∧
          ∀ first, moment.action = .again first → first < moment.position.cursor.consumed) ∧
    ∀ {α : Type} (routine : Routine α) (spans : List Span) (start stop : Position)
      (result : Except Failure α) (log : List Moment),
      code.Runs routine spans start result stop log → stop.depth = start.depth := by
  refine ⟨inferInstance, fun code => ⟨fun source tokens earlier step => ?_, ?_⟩⟩
  · intro start
    have closed : start.close.kind = .finish :=
      Cursor.afterSteps_closed (Cursor.atStart_closed source tokens) earlier
    obtain ⟨log, run⟩ := step.exists_run code closed
    have secure := run.secure (code.step_sound step) rfl (Nat.zero_le _) closed (Nat.zero_le _)
      False.elim
    refine ⟨log, run, fun result stop record other => ?_, fun moment found => ⟨?_, ?_⟩⟩
    · exact other.unique run
    · exact run.depth_le (Nat.zero_le _) moment found
    · exact (secure moment found).again
  · exact fun routine spans start stop result log run => run.depth_eq

end SqlTree
