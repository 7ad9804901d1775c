import SqlTree.Proofs.Grammar.EntryPoints
import SqlTree.Proofs.Routine.Spans
import SqlTree.Proofs.Traversal.Preorder

/-!
# Reports

A run on statements prints nothing where its input cannot be read or a statement of it fails, and
says so by its exit code; where every statement is read, it succeeds. The references that it is
asked for are those of the listed nodes, in the order of the listing, so that the report on a text
puts together the reports on its statements.
-/

namespace SqlTree

open SqlTree.Parser SqlTree.Grammar

section References

/-- A reference as it is shown; other nodes show none. -/
def Node.referenceText? : Node → Option String
  | .reference qualifier column => some (SqlTree.referenceText qualifier column)
  | _ => none

/-- The references of some trees as they are shown, in the order of their nodes. -/
def Forest.referenceTexts (forest : Forest) : List String :=
  forest.preorder.filterMap Node.referenceText?

/-- Puts a reference behind those that were met before. -/
def recordReference (node : Node) : StateM (List String) Unit :=
  match node.referenceText? with
  | some shown => modify (· ++ [shown])
  | none => pure ()

theorem collectReferences_eq : collectReferences = Visitor.recording recordReference := by
  funext node walk
  cases node <;> rfl

theorem forM_recordReference (nodes : List Node) (found : List String) :
    (forM nodes recordReference) found = ((), found ++ nodes.filterMap Node.referenceText?) := by
  induction nodes generalizing found with
  | nil => rw [List.filterMap_nil, List.append_nil]; rfl
  | cons node nodes inductionHypothesis =>
      rw [List.forM_cons]
      change (forM nodes recordReference) (recordReference node found).2 = _
      rw [inductionHypothesis, List.filterMap_cons, recordReference]
      cases node.referenceText? with
      | none => rfl
      | some shown => exact congrArg (Prod.mk ()) (List.append_assoc found [shown] _)

/-- A traversal gathers the references of the listed nodes. -/
theorem Forest.referencesOf_visit (forest : Forest) :
    referencesOf (forest.visit collectReferences) = forest.referenceTexts := by
  rw [referencesOf, collectReferences_eq, Forest.visit_recording, forM_recordReference]
  rfl

/-- The references of statements are those of each in turn. -/
theorem Forest.referenceTexts_statements (trees : List Statement) :
    (Forest.statements trees).referenceTexts =
      trees.flatMap fun tree => (Forest.statements [tree]).referenceTexts := by
  simp only [referenceTexts, preorder, roots, List.flatMap_map, List.filterMap_flatMap,
    List.map_singleton, List.flatMap_singleton]

end References

section Failing

/-- A statement fails, behind others that are read one by one; and it is not that the others are
all that there is. -/
def Cursor.SomeFails (cursor : Cursor) : Prop :=
  ∃ before failure, cursor.FailsBehind before failure ∧ ¬ cursor.Lists before

/-- A text is refused just where a statement of it fails. -/
theorem parseStatements_error_iff (text : String) :
    (∃ failure, parseStatements text = .error failure) ↔ (Cursor.ofText text).SomeFails := by
  constructor
  · rintro ⟨failure, refused⟩
    obtain ⟨before, fails⟩ := exists_failsBehind_of_parseStatements_error refused
    refine ⟨before, failure, fails, fun listed => ?_⟩
    rw [(parseStatements_eq_ok_iff_lists text before).mpr listed] at refused
    cases refused
  · rintro ⟨before, failure, fails, unlisted⟩
    cases parsed : parseStatements text with
    | error refusal => exact ⟨refusal, rfl⟩
    | ok statements =>
        have listed := (parseStatements_eq_ok_iff_lists text statements).mp parsed
        rw [listed.eq_of_failsBehind (Cursor.atStart_closed _ _) fails] at unlisted
        exact absurd listed unlisted

end Failing

section Slices

/-- The statements of a text are the result of its batch. -/
theorem parseStatements_eq_result (text : String) :
    parseStatements text = (Batch.parse (.ofText text)).result := by
  unfold parseStatements Parser.outcome Grammar.statements
  generalize Batch.parse (.ofText text) = batch
  dsimp only
  cases batch.result <;> rfl

/-- The text under the span of a statement. -/
def LocatedStatement.slice (text : String) (located : LocatedStatement) : String :=
  String.ofList ((textUnder? text.toList located.span).getD [])

/-- The statements of a text that is accepted are read from the text under their spans, each as the
only one. -/
theorem Batch.parseStatements_slice {text : String} {statements : List Statement}
    (accepted : parseStatements text = .ok statements) :
    ∀ located ∈ (Batch.parse (.ofText text)).statements,
      textUnder? text.toList located.span = some (located.slice text).toList ∧
      parseStatements (located.slice text) = .ok [located.statement] := by
  obtain ⟨succeeds, _⟩ := Batch.of_accepted accepted
  have among := (List.forall₂_and_left _ _).mpr
    ⟨fun run (listed : run ∈ statementRuns (tokenize text)) => listed,
      (Batch.readFrom_runs succeeds).flip⟩
  refine ((List.forall₂_and_left (R := fun _ _ => True) _ _).mp
    (among.flip.imp fun located run both => ⟨?_, trivial⟩)).1
  obtain ⟨-, -, slice, under, read⟩ := both.2.delimits both.1
  have same : located.slice text = String.ofList slice := by rw [LocatedStatement.slice, under]; rfl
  rw [same, String.toList_ofList, parseStatements_eq_ok_iff_lists]
  exact ⟨under, (Cursor.outcome_eq_ok_iff_lists _ _).mp read⟩

end Slices

namespace CommandLine

variable {settings : Settings} {text : String} {statements : List Statement}

theorem lines_append (texts others : List String) :
    lines (texts ++ others) = lines texts ++ lines others := by
  rw [lines, List.map_append, String.join_append]
  rfl

theorem lines_flatMap {α : Type} (items : List α) (texts : α → List String) :
    lines (items.flatMap texts) = String.join (items.map fun item => lines (texts item)) := by
  induction items with
  | nil => rfl
  | cons item items inductionHypothesis =>
      rw [List.flatMap_cons, lines_append, inductionHypothesis, List.map_cons, String.join_cons]

/-- What a run on statements prints and returns goes by the statements of the text. -/
theorem run_eq (asked : settings.expression = false) :
    ((run settings (.ok text)).exitCode, (run settings (.ok text)).output) =
      match parseStatements text with
      | .error _ => (1, "")
      | .ok statements =>
        (0, printed settings (statements.map Statement.form)
          (Forest.statements statements).referenceTexts) := by
  rw [parseStatements_eq_result]
  unfold run runStatements
  dsimp only
  rw [asked, if_neg Bool.false_ne_true]
  generalize Batch.parse (.ofText text) = batch
  cases batch.result with
  | error failure => rfl
  | ok statements =>
      dsimp only
      rw [← Forest.referencesOf_visit]
      rfl

/-- A run on statements that are refused prints nothing. -/
theorem run_of_error {failure : Failure} (asked : settings.expression = false)
    (refused : parseStatements text = .error failure) :
    (run settings (.ok text)).exitCode = 1 ∧ (run settings (.ok text)).output = "" := by
  have told := @run_eq settings text asked
  rw [refused] at told
  exact Prod.mk.inj told

/-- A run on statements that are read succeeds, and prints the references that it is asked for. -/
theorem run_of_ok (asked : settings.expression = false)
    (accepted : parseStatements text = .ok statements) :
    (run settings (.ok text)).exitCode = 0 ∧
      (settings.references = true →
        (run settings (.ok text)).output =
          lines (Forest.statements statements).referenceTexts) := by
  have told := @run_eq settings text asked
  rw [accepted] at told
  obtain ⟨succeeds, output⟩ := Prod.mk.inj told
  refine ⟨succeeds, fun references => ?_⟩
  rw [output, printed, if_pos references]

/-- The references of a text that is accepted are printed as those of its statements, taken one by
one. -/
theorem run_eq_join (asked : settings.expression = false) (references : settings.references = true)
    (accepted : parseStatements text = .ok statements) :
    (run settings (.ok text)).output =
      String.join ((Batch.parse (.ofText text)).statements.map fun located =>
        (run settings (.ok (located.slice text))).output) := by
  rw [(run_of_ok asked accepted).2 references, ← (Batch.of_accepted accepted).2,
    Forest.referenceTexts_statements, List.flatMap_map, lines_flatMap]
  refine congrArg String.join (List.map_congr_left fun located among => ?_)
  have alone := (Batch.parseStatements_slice accepted located among).2
  exact ((run_of_ok asked alone).2 references).symm

/-- A run on statements prints all or nothing. Where the input cannot be read or a statement fails,
the last one included, nothing is printed and the exit code is one. Otherwise every statement is
read and the exit code is zero; if references are asked for, then those of the nodes of all
statements are printed in the order of the nodes, whatever the other settings are, and what is
printed is put together from what is printed for the text of each statement. -/
theorem run_all_or_nothing (settings : Settings) (asked : settings.expression = false)
    (input : Input) :
    (∀ fault, input = .error fault →
      (run settings input).exitCode = 1 ∧ (run settings input).output = "") ∧
    (∀ text, input = .ok text → (Cursor.ofText text).SomeFails →
      (run settings input).exitCode = 1 ∧ (run settings input).output = "") ∧
    ∀ text, input = .ok text → ¬ (Cursor.ofText text).SomeFails →
      (run settings input).exitCode = 0 ∧
      ∃ statements, parseStatements text = .ok statements ∧
        (settings.references = true →
          (run settings input).output = lines (Forest.statements statements).referenceTexts ∧
          (run settings input).output =
            String.join ((Batch.parse (.ofText text)).statements.map fun located =>
              (run settings (.ok (located.slice text))).output)) ∧
        (Batch.parse (.ofText text)).statements.map LocatedStatement.statement = statements ∧
        ∀ located ∈ (Batch.parse (.ofText text)).statements,
          textUnder? text.toList located.span = some (located.slice text).toList ∧
          parseStatements (located.slice text) = .ok [located.statement] := by
  refine ⟨?_, ?_, ?_⟩
  · rintro ⟨place, fault⟩ rfl
    exact ⟨rfl, rfl⟩
  · rintro text rfl fails
    obtain ⟨failure, refused⟩ := (parseStatements_error_iff text).mpr fails
    exact run_of_error asked refused
  · rintro text rfl goes
    cases parsed : parseStatements text with
    | error failure => exact absurd ((parseStatements_error_iff text).mp ⟨failure, parsed⟩) goes
    | ok statements =>
        obtain ⟨succeeds, shown⟩ := run_of_ok asked parsed
        refine ⟨succeeds, statements, rfl, fun references => ?_, (Batch.of_accepted parsed).2,
          Batch.parseStatements_slice parsed⟩
        exact ⟨shown references, run_eq_join asked references parsed⟩

/-- Two statements for which references are asked, with and without a third one that is refused. -/
theorem run_all_or_nothing_refs :
    let settings : Settings := { references := true, compact := true }
    settings.expression = false ∧
    (run settings (.ok "SELECT a; SELECT t.b; DROP b")).output = "" ∧
    (run settings (.ok "SELECT a; SELECT t.b")).output = "a\nt.b\n" := by
  intro settings
  refine ⟨rfl, ?_, ?_⟩
  · have fails : (Cursor.ofText "SELECT a; SELECT t.b; DROP b").SomeFails :=
      (parseStatements_error_iff _).mp ⟨⟨.unsupportedStatement ["DROP", "B"], ⟨22, 28⟩⟩, by rfl⟩
    exact ((run_all_or_nothing settings rfl _).2.1 _ rfl fails).2
  · have accepted : parseStatements "SELECT a; SELECT t.b" = .ok
        [.select ⟨false, [⟨.reference none "a", none⟩], none, none, [], none, [], none, none⟩,
          .select ⟨false, [⟨.reference (some (.plain "t")) "b", none⟩], none, none, [], none, [],
            none, none⟩] := by rfl
    have goes : ¬ (Cursor.ofText "SELECT a; SELECT t.b").SomeFails := by
      intro fails
      obtain ⟨failure, refused⟩ := (parseStatements_error_iff _).mpr fails
      rw [accepted] at refused
      cases refused
    obtain ⟨-, statements, parsed, shown, -⟩ :=
      (run_all_or_nothing settings rfl _).2.2 _ rfl goes
    rw [accepted] at parsed
    cases parsed
    rw [(shown rfl).1, Forest.referenceTexts, Forest.preorder_eq_nodes]
    rfl

end CommandLine

end SqlTree
