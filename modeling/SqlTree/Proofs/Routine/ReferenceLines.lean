import SqlTree.Proofs.Grammar.ReferenceNames
import SqlTree.Proofs.Routine.Reports
import SqlTree.Proofs.Token.Words

/-!
# Lines of references

A run that is asked for references prints each with a newline behind it. So the references stand one
on each line, unless the rendering of one holds a newline itself. It does so only where a name in
quotes does: no other name holds a newline, and a reference is shown with names of the text.
-/

namespace SqlTree

section Newlines

/-- A newline is in no unquoted name. What stands for a name that holds one is a name in quotes. -/
theorem quoted_of_newline {text name : String} {token : Token} (found : token ∈ tokenize text)
    (named : token.kind.name? = some name) (newline : '\n' ∈ name.toList) :
    token.kind = .identifier name ∧
      ∃ rest, textUnder? text.toList token.span = some ('\x22' :: rest) := by
  have kind : token.kind = .identifier name := by
    cases kind : token.kind with
    | identifier other =>
        rw [kind] at named
        cases named
        rfl
    | keyword word =>
        rw [kind, TokenKind.name?] at named
        split at named
        · cases named
        · cases named
          exact absurd (Keyword.plain_of_mem_name newline).2 (by decide)
    | _ =>
        rw [kind] at named
        cases named
  refine ⟨kind, ?_⟩
  have going : token.kind ≠ .finish := kind ▸ TokenKind.noConfusion
  obtain ⟨first, rest, shown⟩ := exists_lexeme_of_mem found going
  have under : textUnder? text.toList token.span = some (scanLexeme first rest).text :=
    (Prod.mk.inj shown).2
  by_cases quoted : (scanLexeme first rest).text.head? = some '\x22'
  · obtain ⟨more, same⟩ := List.head?_eq_some_iff.mp quoted
    exact ⟨more, same ▸ under⟩
  · obtain ⟨isWord, _, rfl⟩ := isWord_of_identifier found under kind quoted
    rw [String.toList_ofList] at newline
    -- Lower case brings in letters only, so the newline would be a part of the word.
    have inside := Text.mem_of_mem_lowerFrom [] (by decide) (by decide) newline
    exact absurd (isWord.parts _ inside) (by decide)

/-- The rendering of a reference holds a newline just where one of its names does. -/
theorem newline_mem_referenceText {qualifier : Option ObjectName} {column : String} :
    '\n' ∈ (referenceText qualifier column).toList ↔
      ∃ name ∈ referenceNames qualifier column, '\n' ∈ name.toList := by
  cases qualifier with
  | none => simp [referenceText, referenceNames]
  | some table =>
      obtain ⟨name, schema⟩ := table
      cases schema <;> simp [referenceText, referenceNames, ObjectName.text]

end Newlines

section Counting

/-- A reference is shown just where a node is one. -/
theorem Node.isSome_referenceText? (node : Node) :
    node.referenceText?.isSome = decide (node.kind = .reference) := by
  cases node <;> rfl

/-- As many references are shown as there are nodes that are references. -/
theorem Forest.length_referenceTexts (forest : Forest) :
    forest.referenceTexts.length = forest.preorder.countP (·.kind = .reference) := by
  rw [referenceTexts, List.length_filterMap_eq_countP]
  exact List.countP_congr fun node _ => by rw [node.isSome_referenceText?]

end Counting

namespace CommandLine

section Lines

/-- The lines of an output, each of which a newline ends. -/
def terminatedLines (output : String) : List String :=
  (output.toList.splitOn '\n').dropLast.map String.ofList

/-- The lines that a text takes up if a newline is put behind it. -/
def brokenLines (text : String) : List String := (text.toList.splitOn '\n').map String.ofList

theorem length_splitOn (mark : Char) (text : List Char) :
    (text.splitOn mark).length = text.count mark + 1 := by
  induction text with
  | nil => rfl
  | cons character text inductionHypothesis =>
      rw [List.splitOn_cons_eq_if_modifyHead, List.count_cons]
      split
      · rw [List.length_cons, inductionHypothesis]
      · rw [List.length_modifyHead, inductionHypothesis]

/-- A text takes up a line more than it has newlines. -/
theorem length_brokenLines (text : String) :
    (brokenLines text).length = text.toList.count '\n' + 1 := by
  rw [brokenLines, List.length_map, length_splitOn]

/-- A text without newlines is one line. -/
theorem brokenLines_of_not_mem {text : String} (whole : '\n' ∉ text.toList) :
    brokenLines text = [text] := by
  rw [brokenLines, List.splitOn_eq_singleton whole, List.map_singleton, String.ofList_toList]

/-- Printed lines are the lines that the texts take up, one behind the other. -/
theorem terminatedLines_lines (texts : List String) :
    terminatedLines (lines texts) = texts.flatMap brokenLines := by
  induction texts with
  | nil => rfl
  | cons text texts inductionHypothesis =>
      have shown : (lines (text :: texts)).toList
          = text.toList ++ '\n' :: (lines texts).toList := by
        rw [lines, List.map_cons, String.join_cons, String.toList_append, String.toList_append,
          List.append_assoc]
        rfl
      rw [terminatedLines, shown, List.splitOn_append_cons_self,
        List.dropLast_append_of_ne_nil (List.splitOn_ne_nil _ _), List.map_append,
        List.flatMap_cons, ← inductionHypothesis]
      rfl

/-- Texts take up a line each, and one more for each newline in them. -/
theorem length_flatMap_brokenLines (texts : List String) : (texts.flatMap brokenLines).length
    = texts.length + (texts.flatMap String.toList).count '\n' := by
  induction texts with
  | nil => rfl
  | cons text texts inductionHypothesis =>
      rw [List.flatMap_cons, List.length_append, inductionHypothesis, length_brokenLines,
        List.flatMap_cons, List.count_append, List.length_cons]
      omega

/-- The lines that texts take up are as many as the texts just where no text has a newline. -/
theorem length_flatMap_brokenLines_eq_iff {texts : List String} :
    (texts.flatMap brokenLines).length = texts.length ↔ ∀ text ∈ texts, '\n' ∉ text.toList := by
  rw [length_flatMap_brokenLines, Nat.add_eq_left, List.count_eq_zero]
  simp

theorem flatMap_brokenLines_of_not_mem {texts : List String}
    (whole : ∀ text ∈ texts, '\n' ∉ text.toList) : texts.flatMap brokenLines = texts := by
  rw [List.flatMap_congr fun text among => brokenLines_of_not_mem (whole text among)]
  exact List.flatMap_singleton' texts

end Lines

section Runs

/-- What a run takes a text for that it accepts: statements, or an expression. -/
inductive Settings.Reads (settings : Settings) (text : String) : Forest → Prop
  | statements {trees : List Statement} (asked : settings.expression = false)
      (parsed : parseStatements text = .ok trees) : Reads settings text (.statements trees)
  | expression {tree : Expr} (asked : settings.expression = true)
      (parsed : parseExpression text = .ok tree) : Reads settings text (.expression tree)

/-- The lines that are printed are the references of some trees: as many as there are nodes that are
references, and each is the rendering of the reference at its place. -/
structure Report.ListsReferences (report : Report) (forest : Forest) : Prop where
  count : (terminatedLines report.output).length
    = forest.preorder.countP (·.kind = .reference)
  line : ∀ place : Nat,
    (terminatedLines report.output)[place]? = forest.referenceTexts[place]?

variable {settings : Settings} {text : String} {forest : Forest}

/-- The trees that a text is accepted as are those of the entry points. -/
theorem Settings.Reads.accepts (reads : settings.Reads text forest) :
    ∀ root ∈ forest.roots, Accepts text root := by
  cases reads with
  | statements _ parsed =>
      exact List.forall_mem_map.mpr fun tree among => .statement parsed among
  | expression _ parsed => exact List.forall_mem_singleton.mpr (.expression parsed)

/-- A run that is asked for references prints those of the trees that it takes the text for. -/
theorem run_of_reads (references : settings.references = true)
    (reads : settings.Reads text forest) :
    (run settings (.ok text)).exitCode = 0 ∧
      (run settings (.ok text)).output = lines forest.referenceTexts := by
  cases reads with
  | statements asked parsed =>
      obtain ⟨succeeds, output⟩ := run_of_ok asked parsed
      exact ⟨succeeds, output references⟩
  | @expression tree asked parsed =>
      have visited : referencesOf (tree.visit collectReferences)
          = (Forest.expression tree).referenceTexts :=
        (Forest.expression tree).referencesOf_visit
      unfold run runExpression
      dsimp only
      rw [asked, if_pos rfl, parsed]
      dsimp only
      rw [visited, printed, if_pos references]
      exact ⟨rfl, rfl⟩

/-- A rendering with a newline shows a name in quotes that holds one. -/
theorem Settings.Reads.quoted (reads : settings.Reads text forest) {shown : String}
    (among : shown ∈ forest.referenceTexts) (newline : '\n' ∈ shown.toList) :
    ∃ token ∈ tokenize text, ∃ name rest, token.kind = .identifier name ∧ '\n' ∈ name.toList ∧
      textUnder? text.toList token.span = some ('\x22' :: rest) := by
  obtain ⟨node, listed, rendered⟩ := List.mem_filterMap.mp among
  rw [Forest.preorder_eq_nodes] at listed
  obtain ⟨root, isRoot, below⟩ := List.mem_flatMap.mp listed
  cases node with
  | reference qualifier column =>
      cases rendered
      obtain ⟨name, part, broken⟩ := newline_mem_referenceText.mp newline
      rcases (reads.accepts root isRoot).named below name part with rfl | ⟨token, found, named⟩
      · exact absurd broken (by decide)
      · obtain ⟨kind, rest, under⟩ := quoted_of_newline found named broken
        exact ⟨token, found, name, rest, kind, broken, under⟩
  | _ => cases rendered

/-- A run that is asked for references and accepts its input, as statements or as an expression,
succeeds and prints the rendering of each reference with a newline behind it. So it prints a line
for each node that is a reference, and one more for each newline in the renderings. The lines are
the references, in number and one by one, just where no rendering holds a newline; and a rendering
holds one only where a name in quotes does that is a token of the text. -/
theorem run_referenceLines (settings : Settings) (references : settings.references = true)
    (text : String) (forest : Forest) (reads : settings.Reads text forest) :
    let report := run settings (.ok text)
    report.exitCode = 0 ∧ report.output = lines forest.referenceTexts ∧
      terminatedLines report.output = forest.referenceTexts.flatMap brokenLines ∧
      (terminatedLines report.output).length = forest.preorder.countP (·.kind = .reference)
        + (forest.referenceTexts.flatMap String.toList).count '\n' ∧
      (report.ListsReferences forest ↔ ∀ shown ∈ forest.referenceTexts, '\n' ∉ shown.toList) ∧
      ∀ shown ∈ forest.referenceTexts, '\n' ∈ shown.toList →
        ∃ token ∈ tokenize text, ∃ name rest, token.kind = .identifier name ∧
          '\n' ∈ name.toList ∧ textUnder? text.toList token.span = some ('\x22' :: rest) := by
  intro report
  obtain ⟨succeeds, output⟩ := run_of_reads references reads
  have printed : terminatedLines report.output = forest.referenceTexts.flatMap brokenLines := by
    rw [output, terminatedLines_lines]
  refine ⟨succeeds, output, printed, ?_, ⟨fun lists => ?_, fun whole => ?_⟩, fun shown => reads.quoted⟩
  · rw [printed, length_flatMap_brokenLines, Forest.length_referenceTexts]
  · have count := lists.count
    rwa [printed, ← Forest.length_referenceTexts, length_flatMap_brokenLines_eq_iff] at count
  · have same : terminatedLines report.output = forest.referenceTexts := by
      rw [printed, flatMap_brokenLines_of_not_mem whole]
    exact ⟨by rw [same, Forest.length_referenceTexts], fun place => by rw [same]⟩

/-- The references of two statements, one of them with a name in quotes, are printed on a line
each. -/
theorem run_referenceLines_quoted :
    let settings : Settings := { references := true }
    let text := "SELECT t.a, \"B c\"; DELETE FROM u WHERE s.u.d"
    ∃ forest, settings.references = true ∧ settings.Reads text forest ∧
      (run settings (.ok text)).ListsReferences forest ∧
      terminatedLines (run settings (.ok text)).output = ["t.a", "B c", "s.u.d"] := by
  intro settings text
  let first : Select := ⟨false, [⟨.reference (some (.plain "t")) "a", none⟩,
    ⟨.reference none "B c", none⟩], none, none, [], none, [], none, none⟩
  let second : Delete := ⟨.plain "u", none, some (.reference (some ⟨"u", some "s"⟩) "d"), []⟩
  let forest : Forest := .statements [.select first, .delete second]
  have parsed : parseStatements "SELECT t.a, \"B c\"; DELETE FROM u WHERE s.u.d"
      = .ok [.select first, .delete second] := by rfl
  have reads : settings.Reads text forest := .statements rfl parsed
  have shown : forest.referenceTexts = ["t.a", "B c", "s.u.d"] := by
    rw [Forest.referenceTexts, Forest.preorder_eq_nodes]
    rfl
  obtain ⟨-, -, printed, -, lists, -⟩ := run_referenceLines settings rfl text forest reads
  rw [shown] at lists printed
  exact ⟨forest, rfl, reads, lists.mpr (by decide), printed.trans (by decide)⟩

/-- A column whose name in quotes holds a newline is one reference, and takes up two lines. -/
theorem run_referenceLines_broken :
    let settings : Settings := { expression := true, references := true }
    let text := "\"a\nb\""
    let forest : Forest := .expression (.reference none "a\nb")
    settings.Reads text forest ∧ forest.preorder.countP (·.kind = .reference) = 1 ∧
      terminatedLines (run settings (.ok text)).output = ["a", "b"] ∧
      ¬ (run settings (.ok text)).ListsReferences forest := by
  intro settings text forest
  have parsed : parseExpression "\"a\nb\"" = .ok (.reference none "a\nb") := by rfl
  have reads : settings.Reads text forest := .expression rfl parsed
  have counted : forest.preorder.countP (·.kind = .reference) = 1 := by
    rw [Forest.preorder_eq_nodes]
    rfl
  have shown : forest.referenceTexts = ["a\nb"] := by
    rw [Forest.referenceTexts, Forest.preorder_eq_nodes]
    rfl
  have printed : terminatedLines (run settings (.ok text)).output = ["a", "b"] := by
    rw [(run_of_reads rfl reads).2, shown]
    decide
  refine ⟨reads, counted, printed, fun lists => ?_⟩
  have count := lists.count
  rw [printed, counted] at count
  cases count

end Runs

end CommandLine

end SqlTree
