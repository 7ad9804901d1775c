import SqlTree.Proofs.Grammar.Batches
import SqlTree.Proofs.Grammar.ToldRules

/-!
# Statements tell their tokens

Statements take their tokens for their parts and for words between them, and so do the steps of a
session for the trees that they answer. The parts of a statement about sequences may come in any
order and are not told apart: it has no leaves that could be lost.
-/

namespace SqlTree

open SqlTree.Parser SqlTree.Grammar

/-- Tokens that may be taken can all be taken for options. -/
theorem Cursor.Clear.shows {cursor : Cursor} {count : Nat} (clear : cursor.Clear count) :
    cursor.Shows (List.replicate count .option) := by
  induction count generalizing cursor with
  | zero => trivial
  | succ count inductionHypothesis =>
      constructor
      · exact clear 0 (Nat.succ_pos count)
      · apply inductionHypothesis
        intro places bound
        rw [Cursor.peek_past]
        exact clear (1 + places) (by omega)

/-- A steady parser takes its tokens for options, if they are not told apart. -/
theorem Parser.Moving.reports {α : Type} {parser : Parser α} {moves : α → Prop}
    (moving : Moving parser moves) :
    Reports parser fun _ told => ∀ role ∈ told, role = .option := by
  intro cursor closed value stopped parsed
  obtain ⟨taken, rfl, clear, _⟩ := moving.stopped_of_ok closed parsed
  refine ⟨List.replicate taken .option, ?_, clear.shows, ?_⟩
  · rw [List.length_replicate]
  · intro role among
    exact List.eq_of_mem_replicate (List.mem_of_mem_filter among)

namespace Grammar

section Statements

theorem topRules_tell : topRules.Tell := rules_tell maximalNesting

theorem returning_tells : Tells returning columnRoles := by
  have columns := outputColumns_tells topRules_tell
  refine (columns.optionalAfter .RETURNING rfl).bind fun found => Reports.pure ?_
  cases found <;> simp [columnRoles]

theorem rowFilter_tells : Tells rowFilter expressionRoles? :=
  ((topRules_tell.expression 0).optionalAfter .WHERE rfl).weaken fun filter _ listed =>
    listed.trans (expressionRoles?_eq filter).symm

theorem targetColumns_tells : Tells targetColumns fun columns => columns.map .name :=
  Tells.choice rfl
    (Tells.bind nameList_tells fun _ => (Tells.expectSymbol .rightParen).bind fun _ =>
      Reports.pure (List.append_nil _))
    (Reports.pure rfl)

theorem insertSource_tells : Tells insertSource InsertSource.roles := by
  have row : Tells (parenthesized (expressionList topRules)) expressionRoles :=
    Tells.parenthesized (expressionList_tells topRules_tell)
  refine Tells.choice rfl (Reports.returned row.separated) ?_
  refine (Tells.atKeyword .SELECT).bind fun selects => ?_
  split
  · exact Reports.returned topRules_tell.query
  · exact Tells.choice rfl ((Tells.expectKeyword .VALUES rfl).bind fun _ => Reports.pure rfl)
      Reports.unexpected

theorem insert_tells : Tells insert Insert.roles := by
  refine (Tells.expectKeyword .INSERT rfl).bind fun _ => ?_
  refine (Tells.expectKeyword .INTO rfl).bind fun _ => Tells.bind objectName_tells fun target => ?_
  refine Tells.bind targetColumns_tells fun columns => Tells.bind insertSource_tells fun source => ?_
  exact Tells.bind returning_tells fun returning => Reports.pure (by simp [Insert.roles])

theorem assignment_tells : Tells assignment Assignment.roles :=
  Tells.expectName.bind fun _ => (Tells.expectSymbol .equal).bind fun _ =>
    (topRules_tell.expression 0).bind fun _ => Reports.pure (by simp [Assignment.roles])

theorem update_tells : Tells update Update.roles := by
  refine (Tells.expectKeyword .UPDATE rfl).bind fun _ => Tells.bind objectName_tells fun target => ?_
  refine Tells.bind optionalAlias_tells fun aliasName => (Tells.expectKeyword .SET rfl).bind fun _ => ?_
  refine assignment_tells.separated.bind fun assignments => ?_
  refine ((tableList_tells topRules_tell).optionalAfter .FROM rfl).bind fun source => ?_
  refine Tells.bind rowFilter_tells fun filter => Tells.bind returning_tells fun returning => Reports.pure ?_
  simp [Update.roles, tableRoles?_eq]

theorem delete_tells : Tells delete Delete.roles := by
  refine (Tells.expectKeyword .DELETE rfl).bind fun _ => ?_
  refine (Tells.expectKeyword .FROM rfl).bind fun _ => Tells.bind objectName_tells fun target => ?_
  refine Tells.bind optionalAlias_tells fun aliasName => Tells.bind rowFilter_tells fun filter => ?_
  exact Tells.bind returning_tells fun returning => Reports.pure (by simp [Delete.roles])

theorem unsupportedStatement_reports {α : Type} {said : α → List Role → Prop} (verb : Keyword)
    (takesObject : Bool) : Reports (unsupportedStatement verb takesObject) said :=
  Tells.get.bind fun _ => Reports.fail

/-- A statement without its end, with every kind of statement told in its own way. -/
theorem statementBody_reports :
    Reports statementBody fun statement told => statement.Tells told := by
  refine (Tells.look 0).bind fun kind => ?_
  split
  · exact Reports.returned topRules_tell.query
  · exact Reports.returned insert_tells
  · exact Reports.returned update_tells
  · exact Reports.returned delete_tells
  · refine (Tells.look 1).bind fun _ => (Tells.look 2).bind fun _ => ?_
    split
    · exact Reports.returned createSequence_taking.reports
    · exact unsupportedStatement_reports .CREATE true
  · refine (Tells.look 1).bind fun _ => ?_
    split
    · exact Reports.returned alterSequence_taking.reports
    · exact unsupportedStatement_reports .ALTER true
  · refine (Tells.look 1).bind fun _ => ?_
    split
    · exact Reports.returned dropSequence_taking.reports
    · exact unsupportedStatement_reports .DROP true
  · exact unsupportedStatement_reports .TRUNCATE false
  · exact unsupportedStatement_reports .WITH false
  · exact Reports.unexpected

theorem endOfStatement_tells : Tells endOfStatement fun _ => [] := by
  refine (Tells.look 0).bind fun kind => ?_
  split
  · exact Reports.pure rfl
  · exact Reports.unexpected

end Statements

section Session

theorem skipSemicolons_tells : Tells skipSemicolons fun _ => [] := by
  have nothing : Tells (pure () : Parser Unit) fun _ => [] := Reports.pure rfl
  refine (Tells.manyAfter (Tells.eatSymbol .semicolon) nothing).bind fun skipped => ?_
  exact Reports.pure (by simp)

theorem locatedStatement_reports :
    Reports locatedStatement fun located told => located.statement.Tells told := by
  refine Tells.bind skipSemicolons_tells fun _ => Tells.current.bind fun start => ?_
  refine Reports.bind statementBody_reports fun body told tells => Tells.bind endOfStatement_tells fun _ => ?_
  refine Tells.previousSpan.bind fun stop => (Tells.eatSymbol .semicolon).bind fun _ => ?_
  exact Reports.pure (by simpa using tells)

theorem statement_reports : Reports statement fun statement told => statement.Tells told :=
  Reports.returned locatedStatement_reports

/-- Statements stand in turn, with semicolons between them. -/
theorem statementsWithin_reports (fuel : Nat) : Reports (statementsWithin fuel) fun batch told =>
    StatementsTell told (batch.map LocatedStatement.statement) := by
  induction fuel with
  | zero => exact Reports.pure rfl
  | succ fuel inductionHypothesis =>
      refine Tells.bind skipSemicolons_tells fun _ => (Tells.look 0).bind fun kind => ?_
      split
      · exact Reports.pure rfl
      · refine Reports.bind locatedStatement_reports fun located front tells => ?_
        refine inductionHypothesis.bind fun batch back others => Reports.pure ?_
        exact ⟨front, back, by simp, tells, others⟩

theorem statements_report : Reports statements fun statements told =>
    StatementsTell told statements := by
  rw [statements_eq]
  exact Tells.get.bind fun cursor => Reports.returned (statementsWithin_reports _)

theorem finish_tells : Tells finish fun _ => [] := by
  refine Tells.bind skipSemicolons_tells fun _ => (Tells.look 0).bind fun kind => ?_
  split
  · exact Reports.pure rfl
  · exact Reports.unexpected

end Session

end Grammar

/-- Whether roles are those of the parts of what a step answers. -/
def Answer.Tells (told : List Role) : Answer → Prop
  | .statement body => body.Tells told
  | .statements bodies => StatementsTell told bodies
  | .expression body => told = body.roles
  | .nothing => told = []

end SqlTree
