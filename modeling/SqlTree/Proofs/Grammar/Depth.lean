import SqlTree.Proofs.Grammar.LeveledStatements
import SqlTree.Proofs.Grammar.Rejection
import SqlTree.Proofs.Grammar.Statements

/-!
# Depth of accepted trees

The levels of the grammar bound how deep accepted trees nest, but not how long their ways down are:
a sum, and tables that are joined one after the other, grow to the left on one level.
-/

namespace SqlTree

open SqlTree.Parser SqlTree.Grammar SqlTree.Text

section Reading

/-- A statement on its own is all that a stream holds. -/
theorem ReadsStatement.statements {body : Statement} {kinds : List TokenKind} {cursor : Cursor}
    (reads : ReadsStatement body kinds) (faces : cursor.Faces kinds)
    (going : kindAt kinds 0 ≠ .finish) :
    ∃ stopped, Grammar.statements cursor = .ok [body] stopped := by
  have facesToo : cursor.Faces (kinds ++ []) := by rwa [List.append_nil]
  have opens : kindAt kinds 0 ≠ .symbol .semicolon := by
    have first := reads.opens []
    rwa [List.append_nil] at first
  obtain ⟨located, behind, parsed, same⟩ := ok_of_bind_ok (reads.statement cursor facesToo)
  cases same
  have nothing : kindAt [] 0 ≠ .symbol .semicolon := nofun
  have rest (fuel : Nat) : statementsWithin (fuel + 1) (cursor.past kinds.length)
      = .ok [] (cursor.past kinds.length) :=
    ((Reads.noSemicolons nothing).step_none facesToo.past).trans
      ((Reads.look [] 0).step_none facesToo.past)
  have whole (fuel : Nat) : statementsWithin (fuel + 2) cursor
      = .ok [located] (cursor.past kinds.length) := by
    refine ((Reads.noSemicolons opens).step_none faces).trans ?_
    refine ((Reads.look kinds 0).step_none faces).trans ?_
    rw [if_neg going]
    exact (bind_of_ok parsed).trans ((bind_of_ok (rest fuel)).trans rfl)
  obtain ⟨count, length⟩ : ∃ count, cursor.ahead.length = count + 1 := by
    apply Nat.exists_eq_succ_of_ne_zero
    intro empty
    rw [← faces.ahead, List.length_eq_zero_iff.mp empty] at going
    exact going rfl
  refine ⟨cursor.past kinds.length, ?_⟩
  rw [statements_eq, run_get, length]
  exact bind_of_ok (whole count)

end Reading

section Repetition

variable {α : Type}

/-- A list of so many copies of a unit. -/
def repeated (unit : List α) (count : Nat) : List α := (List.replicate count unit).flatten

theorem repeated_succ (unit : List α) (count : Nat) :
    repeated unit (count + 1) = unit ++ repeated unit count := by
  rw [repeated, List.replicate_succ, List.flatten_cons]
  rfl

theorem repeated_succ_last (unit : List α) (count : Nat) :
    repeated unit (count + 1) = repeated unit count ++ unit := by
  rw [repeated, List.replicate_succ', List.flatten_concat]
  rfl

end Repetition

section Sums

/-- The text of a sum of ones. -/
def sumText (signs : Nat) : String := String.ofList ('1' :: repeated ['+', '1'] signs)

/-- A sum of ones, which groups to the left. -/
def sumOfOnes : (signs : Nat) → Expr
  | 0 => .literal (.integer 1)
  | signs + 1 => .binary (sumOfOnes signs) .add (.literal (.integer 1))

/-- The kinds of a sum of ones. -/
def sumKinds (signs : Nat) : List TokenKind :=
  .integer 1 :: repeated [.symbol .plus, .integer 1] signs

theorem sum_isReadAs (signs : Nat) :
    IsReadAs ('1' :: repeated ['+', '1'] signs) (sumKinds signs ++ [.finish]) := by
  induction signs with
  | zero => exact .lexeme rfl rfl ⟨_, .finish rfl, rfl⟩
  | succ signs inductionHypothesis =>
      rw [sumKinds, repeated_succ, repeated_succ]
      exact .lexeme rfl rfl (.lexeme rfl rfl inductionHypothesis)

theorem sum_written (levels signs : Nat) {power : Nat} (tight : power ≤ BinaryOperator.add.binding) :
    Expr.Written (levels + 2) power (sumOfOnes signs) (sumKinds signs) := by
  induction signs generalizing power with
  | zero => exact .literal _
  | succ signs inductionHypothesis =>
      have grown : sumKinds (signs + 1) = sumKinds signs ++ [.symbol .plus, .integer 1] := by
        rw [sumKinds, repeated_succ_last]
        rfl
      rw [grown]
      exact .binary tight (inductionHypothesis (Nat.le_refl _)) (.literal _)

/-- Sums of any length are accepted. -/
theorem parseExpression_sum (signs : Nat) :
    parseExpression (sumText signs) = .ok (sumOfOnes signs) := by
  have faces : (Cursor.ofText (sumText signs)).Faces (sumKinds signs) := by
    apply IsReadAs.faces
    rw [sumText, String.toList_ofList]
    exact sum_isReadAs signs
  have follows : Follows 0 [] := EndsExpression.follows ⟨rfl, fun _ => rfl⟩ 0
  have read : Reads Grammar.expression (sumKinds signs) (sumOfOnes signs) [] :=
    (sum_written 126 signs (Nat.zero_le _)).reads.expression (Nat.le_refl _) follows
  have whole : Reads (do let body ← Grammar.expression; finish; return body)
      (sumKinds signs) (sumOfOnes signs) [] :=
    .bind_last read (.bind_none .finish (.pure _ _))
  rw [parseExpression, Parser.outcome, whole _ (by rwa [List.append_nil])]

/-- A way down a sum passes its first term last. -/
theorem sum_leads (signs : Nat) (standing : Standing) :
    ∃ path, Branch.Leads ⟨.expression (sumOfOnes signs), standing⟩ path ∧
      Branch.nodesOf .expression path = signs + 1 := by
  induction signs generalizing standing with
  | zero => exact ⟨_, .here _, rfl⟩
  | succ signs inductionHypothesis =>
      obtain ⟨path, leads, nodes⟩ := inductionHypothesis .beside
      refine ⟨_, .down List.mem_cons_self (.down List.mem_cons_self leads), ?_⟩
      rw [Branch.nodesOf_cons, Branch.nodesOf_cons, nodes]
      rfl

end Sums

section Crossings

/-- The characters behind a table that cross it with another one. -/
def crossing : List Char := " CROSS JOIN t".toList

/-- The text of a query from tables that are crossed so many times. -/
def crossingText (joins : Nat) : String :=
  String.ofList ("SELECT 1 FROM ".toList ++ 't' :: repeated crossing joins)

/-- Tables that are crossed so many times, which group to the left. -/
def crossedTables : (joins : Nat) → TableRef
  | 0 => .table (.plain "t") none
  | joins + 1 => .join (crossedTables joins) ⟨.cross, .table (.plain "t") none, none, []⟩

/-- A query from tables that are crossed so many times. -/
def crossingQuery (joins : Nat) : Select where
  distinct := false
  columns := [⟨.literal (.integer 1), none⟩]
  source := some (crossedTables joins)
  filter := none
  groupBy := []
  having := none
  orderBy := []
  limit := none
  offset := none

/-- The kinds of tables that are crossed so many times. -/
def crossedKinds (joins : Nat) : List TokenKind :=
  .identifier "t" :: repeated [.keyword .CROSS, .keyword .JOIN, .identifier "t"] joins

theorem crossed_isReadAs (joins : Nat) :
    IsReadAs ('t' :: repeated crossing joins) (crossedKinds joins ++ [.finish]) := by
  induction joins with
  | zero => exact .lexeme rfl rfl ⟨_, .finish rfl, rfl⟩
  | succ joins inductionHypothesis =>
      rw [crossedKinds, repeated_succ, repeated_succ]
      exact .lexeme rfl rfl (.lexeme rfl rfl (.lexeme rfl rfl (.blank rfl inductionHypothesis)))

theorem crossed_written (levels joins : Nat) :
    TableRef.Written levels (crossedTables joins) (crossedKinds joins) := by
  have one : TableRef.WrittenFactor levels (.table (.plain "t") none) [.identifier "t"] :=
    .table (.plain "t") none
  induction joins with
  | zero => exact .factor one
  | succ joins inductionHypothesis =>
      have grown : crossedKinds (joins + 1)
          = crossedKinds joins ++ [.keyword .CROSS, .keyword .JOIN, .identifier "t"] := by
        rw [crossedKinds, repeated_succ_last]
        rfl
      rw [grown]
      exact .cross (List.mem_singleton.mpr rfl) inductionHypothesis one

theorem crossing_written (joins : Nat) :
    Statement.Written maximalNesting (.select (crossingQuery joins))
      (.keyword .SELECT :: .integer 1 :: .keyword .FROM :: crossedKinds joins) := by
  let column : Piece OutputColumn := ⟨⟨.literal (.integer 1), none⟩, [.integer 1]⟩
  let tables : Piece TableRef := ⟨crossedTables joins, crossedKinds joins⟩
  let parts : QueryPieces :=
    { distinct := false, words := [], columns := [column], source := some tables, filter := none,
      groupBy := [], having := none, orderBy := [], limit := none, offset := none }
  have columnWritten : OutputColumn.Written 127 column.value column.kinds :=
    .value none (.literal (.integer 1))
  have written : Select.Written 128 parts.select parts.kinds := by
    refine .query (List.mem_cons_self) (List.cons_ne_nil _ _)
      (List.forall_mem_singleton.mpr columnWritten) ?_ nofun nofun nofun nofun nofun nofun nofun
    rintro _ ⟨⟩
    exact crossed_written 127 joins
  have kinds : parts.kinds
      = .keyword .SELECT :: .integer 1 :: .keyword .FROM :: crossedKinds joins := by
    change _ :: ([] ++ ([_] ++ ((.keyword .FROM :: crossedKinds joins)
      ++ ([] ++ ([] ++ ([] ++ ([] ++ ([] ++ [])))))))) = _
    simp only [List.append_nil]
    rfl
  rw [← kinds]
  exact .select written

/-- Tables that are crossed however many times are accepted. -/
theorem parseStatements_crossing (joins : Nat) :
    parseStatements (crossingText joins) = .ok [.select (crossingQuery joins)] := by
  have faces : (Cursor.ofText (crossingText joins)).Faces
      (.keyword .SELECT :: .integer 1 :: .keyword .FROM :: crossedKinds joins) := by
    apply IsReadAs.faces
    have characters : (crossingText joins).toList
        = "SELECT 1 FROM ".toList ++ 't' :: repeated crossing joins := String.toList_ofList
    rw [characters]
    have tables : IsReadAs (' ' :: 't' :: repeated crossing joins) _ :=
      (crossed_isReadAs joins).blank rfl
    have source : IsReadAs (" FROM ".toList ++ 't' :: repeated crossing joins) _ :=
      .lexeme rfl rfl tables
    have columns : IsReadAs (" 1 FROM ".toList ++ 't' :: repeated crossing joins) _ :=
      .lexeme rfl rfl source
    exact .lexeme rfl rfl columns
  obtain ⟨stopped, parsed⟩ := (crossing_written joins).reads.statements faces nofun
  rw [parseStatements, Parser.outcome, parsed]

/-- A way down tables that are crossed passes the first of them last. -/
theorem crossed_leads (joins : Nat) (standing : Standing) :
    ∃ path, Branch.Leads ⟨.table (crossedTables joins), standing⟩ path ∧
      Branch.nodesOf .table path = joins + 1 := by
  induction joins generalizing standing with
  | zero => exact ⟨_, .here _, rfl⟩
  | succ joins inductionHypothesis =>
      obtain ⟨path, leads, nodes⟩ := inductionHypothesis standing.left
      refine ⟨_, .down List.mem_cons_self leads, ?_⟩
      rw [Branch.nodesOf_cons, nodes]
      rfl

end Crossings

section Acceptance

/-- A tree that a text is accepted as: one of its statements, or its expression. -/
inductive Accepts (text : String) : Node → Prop
  | statement {statements : List Statement} {body : Statement}
      (parsed : parseStatements text = .ok statements) (among : body ∈ statements) :
      Accepts text (.statement body)
  | single {body : Statement} (parsed : parseStatement text = .ok body) :
      Accepts text (.statement body)
  | expression {body : Expr} (parsed : parseExpression text = .ok body) :
      Accepts text (.expression body)

namespace Accepts

variable {text : String} {root : Node}

/-- Whatever a text is accepted as stays within the levels of the grammar. -/
theorem accommodates (accepts : Accepts text root) : Accommodates root := by
  cases accepts with
  | statement parsed among => exact statements_within.of_outcome parsed _ among
  | single parsed => exact statement_within.finished.of_outcome parsed
  | expression parsed => exact expression_within.finished.of_outcome parsed

end Accepts

/-- On every way down a tree that a text is accepted as, no more expressions nest than there are
levels, and no more tables. -/
theorem Accepts.levelsOf_le {text : String} {root : Node} {path : List Branch}
    (accepts : Accepts text root) (leads : (Branch.part root).Leads path) :
    Branch.levelsOf .expression path ≤ maximalNesting ∧
      Branch.levelsOf .table path ≤ maximalNesting := by
  have every : path.countP Branch.takesLevel ≤ maximalNesting := accepts.accommodates path leads
  have counted (kind : NodeKind) : Branch.levelsOf kind path ≤ path.countP Branch.takesLevel :=
    List.countP_mono_left fun branch _ takes => (Bool.and_eq_true_iff.mp takes).1
  exact ⟨Nat.le_trans (counted .expression) every, Nat.le_trans (counted .table) every⟩

/-- In `2 * (1 + 1)` the sum nests, and its left side stands on the level of the sum. -/
theorem Accepts.levelsOf_le_product :
    let sum : Expr := .binary (.literal (.integer 1)) .add (.literal (.integer 1))
    let product : Expr := .binary (.literal (.integer 2)) .multiply sum
    let path : List Branch := [⟨.expression product, .nested⟩, .part product.node,
      ⟨.expression sum, .nested⟩, .part sum.node, ⟨.expression (.literal (.integer 1)), .beside⟩]
    Accepts "2 * (1 + 1)" (.expression product) ∧ (Branch.part (.expression product)).Leads path ∧
      Branch.levelsOf .expression path = 2 ∧ Branch.levelsOf .expression path ≤ maximalNesting ∧
      Branch.levelsOf .table path ≤ maximalNesting := by
  intro sum product path
  have accepts : Accepts "2 * (1 + 1)" (.expression product) := .expression rfl
  have leads : (Branch.part (.expression product)).Leads path :=
    .down List.mem_cons_self (.down (List.mem_cons_of_mem _ List.mem_cons_self)
      (.down List.mem_cons_self (.down List.mem_cons_self (.here _))))
  exact ⟨accepts, leads, rfl, Accepts.levelsOf_le accepts leads⟩

/-- Without regard to what nests, there are accepted trees with more expressions than levels on a
way down, and with more tables. -/
theorem Accepts.nodesOf_exceeds :
    (Accepts (sumText maximalNesting) (.expression (sumOfOnes maximalNesting)) ∧
      ∃ path, (Branch.part (.expression (sumOfOnes maximalNesting))).Leads path ∧
        maximalNesting < Branch.nodesOf .expression path) ∧
    (Accepts (crossingText maximalNesting) (.statement (.select (crossingQuery maximalNesting))) ∧
      ∃ path, (Branch.part (.statement (.select (crossingQuery maximalNesting)))).Leads path ∧
        maximalNesting < Branch.nodesOf .table path) := by
  constructor
  · obtain ⟨path, leads, nodes⟩ := sum_leads maximalNesting .nested
    exact ⟨.expression (parseExpression_sum maximalNesting), path, leads, by omega⟩
  · obtain ⟨path, leads, nodes⟩ := crossed_leads maximalNesting .listed
    refine ⟨.statement (parseStatements_crossing maximalNesting) List.mem_cons_self, _,
      .down List.mem_cons_self (.down (List.mem_cons_of_mem _ List.mem_cons_self) leads), ?_⟩
    rw [Branch.nodesOf_cons, Branch.nodesOf_cons, nodes]
    exact Nat.lt_succ_self maximalNesting

end Acceptance

end SqlTree
