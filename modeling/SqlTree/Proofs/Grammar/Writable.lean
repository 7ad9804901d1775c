import Mathlib.Order.Filter.AtTopBot.Basic
import SqlTree.Proofs.Grammar.Written

/-!
# Writable trees

The trees that can be written at all. Parentheses around every operand write any of them, within
every number of levels from some number on.
-/

namespace SqlTree

open Filter

mutual

/-- An expression can be written: its parameters are numbered, no list behind `IN` is empty, every
case expression has an arm, and its queries can be written. -/
inductive Expr.Writable : Expr → Prop
  | reference (table : Option ObjectName) (column : String) : (Expr.reference table column).Writable
  | literal (value : Literal) : (Expr.literal value).Writable
  | parameter (number : UInt32) : (Expr.parameter (Grammar.parameterName number)).Writable
  | unary (operator : UnaryOperator) {body : Expr} (operand : body.Writable) :
      (Expr.unary operator body).Writable
  | binary (operator : BinaryOperator) {left right : Expr} (first : left.Writable)
      (second : right.Writable) : (Expr.binary left operator right).Writable
  | ternary (operator : TernaryOperator) {value low high : Expr} (first : value.Writable)
      (second : low.Writable) (third : high.Writable) :
      (Expr.ternary operator value low high).Writable
  | inList (negated : Bool) {body : Expr} {list : List Expr} (operand : body.Writable)
      (nonempty : list ≠ []) (each : ∀ entry ∈ list, entry.Writable) :
      (Expr.inList body list negated).Writable
  | call (function : ObjectName) (distinct : Bool) {arguments : List Expr}
      (each : ∀ argument ∈ arguments, argument.Writable) :
      (Expr.call function arguments distinct).Writable
  | cast (target : DataType) {body : Expr} (operand : body.Writable) :
      (Expr.cast body target).Writable
  | case {subject : Option Expr} {arms : List CaseArm} {otherwise : Option Expr}
      (onSubject : ∀ body ∈ subject, body.Writable) (nonempty : arms ≠ [])
      (conditions : ∀ arm ∈ arms, arm.condition.Writable)
      (results : ∀ arm ∈ arms, arm.result.Writable)
      (last : ∀ body ∈ otherwise, body.Writable) : (Expr.case subject arms otherwise).Writable
  | select {query : Select} (inner : query.Writable) : (Expr.select query).Writable

/-- A query can be written: it returns a column at least, and its parts can be written. -/
inductive Select.Writable : Select → Prop
  | query {query : Select} (nonempty : query.columns ≠ [])
      (columns : ∀ column ∈ query.columns, column.value.Writable)
      (source : ∀ tables ∈ query.source, tables.Writable)
      (filter : ∀ body ∈ query.filter, body.Writable)
      (groupBy : ∀ body ∈ query.groupBy, body.Writable)
      (having : ∀ body ∈ query.having, body.Writable)
      (orderBy : ∀ sort ∈ query.orderBy, sort.key.Writable)
      (limit : ∀ body ∈ query.limit, body.Writable)
      (offset : ∀ body ∈ query.offset, body.Writable) : query.Writable

/-- A table can be written: a cross join has nothing to match by, and every other join has a
condition or columns, but not both. -/
inductive TableRef.Writable : TableRef → Prop
  | table (name : ObjectName) (aliasName : Option String) : (TableRef.table name aliasName).Writable
  | subquery (aliasName : String) {query : Select} (inner : query.Writable) :
      (TableRef.subquery query aliasName).Writable
  | cross {left right : TableRef} (first : left.Writable) (second : right.Writable) :
      (TableRef.join left ⟨.cross, right, none, []⟩).Writable
  | onCondition {kind : JoinKind} {left right : TableRef} {condition : Expr}
      (matching : kind ≠ .cross) (first : left.Writable) (second : right.Writable)
      (third : condition.Writable) :
      (TableRef.join left ⟨kind, right, some condition, []⟩).Writable
  | onColumns {kind : JoinKind} {left right : TableRef} {columns : List String}
      (matching : kind ≠ .cross) (nonempty : columns ≠ []) (first : left.Writable)
      (second : right.Writable) :
      (TableRef.join left ⟨kind, right, none, columns⟩).Writable

end

/-- What holds from some number of levels on holds one level further in. -/
theorem eventually_inside {P : Nat → Prop} (holds : ∀ᶠ levels in atTop, P levels) :
    ∀ᶠ levels in atTop, ∃ inner, levels = inner + 1 ∧ P inner := by
  obtain ⟨bound, from_bound⟩ := eventually_atTop.mp holds
  refine eventually_atTop.mpr ⟨bound + 1, fun levels le => ?_⟩
  obtain ⟨inner, rfl⟩ := Nat.exists_eq_succ_of_ne_zero (Nat.ne_zero_of_lt le)
  exact ⟨inner, rfl, from_bound inner (Nat.le_of_succ_le_succ le)⟩

/-- What holds of each entry of a list from some number of levels on holds of all from some on. -/
theorem eventually_forall_mem {α : Type} {P : Nat → α → Prop} {list : List α}
    (each : ∀ entry ∈ list, ∀ᶠ levels in atTop, P levels entry) :
    ∀ᶠ levels in atTop, ∀ entry ∈ list, P levels entry := by
  induction list with
  | nil => exact .of_forall fun _ => nofun
  | cons entry list inductionHypothesis =>
      rw [List.forall_mem_cons] at each
      filter_upwards [each.1, inductionHypothesis each.2] with levels first others
      exact List.forall_mem_cons.mpr ⟨first, others⟩

theorem eventually_forall_mem_option {α : Type} {P : Nat → α → Prop} {option : Option α}
    (each : ∀ entry ∈ option, ∀ᶠ levels in atTop, P levels entry) :
    ∀ᶠ levels in atTop, ∀ entry ∈ option, P levels entry := by
  cases option with
  | none => exact .of_forall fun _ => nofun
  | some entry =>
      filter_upwards [each entry rfl] with levels holds
      rintro _ ⟨⟩
      exact holds

/-- Values that can each be written make a list of pieces. -/
theorem exists_pieces {α β : Type} {value : β → α} {P : β → Prop} {list : List α}
    (each : ∀ entry ∈ list, ∃ piece, value piece = entry ∧ P piece) :
    ∃ pieces : List β, pieces.map value = list ∧ ∀ piece ∈ pieces, P piece := by
  induction list with
  | nil => exact ⟨[], rfl, nofun⟩
  | cons entry list inductionHypothesis =>
      obtain ⟨⟨piece, rfl, written⟩, others⟩ := List.forall_mem_cons.mp each
      obtain ⟨pieces, rfl, holds⟩ := inductionHypothesis others
      exact ⟨piece :: pieces, rfl, List.forall_mem_cons.mpr ⟨written, holds⟩⟩

theorem exists_piece_option {α β : Type} {value : β → α} {P : β → Prop} {option : Option α}
    (each : ∀ entry ∈ option, ∃ piece, value piece = entry ∧ P piece) :
    ∃ piece? : Option β, piece?.map value = option ∧ ∀ piece ∈ piece?, P piece := by
  cases option with
  | none => exact ⟨none, rfl, nofun⟩
  | some entry =>
      obtain ⟨piece, rfl, written⟩ := each entry rfl
      exact ⟨some piece, rfl, by rintro _ ⟨⟩; exact written⟩

/-- An expression can be written from some number of levels on, wherever it stands. -/
def Expr.Writes (body : Expr) : Prop :=
  ∀ᶠ levels in atTop, ∀ power, ∃ kinds, Expr.Written levels power body kinds

def Select.Writes (query : Select) : Prop :=
  ∀ᶠ levels in atTop, ∃ kinds, Select.Written levels query kinds

def TableRef.Writes (tables : TableRef) : Prop :=
  ∀ᶠ levels in atTop, ∃ kinds, TableRef.WrittenFactor levels tables kinds

namespace Expr.Writes

/-- What can be written on its own can be written everywhere, in parentheses. -/
theorem of_written {body : Expr}
    (written : ∀ᶠ levels in atTop, ∃ kinds, Expr.Written (levels + 1) 0 body kinds) :
    body.Writes := by
  filter_upwards [eventually_inside (eventually_inside written)] with levels within power
  obtain ⟨_, rfl, inner, rfl, kinds, found⟩ := within
  exact ⟨_, .parens found⟩

/-- An expression can be written on the level of an operator and on the next. -/
theorem both {body : Expr} (writes : body.Writes) :
    ∀ᶠ levels in atTop, (∀ power, ∃ kinds, Expr.Written (levels + 1) power body kinds)
      ∧ ∀ power, ∃ kinds, Expr.Written levels power body kinds :=
  ((tendsto_add_atTop_nat 1).eventually writes).and writes

/-- Expressions that can each be written are the values of pieces that are written as they are. -/
theorem pieces {levels : Nat} {list : List Expr}
    (each : ∀ entry ∈ list, ∀ power, ∃ kinds, Expr.Written levels power entry kinds) :
    ∃ pieces : List (Piece Expr), pieces.map Piece.value = list ∧
      ∀ piece ∈ pieces, Expr.Written levels 0 piece.value piece.kinds :=
  exists_pieces fun entry among =>
    have ⟨kinds, found⟩ := each entry among 0
    ⟨⟨entry, kinds⟩, rfl, found⟩

theorem piece {levels : Nat} {option : Option Expr}
    (each : ∀ entry ∈ option, ∀ power, ∃ kinds, Expr.Written levels power entry kinds) :
    ∃ piece? : Option (Piece Expr), piece?.map Piece.value = option ∧
      ∀ piece ∈ piece?, Expr.Written levels 0 piece.value piece.kinds :=
  exists_piece_option fun entry present =>
    have ⟨kinds, found⟩ := each entry present 0
    ⟨⟨entry, kinds⟩, rfl, found⟩

theorem outputPieces {levels : Nat} {columns : List OutputColumn}
    (each : ∀ column ∈ columns, ∀ power, ∃ kinds, Expr.Written levels power column.value kinds) :
    ∃ pieces : List (Piece OutputColumn), pieces.map Piece.value = columns ∧
      ∀ piece ∈ pieces, OutputColumn.Written levels piece.value piece.kinds :=
  exists_pieces fun ⟨value, aliasName⟩ among =>
    have ⟨kinds, found⟩ := each _ among 0
    ⟨⟨⟨value, aliasName⟩, kinds ++ aliasKinds aliasName⟩, rfl, .value aliasName found⟩

theorem sortPieces {levels : Nat} {sorts : List SortKey}
    (each : ∀ sort ∈ sorts, ∀ power, ∃ kinds, Expr.Written levels power sort.key kinds) :
    ∃ pieces : List SortPiece, (pieces.map SortPiece.piece).map Piece.value = sorts ∧
      ∀ piece ∈ pieces, piece.words ∈ piece.direction.words ∧
        Expr.Written levels 0 piece.key.value piece.key.kinds := by
  simp only [List.map_map]
  refine exists_pieces fun ⟨key, direction, nulls⟩ among => ?_
  obtain ⟨kinds, found⟩ := each _ among 0
  obtain ⟨words, spelled⟩ : ∃ words, words ∈ direction.words := by
    cases direction <;> exact ⟨_, List.mem_cons_self⟩
  exact ⟨⟨⟨key, kinds⟩, direction, words, nulls⟩, rfl, spelled, found⟩

theorem unary (operator : UnaryOperator) {body : Expr} (operand : body.Writes) :
    (Expr.unary operator body).Writes := by
  apply of_written
  filter_upwards [operand.both] with levels ⟨outer, inner⟩
  by_cases behind : operator.followsOperand = true
  · obtain ⟨kinds, found⟩ := outer operator.binding
    exact ⟨_, .test behind (Nat.zero_le _) found⟩
  · obtain ⟨kinds, found⟩ := inner operator.binding
    exact ⟨_, .leading (Bool.eq_false_of_not_eq_true behind) (Nat.zero_le _) found⟩

theorem binary (operator : BinaryOperator) {left right : Expr} (first : left.Writes)
    (second : right.Writes) : (Expr.binary left operator right).Writes := by
  apply of_written
  filter_upwards [first.both, second] with levels ⟨outer, _⟩ inner
  obtain ⟨leftKinds, leftWritten⟩ := outer operator.binding
  obtain ⟨rightKinds, rightWritten⟩ := inner (operator.binding + 1)
  exact ⟨_, .binary (Nat.zero_le _) leftWritten rightWritten⟩

theorem ternary (operator : TernaryOperator) {value low high : Expr} (first : value.Writes)
    (second : low.Writes) (third : high.Writes) :
    (Expr.ternary operator value low high).Writes := by
  apply of_written
  filter_upwards [first.both, second, third] with levels ⟨outer, _⟩ below above
  obtain ⟨kinds, written⟩ := outer rangeBinding
  obtain ⟨lowKinds, lowWritten⟩ := below (rangeBinding + 1)
  obtain ⟨highKinds, highWritten⟩ := above (rangeBinding + 1)
  exact ⟨_, .ternary (Nat.zero_le _) written lowWritten highWritten⟩

theorem inList (negated : Bool) {body : Expr} {list : List Expr} (operand : body.Writes)
    (nonempty : list ≠ []) (each : ∀ entry ∈ list, entry.Writes) :
    (Expr.inList body list negated).Writes := by
  apply of_written
  filter_upwards [operand.both, eventually_forall_mem each] with levels ⟨outer, _⟩ entries
  obtain ⟨kinds, written⟩ := outer rangeBinding
  obtain ⟨parts, rfl, found⟩ := pieces entries
  exact ⟨_, .inList negated (Nat.zero_le _) written (List.map_eq_nil_iff.not.mp nonempty) found⟩

theorem call (function : ObjectName) (distinct : Bool) {arguments : List Expr}
    (each : ∀ argument ∈ arguments, argument.Writes) :
    (Expr.call function arguments distinct).Writes := by
  apply of_written
  filter_upwards [eventually_forall_mem each] with levels entries
  obtain ⟨parts, rfl, found⟩ := pieces entries
  exact ⟨_, .call function distinct found⟩

theorem cast (target : DataType) {body : Expr} (operand : body.Writes) :
    (Expr.cast body target).Writes := by
  apply of_written
  filter_upwards [operand] with levels inner
  obtain ⟨kinds, written⟩ := inner 0
  exact ⟨_, .castCall target written⟩

theorem case {subject : Option Expr} {arms : List CaseArm} {otherwise : Option Expr}
    (onSubject : ∀ body ∈ subject, body.Writes) (nonempty : arms ≠ [])
    (conditions : ∀ arm ∈ arms, arm.condition.Writes) (results : ∀ arm ∈ arms, arm.result.Writes)
    (last : ∀ body ∈ otherwise, body.Writes) : (Expr.case subject arms otherwise).Writes := by
  apply of_written
  filter_upwards [eventually_forall_mem_option onSubject, eventually_forall_mem conditions,
    eventually_forall_mem results, eventually_forall_mem_option last]
    with levels first whens thens fourth
  obtain ⟨subjectPiece, rfl, subjectWritten⟩ := piece first
  obtain ⟨lastPiece, rfl, lastWritten⟩ := piece fourth
  obtain ⟨parts, rfl, found⟩ : ∃ parts : List (Piece Expr × Piece Expr),
      parts.map (fun arm => (armPiece arm).value) = arms ∧
        ∀ arm ∈ parts, Expr.Written levels 0 arm.1.value arm.1.kinds
          ∧ Expr.Written levels 0 arm.2.value arm.2.kinds := by
    refine exists_pieces fun ⟨condition, result⟩ among => ?_
    obtain ⟨conditionKinds, conditionWritten⟩ := whens _ among 0
    obtain ⟨resultKinds, resultWritten⟩ := thens _ among 0
    exact ⟨(⟨condition, conditionKinds⟩, ⟨result, resultKinds⟩), rfl,
      conditionWritten, resultWritten⟩
  have written : Expr.Written (levels + 1) 0 _ _ :=
    .case subjectWritten (List.map_eq_nil_iff.not.mp nonempty)
      (fun arm among => (found arm among).1) (fun arm among => (found arm among).2) lastWritten
  rw [List.map_map] at written
  exact ⟨_, written⟩

theorem select {query : Select} (inner : query.Writes) : (Expr.select query).Writes := by
  apply of_written
  filter_upwards [inner] with levels ⟨kinds, written⟩
  exact ⟨_, .select written⟩

end Expr.Writes

theorem TableRef.Writes.piece {levels : Nat} {option : Option TableRef}
    (each : ∀ tables ∈ option, ∃ kinds, TableRef.WrittenFactor levels tables kinds) :
    ∃ piece? : Option (Piece TableRef), piece?.map Piece.value = option ∧
      ∀ piece ∈ piece?, TableRef.Written levels piece.value piece.kinds :=
  exists_piece_option fun tables present =>
    have ⟨kinds, found⟩ := each tables present
    ⟨⟨tables, kinds⟩, rfl, .factor found⟩

theorem Select.Writes.query {query : Select} (nonempty : query.columns ≠ [])
    (columns : ∀ column ∈ query.columns, column.value.Writes)
    (source : ∀ tables ∈ query.source, tables.Writes)
    (filter : ∀ body ∈ query.filter, body.Writes)
    (groupBy : ∀ body ∈ query.groupBy, body.Writes)
    (having : ∀ body ∈ query.having, body.Writes)
    (orderBy : ∀ sort ∈ query.orderBy, sort.key.Writes)
    (limit : ∀ body ∈ query.limit, body.Writes) (offset : ∀ body ∈ query.offset, body.Writes) :
    query.Writes := by
  obtain ⟨distinct, outputs, source?, filter?, groups, having?, sorts, limit?, offset?⟩ := query
  have written : ∀ᶠ levels in atTop, ∃ kinds, Select.Written (levels + 1)
      ⟨distinct, outputs, source?, filter?, groups, having?, sorts, limit?, offset?⟩ kinds := by
    filter_upwards [eventually_forall_mem columns, eventually_forall_mem_option source,
      eventually_forall_mem_option filter, eventually_forall_mem groupBy,
      eventually_forall_mem_option having, eventually_forall_mem orderBy,
      eventually_forall_mem_option limit, eventually_forall_mem_option offset]
      with levels outputsHold sourceHolds filterHolds groupsHold havingHolds sortsHold limitHolds
        offsetHolds
    obtain ⟨outputPieces, rfl, outputsWritten⟩ :=
      Expr.Writes.outputPieces outputsHold
    obtain ⟨sourcePiece, rfl, sourceWritten⟩ := TableRef.Writes.piece sourceHolds
    obtain ⟨filterPiece, rfl, filterWritten⟩ := Expr.Writes.piece filterHolds
    obtain ⟨groupPieces, rfl, groupsWritten⟩ := Expr.Writes.pieces groupsHold
    obtain ⟨havingPiece, rfl, havingWritten⟩ := Expr.Writes.piece havingHolds
    obtain ⟨sortPieces, rfl, sortsWritten⟩ := Expr.Writes.sortPieces sortsHold
    obtain ⟨limitPiece, rfl, limitWritten⟩ := Expr.Writes.piece limitHolds
    obtain ⟨offsetPiece, rfl, offsetWritten⟩ := Expr.Writes.piece offsetHolds
    obtain ⟨words, spelled⟩ : ∃ words, words ∈ distinctWords distinct := by
      cases distinct <;> exact ⟨_, List.mem_cons_self⟩
    let parts : QueryPieces := ⟨distinct, words, outputPieces, sourcePiece, filterPiece,
      groupPieces, havingPiece, sortPieces, limitPiece, offsetPiece⟩
    have found : Select.Written (levels + 1) parts.select parts.kinds :=
      .query spelled (List.map_eq_nil_iff.not.mp nonempty) outputsWritten sourceWritten
        filterWritten groupsWritten havingWritten (fun sort among => (sortsWritten sort among).1)
        (fun sort among => (sortsWritten sort among).2) limitWritten offsetWritten
    exact ⟨_, found⟩
  filter_upwards [eventually_inside written] with levels within
  obtain ⟨inner, rfl, found⟩ := within
  exact found

namespace TableRef.Writes

theorem table (name : ObjectName) (aliasName : Option String) :
    (TableRef.table name aliasName).Writes :=
  .of_forall fun _ => ⟨_, .table name aliasName⟩

theorem subquery (aliasName : String) {query : Select} (inner : query.Writes) :
    (TableRef.subquery query aliasName).Writes := by
  filter_upwards [inner] with levels ⟨kinds, written⟩
  exact ⟨_, .subquery aliasName written⟩

/-- Parentheses make a join fit the right side of another. -/
theorem of_written {tables : TableRef}
    (written : ∀ᶠ levels in atTop, ∃ kinds, TableRef.Written levels tables kinds) :
    tables.Writes := by
  filter_upwards [eventually_inside written] with levels within
  obtain ⟨inner, rfl, kinds, found⟩ := within
  exact ⟨_, .parens found⟩

theorem cross {left right : TableRef} (first : left.Writes) (second : right.Writes) :
    (TableRef.join left ⟨.cross, right, none, []⟩).Writes := by
  apply of_written
  filter_upwards [first, second] with levels ⟨_, leftWritten⟩ ⟨_, rightWritten⟩
  exact ⟨_, .cross List.mem_cons_self (.factor leftWritten) rightWritten⟩

/-- Every kind of join can be spelled. -/
private theorem spelled (kind : JoinKind) : ∃ words, words ∈ kind.words := by
  cases kind <;> exact ⟨_, List.mem_cons_self⟩

theorem onCondition {kind : JoinKind} {left right : TableRef} {condition : Expr}
    (matching : kind ≠ .cross) (first : left.Writes) (second : right.Writes)
    (third : condition.Writes) :
    (TableRef.join left ⟨kind, right, some condition, []⟩).Writes := by
  obtain ⟨words, spelledSo⟩ := spelled kind
  apply of_written
  filter_upwards [first, second, third] with levels ⟨_, leftWritten⟩ ⟨_, rightWritten⟩ onward
  obtain ⟨kinds, written⟩ := onward 0
  exact ⟨_, .onCondition matching spelledSo (.factor leftWritten) rightWritten written⟩

theorem onColumns {kind : JoinKind} {left right : TableRef} {columns : List String}
    (matching : kind ≠ .cross) (nonempty : columns ≠ []) (first : left.Writes)
    (second : right.Writes) : (TableRef.join left ⟨kind, right, none, columns⟩).Writes := by
  obtain ⟨words, spelledSo⟩ := spelled kind
  apply of_written
  filter_upwards [first, second] with levels ⟨_, leftWritten⟩ ⟨_, rightWritten⟩
  exact ⟨_, .onColumns matching spelledSo nonempty (.factor leftWritten) rightWritten⟩

end TableRef.Writes

mutual

/-- Every writable expression can be written, and likewise below for queries and tables. -/
theorem Expr.Writable.writes {body : Expr} : body.Writable → body.Writes
  | .reference table column => .of_written (.of_forall fun _ => ⟨_, .reference table column⟩)
  | .literal value => .of_written (.of_forall fun _ => ⟨_, .literal value⟩)
  | .parameter number => .of_written (.of_forall fun _ => ⟨_, .parameter number⟩)
  | .unary operator operand => .unary operator operand.writes
  | .binary operator first second => .binary operator first.writes second.writes
  | .ternary operator first second third =>
      .ternary operator first.writes second.writes third.writes
  | .inList negated operand nonempty each =>
      .inList negated operand.writes nonempty fun entry among => (each entry among).writes
  | .call function distinct each =>
      .call function distinct fun argument among => (each argument among).writes
  | .cast target operand => .cast target operand.writes
  | .case onSubject nonempty conditions results last =>
      .case (fun body present => (onSubject body present).writes) nonempty
        (fun arm among => (conditions arm among).writes)
        (fun arm among => (results arm among).writes)
        fun body present => (last body present).writes
  | .select inner => .select inner.writes

theorem Select.Writable.writes {query : Select} : query.Writable → query.Writes
  | .query nonempty columns source filter groupBy having orderBy limit offset =>
      .query nonempty (fun column among => (columns column among).writes)
        (fun tables present => (source tables present).writes)
        (fun body present => (filter body present).writes)
        (fun body among => (groupBy body among).writes)
        (fun body present => (having body present).writes)
        (fun sort among => (orderBy sort among).writes)
        (fun body present => (limit body present).writes)
        fun body present => (offset body present).writes

theorem TableRef.Writable.writes {tables : TableRef} : tables.Writable → tables.Writes
  | .table name aliasName => .table name aliasName
  | .subquery aliasName inner => .subquery aliasName inner.writes
  | .cross first second => .cross first.writes second.writes
  | .onCondition matching first second third =>
      .onCondition matching first.writes second.writes third.writes
  | .onColumns matching nonempty first second =>
      .onColumns matching nonempty first.writes second.writes

end

end SqlTree
