import SqlTree.Proofs.Grammar.Queries
import SqlTree.Proofs.Grammar.Written

/-!
# Completeness of the grammar

Whatever kinds a tree may be written with, the tree is read from them. The induction is on how the
tree is written; each way of writing has a lemma of its own.
-/

namespace SqlTree

open SqlTree.Parser SqlTree.Grammar

/-- A query in parentheses is read as an expression. -/
theorem ReadsOperand.select {levels power : Nat} {query : Select} {kinds : List TokenKind}
    (inner : ReadsQuery levels query kinds) :
    ReadsOperand (levels + 1) power (.select query) (inParens kinds) := by
  obtain ⟨others, rfl⟩ := inner.opens
  refine of_operand rfl fun rest _ => Reads.operand_of_parens ?_
  exact Reads.bind_none (Reads.atKeyword_true rfl) (Reads.map (inner.read _ (Nat.le_succ 8)))

mutual

theorem Expr.Written.reads {levels power : Nat} {body : Expr} {kinds : List TokenKind} :
    Expr.Written levels power body kinds → ReadsOperand levels power body kinds
  | .parens inner => .parens inner.reads
  | .reference table column => .reference table column
  | .allColumns table => .allColumns table
  | .literal value => .literal value
  | .parameter number => .parameter number
  | .leading before tight operand => .leading before tight operand.reads
  | .test behind tight operand => .test behind tight operand.reads
  | .binary tight first second => .binary tight first.reads second.reads
  | .ternary tight first second third => .ternary tight first.reads second.reads third.reads
  | .inList negated tight operand nonempty each =>
      .inList negated tight operand.reads nonempty fun piece among => (each piece among).reads
  | .call function distinct each =>
      .call function distinct fun piece among => (each piece among).reads
  | .callOfAll function => .callOfAll function
  | .castCall target operand => .castCall operand.reads fun _ => .dataType target rfl
  | .castBehind target tight operand => .castBehind target tight operand.reads
  | .case onSubject nonempty conditions results last =>
      .case (fun piece present => (onSubject piece present).reads) nonempty
        (fun arm among => (conditions arm among).reads)
        (fun arm among => (results arm among).reads)
        fun piece present => (last piece present).reads
  | .select inner => .select inner.reads

theorem OutputColumn.Written.reads {levels : Nat} {column : OutputColumn}
    {kinds : List TokenKind} :
    OutputColumn.Written levels column kinds → ReadsColumn levels column kinds
  | .all aliasName => .all aliasName
  | .allInParens aliasName => .allInParens aliasName
  | .value aliasName written => .value aliasName written.reads

theorem Select.Written.reads {levels : Nat} {query : Select} {kinds : List TokenKind} :
    Select.Written levels query kinds → ReadsQuery levels query kinds
  | .query words nonempty columns source filter groupBy having directions orderBy limit offset =>
      .query words nonempty (fun piece among => (columns piece among).reads)
        (fun piece present => (source piece present).reads)
        (fun piece present => (filter piece present).reads)
        (fun piece among => (groupBy piece among).reads)
        (fun piece present => (having piece present).reads) directions
        (fun sort among => (orderBy sort among).reads)
        (fun piece present => (limit piece present).reads)
        fun piece present => (offset piece present).reads

theorem TableRef.WrittenFactor.reads {levels : Nat} {table : TableRef} {kinds : List TokenKind} :
    TableRef.WrittenFactor levels table kinds → ReadsFactor levels table kinds
  | .table name aliasName => .table name aliasName
  | .subquery aliasName inner => .subquery aliasName inner.reads
  | .parens inner => .parens inner.reads

theorem TableRef.Written.reads {levels : Nat} {tables : TableRef} {kinds : List TokenKind} :
    TableRef.Written levels tables kinds → ReadsTables levels tables kinds
  | .factor written => .factor written.reads
  | .cross spelled first second => .cross spelled first.reads second.reads
  | .onCondition matching spelled first second third =>
      .onCondition matching spelled first.reads second.reads third.reads
  | .onColumns matching spelled nonempty first second =>
      .onColumns matching spelled nonempty first.reads second.reads

end

end SqlTree
