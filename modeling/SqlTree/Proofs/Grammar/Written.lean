import SqlTree.Proofs.Grammar.Writing

/-!
# Written trees

The relation between a tree and the kinds of the tokens that it may be written with, within a number
of levels. The position of an expression demands a power: operators that bind more loosely stand
there in parentheses only.
-/

namespace SqlTree

mutual

/-- An expression may be written with some kinds, within a number of levels, where operators bind at
least as tightly as the given power. -/
inductive Expr.Written : (levels power : Nat) → Expr → List TokenKind → Prop
  /-- Parentheses may stand around any expression. -/
  | parens {levels power : Nat} {body : Expr} {kinds : List TokenKind}
      (inner : Expr.Written levels 0 body kinds) :
      Expr.Written (levels + 1) power body (inParens kinds)
  | reference {levels power : Nat} (table : Option ObjectName) (column : String) :
      Expr.Written (levels + 1) power (.reference table column) (referenceKinds table column)
  | allColumns {levels power : Nat} (table : ObjectName) :
      Expr.Written (levels + 1) power (.reference (some table) "*")
        (table.kinds ++ [.symbol .dot, .symbol .star])
  | literal {levels power : Nat} (value : Literal) :
      Expr.Written (levels + 1) power (.literal value) [value.kind]
  | parameter {levels power : Nat} (number : UInt32) :
      Expr.Written (levels + 1) power (.parameter (Grammar.parameterName number))
        [.parameter number]
  | leading {levels power : Nat} {operator : UnaryOperator} {body : Expr}
      {kinds : List TokenKind} (before : operator.followsOperand = false)
      (tight : power ≤ operator.binding)
      (operand : Expr.Written levels operator.binding body kinds) :
      Expr.Written (levels + 1) power (.unary operator body) (operator.kinds ++ kinds)
  | test {levels power : Nat} {operator : UnaryOperator} {body : Expr}
      {kinds : List TokenKind} (behind : operator.followsOperand = true)
      (tight : power ≤ operator.binding)
      (operand : Expr.Written (levels + 1) operator.binding body kinds) :
      Expr.Written (levels + 1) power (.unary operator body) (kinds ++ operator.kinds)
  | binary {levels power : Nat} {operator : BinaryOperator} {left right : Expr}
      {leftKinds rightKinds : List TokenKind} (tight : power ≤ operator.binding)
      (first : Expr.Written (levels + 1) operator.binding left leftKinds)
      (second : Expr.Written levels (operator.binding + 1) right rightKinds) :
      Expr.Written (levels + 1) power (.binary left operator right)
        (leftKinds ++ (operator.kinds ++ rightKinds))
  | ternary {levels power : Nat} {operator : TernaryOperator} {value low high : Expr}
      {valueKinds lowKinds highKinds : List TokenKind} (tight : power ≤ rangeBinding)
      (first : Expr.Written (levels + 1) rangeBinding value valueKinds)
      (second : Expr.Written levels (rangeBinding + 1) low lowKinds)
      (third : Expr.Written levels (rangeBinding + 1) high highKinds) :
      Expr.Written (levels + 1) power (.ternary operator value low high)
        (valueKinds ++ (operator.kinds ++ (lowKinds ++ .keyword .AND :: highKinds)))
  | inList {levels power : Nat} {body : Expr} {kinds : List TokenKind} (negated : Bool)
      {list : List (Piece Expr)} (tight : power ≤ rangeBinding)
      (operand : Expr.Written (levels + 1) rangeBinding body kinds) (nonempty : list ≠ [])
      (each : ∀ piece ∈ list, Expr.Written levels 0 piece.value piece.kinds) :
      Expr.Written (levels + 1) power (.inList body (list.map Piece.value) negated)
        (kinds ++ (inKinds negated ++ inParens (Piece.separated list)))
  | call {levels power : Nat} (function : ObjectName) (distinct : Bool)
      {arguments : List (Piece Expr)}
      (each : ∀ piece ∈ arguments, Expr.Written levels 0 piece.value piece.kinds) :
      Expr.Written (levels + 1) power (.call function (arguments.map Piece.value) distinct)
        (function.kinds ++ callKinds distinct (Piece.separated arguments))
  /-- The star stands for all columns only as the one argument of a call that is not distinct. -/
  | callOfAll {levels power : Nat} (function : ObjectName) :
      Expr.Written (levels + 1) power (.call function [.star] false)
        (function.kinds ++ callKinds false [.symbol .star])
  | castCall {levels power : Nat} {body : Expr} {kinds : List TokenKind} (target : DataType)
      (operand : Expr.Written levels 0 body kinds) :
      Expr.Written (levels + 1) power (.cast body target)
        (.keyword .CAST :: inParens (kinds ++ .keyword .AS :: target.kinds))
  | castBehind {levels power : Nat} {body : Expr} {kinds : List TokenKind} (target : DataType)
      (tight : power ≤ castBinding) (operand : Expr.Written (levels + 1) castBinding body kinds) :
      Expr.Written (levels + 1) power (.cast body target)
        (kinds ++ .symbol .doubleColon :: target.kinds)
  | case {levels power : Nat} {subject : Option (Piece Expr)}
      {arms : List (Piece Expr × Piece Expr)} {otherwise : Option (Piece Expr)}
      (onSubject : ∀ piece ∈ subject, Expr.Written levels 0 piece.value piece.kinds)
      (nonempty : arms ≠ [])
      (conditions : ∀ arm ∈ arms, Expr.Written levels 0 arm.1.value arm.1.kinds)
      (results : ∀ arm ∈ arms, Expr.Written levels 0 arm.2.value arm.2.kinds)
      (last : ∀ piece ∈ otherwise, Expr.Written levels 0 piece.value piece.kinds) :
      Expr.Written (levels + 1) power
        (.case (subject.map Piece.value) ((arms.map armPiece).map Piece.value)
          (otherwise.map Piece.value))
        (caseKinds subject arms otherwise)
  | select {levels power : Nat} {query : Select} {kinds : List TokenKind}
      (inner : Select.Written levels query kinds) :
      Expr.Written (levels + 1) power (.select query) (inParens kinds)

/-- A returned column may be written with some kinds. A star stands for all columns. -/
inductive OutputColumn.Written : (levels : Nat) → OutputColumn → List TokenKind → Prop
  | all {levels : Nat} (aliasName : Option String) :
      OutputColumn.Written (levels + 1) ⟨.star, aliasName⟩
        (.symbol .star :: aliasKinds aliasName)
  | allInParens {levels : Nat} (aliasName : Option String) :
      OutputColumn.Written (levels + 2) ⟨.star, aliasName⟩
        (inParens [.symbol .star] ++ aliasKinds aliasName)
  | value {levels : Nat} {value : Expr} {kinds : List TokenKind} (aliasName : Option String)
      (written : Expr.Written levels 0 value kinds) :
      OutputColumn.Written levels ⟨value, aliasName⟩ (kinds ++ aliasKinds aliasName)

/-- A query may be written with some kinds. -/
inductive Select.Written : (levels : Nat) → Select → List TokenKind → Prop
  | query {levels : Nat} {parts : QueryPieces} (words : parts.words ∈ distinctWords parts.distinct)
      (nonempty : parts.columns ≠ [])
      (columns : ∀ piece ∈ parts.columns, OutputColumn.Written levels piece.value piece.kinds)
      (source : ∀ piece ∈ parts.source, TableRef.Written levels piece.value piece.kinds)
      (filter : ∀ piece ∈ parts.filter, Expr.Written levels 0 piece.value piece.kinds)
      (groupBy : ∀ piece ∈ parts.groupBy, Expr.Written levels 0 piece.value piece.kinds)
      (having : ∀ piece ∈ parts.having, Expr.Written levels 0 piece.value piece.kinds)
      (directions : ∀ sort ∈ parts.orderBy, sort.words ∈ sort.direction.words)
      (orderBy : ∀ sort ∈ parts.orderBy, Expr.Written levels 0 sort.key.value sort.key.kinds)
      (limit : ∀ piece ∈ parts.limit, Expr.Written levels 0 piece.value piece.kinds)
      (offset : ∀ piece ∈ parts.offset, Expr.Written levels 0 piece.value piece.kinds) :
      Select.Written (levels + 1) parts.select parts.kinds

/-- A table may be written with some kinds where no join stands bare. -/
inductive TableRef.WrittenFactor : (levels : Nat) → TableRef → List TokenKind → Prop
  | table {levels : Nat} (name : ObjectName) (aliasName : Option String) :
      TableRef.WrittenFactor levels (.table name aliasName) (name.kinds ++ aliasKinds aliasName)
  | subquery {levels : Nat} {query : Select} {kinds : List TokenKind} (aliasName : String)
      (inner : Select.Written levels query kinds) :
      TableRef.WrittenFactor levels (.subquery query aliasName)
        (inParens kinds ++ aliasKinds (some aliasName))
  | parens {levels : Nat} {tables : TableRef} {kinds : List TokenKind}
      (inner : TableRef.Written levels tables kinds) :
      TableRef.WrittenFactor (levels + 1) tables (inParens kinds)

/-- A table with its joins may be written with some kinds. A cross join has nothing to match by, and
every other join has a condition or columns. -/
inductive TableRef.Written : (levels : Nat) → TableRef → List TokenKind → Prop
  | factor {levels : Nat} {table : TableRef} {kinds : List TokenKind}
      (written : TableRef.WrittenFactor levels table kinds) :
      TableRef.Written levels table kinds
  | cross {levels : Nat} {left right : TableRef} {leftKinds words rightKinds : List TokenKind}
      (spelled : words ∈ JoinKind.cross.words)
      (first : TableRef.Written levels left leftKinds)
      (second : TableRef.WrittenFactor levels right rightKinds) :
      TableRef.Written levels (.join left ⟨.cross, right, none, []⟩)
        (leftKinds ++ (words ++ rightKinds))
  | onCondition {levels : Nat} {kind : JoinKind} {left right : TableRef} {condition : Expr}
      {leftKinds words rightKinds kinds : List TokenKind} (matching : kind ≠ .cross)
      (spelled : words ∈ kind.words) (first : TableRef.Written levels left leftKinds)
      (second : TableRef.WrittenFactor levels right rightKinds)
      (third : Expr.Written levels 0 condition kinds) :
      TableRef.Written levels (.join left ⟨kind, right, some condition, []⟩)
        (leftKinds ++ (words ++ (rightKinds ++ .keyword .ON :: kinds)))
  | onColumns {levels : Nat} {kind : JoinKind} {left right : TableRef} {columns : List String}
      {leftKinds words rightKinds : List TokenKind} (matching : kind ≠ .cross)
      (spelled : words ∈ kind.words) (nonempty : columns ≠ [])
      (first : TableRef.Written levels left leftKinds)
      (second : TableRef.WrittenFactor levels right rightKinds) :
      TableRef.Written levels (.join left ⟨kind, right, none, columns⟩)
        (leftKinds ++ (words ++ (rightKinds ++
          .keyword .USING :: inParens (Piece.separated (columns.map namePiece)))))

end

end SqlTree
