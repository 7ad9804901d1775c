import SqlTree.Proofs.Grammar.Operators

/-!
# Reading suffixes

Each operator behind an operand is read with what belongs to it, and its power is seen before it is
taken.
-/

namespace SqlTree

open SqlTree.Parser SqlTree.Grammar

namespace Parser.Reads

variable {inner : Rules} {power : Nat} {kinds rest : List TokenKind}

theorem binarySuffix (operator : BinaryOperator) {right : Expr}
    (read : Reads (inner.expression power) kinds right rest) :
    Reads (suffix inner power) (operator.kinds ++ kinds) (.binary operator right) rest := by
  cases operator with
  | notLike | notIlike =>
      apply advance_bind TokenKind.noConfusion
      rintro ⟨first, span⟩ (rfl : first = _)
      apply advance_bind TokenKind.noConfusion
      rintro ⟨second, span⟩ (rfl : second = _)
      exact bind_last read (pure _ _)
  | _ =>
      apply advance_bind TokenKind.noConfusion
      rintro ⟨first, span⟩ (rfl : first = _)
      exact bind_none (pure _ _) (bind_last read (pure _ _))

theorem rangeSuffix (operator : TernaryOperator) {low high : Expr}
    {lowKinds highKinds : List TokenKind}
    (first : Reads (inner.expression power) lowKinds low (.keyword .AND :: (highKinds ++ rest)))
    (second : Reads (inner.expression power) highKinds high rest) :
    Reads (suffix inner power) (operator.kinds ++ (lowKinds ++ .keyword .AND :: highKinds))
      (.ternary operator low high) rest := by
  have bounds : ∀ negated, Reads (Grammar.rangeSuffix inner power negated)
      (lowKinds ++ .keyword .AND :: highKinds)
      (.ternary (if negated then .notBetween else .between) low high) rest := fun negated =>
    bind first (bind_one (expectKeyword _ _) (bind_last second (pure _ _)))
  cases operator with
  | between =>
      apply advance_bind TokenKind.noConfusion
      rintro ⟨first, span⟩ (rfl : first = _)
      exact bind_none (pure _ _) (bounds false)
  | notBetween =>
      apply advance_bind TokenKind.noConfusion
      rintro ⟨first, span⟩ (rfl : first = _)
      apply advance_bind TokenKind.noConfusion
      rintro ⟨second, span⟩ (rfl : second = _)
      exact bounds true

theorem listSuffix (negated : Bool) {list : List Expr}
    (noQuery : kindAt (kinds ++ .symbol .rightParen :: rest) 0 ≠ .keyword .SELECT)
    (read : Reads (expressionList inner) kinds list (.symbol .rightParen :: rest)) :
    Reads (suffix inner power) (inKinds negated ++ inParens kinds) (.inList list negated) rest := by
  have read : ∀ negated, Reads (Grammar.listSuffix inner negated) (inParens kinds)
      (.inList list negated) rest := fun negated =>
    parenthesized (bind_none (atKeyword_false noQuery) (bind_last read (pure _ _)))
  cases negated with
  | false =>
      apply advance_bind TokenKind.noConfusion
      rintro ⟨first, span⟩ (rfl : first = _)
      exact bind_none (pure _ _) (read false)
  | true =>
      apply advance_bind TokenKind.noConfusion
      rintro ⟨first, span⟩ (rfl : first = _)
      apply advance_bind TokenKind.noConfusion
      rintro ⟨second, span⟩ (rfl : second = _)
      exact read true

theorem castSuffix (target : DataType) (ends : extendsName (kindAt rest 0) = false) :
    Reads (suffix inner power) (.symbol .doubleColon :: target.kinds) (.cast target) rest := by
  apply advance_bind TokenKind.noConfusion
  rintro ⟨first, span⟩ (rfl : first = _)
  exact bind_none (pure _ _) (bind_last (dataType target ends) (pure _ _))

theorem truthSuffix {operator : UnaryOperator} (behind : operator.followsOperand = true)
    (rest : List TokenKind) :
    Reads (suffix inner power) operator.kinds (.unary operator) rest := by
  cases operator with
  | not | negate | plus => cases behind
  | isNull | isTrue | isFalse =>
      apply advance_bind TokenKind.noConfusion
      rintro ⟨first, span⟩ (rfl : first = _)
      refine bind_none (pure _ _) (bind_none (eat_false nofun) (bind_none (look _ 0) ?_))
      exact advance_bind TokenKind.noConfusion fun _ _ => pure _ _
  | _ =>
      apply advance_bind TokenKind.noConfusion
      rintro ⟨first, span⟩ (rfl : first = _)
      refine bind_none (pure _ _) (bind_one (eatKeyword _ _) (bind_none (look _ 0) ?_))
      exact advance_bind TokenKind.noConfusion fun _ _ => pure _ _

end Parser.Reads

namespace ReadsOperand

variable {levels power : Nat} {body : Expr} {kinds rest : List TokenKind}

/-- A position that demands a power is closed to the operators that a looser position is closed
to. -/
private theorem follows_of_tight {binding : Nat} (tight : power ≤ binding)
    (follows : Follows (power + 1) rest) : Follows (binding + 1) rest :=
  follows.mono (Nat.succ_le_succ tight)

theorem leading {operator : UnaryOperator} (before : operator.followsOperand = false)
    (tight : power ≤ operator.binding) (operand : ReadsOperand levels operator.binding body kinds) :
    ReadsOperand (levels + 1) power (.unary operator body) (operator.kinds ++ kinds) := by
  refine of_operand ?_ fun rest follows => ?_
  · cases operator with
    | not | negate | plus => rfl
    | _ => cases before
  · have looser : Follows operator.binding rest := by
      refine ⟨follows.ends, fun found suffix => ?_⟩
      have bound := follows.looser found suffix
      have other := suffixPower?_ne_leading suffix before
      omega
    exact Reads.operand_of_leading before (operand.expression (Nat.le_refl _) looser)

theorem test {operator : UnaryOperator} (behind : operator.followsOperand = true)
    (tight : power ≤ operator.binding)
    (operand : ReadsOperand (levels + 1) operator.binding body kinds) :
    ReadsOperand (levels + 1) power (.unary operator body) (kinds ++ operator.kinds) := by
  refine operand.suffix tight ?_ ?_ ?_ fun rest _ => Reads.truthSuffix behind rest
  all_goals cases operator with
    | not | negate | plus => cases behind
    | _ => simp [UnaryOperator.kinds, extendsName, suffixPower?, UnaryOperator.binding]

theorem binary {operator : BinaryOperator} {right : Expr} {rightKinds : List TokenKind}
    (tight : power ≤ operator.binding)
    (first : ReadsOperand (levels + 1) operator.binding body kinds)
    (second : ReadsOperand levels (operator.binding + 1) right rightKinds) :
    ReadsOperand (levels + 1) power (.binary body operator right)
      (kinds ++ (operator.kinds ++ rightKinds)) := by
  refine first.suffix tight ?_ ?_ ?_ fun rest follows => Reads.binarySuffix operator
    (second.expression (Nat.le_refl _) (follows_of_tight tight follows))
  all_goals cases operator <;>
    simp [BinaryOperator.kinds, extendsName, suffixPower?, infixPower?, isPatternOperator,
      patternPower, BinaryOperator.binding]

theorem ternary {operator : TernaryOperator} {low high : Expr}
    {lowKinds highKinds : List TokenKind} (tight : power ≤ rangeBinding)
    (first : ReadsOperand (levels + 1) rangeBinding body kinds)
    (second : ReadsOperand levels (rangeBinding + 1) low lowKinds)
    (third : ReadsOperand levels (rangeBinding + 1) high highKinds) :
    ReadsOperand (levels + 1) power (.ternary operator body low high)
      (kinds ++ (operator.kinds ++ (lowKinds ++ .keyword .AND :: highKinds))) := by
  refine first.suffix tight ?_ ?_ ?_ fun rest follows => Reads.rangeSuffix operator ?_ ?_
  -- `AND` is looser than any bound, so that the lower bound ends before it.
  case refine_4 => exact second.expression (Nat.le_refl _) ⟨rfl, fun _ suffix => by
    cases suffix
    decide⟩
  case refine_5 => exact third.expression (Nat.le_refl _) (follows_of_tight tight follows)
  all_goals cases operator <;>
    simp [TernaryOperator.kinds, extendsName, suffixPower?, infixPower?, isPatternOperator,
      patternPower, rangeBinding]

theorem castBehind (target : DataType) (tight : power ≤ castBinding)
    (operand : ReadsOperand (levels + 1) castBinding body kinds) :
    ReadsOperand (levels + 1) power (.cast body target)
      (kinds ++ .symbol .doubleColon :: target.kinds) :=
  operand.suffix tight (List.cons_ne_nil _ _) (fun _ => rfl) (fun _ => rfl)
    fun _ follows => Reads.castSuffix target follows.ends

end ReadsOperand

end SqlTree
