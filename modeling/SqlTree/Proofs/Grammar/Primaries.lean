import SqlTree.Proofs.Grammar.References

/-!
# Reading what stands without operators

Constants, parameters, parentheses, the arguments of calls, casts and case expressions, each as an
operand that suffixes may follow.
-/

namespace SqlTree

open SqlTree.Parser SqlTree.Grammar

namespace Parser.Reads

variable {levels : Nat} {inner : Rules} {kinds rest : List TokenKind}

theorem operand_of_literal (value : Literal) (rest : List TokenKind) :
    Reads (operand inner) [value.kind] (.literal value) rest := by
  have found : literalOf? value.kind = some value := by
    cases value with
    | boolean value => cases value <;> rfl
    | _ => rfl
  have plain : leadingOperator? value.kind = none := by
    cases value with
    | boolean value => cases value <;> rfl
    | _ => rfl
  have going : value.kind ≠ .finish := by
    intro same
    rw [same] at found
    cases found
  refine operand_of_primary plain (bind_none (look _ 0) ?_)
  rw [List.singleton_append, kindAt_cons_zero, found]
  exact advance_bind going fun _ _ => pure _ _

theorem operand_of_parameter (number : UInt32) (rest : List TokenKind) :
    Reads (operand inner) [.parameter number] (.parameter (parameterName number)) rest :=
  operand_of_primary rfl
    (bind_none (look _ 0) (advance_bind TokenKind.noConfusion fun _ _ => pure _ _))

theorem operand_of_star (rest : List TokenKind) :
    Reads (operand inner) [.symbol .star] .star rest :=
  operand_of_primary rfl
    (bind_none (look _ 0) (advance_bind TokenKind.noConfusion fun _ _ => pure _ _))

/-- What stands in parentheses is read as an expression or, behind `SELECT`, as a query. -/
theorem operand_of_parens {body : Expr}
    (read : Reads (do
      if ← Parser.atKeyword .SELECT then return .select (← inner.query) else inner.expression 0)
      kinds body (.symbol .rightParen :: rest)) :
    Reads (operand inner) (inParens kinds) body rest :=
  operand_of_primary rfl (bind_none (look _ 0) (parenthesized read))

/-- Expressions with commas between them are read one by one. -/
theorem expressionList {pieces : List (Piece Expr)} (nonempty : pieces ≠ [])
    (each : ∀ piece ∈ pieces, ReadsOperand levels 0 piece.value piece.kinds)
    (ends : EndsExpression (kindAt rest 0)) (stops : kindAt rest 0 ≠ .symbol .comma) :
    Reads (expressionList (rules levels)) (Piece.separated pieces) (pieces.map Piece.value) rest :=
  separated (Follows 0) nonempty
    (fun piece among _ follows => (each piece among).expression (Nat.le_refl _) follows)
    (fun _ => EndsExpression.follows ⟨rfl, fun _ => rfl⟩ 0) (ends.follows 0) stops

end Parser.Reads

/-- A list of expressions opens as its first does. -/
theorem opensExpression_separated {levels : Nat} {pieces : List (Piece Expr)}
    (nonempty : pieces ≠ [])
    (each : ∀ piece ∈ pieces, ReadsOperand levels 0 piece.value piece.kinds) :
    opensExpression (Piece.separated pieces) = true := by
  cases pieces with
  | nil => exact absurd rfl nonempty
  | cons first others => exact opensExpression_append (each first List.mem_cons_self).opens _

namespace Parser.Reads

variable {levels : Nat} {inner : Rules} {kinds rest : List TokenKind}

/-- The arguments of a call, which may be none, are read up to its closing parenthesis. -/
theorem callArguments (distinct : Bool) {pieces : List (Piece Expr)}
    (each : ∀ piece ∈ pieces, ReadsOperand levels 0 piece.value piece.kinds) :
    Reads (callArguments (rules levels) distinct) (Piece.separated pieces)
      (pieces.map Piece.value) (.symbol .rightParen :: rest) := by
  by_cases empty : pieces = []
  · subst empty
    exact bind_none (atSymbol_true rfl) (pure _ _)
  · have nonempty : pieces ≠ [] := empty
    have opens := opensExpression_separated nonempty each
    refine bind_none (atSymbol_false (kindAt_ne_of_opens opens rfl))
      (bind_none (atSymbol_false (kindAt_ne_of_opens opens rfl)) ?_)
    rw [Bool.and_false]
    exact expressionList nonempty each ⟨rfl, fun _ => rfl⟩ nofun

theorem functionCall (function : ObjectName) (distinct : Bool) {arguments : List Expr}
    (plain : kindAt (kinds ++ .symbol .rightParen :: rest) 0 ≠ .keyword .DISTINCT)
    (read : Reads (Grammar.callArguments inner distinct) kinds arguments
      (.symbol .rightParen :: rest)) :
    Reads (functionCall inner function) (callKinds distinct kinds)
      (.call function arguments distinct) rest := by
  cases distinct with
  | false => exact parenthesized (bind_none (eat_false plain) (bind_last read (pure _ _)))
  | true => exact parenthesized (bind_one (eatKeyword _ _) (bind_last read (pure _ _)))

theorem castExpression {body : Expr} {target : DataType} {shown : List TokenKind}
    (read : Reads (inner.expression 0) kinds body
      (.keyword .AS :: (shown ++ .symbol .rightParen :: rest)))
    (typed : Reads Grammar.dataType shown target (.symbol .rightParen :: rest)) :
    Reads (castExpression inner) (.keyword .CAST :: inParens (kinds ++ .keyword .AS :: shown))
      (.cast body target) rest :=
  bind_one (expectKeyword _ _) (parenthesized
    (bind read (bind_one (expectKeyword _ _) (bind_last typed (pure _ _)))))

end Parser.Reads

namespace ReadsOperand

variable {levels power : Nat} {body : Expr} {kinds : List TokenKind}

theorem parens (inner : ReadsOperand levels 0 body kinds) :
    ReadsOperand (levels + 1) power body (inParens kinds) :=
  of_operand rfl fun _ _ => Reads.operand_of_parens
    (Reads.bind_none (Reads.atKeyword_false (kindAt_ne_of_opens inner.opens rfl))
      (inner.expression (Nat.le_refl _) (EndsExpression.follows ⟨rfl, fun _ => rfl⟩ 0)))

theorem reference (table : Option ObjectName) (column : String) :
    ReadsOperand (levels + 1) power (.reference table column) (referenceKinds table column) :=
  of_operand (by obtain _ | ⟨name, _ | schema⟩ := table <;> rfl) fun _ follows =>
    Reads.nameExpression_reference table column follows.ends

theorem allColumns (table : ObjectName) :
    ReadsOperand (levels + 1) power (.reference (some table) "*")
      (table.kinds ++ [.symbol .dot, .symbol .star]) :=
  of_operand (by obtain ⟨name, _ | schema⟩ := table <;> rfl) fun rest _ =>
    Reads.nameExpression_allColumns table rest

theorem literal (value : Literal) :
    ReadsOperand (levels + 1) power (.literal value) [value.kind] :=
  of_operand
    (by cases value with
      | boolean value => cases value <;> rfl
      | _ => rfl)
    fun rest _ => Reads.operand_of_literal value rest

theorem parameter (number : UInt32) :
    ReadsOperand (levels + 1) power (.parameter (parameterName number)) [.parameter number] :=
  of_operand rfl fun rest _ => Reads.operand_of_parameter number rest

theorem call (function : ObjectName) (distinct : Bool) {arguments : List (Piece Expr)}
    (each : ∀ piece ∈ arguments, ReadsOperand levels 0 piece.value piece.kinds) :
    ReadsOperand (levels + 1) power (.call function (arguments.map Piece.value) distinct)
      (function.kinds ++ callKinds distinct (Piece.separated arguments)) := by
  refine of_operand ?_ fun rest _ => Reads.nameExpression_call function
    (Reads.functionCall function distinct ?_ (Reads.callArguments distinct each))
  · obtain ⟨name, _ | schema⟩ := function <;> rfl
  · by_cases empty : arguments = []
    · subst empty
      exact nofun
    · exact kindAt_ne_of_opens (opensExpression_separated empty each) rfl

theorem callOfAll (function : ObjectName) :
    ReadsOperand (levels + 1) power (.call function [.star] false)
      (function.kinds ++ callKinds false [.symbol .star]) := by
  refine of_operand ?_ fun rest _ => Reads.nameExpression_call function
    (Reads.functionCall function false nofun ?_)
  · obtain ⟨name, _ | schema⟩ := function <;> rfl
  · exact Reads.bind_none (Reads.atSymbol_false nofun) (Reads.bind_none (Reads.atSymbol_true rfl)
      (Reads.advance_bind TokenKind.noConfusion fun _ _ => Reads.pure _ _))

theorem inList (negated : Bool) {list : List (Piece Expr)} (tight : power ≤ rangeBinding)
    (operand : ReadsOperand (levels + 1) rangeBinding body kinds) (nonempty : list ≠ [])
    (each : ∀ piece ∈ list, ReadsOperand levels 0 piece.value piece.kinds) :
    ReadsOperand (levels + 1) power (.inList body (list.map Piece.value) negated)
      (kinds ++ (inKinds negated ++ inParens (Piece.separated list))) := by
  have opens := opensExpression_separated nonempty each
  refine operand.suffix tight ?_ ?_ ?_ fun rest _ => Reads.listSuffix negated
    (kindAt_ne_of_opens opens rfl)
    (Reads.expressionList nonempty each ⟨rfl, fun _ => rfl⟩ nofun)
  all_goals cases negated <;>
    simp [inKinds, extendsName, suffixPower?, infixPower?, isPatternOperator, patternPower,
      rangeBinding]

theorem castCall {target : DataType} {shown : List TokenKind}
    (operand : ReadsOperand levels 0 body kinds)
    (typed : ∀ rest, Reads dataType shown target (.symbol .rightParen :: rest)) :
    ReadsOperand (levels + 1) power (.cast body target)
      (.keyword .CAST :: inParens (kinds ++ .keyword .AS :: shown)) := by
  refine of_operand rfl fun rest _ => Reads.operand_of_primary rfl
    (Reads.bind_none (Reads.look _ 0) (Reads.castExpression ?_ (typed rest)))
  exact operand.expression (Nat.le_refl _) (EndsExpression.follows ⟨rfl, fun _ => rfl⟩ 0)

/-- An arm of a case expression is read up to the next, or to what follows the last. -/
theorem caseArm {arm : Piece Expr × Piece Expr} {rest : List TokenKind}
    (condition : ReadsOperand levels 0 arm.1.value arm.1.kinds)
    (result : ReadsOperand levels 0 arm.2.value arm.2.kinds)
    (ends : EndsExpression (kindAt rest 0)) :
    Reads (caseArm (rules levels)) (armPiece arm).kinds (armPiece arm).value rest :=
  Reads.bind (condition.expression (Nat.le_refl _) (EndsExpression.follows ⟨rfl, fun _ => rfl⟩ 0))
    (Reads.bind_one (Reads.expectKeyword _ _)
      (Reads.bind_last (result.expression (Nat.le_refl _) (ends.follows 0)) (Reads.pure _ _)))

section Case

variable {arms : List (Piece Expr × Piece Expr)} {otherwise : Option (Piece Expr)}
  {rest : List TokenKind}

/-- What stands behind the arms of a case expression. -/
private def behindArms (otherwise : Option (Piece Expr)) : List TokenKind :=
  Piece.optional .ELSE otherwise ++ [.keyword .END]

/-- The arms of a case expression are read up to what stands behind them. -/
private theorem caseArms
    (conditions : ∀ arm ∈ arms, ReadsOperand levels 0 arm.1.value arm.1.kinds)
    (results : ∀ arm ∈ arms, ReadsOperand levels 0 arm.2.value arm.2.kinds) :
    Reads (manyAfter (eatKeyword .WHEN) (Grammar.caseArm (rules levels)))
      (Piece.marked (.keyword .WHEN) (arms.map armPiece)) ((arms.map armPiece).map Piece.value)
      (behindArms otherwise ++ rest) := by
  have ends : EndsExpression (kindAt (behindArms otherwise ++ rest) 0) := by
    cases otherwise <;> exact ⟨rfl, fun _ => rfl⟩
  have noWhen : kindAt (behindArms otherwise ++ rest) 0 ≠ .keyword .WHEN := by
    cases otherwise <;> exact nofun
  refine Reads.manyAfter (fun kinds => EndsExpression (kindAt kinds 0))
    (fun _ _ _ => Reads.eatKeyword _ _) ?_ (fun _ => ⟨rfl, fun _ => rfl⟩) ends
    (Reads.eat_false noWhen)
  intro piece among after endsArm
  obtain ⟨arm, armAmong, rfl⟩ := List.mem_map.mp among
  exact caseArm (conditions arm armAmong) (results arm armAmong) endsArm

/-- Behind its subject, a case expression is read up to its end. -/
private theorem behindSubject (nonempty : arms ≠ [])
    (conditions : ∀ arm ∈ arms, ReadsOperand levels 0 arm.1.value arm.1.kinds)
    (results : ∀ arm ∈ arms, ReadsOperand levels 0 arm.2.value arm.2.kinds)
    (last : ∀ piece ∈ otherwise, ReadsOperand levels 0 piece.value piece.kinds)
    (subject : Option Expr) :
    Reads (do
      let arms ← manyAfter (eatKeyword .WHEN) (Grammar.caseArm (rules levels))
      if arms.isEmpty then unexpected (.keyword .WHEN)
      let otherwise ← optionalAfter .ELSE ((rules levels).expression 0)
      Parser.expectKeyword .END
      return Expr.case subject arms otherwise)
      (Piece.marked (.keyword .WHEN) (arms.map armPiece) ++ behindArms otherwise)
      (.case subject ((arms.map armPiece).map Piece.value) (otherwise.map Piece.value)) rest := by
  have notEmpty : ((arms.map armPiece).map Piece.value).isEmpty = false := by
    simpa using nonempty
  have onEnd : Follows 0 (.keyword .END :: rest) := EndsExpression.follows ⟨rfl, fun _ => rfl⟩ 0
  have closing : Reads (optionalAfter .ELSE ((rules levels).expression 0))
      (Piece.optional .ELSE otherwise) (otherwise.map Piece.value) (.keyword .END :: rest) :=
    Reads.optionalAfter
      (fun piece present => (last piece present).expression (Nat.le_refl _) onEnd)
      fun _ => nofun
  apply Reads.bind (caseArms conditions results)
  rw [notEmpty]
  exact Reads.bind closing (Reads.bind_last (Reads.expectKeyword _ _) (Reads.pure _ _))

theorem case {subject : Option (Piece Expr)}
    (onSubject : ∀ piece ∈ subject, ReadsOperand levels 0 piece.value piece.kinds)
    (nonempty : arms ≠ [])
    (conditions : ∀ arm ∈ arms, ReadsOperand levels 0 arm.1.value arm.1.kinds)
    (results : ∀ arm ∈ arms, ReadsOperand levels 0 arm.2.value arm.2.kinds)
    (last : ∀ piece ∈ otherwise, ReadsOperand levels 0 piece.value piece.kinds) :
    ReadsOperand (levels + 1) power
      (.case (subject.map Piece.value) ((arms.map armPiece).map Piece.value)
        (otherwise.map Piece.value))
      (caseKinds subject arms otherwise) := by
  refine of_operand rfl fun rest _ => Reads.operand_of_primary rfl
    (Reads.bind_none (Reads.look _ 0) (Reads.bind_one (Reads.expectKeyword _ _) ?_))
  have atArms (back : List TokenKind) :
      kindAt (Piece.marked (.keyword .WHEN) (arms.map armPiece) ++ back) 0 = .keyword .WHEN := by
    cases arms with
    | nil => exact absurd rfl nonempty
    | cons => rfl
  cases subject with
  | none =>
      refine Reads.bind_none (Reads.atKeyword_true ?_)
        (Reads.bind_none (Reads.pure _ _) (behindSubject nonempty conditions results last none))
      rw [Option.elim_none, List.nil_append, List.append_assoc]
      exact atArms _
  | some piece =>
      have read := onSubject piece rfl
      refine Reads.bind_none (Reads.atKeyword_false ?_)
        (Reads.bind (Reads.map (read.expression (Nat.le_refl _) ?_))
          (behindSubject nonempty conditions results last (some piece.value)))
      · rw [List.append_assoc]
        exact kindAt_ne_of_opens read.opens rfl
      · rw [List.append_assoc]
        have onWhen : EndsExpression (.keyword .WHEN) := ⟨rfl, fun _ => rfl⟩
        rw [← atArms (behindArms otherwise ++ rest)] at onWhen
        exact onWhen.follows 0

end Case

end ReadsOperand

end SqlTree
