import SqlTree.Proofs.Grammar.Writing

/-!
# Reading operators

An operand and the suffixes behind it. What makes a bare operand safe is that the operator behind it
is too loose for every position at its right edge: no right operand and no operand of a leading
operator takes it.
-/

namespace SqlTree

open SqlTree.Parser SqlTree.Grammar

/-- Neither a name nor a type goes on with the tokens ahead, and an operator among them binds more
loosely than the given power. -/
structure Follows (power : Nat) (kinds : List TokenKind) : Prop where
  ends : extendsName (kindAt kinds 0) = false
  looser : ∀ found, suffixPower? (kindAt kinds 0) (kindAt kinds 1) = some found → found < power

/-- A token that no expression goes on with. -/
structure EndsExpression (kind : TokenKind) : Prop where
  ends : extendsName kind = false
  noSuffix : ∀ next, suffixPower? kind next = none

theorem Follows.mono {power greater : Nat} {kinds : List TokenKind} (follows : Follows power kinds)
    (le : power ≤ greater) : Follows greater kinds where
  ends := follows.ends
  looser found suffix := Nat.lt_of_lt_of_le (follows.looser found suffix) le

theorem EndsExpression.follows {kinds : List TokenKind} (ends : EndsExpression (kindAt kinds 0))
    (power : Nat) : Follows power kinds where
  ends := ends.ends
  looser found suffix := by
    rw [ends.noSuffix] at suffix
    cases suffix

/-- No operator behind an operand has the power of a leading operator, so that one that is as loose
as a leading operator is looser. -/
theorem suffixPower?_ne_leading {kind next : TokenKind} {found : Nat}
    (suffix : suffixPower? kind next = some found) {operator : UnaryOperator}
    (before : operator.followsOperand = false) : found ≠ operator.binding := by
  have odd : found ≠ 5 ∧ found ≠ 21 := by
    unfold suffixPower? infixPower? patternPower at suffix
    split at suffix
    · cases suffix; decide
    · cases suffix; decide
    · split at suffix <;> cases suffix
      decide
    · split at suffix <;> cases suffix <;> decide
  cases operator with
  | not => exact odd.1
  | negate => exact odd.2
  | plus => exact odd.2
  | _ => cases before

namespace Parser.Reads

variable {inner : Rules} {least power : Nat} {kinds rest : List TokenKind} {value : Expr}

/-- No suffix is taken whose operator is too loose. -/
theorem nextSuffix_none (follows : Follows least rest) :
    Reads (nextSuffix inner least) [] none rest := by
  refine bind_none (look rest 0) (bind_none (look rest 1) ?_)
  cases found : suffixPower? (kindAt rest 0) (kindAt rest 1) with
  | none => exact pure _ _
  | some power =>
      have loose := follows.looser power found
      dsimp only
      rw [if_neg (Nat.not_le_of_lt loose)]
      exact pure _ _

/-- A suffix is taken whose operator is tight enough. -/
theorem nextSuffix_some {result : Suffix}
    (found : suffixPower? (kindAt (kinds ++ rest) 0) (kindAt (kinds ++ rest) 1) = some power)
    (tight : least ≤ power) (read : Reads (Grammar.suffix inner (power + 1)) kinds result rest) :
    Reads (nextSuffix inner least) kinds (some result) rest := by
  refine bind_none (look _ 0) (bind_none (look _ 1) ?_)
  rw [found]
  dsimp only
  rw [if_pos tight]
  exact bind_last read (pure _ _)

/-- Where no leading operator stands, an operand is read as what stands without operators. -/
theorem operand_of_primary (plain : leadingOperator? (kindAt (kinds ++ rest) 0) = none)
    (read : Reads (primary inner) kinds value rest) : Reads (operand inner) kinds value rest := by
  apply bind_none (look _ 0)
  rw [plain]
  exact read

/-- A leading operator is read with the operand that its power asks for. -/
theorem operand_of_leading {operator : UnaryOperator} (before : operator.followsOperand = false)
    (read : Reads (inner.expression operator.binding) kinds value rest) :
    Reads (operand inner) (operator.kinds ++ kinds) (.unary operator value) rest := by
  apply bind_none (look _ 0)
  cases operator with
  | not | negate | plus =>
      exact advance_bind (by decide) fun _ _ => bind_last read (pure _ _)
  | _ => cases before

end Parser.Reads

/-- The suffixes of an operand make an expression of it, one after another. -/
def applyAll (operand : Expr) (suffixes : List Suffix) : Expr :=
  suffixes.foldl (fun left suffix => suffix.applyTo left) operand

/-- Whether the first of some tokens may open an expression in a list, in a query or behind `CASE`:
it is no closing parenthesis, no star, and no keyword that has a meaning of its own there. -/
def opensExpression : List TokenKind → Bool
  | [] => false
  | .symbol .rightParen :: _ | .symbol .star :: _ => false
  | .keyword .SELECT :: _ | .keyword .DISTINCT :: _ | .keyword .ALL :: _
  | .keyword .WHEN :: _ => false
  | _ => true

theorem opensExpression_append {kinds : List TokenKind} (opens : opensExpression kinds = true)
    (rest : List TokenKind) : opensExpression (kinds ++ rest) = true := by
  cases kinds with
  | nil => cases opens
  | cons first kinds =>
      unfold opensExpression at opens ⊢
      split at opens <;> simp_all

/-- What opens an expression is none of the tokens that do not. -/
theorem kindAt_ne_of_opens {kinds rest : List TokenKind} {kind : TokenKind}
    (opens : opensExpression kinds = true) (other : opensExpression [kind] = false) :
    kindAt (kinds ++ rest) 0 ≠ kind := by
  cases kinds with
  | nil => cases opens
  | cons first kinds =>
      rintro (rfl : first = kind)
      have opensAlone := opens
      unfold opensExpression at other opens
      split at other <;> simp_all

/-- An expression is read from its tokens as the operand of the suffixes behind them, wherever the
position demands no more than the power, and what follows is no tighter. -/
structure ReadsOperand (levels power : Nat) (body : Expr) (kinds : List TokenKind) : Prop where
  opens : opensExpression kinds = true
  read : ∃ lower, levels = lower + 1 ∧
    ∀ {least : Nat} {more : List TokenKind} {suffixes : List Suffix} {rest : List TokenKind},
      least ≤ power → ReadsEach (nextSuffix (rules lower) least) more suffixes rest →
      Follows (power + 1) (more ++ rest) →
      Reads (operators (rules lower) least) (kinds ++ more) (applyAll body suffixes) rest

namespace ReadsOperand

variable {levels power least : Nat} {body : Expr} {kinds front rest : List TokenKind}

/-- What reads as an operand reads as an expression, where the next operator is too loose for the
position. -/
theorem expression (reads : ReadsOperand levels power body kinds) (demand : least ≤ power)
    (follows : Follows least rest) :
    Reads ((rules levels).expression least) kinds body rest := by
  obtain ⟨lower, rfl, read⟩ := reads.read
  have alone := read demand (.none (Reads.nextSuffix_none follows))
    (follows.mono (Nat.le_succ_of_le demand))
  rwa [List.append_nil] at alone

/-- An expression that stands without suffixes reads as an operand. -/
theorem of_operand (opens : opensExpression kinds = true)
    (read : ∀ rest, Follows (power + 1) rest →
      Reads (operand (rules levels)) kinds body rest) :
    ReadsOperand (levels + 1) power body kinds where
  opens := opens
  read := ⟨levels, rfl, fun _ each follows =>
    Reads.bind (read _ follows) (Reads.bind_last each.collect (Reads.pure _ _))⟩

/-- An operand with a suffix behind it reads as an operand: the suffix is as tight as the operator
binds, so that the operand does not take it, and the suffix takes none of what follows. -/
theorem suffix {binding : Nat} {result : Suffix}
    (reads : ReadsOperand (levels + 1) binding body kinds) (tight : power ≤ binding)
    (nonempty : front ≠ [])
    (plain : ∀ rest, extendsName (kindAt (front ++ rest) 0) = false)
    (found : ∀ rest, suffixPower? (kindAt (front ++ rest) 0) (kindAt (front ++ rest) 1)
      = some binding)
    (read : ∀ rest, Follows (power + 1) rest →
      Reads (Grammar.suffix (rules levels) (binding + 1)) front result rest) :
    ReadsOperand (levels + 1) power (result.applyTo body) (kinds ++ front) where
  opens := opensExpression_append reads.opens front
  read := by
    obtain ⟨lower, same, readsOn⟩ := reads.read
    cases same
    refine ⟨levels, rfl, fun demand each follows => ?_⟩
    have taken := Reads.nextSuffix_some (found _) (Nat.le_trans demand tight) (read _ follows)
    rw [List.append_assoc]
    refine readsOn (Nat.le_trans demand tight) (.some nonempty taken each) ⟨?_, ?_⟩
    · rw [List.append_assoc]
      exact plain _
    · intro power next
      rw [List.append_assoc, found] at next
      cases next
      exact Nat.lt_succ_self _

end ReadsOperand

end SqlTree
