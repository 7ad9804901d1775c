import SqlTree.Token
import SqlTree.Tree.Operator

/-!
# Precedence of operators

Every operator has a power, from loosest to tightest: `OR`, `AND`, `NOT`, `IS`, comparisons, the
patterns (`BETWEEN`, `IN`, `LIKE`, `ILIKE`), `||`, sums, products, powers, signs, `::`. The right
operand of an operator binds by one more than its power, so that equal operators group to the left.
-/

namespace SqlTree.Grammar

/-- The power of the operators `BETWEEN`, `IN`, `LIKE` and `ILIKE`, negated or not. -/
def patternPower : Nat := 11

/-- The operator that a token is before an operand, and its power. -/
def leadingOperator? : TokenKind → Option (UnaryOperator × Nat)
  | .keyword .NOT => some (.not, 5)
  | .symbol .minus => some (.negate, 21)
  | .symbol .plus => some (.plus, 21)
  | _ => none

/-- Whether a token is one of the pattern operators. -/
def isPatternOperator : TokenKind → Bool
  | .keyword .BETWEEN | .keyword .IN | .keyword .LIKE | .keyword .ILIKE => true
  | _ => false

/-- The power of a token between two operands. -/
def infixPower? : TokenKind → Option Nat
  | .keyword .OR => some 1
  | .keyword .AND => some 3
  | .symbol .equal | .symbol .notEqual | .symbol .less | .symbol .lessEqual | .symbol .greater
  | .symbol .greaterEqual => some 9
  | .keyword .BETWEEN | .keyword .IN | .keyword .LIKE | .keyword .ILIKE => some patternPower
  | .symbol .concat => some 13
  | .symbol .plus | .symbol .minus => some 15
  | .symbol .star | .symbol .slash | .symbol .percent => some 17
  | .symbol .caret => some 19
  | _ => none

/-- The power of a token behind an operand: a test, a cast, an operator before a second operand, or
`NOT` before one of the pattern operators. -/
def suffixPower? (kind next : TokenKind) : Option Nat :=
  match kind with
  | .keyword .IS => some 7
  | .symbol .doubleColon => some 23
  | .keyword .NOT => if isPatternOperator next then some patternPower else none
  | kind => infixPower? kind

/-- The operator that a token is between two operands, if it is one on its own. -/
def binaryOperator? : TokenKind → Option BinaryOperator
  | .symbol .plus => some .add
  | .symbol .minus => some .subtract
  | .symbol .star => some .multiply
  | .symbol .slash => some .divide
  | .symbol .percent => some .modulo
  | .symbol .caret => some .power
  | .symbol .equal => some .equal
  | .symbol .notEqual => some .notEqual
  | .symbol .less => some .less
  | .symbol .lessEqual => some .lessEqual
  | .symbol .greater => some .greater
  | .symbol .greaterEqual => some .greaterEqual
  | .keyword .AND => some .and
  | .keyword .OR => some .or
  | .symbol .concat => some .concat
  | .keyword .LIKE => some .like
  | .keyword .ILIKE => some .ilike
  | _ => none

/-- The test that a truth value makes behind `IS` or `IS NOT`. -/
def truthTest? (negated : Bool) : TokenKind → Option UnaryOperator
  | .keyword .NULL => some (if negated then .isNotNull else .isNull)
  | .keyword .TRUE => some (if negated then .isNotTrue else .isTrue)
  | .keyword .FALSE => some (if negated then .isNotFalse else .isFalse)
  | _ => none

end SqlTree.Grammar
