/-!
# Operators

The operators of expressions and how they are spelled.
-/

namespace SqlTree

/-- An operator with one operand. -/
inductive UnaryOperator where
  | not
  | negate
  | plus
  | isNull
  | isNotNull
  | isTrue
  | isNotTrue
  | isFalse
  | isNotFalse
deriving DecidableEq, Repr

namespace UnaryOperator

/-- Every operator with one operand. -/
def all : List UnaryOperator :=
  [.not, .negate, .plus, .isNull, .isNotNull, .isTrue, .isNotTrue, .isFalse, .isNotFalse]

/-- How the operator is written. -/
def spelling : UnaryOperator → String
  | .not => "NOT"
  | .negate => "-"
  | .plus => "+"
  | .isNull => "IS NULL"
  | .isNotNull => "IS NOT NULL"
  | .isTrue => "IS TRUE"
  | .isNotTrue => "IS NOT TRUE"
  | .isFalse => "IS FALSE"
  | .isNotFalse => "IS NOT FALSE"

/-- Whether the operator is written after its operand. -/
def followsOperand : UnaryOperator → Bool
  | .not | .negate | .plus => false
  | _ => true

/-- The operator with a given spelling. -/
def ofSpelling? (spelling : String) : Option UnaryOperator :=
  all.find? fun operator => operator.spelling == spelling

end UnaryOperator

/-- An operator with two operands. -/
inductive BinaryOperator where
  | add | subtract | multiply | divide | modulo | power
  | equal | notEqual | less | lessEqual | greater | greaterEqual
  | and | or
  | concat
  | like | notLike | ilike | notIlike
deriving DecidableEq, Repr

namespace BinaryOperator

/-- Every operator with two operands. -/
def all : List BinaryOperator :=
  [.add, .subtract, .multiply, .divide, .modulo, .power,
    .equal, .notEqual, .less, .lessEqual, .greater, .greaterEqual,
    .and, .or, .concat, .like, .notLike, .ilike, .notIlike]

/-- How the operator is written. -/
def spelling : BinaryOperator → String
  | .add => "+"
  | .subtract => "-"
  | .multiply => "*"
  | .divide => "/"
  | .modulo => "%"
  | .power => "^"
  | .equal => "="
  | .notEqual => "!="
  | .less => "<"
  | .lessEqual => "<="
  | .greater => ">"
  | .greaterEqual => ">="
  | .and => "AND"
  | .or => "OR"
  | .concat => "||"
  | .like => "LIKE"
  | .notLike => "NOT LIKE"
  | .ilike => "ILIKE"
  | .notIlike => "NOT ILIKE"

/-- The operator with a given spelling. -/
def ofSpelling? (spelling : String) : Option BinaryOperator :=
  all.find? fun operator => operator.spelling == spelling

end BinaryOperator

/-- An operator with three operands. -/
inductive TernaryOperator where
  | between
  | notBetween
deriving DecidableEq, Repr

namespace TernaryOperator

/-- Every operator with three operands. -/
def all : List TernaryOperator := [.between, .notBetween]

/-- How the operator is written. -/
def spelling : TernaryOperator → String
  | .between => "BETWEEN"
  | .notBetween => "NOT BETWEEN"

/-- The operator with a given spelling. -/
def ofSpelling? (spelling : String) : Option TernaryOperator :=
  all.find? fun operator => operator.spelling == spelling

end TernaryOperator

end SqlTree
