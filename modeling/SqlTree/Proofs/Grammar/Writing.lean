import SqlTree.Grammar.Query
import SqlTree.Proofs.Grammar.Naming

/-!
# Writing expressions and queries

How trees are written as tokens. An operand stands bare only where its operator binds as tightly as
its position demands, and may stand in parentheses everywhere. The clauses of a query come in their
fixed order, and a join stands bare only on the left side of another.

A writing counts levels as it nests: one for each expression, query and table with joins that
stands inside another, unless it is the left operand of an operator or the left side of a join.
-/

namespace SqlTree

/-- How tightly an operator with one operand binds. -/
def UnaryOperator.binding : UnaryOperator → Nat
  | .not => 5
  | .negate | .plus => 21
  | .isNull | .isNotNull | .isTrue | .isNotTrue | .isFalse | .isNotFalse => 7

/-- How tightly an operator with two operands binds. -/
def BinaryOperator.binding : BinaryOperator → Nat
  | .or => 1
  | .and => 3
  | .equal | .notEqual | .less | .lessEqual | .greater | .greaterEqual => 9
  | .like | .notLike | .ilike | .notIlike => 11
  | .concat => 13
  | .add | .subtract => 15
  | .multiply | .divide | .modulo => 17
  | .power => 19

/-- How tightly `BETWEEN` and `IN` bind, negated or not. -/
def rangeBinding : Nat := 11

/-- How tightly a cast behind its operand binds. -/
def castBinding : Nat := 23

/-- The kinds that an operator with one operand is written with. -/
def UnaryOperator.kinds : UnaryOperator → List TokenKind
  | .not => [.keyword .NOT]
  | .negate => [.symbol .minus]
  | .plus => [.symbol .plus]
  | .isNull => [.keyword .IS, .keyword .NULL]
  | .isNotNull => [.keyword .IS, .keyword .NOT, .keyword .NULL]
  | .isTrue => [.keyword .IS, .keyword .TRUE]
  | .isNotTrue => [.keyword .IS, .keyword .NOT, .keyword .TRUE]
  | .isFalse => [.keyword .IS, .keyword .FALSE]
  | .isNotFalse => [.keyword .IS, .keyword .NOT, .keyword .FALSE]

/-- The kinds that an operator with two operands is written with. -/
def BinaryOperator.kinds : BinaryOperator → List TokenKind
  | .add => [.symbol .plus]
  | .subtract => [.symbol .minus]
  | .multiply => [.symbol .star]
  | .divide => [.symbol .slash]
  | .modulo => [.symbol .percent]
  | .power => [.symbol .caret]
  | .equal => [.symbol .equal]
  | .notEqual => [.symbol .notEqual]
  | .less => [.symbol .less]
  | .lessEqual => [.symbol .lessEqual]
  | .greater => [.symbol .greater]
  | .greaterEqual => [.symbol .greaterEqual]
  | .and => [.keyword .AND]
  | .or => [.keyword .OR]
  | .concat => [.symbol .concat]
  | .like => [.keyword .LIKE]
  | .notLike => [.keyword .NOT, .keyword .LIKE]
  | .ilike => [.keyword .ILIKE]
  | .notIlike => [.keyword .NOT, .keyword .ILIKE]

/-- The kinds between an operand and its lower bound. -/
def TernaryOperator.kinds : TernaryOperator → List TokenKind
  | .between => [.keyword .BETWEEN]
  | .notBetween => [.keyword .NOT, .keyword .BETWEEN]

/-- The kinds between an operand and its list. -/
def inKinds (negated : Bool) : List TokenKind :=
  if negated then [.keyword .NOT, .keyword .IN] else [.keyword .IN]

/-- The kind of token that a constant is written with. -/
def Literal.kind : Literal → TokenKind
  | .integer value => .integer value
  | .numeric value => .numeric value
  | .string value => .string value
  | .boolean true => .keyword .TRUE
  | .boolean false => .keyword .FALSE
  | .null => .keyword .NULL

/-- The kinds of a reference to a column. -/
def referenceKinds (table : Option ObjectName) (column : String) : List TokenKind :=
  match table with
  | none => [.identifier column]
  | some table => table.kinds ++ [.symbol .dot, .identifier column]

/-- The kinds of a call behind the name of the function. -/
def callKinds (distinct : Bool) (arguments : List TokenKind) : List TokenKind :=
  inParens (if distinct then .keyword .DISTINCT :: arguments else arguments)

/-- An arm of a case expression with its two written expressions. -/
def armPiece (arm : Piece Expr × Piece Expr) : Piece CaseArm :=
  ⟨⟨arm.1.value, arm.2.value⟩, arm.1.kinds ++ .keyword .THEN :: arm.2.kinds⟩

/-- The kinds of a case expression. -/
def caseKinds (subject : Option (Piece Expr)) (arms : List (Piece Expr × Piece Expr))
    (otherwise : Option (Piece Expr)) : List TokenKind :=
  .keyword .CASE :: ((subject.elim [] Piece.kinds)
    ++ (Piece.marked (.keyword .WHEN) (arms.map armPiece)
      ++ (Piece.optional .ELSE otherwise ++ [.keyword .END])))

/-- The ways of writing that a query is distinct or not. -/
def distinctWords : Bool → List (List TokenKind)
  | true => [[.keyword .DISTINCT]]
  | false => [[], [.keyword .ALL]]

/-- The ways of writing a direction. -/
def Direction.words : Direction → List (List TokenKind)
  | .ascending => [[], [.keyword .ASC]]
  | .descending => [[.keyword .DESC]]

/-- The kinds of a placement of nulls. -/
def NullPlacement.kinds : NullPlacement → List TokenKind
  | .first => [.keyword .FIRST]
  | .last => [.keyword .LAST]

/-- The ways of writing a kind of join. -/
def JoinKind.words : JoinKind → List (List TokenKind)
  | .inner => [[.keyword .JOIN], [.keyword .INNER, .keyword .JOIN]]
  | .left => [[.keyword .LEFT, .keyword .JOIN],
      [.keyword .LEFT, .keyword .OUTER, .keyword .JOIN]]
  | .right => [[.keyword .RIGHT, .keyword .JOIN],
      [.keyword .RIGHT, .keyword .OUTER, .keyword .JOIN]]
  | .full => [[.keyword .FULL, .keyword .JOIN],
      [.keyword .FULL, .keyword .OUTER, .keyword .JOIN]]
  | .cross => [[.keyword .CROSS, .keyword .JOIN]]

/-- A sort key with its written expression and direction. -/
structure SortPiece where
  key : Piece Expr
  direction : Direction
  /-- How the direction is written. -/
  words : List TokenKind
  nulls : Option NullPlacement

/-- A sort key and the kinds that it is written with. -/
def SortPiece.piece (sort : SortPiece) : Piece SortKey where
  value := ⟨sort.key.value, sort.direction, sort.nulls⟩
  kinds := sort.key.kinds ++ (sort.words
    ++ Piece.optional .NULLS (sort.nulls.map fun placement => ⟨placement, placement.kinds⟩))

/-- The kinds of a list behind some words, both left out if the list is empty. -/
def Piece.listBehind {α : Type} (words : List TokenKind) (pieces : List (Piece α)) :
    List TokenKind :=
  if pieces.isEmpty then [] else words ++ Piece.separated pieces

/-- The written parts of a query. -/
structure QueryPieces where
  distinct : Bool
  /-- How it is written whether the query is distinct. -/
  words : List TokenKind
  columns : List (Piece OutputColumn)
  source : Option (Piece TableRef)
  filter : Option (Piece Expr)
  groupBy : List (Piece Expr)
  having : Option (Piece Expr)
  orderBy : List SortPiece
  limit : Option (Piece Expr)
  offset : Option (Piece Expr)

namespace QueryPieces

/-- The query that the parts make. -/
def select (parts : QueryPieces) : Select where
  distinct := parts.distinct
  columns := parts.columns.map Piece.value
  source := parts.source.map Piece.value
  filter := parts.filter.map Piece.value
  groupBy := parts.groupBy.map Piece.value
  having := parts.having.map Piece.value
  orderBy := (parts.orderBy.map SortPiece.piece).map Piece.value
  limit := parts.limit.map Piece.value
  offset := parts.offset.map Piece.value

/-- The kinds of a query: its clauses in their order. -/
def kinds (parts : QueryPieces) : List TokenKind :=
  .keyword .SELECT :: (parts.words ++ (Piece.separated parts.columns
    ++ (Piece.optional .FROM parts.source
    ++ (Piece.optional .WHERE parts.filter
    ++ (Piece.listBehind [.keyword .GROUP, .keyword .BY] parts.groupBy
    ++ (Piece.optional .HAVING parts.having
    ++ (Piece.listBehind [.keyword .ORDER, .keyword .BY] (parts.orderBy.map SortPiece.piece)
    ++ (Piece.optional .LIMIT parts.limit
    ++ Piece.optional .OFFSET parts.offset))))))))

end QueryPieces

end SqlTree
