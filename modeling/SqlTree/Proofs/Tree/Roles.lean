import SqlTree.Grammar.Precedence
import SqlTree.Proofs.Grammar.Steadiness
import SqlTree.Proofs.Traversal.Listing

/-!
# Roles of tokens

What a token is taken for when a tree is read. Most roles can be told from the tree: the names, the
leaves, and what data types and tests are made of. They are listed here in the order in which the
parts of a tree are written, which is not always the order of its fields. The others are words that
hold the parts together.
-/

namespace SqlTree

open SqlTree.Grammar

/-- A leaf and the kind of token that spells it. A reference is spelled by its column alone. -/
inductive Node.IsSpelledBy : Node → TokenKind → Prop
  | column {qualifier : Option ObjectName} {column : String} {kind : TokenKind}
      (named : kind.name? = some column) : IsSpelledBy (.reference qualifier column) kind
  | star (qualifier : Option ObjectName) :
      IsSpelledBy (.reference qualifier "*") (.symbol .star)
  | integer (value : Int64) : IsSpelledBy (.literal (.integer value)) (.integer value)
  | numeric (value : Decimal.Binary64) : IsSpelledBy (.literal (.numeric value)) (.numeric value)
  | string (value : String) : IsSpelledBy (.literal (.string value)) (.string value)
  | true : IsSpelledBy (.literal (.boolean true)) (.keyword .TRUE)
  | false : IsSpelledBy (.literal (.boolean false)) (.keyword .FALSE)
  | null : IsSpelledBy (.literal .null) (.keyword .NULL)
  | parameter (number : UInt32) :
      IsSpelledBy (.parameter ("$" ++ Nat.repr number.toNat)) (.parameter number)

/-- Whether a node is a column reference, a literal or a parameter. -/
def Node.isLeaf : Node → Bool
  | .reference .. | .literal .. | .parameter .. => true
  | _ => false

/-- What a token is taken for. -/
inductive Role where
  /-- A column reference, a literal or a parameter. A reference is where its column is. -/
  | leaf (node : Node)
  /-- A name that is no column of an expression. -/
  | name (text : String)
  /-- The first word of a data type. -/
  | type (text : String)
  /-- A modifier of a data type. -/
  | modifier (value : Int64)
  /-- The truth value that a test asks for. -/
  | test (operator : UnaryOperator)
  /-- A later word of a data type, which has a fixed spelling. -/
  | typeWord
  /-- A word or a symbol that holds the others together. -/
  | word
  /-- A part of a statement about sequences. -/
  | option

/-- Whether a token is a word or a symbol other than a literal. -/
def TokenKind.isWord : TokenKind → Bool
  | .keyword .TRUE | .keyword .FALSE | .keyword .NULL => false
  | .keyword _ | .symbol _ => true
  | _ => false

/-- The later words of data types. -/
def typeWords : List String := ["precision", "varying", "time", "zone", "without"]

namespace Role

/-- Whether a token can be taken for something. -/
def Fits (kind : TokenKind) : Role → Prop
  | .leaf node => node.IsSpelledBy kind
  | .name text => kind.name? = some text
  | .type text => ∃ word, kind.name? = some word ∧ word.toList <+: text.toList
  | .modifier value => kind = .integer value
  | .test operator => ∃ negated, truthTest? negated kind = some operator
  | .typeWord => ∃ text ∈ typeWords, kind = .identifier text
  | .word => kind.isWord = true
  | .option => kind.isPlain = true

/-- What is taken for something neither ends the input nor is it no token at all. -/
theorem Fits.isPlain {role : Role} {kind : TokenKind} (fits : role.Fits kind) :
    kind.isPlain = true := by
  cases role with
  | leaf node =>
      cases fits with
      | column named => cases kind <;> first | rfl | cases named
      | _ => rfl
  | name text => cases kind <;> first | rfl | cases fits
  | type text =>
      obtain ⟨word, named, _⟩ := fits
      cases kind <;> first | rfl | cases named
  | modifier value =>
      obtain rfl : kind = .integer value := fits
      rfl
  | test operator =>
      obtain ⟨negated, tests⟩ := fits
      cases kind <;> first | rfl | cases tests
  | typeWord =>
      obtain ⟨text, _, rfl⟩ := fits
      rfl
  | word => cases kind <;> first | rfl | cases fits
  | option => exact fits

/-- Whether a role can be told from the tree. -/
def isTold : Role → Bool
  | .typeWord | .word => false
  | _ => true

/-- The leaf that a token is taken for. -/
def leaf? : Role → Option Node
  | .leaf node => some node
  | _ => none

end Role

/-! ## Listings -/

/-- The parts of a name. -/
def ObjectName.roles (object : ObjectName) : List Role :=
  (object.schema.toList ++ [object.name]).map .name

/-- The parts of a data type. -/
def DataType.roles (type : DataType) : List Role :=
  .type type.name :: type.modifiers.map .modifier

/-- The truth value of an operator, if it is a test. -/
def UnaryOperator.roles (operator : UnaryOperator) : List Role :=
  if operator.followsOperand then [.test operator] else []

/-- An alias that may be absent. -/
def aliasRoles (aliasName : Option String) : List Role := aliasName.toList.map .name

mutual

/-- The parts of an expression. -/
def Expr.roles : Expr → List Role
  | .reference table column =>
    table.toList.flatMap ObjectName.roles ++ [.leaf (.reference table column)]
  | .literal value => [.leaf (.literal value)]
  | .parameter name => [.leaf (.parameter name)]
  | .unary operator operand => operand.roles ++ operator.roles
  | .binary left _ right => left.roles ++ right.roles
  | .ternary _ value low high => value.roles ++ low.roles ++ high.roles
  | .inList operand list _ => operand.roles ++ expressionRoles list
  | .call function arguments _ => function.roles ++ expressionRoles arguments
  | .cast operand target => operand.roles ++ target.roles
  | .case subject arms otherwise =>
    expressionRoles? subject ++ armRoles arms ++ expressionRoles? otherwise
  | .select query => query.roles

/-- The parts of an expression that may be absent. -/
def expressionRoles? : Option Expr → List Role
  | none => []
  | some expression => expression.roles

/-- The parts of expressions. -/
def expressionRoles : List Expr → List Role
  | [] => []
  | expression :: expressions => expression.roles ++ expressionRoles expressions

/-- The parts of an arm of a case expression. -/
def CaseArm.roles : CaseArm → List Role
  | ⟨condition, result⟩ => condition.roles ++ result.roles

/-- The parts of arms. -/
def armRoles : List CaseArm → List Role
  | [] => []
  | arm :: arms => arm.roles ++ armRoles arms

/-- The parts of a query. -/
def Select.roles : Select → List Role
  | ⟨_, columns, source, filter, groupBy, having, orderBy, limit, offset⟩ =>
    columnRoles columns ++ tableRoles? source ++ expressionRoles? filter
      ++ expressionRoles groupBy ++ expressionRoles? having ++ sortKeyRoles orderBy
      ++ expressionRoles? limit ++ expressionRoles? offset

/-- The parts of a returned column. -/
def OutputColumn.roles : OutputColumn → List Role
  | ⟨value, aliasName⟩ => value.roles ++ aliasRoles aliasName

/-- The parts of returned columns. -/
def columnRoles : List OutputColumn → List Role
  | [] => []
  | column :: columns => column.roles ++ columnRoles columns

/-- The parts of a sort key. -/
def SortKey.roles : SortKey → List Role
  | ⟨key, _, _⟩ => key.roles

/-- The parts of sort keys. -/
def sortKeyRoles : List SortKey → List Role
  | [] => []
  | key :: keys => key.roles ++ sortKeyRoles keys

/-- The parts of a table. -/
def TableRef.roles : TableRef → List Role
  | .table name aliasName => name.roles ++ aliasRoles aliasName
  | .subquery query aliasName => query.roles ++ [.name aliasName]
  | .join left clause => left.roles ++ clause.roles

/-- The parts of a table that may be absent. -/
def tableRoles? : Option TableRef → List Role
  | none => []
  | some table => table.roles

/-- The parts of the right side of a join. -/
def JoinClause.roles : JoinClause → List Role
  | ⟨_, table, condition, columns⟩ =>
    table.roles ++ expressionRoles? condition ++ columns.map .name

end

theorem expressionRoles?_eq (expression : Option Expr) :
    expressionRoles? expression = expression.toList.flatMap Expr.roles := by
  cases expression <;> simp [expressionRoles?]

theorem expressionRoles_eq (expressions : List Expr) :
    expressionRoles expressions = expressions.flatMap Expr.roles := by
  induction expressions with
  | nil => rfl
  | cons expression expressions inductionHypothesis =>
      rw [expressionRoles, inductionHypothesis, List.flatMap_cons]

theorem armRoles_eq (arms : List CaseArm) : armRoles arms = arms.flatMap CaseArm.roles := by
  induction arms with
  | nil => rfl
  | cons arm arms inductionHypothesis =>
      rw [armRoles, inductionHypothesis, List.flatMap_cons]

theorem columnRoles_eq (columns : List OutputColumn) :
    columnRoles columns = columns.flatMap OutputColumn.roles := by
  induction columns with
  | nil => rfl
  | cons column columns inductionHypothesis =>
      rw [columnRoles, inductionHypothesis, List.flatMap_cons]

theorem sortKeyRoles_eq (keys : List SortKey) : sortKeyRoles keys = keys.flatMap SortKey.roles := by
  induction keys with
  | nil => rfl
  | cons key keys inductionHypothesis =>
      rw [sortKeyRoles, inductionHypothesis, List.flatMap_cons]

theorem tableRoles?_eq (table : Option TableRef) :
    tableRoles? table = table.toList.flatMap TableRef.roles := by
  cases table <;> simp [tableRoles?]

/-- The parts of the source of an insertion. -/
def InsertSource.roles : InsertSource → List Role
  | .rows cells => cells.flatMap expressionRoles
  | .query body => body.roles
  | .defaults => []

/-- The parts of an insertion. -/
def Insert.roles (insert : Insert) : List Role :=
  insert.target.roles ++ insert.columns.map .name ++ insert.source.roles
    ++ columnRoles insert.returning

/-- The parts of an assignment. -/
def Assignment.roles (assignment : Assignment) : List Role :=
  .name assignment.column :: assignment.value.roles

/-- The parts of an update. -/
def Update.roles (update : Update) : List Role :=
  update.target.roles ++ aliasRoles update.aliasName ++ update.assignments.flatMap Assignment.roles
    ++ tableRoles? update.source ++ expressionRoles? update.filter ++ columnRoles update.returning

/-- The parts of a deletion. -/
def Delete.roles (delete : Delete) : List Role :=
  delete.target.roles ++ aliasRoles delete.aliasName ++ expressionRoles? delete.filter
    ++ columnRoles delete.returning

/-- Whether roles are those of the parts of a statement. A statement about sequences has no leaves,
and its parts are not told apart. -/
def Statement.Tells (told : List Role) : Statement → Prop
  | .select body => told = body.roles
  | .insert body => told = body.roles
  | .update body => told = body.roles
  | .delete body => told = body.roles
  | .createSequence _ | .alterSequence _ | .dropSequence _ => ∀ role ∈ told, role = .option

/-- Whether roles are those of the parts of statements in turn. -/
def StatementsTell : List Role → List Statement → Prop
  | told, [] => told = []
  | told, statement :: statements => ∃ front back, told = front ++ back ∧
      statement.Tells front ∧ StatementsTell back statements

/-! ## Leaves

The leaves among the parts of a tree are those among its nodes, in the same order. -/

/-- The leaves among roles. -/
def leavesOf (roles : List Role) : List Node := roles.filterMap Role.leaf?

/-- The leaves among nodes. -/
def leavesAmong (nodes : List Node) : List Node := nodes.filter Node.isLeaf

section Leaves

@[simp] theorem leavesOf_nil : leavesOf [] = [] := rfl

@[simp] theorem leavesOf_append (roles others : List Role) :
    leavesOf (roles ++ others) = leavesOf roles ++ leavesOf others :=
  List.filterMap_append

@[simp] theorem leavesOf_leaf (node : Node) (roles : List Role) :
    leavesOf (.leaf node :: roles) = node :: leavesOf roles := rfl

@[simp] theorem leavesAmong_nil : leavesAmong [] = [] := rfl

@[simp] theorem leavesAmong_append (nodes others : List Node) :
    leavesAmong (nodes ++ others) = leavesAmong nodes ++ leavesAmong others :=
  List.filter_append ..

theorem leavesAmong_cons (node : Node) (nodes : List Node) : leavesAmong (node :: nodes)
    = if node.isLeaf then node :: leavesAmong nodes else leavesAmong nodes :=
  List.filter_cons

@[simp] theorem leavesOf_map_name (names : List String) : leavesOf (names.map .name) = [] := by
  simp [leavesOf, Role.leaf?, Function.comp_def]

@[simp] theorem ObjectName.leavesOf_roles (object : ObjectName) : leavesOf object.roles = [] :=
  leavesOf_map_name _

@[simp] theorem leavesOf_aliasRoles (aliasName : Option String) :
    leavesOf (aliasRoles aliasName) = [] :=
  leavesOf_map_name _

@[simp] theorem DataType.leavesOf_roles (type : DataType) : leavesOf type.roles = [] := by
  simp [leavesOf, DataType.roles, Role.leaf?]

@[simp] theorem UnaryOperator.leavesOf_roles (operator : UnaryOperator) :
    leavesOf operator.roles = [] := by
  cases operator <;> rfl

mutual

theorem Expr.leavesOf_roles : (body : Expr) → leavesOf body.roles = leavesAmong body.nodes
  | .reference table column => by
      cases table <;> simp [Expr.roles, Expr.nodes, leavesAmong_cons, Node.isLeaf]
  | .literal _ => rfl
  | .parameter _ => rfl
  | .unary _ operand => by
      simp [Expr.roles, Expr.nodes, leavesAmong_cons, Node.isLeaf, operand.leavesOf_roles]
  | .binary left _ right => by
      simp [Expr.roles, Expr.nodes, leavesAmong_cons, Node.isLeaf, left.leavesOf_roles,
        right.leavesOf_roles]
  | .ternary _ value low high => by
      simp [Expr.roles, Expr.nodes, leavesAmong_cons, Node.isLeaf, value.leavesOf_roles,
        low.leavesOf_roles, high.leavesOf_roles]
  | .inList operand list _ => by
      simp [Expr.roles, Expr.nodes, leavesAmong_cons, Node.isLeaf, operand.leavesOf_roles,
        leavesOf_expressionRoles list]
  | .call _ arguments _ => by
      simp [Expr.roles, Expr.nodes, leavesAmong_cons, Node.isLeaf,
        leavesOf_expressionRoles arguments]
  | .cast operand _ => by
      simp [Expr.roles, Expr.nodes, leavesAmong_cons, Node.isLeaf, operand.leavesOf_roles]
  | .case subject arms otherwise => by
      simp [Expr.roles, Expr.nodes, leavesAmong_cons, Node.isLeaf,
        leavesOf_expressionRoles? subject, leavesOf_armRoles arms,
        leavesOf_expressionRoles? otherwise]
  | .select query => by
      simp [Expr.roles, Expr.nodes, leavesAmong_cons, Node.isLeaf, query.leavesOf_roles]

theorem leavesOf_expressionRoles? : (expression : Option Expr) →
    leavesOf (expressionRoles? expression) = leavesAmong (expressionNodes? expression)
  | none => rfl
  | some expression => expression.leavesOf_roles

theorem leavesOf_expressionRoles : (expressions : List Expr) →
    leavesOf (expressionRoles expressions) = leavesAmong (expressionNodes expressions)
  | [] => rfl
  | expression :: expressions => by
      simp [expressionRoles, expressionNodes, expression.leavesOf_roles,
        leavesOf_expressionRoles expressions]

theorem CaseArm.leavesOf_roles : (arm : CaseArm) → leavesOf arm.roles = leavesAmong arm.nodes
  | ⟨condition, result⟩ => by
      simp [CaseArm.roles, CaseArm.nodes, condition.leavesOf_roles, result.leavesOf_roles]

theorem leavesOf_armRoles : (arms : List CaseArm) →
    leavesOf (armRoles arms) = leavesAmong (armNodes arms)
  | [] => rfl
  | arm :: arms => by
      simp [armRoles, armNodes, arm.leavesOf_roles, leavesOf_armRoles arms]

theorem Select.leavesOf_roles : (query : Select) → leavesOf query.roles = leavesAmong query.nodes
  | ⟨_, columns, source, filter, groupBy, having, orderBy, limit, offset⟩ => by
      simp [Select.roles, Select.nodes, leavesAmong_cons, Node.isLeaf,
        leavesOf_columnRoles columns, leavesOf_tableRoles? source, leavesOf_expressionRoles? filter,
        leavesOf_expressionRoles groupBy, leavesOf_expressionRoles? having,
        leavesOf_sortKeyRoles orderBy, leavesOf_expressionRoles? limit,
        leavesOf_expressionRoles? offset]

theorem OutputColumn.leavesOf_roles : (column : OutputColumn) →
    leavesOf column.roles = leavesAmong column.nodes
  | ⟨value, _⟩ => by simp [OutputColumn.roles, OutputColumn.nodes, value.leavesOf_roles]

theorem leavesOf_columnRoles : (columns : List OutputColumn) →
    leavesOf (columnRoles columns) = leavesAmong (columnNodes columns)
  | [] => rfl
  | column :: columns => by
      simp [columnRoles, columnNodes, column.leavesOf_roles, leavesOf_columnRoles columns]

theorem SortKey.leavesOf_roles : (key : SortKey) → leavesOf key.roles = leavesAmong key.nodes
  | ⟨key, _, _⟩ => key.leavesOf_roles

theorem leavesOf_sortKeyRoles : (keys : List SortKey) →
    leavesOf (sortKeyRoles keys) = leavesAmong (sortKeyNodes keys)
  | [] => rfl
  | key :: keys => by
      simp [sortKeyRoles, sortKeyNodes, key.leavesOf_roles, leavesOf_sortKeyRoles keys]

theorem TableRef.leavesOf_roles : (table : TableRef) →
    leavesOf table.roles = leavesAmong table.nodes
  | .table _ _ => by simp [TableRef.roles, TableRef.nodes, leavesAmong_cons, Node.isLeaf]
  | .subquery query aliasName => by
      have named : leavesOf [.name aliasName] = [] := rfl
      simp [TableRef.roles, TableRef.nodes, leavesAmong_cons, Node.isLeaf, query.leavesOf_roles,
        named]
  | .join left clause => by
      simp [TableRef.roles, TableRef.nodes, leavesAmong_cons, Node.isLeaf, left.leavesOf_roles,
        clause.leavesOf_roles]

theorem leavesOf_tableRoles? : (table : Option TableRef) →
    leavesOf (tableRoles? table) = leavesAmong (tableNodes? table)
  | none => rfl
  | some table => table.leavesOf_roles

theorem JoinClause.leavesOf_roles : (clause : JoinClause) →
    leavesOf clause.roles = leavesAmong clause.nodes
  | ⟨_, table, condition, _⟩ => by
      simp [JoinClause.roles, JoinClause.nodes, table.leavesOf_roles,
        leavesOf_expressionRoles? condition]

end

theorem InsertSource.leavesOf_roles (source : InsertSource) :
    leavesOf source.roles = leavesAmong source.nodes := by
  cases source with
  | rows cells =>
      simp only [InsertSource.roles, InsertSource.nodes]
      induction cells with
      | nil => rfl
      | cons row cells inductionHypothesis =>
          simp [leavesOf_expressionRoles, inductionHypothesis]
  | query body => exact body.leavesOf_roles
  | defaults => rfl

theorem leavesOf_assignments (assignments : List Assignment) :
    leavesOf (assignments.flatMap Assignment.roles)
      = leavesAmong (assignments.flatMap fun assignment => assignment.value.nodes) := by
  induction assignments with
  | nil => rfl
  | cons assignment assignments inductionHypothesis =>
      have named : leavesOf assignment.roles = leavesOf assignment.value.roles := rfl
      simp [named, assignment.value.leavesOf_roles, inductionHypothesis]

/-- The leaves among the parts of a statement are those among its nodes. -/
theorem Statement.leavesOf_told {statement : Statement} {told : List Role}
    (tells : statement.Tells told) : leavesOf told = leavesAmong statement.nodes := by
  have options (none : ∀ role ∈ told, role = .option) : leavesOf told = [] := by
    apply List.filterMap_eq_nil_iff.mpr
    intro role found
    rw [none role found]
    rfl
  cases statement with
  | select body =>
      rw [tells, body.leavesOf_roles]
      rfl
  | insert body =>
      rw [tells]
      simp [Statement.nodes, Insert.roles, Insert.nodes, leavesAmong_cons, Node.isLeaf,
        InsertSource.leavesOf_roles, leavesOf_columnRoles]
  | update body =>
      rw [tells]
      simp [Statement.nodes, Update.roles, Update.nodes, leavesAmong_cons, Node.isLeaf,
        leavesOf_assignments, leavesOf_tableRoles?, leavesOf_expressionRoles?, leavesOf_columnRoles]
  | delete body =>
      rw [tells]
      simp [Statement.nodes, Delete.roles, Delete.nodes, leavesAmong_cons, Node.isLeaf,
        leavesOf_expressionRoles?, leavesOf_columnRoles]
  | createSequence body =>
      rw [options tells]
      cases type : body.options.dataType <;>
        simp [Statement.nodes, dataTypeNodes?, type, leavesAmong_cons, Node.isLeaf]
  | alterSequence body =>
      rw [options tells]
      cases type : body.change.dataType? <;>
        simp [Statement.nodes, dataTypeNodes?, type, leavesAmong_cons, Node.isLeaf]
  | dropSequence body =>
      rw [options tells]
      rfl

/-- The leaves among the parts of statements are those among their nodes. -/
theorem leavesOf_statementsTell {statements : List Statement} {told : List Role}
    (tells : StatementsTell told statements) :
    leavesOf told = leavesAmong (statements.flatMap Statement.nodes) := by
  induction statements generalizing told with
  | nil =>
      obtain rfl : told = [] := tells
      rfl
  | cons statement statements inductionHypothesis =>
      obtain ⟨front, back, rfl, first, others⟩ := tells
      simp [Statement.leavesOf_told first, inductionHypothesis others]

end Leaves

end SqlTree
