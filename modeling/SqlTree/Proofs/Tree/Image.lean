import SqlTree.Proofs.Traversal.Listing

/-!
# Images of trees

The image of a tree under a change of expressions: the change is made at every place where an
expression stands, inner ones first. A change that leaves every expression of a tree as it is leaves
the tree as it is.
-/

namespace SqlTree

mutual

/-- The image of an expression. -/
def Expr.image (change : Expr → Expr) : Expr → Expr
  | .reference table column => change (.reference table column)
  | .literal value => change (.literal value)
  | .parameter name => change (.parameter name)
  | .unary operator operand => change (.unary operator (operand.image change))
  | .binary left operator right =>
    change (.binary (left.image change) operator (right.image change))
  | .ternary operator value low high =>
    change (.ternary operator (value.image change) (low.image change) (high.image change))
  | .inList operand list negated =>
    change (.inList (operand.image change) (expressionImages change list) negated)
  | .call function arguments distinct =>
    change (.call function (expressionImages change arguments) distinct)
  | .cast operand target => change (.cast (operand.image change) target)
  | .case subject arms otherwise =>
    change (.case (expressionImage? change subject) (armImages change arms)
      (expressionImage? change otherwise))
  | .select query => change (.select (query.image change))

/-- The image of an expression that may be absent. -/
def expressionImage? (change : Expr → Expr) : Option Expr → Option Expr
  | none => none
  | some expression => some (expression.image change)

/-- The images of expressions. -/
def expressionImages (change : Expr → Expr) : List Expr → List Expr
  | [] => []
  | expression :: expressions => expression.image change :: expressionImages change expressions

/-- The image of an arm of a case expression. -/
def CaseArm.image (change : Expr → Expr) : CaseArm → CaseArm
  | ⟨condition, result⟩ => ⟨condition.image change, result.image change⟩

/-- The images of arms. -/
def armImages (change : Expr → Expr) : List CaseArm → List CaseArm
  | [] => []
  | arm :: arms => arm.image change :: armImages change arms

/-- The image of a query. -/
def Select.image (change : Expr → Expr) : Select → Select
  | ⟨distinct, columns, source, filter, groupBy, having, orderBy, limit, offset⟩ =>
    ⟨distinct, columnImages change columns, tableImage? change source,
      expressionImage? change filter, expressionImages change groupBy,
      expressionImage? change having, sortKeyImages change orderBy,
      expressionImage? change limit, expressionImage? change offset⟩

/-- The image of a returned column. -/
def OutputColumn.image (change : Expr → Expr) : OutputColumn → OutputColumn
  | ⟨value, aliasName⟩ => ⟨value.image change, aliasName⟩

/-- The images of returned columns. -/
def columnImages (change : Expr → Expr) : List OutputColumn → List OutputColumn
  | [] => []
  | column :: columns => column.image change :: columnImages change columns

/-- The image of a sort key. -/
def SortKey.image (change : Expr → Expr) : SortKey → SortKey
  | ⟨key, direction, nulls⟩ => ⟨key.image change, direction, nulls⟩

/-- The images of sort keys. -/
def sortKeyImages (change : Expr → Expr) : List SortKey → List SortKey
  | [] => []
  | key :: keys => key.image change :: sortKeyImages change keys

/-- The image of a table. -/
def TableRef.image (change : Expr → Expr) : TableRef → TableRef
  | .table name aliasName => .table name aliasName
  | .subquery query aliasName => .subquery (query.image change) aliasName
  | .join left clause => .join (left.image change) (clause.image change)

/-- The image of a table that may be absent. -/
def tableImage? (change : Expr → Expr) : Option TableRef → Option TableRef
  | none => none
  | some table => some (table.image change)

/-- The image of the right side of a join. -/
def JoinClause.image (change : Expr → Expr) : JoinClause → JoinClause
  | ⟨kind, table, condition, columns⟩ =>
    ⟨kind, table.image change, expressionImage? change condition, columns⟩

end

/-- The image of the source of an insertion. -/
def InsertSource.image (change : Expr → Expr) : InsertSource → InsertSource
  | .rows cells => .rows (cells.map (expressionImages change))
  | .query body => .query (body.image change)
  | .defaults => .defaults

/-- The image of an insertion. -/
def Insert.image (change : Expr → Expr) (insert : Insert) : Insert :=
  { insert with
    source := insert.source.image change
    returning := columnImages change insert.returning }

/-- The image of an assignment. -/
def Assignment.image (change : Expr → Expr) (assignment : Assignment) : Assignment :=
  { assignment with value := assignment.value.image change }

/-- The image of an update. -/
def Update.image (change : Expr → Expr) (update : Update) : Update :=
  { update with
    assignments := update.assignments.map (Assignment.image change)
    source := tableImage? change update.source
    filter := expressionImage? change update.filter
    returning := columnImages change update.returning }

/-- The image of a deletion. -/
def Delete.image (change : Expr → Expr) (delete : Delete) : Delete :=
  { delete with
    filter := expressionImage? change delete.filter
    returning := columnImages change delete.returning }

/-- The image of a statement. -/
def Statement.image (change : Expr → Expr) : Statement → Statement
  | .select body => .select (body.image change)
  | .insert body => .insert (body.image change)
  | .update body => .update (body.image change)
  | .delete body => .delete (body.image change)
  | .createSequence body => .createSequence body
  | .alterSequence body => .alterSequence body
  | .dropSequence body => .dropSequence body

section Lists

variable (change : Expr → Expr)

/-- The images of expressions are those of each in turn. -/
theorem expressionImages_eq (expressions : List Expr) :
    expressionImages change expressions = expressions.map (Expr.image change) := by
  induction expressions with
  | nil => rfl
  | cons expression expressions inductionHypothesis =>
      rw [expressionImages, inductionHypothesis, List.map_cons]

theorem armImages_eq (arms : List CaseArm) :
    armImages change arms = arms.map (CaseArm.image change) := by
  induction arms with
  | nil => rfl
  | cons arm arms inductionHypothesis => rw [armImages, inductionHypothesis, List.map_cons]

theorem columnImages_eq (columns : List OutputColumn) :
    columnImages change columns = columns.map (OutputColumn.image change) := by
  induction columns with
  | nil => rfl
  | cons column columns inductionHypothesis =>
      rw [columnImages, inductionHypothesis, List.map_cons]

theorem sortKeyImages_eq (keys : List SortKey) :
    sortKeyImages change keys = keys.map (SortKey.image change) := by
  induction keys with
  | nil => rfl
  | cons key keys inductionHypothesis => rw [sortKeyImages, inductionHypothesis, List.map_cons]

theorem expressionImage?_eq (expression : Option Expr) :
    expressionImage? change expression = expression.map (Expr.image change) := by
  cases expression <;> rfl

theorem tableImage?_eq (table : Option TableRef) :
    tableImage? change table = table.map (TableRef.image change) := by
  cases table <;> rfl

end Lists

/-- A change leaves every expression among some nodes as it is. -/
def Fixes (change : Expr → Expr) (nodes : List Node) : Prop :=
  ∀ body, .expression body ∈ nodes → change body = body

namespace Fixes

variable {change : Expr → Expr} {nodes others : List Node}

@[simp] theorem append : Fixes change (nodes ++ others) ↔
    Fixes change nodes ∧ Fixes change others := by
  simp only [Fixes, List.mem_append, or_imp, forall_and]

/-- A node that is no expression asks for nothing. -/
theorem of_cons {node : Node} (fixed : Fixes change (node :: nodes)) : Fixes change nodes :=
  fun body among => fixed body (List.mem_cons_of_mem _ among)

/-- The expression that a listing starts with is left as it is. -/
theorem head {body : Expr} (fixed : Fixes change (.expression body :: nodes)) :
    change body = body :=
  fixed body List.mem_cons_self

/-- Below an expression, which is left as it is, stand the nodes of its parts. -/
theorem below {body : Expr} {node : Node}
    (fixed : Fixes change (.expression body :: node :: nodes)) :
    change body = body ∧ Fixes change nodes :=
  ⟨fixed.head, fixed.of_cons.of_cons⟩

end Fixes

mutual

/-- A change that leaves every expression of a tree as it is leaves the tree as it is. -/
theorem Expr.image_eq_self {change : Expr → Expr} :
    (expression : Expr) → Fixes change expression.nodes → expression.image change = expression
  | .reference _ _, fixed => by
      rw [Expr.nodes] at fixed
      rw [Expr.image, fixed.head]
  | .literal _, fixed => by
      rw [Expr.nodes] at fixed
      rw [Expr.image, fixed.head]
  | .parameter _, fixed => by
      rw [Expr.nodes] at fixed
      rw [Expr.image, fixed.head]
  | .unary _ operand, fixed => by
      rw [Expr.nodes] at fixed
      obtain ⟨same, parts⟩ := fixed.below
      rw [Expr.image, operand.image_eq_self parts, same]
  | .binary left _ right, fixed => by
      rw [Expr.nodes] at fixed
      obtain ⟨same, parts⟩ := fixed.below
      rw [Fixes.append] at parts
      rw [Expr.image, left.image_eq_self parts.1, right.image_eq_self parts.2, same]
  | .ternary _ value low high, fixed => by
      rw [Expr.nodes] at fixed
      obtain ⟨same, parts⟩ := fixed.below
      rw [Fixes.append, Fixes.append] at parts
      rw [Expr.image, value.image_eq_self parts.1.1, low.image_eq_self parts.1.2,
        high.image_eq_self parts.2, same]
  | .inList operand list _, fixed => by
      rw [Expr.nodes] at fixed
      obtain ⟨same, parts⟩ := fixed.below
      rw [Fixes.append] at parts
      rw [Expr.image, operand.image_eq_self parts.1, expressionImages_eq_self list parts.2, same]
  | .call _ arguments _, fixed => by
      rw [Expr.nodes] at fixed
      obtain ⟨same, parts⟩ := fixed.below
      rw [Expr.image, expressionImages_eq_self arguments parts, same]
  | .cast operand _, fixed => by
      rw [Expr.nodes] at fixed
      obtain ⟨same, parts⟩ := fixed.below
      rw [Fixes.append] at parts
      rw [Expr.image, operand.image_eq_self parts.1, same]
  | .case subject arms otherwise, fixed => by
      rw [Expr.nodes] at fixed
      obtain ⟨same, parts⟩ := fixed.below
      rw [Fixes.append, Fixes.append] at parts
      rw [Expr.image, expressionImage?_eq_self subject parts.1.1, armImages_eq_self arms parts.1.2,
        expressionImage?_eq_self otherwise parts.2, same]
  | .select query, fixed => by
      rw [Expr.nodes] at fixed
      rw [Expr.image, query.image_eq_self fixed.of_cons, fixed.head]

theorem expressionImage?_eq_self {change : Expr → Expr} :
    (expression : Option Expr) → Fixes change (expressionNodes? expression) →
      expressionImage? change expression = expression
  | none, _ => rfl
  | some expression, fixed => congrArg some (expression.image_eq_self fixed)

theorem expressionImages_eq_self {change : Expr → Expr} :
    (expressions : List Expr) → Fixes change (expressionNodes expressions) →
      expressionImages change expressions = expressions
  | [], _ => rfl
  | expression :: expressions, fixed => by
      rw [expressionNodes, Fixes.append] at fixed
      rw [expressionImages, expression.image_eq_self fixed.1,
        expressionImages_eq_self expressions fixed.2]

theorem CaseArm.image_eq_self {change : Expr → Expr} :
    (arm : CaseArm) → Fixes change arm.nodes → arm.image change = arm
  | ⟨condition, result⟩, fixed => by
      rw [CaseArm.nodes, Fixes.append] at fixed
      rw [CaseArm.image, condition.image_eq_self fixed.1, result.image_eq_self fixed.2]

theorem armImages_eq_self {change : Expr → Expr} :
    (arms : List CaseArm) → Fixes change (armNodes arms) → armImages change arms = arms
  | [], _ => rfl
  | arm :: arms, fixed => by
      rw [armNodes, Fixes.append] at fixed
      rw [armImages, arm.image_eq_self fixed.1, armImages_eq_self arms fixed.2]

theorem Select.image_eq_self {change : Expr → Expr} :
    (query : Select) → Fixes change query.nodes → query.image change = query
  | ⟨_, columns, source, filter, groupBy, having, orderBy, limit, offset⟩, fixed => by
      rw [Select.nodes] at fixed
      have parts := fixed.of_cons
      simp only [Fixes.append] at parts
      obtain ⟨⟨⟨⟨⟨⟨⟨inColumns, inSource⟩, inFilter⟩, inGroups⟩, inHaving⟩, inOrder⟩, inLimit⟩,
        inOffset⟩ := parts
      rw [Select.image, columnImages_eq_self columns inColumns, tableImage?_eq_self source inSource,
        expressionImage?_eq_self filter inFilter, expressionImages_eq_self groupBy inGroups,
        expressionImage?_eq_self having inHaving, sortKeyImages_eq_self orderBy inOrder,
        expressionImage?_eq_self limit inLimit, expressionImage?_eq_self offset inOffset]

theorem OutputColumn.image_eq_self {change : Expr → Expr} :
    (column : OutputColumn) → Fixes change column.nodes → column.image change = column
  | ⟨value, _⟩, fixed => by rw [OutputColumn.image, value.image_eq_self fixed]

theorem columnImages_eq_self {change : Expr → Expr} :
    (columns : List OutputColumn) → Fixes change (columnNodes columns) →
      columnImages change columns = columns
  | [], _ => rfl
  | column :: columns, fixed => by
      rw [columnNodes, Fixes.append] at fixed
      rw [columnImages, column.image_eq_self fixed.1, columnImages_eq_self columns fixed.2]

theorem SortKey.image_eq_self {change : Expr → Expr} :
    (key : SortKey) → Fixes change key.nodes → key.image change = key
  | ⟨key, _, _⟩, fixed => by rw [SortKey.image, key.image_eq_self fixed]

theorem sortKeyImages_eq_self {change : Expr → Expr} :
    (keys : List SortKey) → Fixes change (sortKeyNodes keys) → sortKeyImages change keys = keys
  | [], _ => rfl
  | key :: keys, fixed => by
      rw [sortKeyNodes, Fixes.append] at fixed
      rw [sortKeyImages, key.image_eq_self fixed.1, sortKeyImages_eq_self keys fixed.2]

theorem TableRef.image_eq_self {change : Expr → Expr} :
    (table : TableRef) → Fixes change table.nodes → table.image change = table
  | .table _ _, _ => by rw [TableRef.image]
  | .subquery query _, fixed => by
      rw [TableRef.nodes] at fixed
      rw [TableRef.image, query.image_eq_self fixed.of_cons]
  | .join left clause, fixed => by
      rw [TableRef.nodes] at fixed
      have parts := fixed.of_cons
      rw [Fixes.append] at parts
      rw [TableRef.image, left.image_eq_self parts.1, clause.image_eq_self parts.2]

theorem tableImage?_eq_self {change : Expr → Expr} :
    (table : Option TableRef) → Fixes change (tableNodes? table) →
      tableImage? change table = table
  | none, _ => rfl
  | some table, fixed => congrArg some (table.image_eq_self fixed)

theorem JoinClause.image_eq_self {change : Expr → Expr} :
    (clause : JoinClause) → Fixes change clause.nodes → clause.image change = clause
  | ⟨_, table, condition, _⟩, fixed => by
      rw [JoinClause.nodes, Fixes.append] at fixed
      rw [JoinClause.image, table.image_eq_self fixed.1, expressionImage?_eq_self condition fixed.2]

end

section Statements

variable {change : Expr → Expr}

theorem Assignment.image_eq_self (assignment : Assignment)
    (fixed : Fixes change assignment.value.nodes) : assignment.image change = assignment := by
  rw [image, assignment.value.image_eq_self fixed]

/-- Parts that are left as they are leave a list as it is. -/
theorem map_eq_self {α : Type} {image : α → α} {nodes : α → List Node} {list : List α}
    (each : ∀ part, Fixes change (nodes part) → image part = part)
    (fixed : Fixes change (list.flatMap nodes)) : list.map image = list := by
  induction list with
  | nil => rfl
  | cons part list inductionHypothesis =>
      rw [List.flatMap_cons, Fixes.append] at fixed
      rw [List.map_cons, each part fixed.1, inductionHypothesis fixed.2]

theorem InsertSource.image_eq_self (source : InsertSource) (fixed : Fixes change source.nodes) :
    source.image change = source := by
  cases source with
  | rows cells => rw [image, map_eq_self expressionImages_eq_self fixed]
  | query body => rw [image, body.image_eq_self fixed]
  | defaults => rfl

theorem Insert.image_eq_self (insert : Insert) (fixed : Fixes change insert.nodes) :
    insert.image change = insert := by
  rw [nodes] at fixed
  have parts := fixed.of_cons
  rw [Fixes.append] at parts
  rw [image, insert.source.image_eq_self parts.1, columnImages_eq_self _ parts.2]

theorem Update.image_eq_self (update : Update) (fixed : Fixes change update.nodes) :
    update.image change = update := by
  rw [nodes] at fixed
  have parts := fixed.of_cons
  simp only [Fixes.append] at parts
  obtain ⟨⟨⟨inAssignments, inSource⟩, inFilter⟩, inReturning⟩ := parts
  rw [image, map_eq_self Assignment.image_eq_self inAssignments, tableImage?_eq_self _ inSource,
    expressionImage?_eq_self _ inFilter, columnImages_eq_self _ inReturning]

theorem Delete.image_eq_self (delete : Delete) (fixed : Fixes change delete.nodes) :
    delete.image change = delete := by
  rw [nodes] at fixed
  have parts := fixed.of_cons
  rw [Fixes.append] at parts
  rw [image, expressionImage?_eq_self _ parts.1, columnImages_eq_self _ parts.2]

theorem Statement.image_eq_self (statement : Statement) (fixed : Fixes change statement.nodes) :
    statement.image change = statement := by
  unfold nodes at fixed
  have parts := fixed.of_cons
  cases statement with
  | select body => rw [image, body.image_eq_self parts]
  | insert body => rw [image, body.image_eq_self parts]
  | update body => rw [image, body.image_eq_self parts]
  | delete body => rw [image, body.image_eq_self parts]
  | createSequence | alterSequence | dropSequence => rw [image]

end Statements

end SqlTree
