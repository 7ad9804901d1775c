import SqlTree.Traversal.Visit

/-!
# Children

What lies right below each node, in the order in which the type of the node declares its parts.
Nodes are finite trees, so that what is passed on from the children of a node to the node holds
everywhere.
-/

namespace SqlTree

/-- What an expression is. -/
def Expr.node : Expr → Node
  | .reference table column => .reference table column
  | .literal value => .literal value
  | .parameter name => .parameter name
  | .unary operator operand => .unary operator operand
  | .binary left operator right => .binary left operator right
  | .ternary operator value low high => .ternary operator value low high
  | .inList operand list negated => .inList operand list negated
  | .call function arguments distinct => .call function arguments distinct
  | .cast operand target => .cast operand target
  | .case subject arms otherwise => .case subject arms otherwise
  | .select query => .select query

/-- What a statement is. -/
def Statement.node : Statement → Node
  | .select body => .select body
  | .insert body => .insert body
  | .update body => .update body
  | .delete body => .delete body
  | .createSequence body => .createSequence body
  | .alterSequence body => .alterSequence body
  | .dropSequence body => .dropSequence body

namespace Node

/-- The nodes of expressions. -/
def ofExpressions (expressions : List Expr) : List Node := expressions.map .expression

/-- The nodes of an expression that may be absent. -/
def ofExpression? (expression : Option Expr) : List Node := expression.toList.map .expression

/-- The nodes of returned columns. -/
def ofColumns (columns : List OutputColumn) : List Node :=
  columns.map fun column => .expression column.value

/-- The nodes of sort keys. -/
def ofSortKeys (keys : List SortKey) : List Node := keys.map fun key => .expression key.key

/-- The nodes of assignments. -/
def ofAssignments (assignments : List Assignment) : List Node :=
  assignments.map fun assignment => .expression assignment.value

/-- The nodes of the arms of a case expression. -/
def ofArms (arms : List CaseArm) : List Node :=
  arms.flatMap fun arm => [.expression arm.condition, .expression arm.result]

/-- The nodes of a table that may be absent. -/
def ofTable? (table : Option TableRef) : List Node := table.toList.map .table

/-- The nodes of a data type that may be absent. -/
def ofDataType? (type : Option DataType) : List Node := type.toList.map .dataType

/-- The nodes of the source of an insertion. -/
def ofInsertSource : InsertSource → List Node
  | .rows cells => cells.flatMap ofExpressions
  | .query body => [.select body]
  | .defaults => []

/-- The nodes right below a node, in the order in which its type declares them. -/
def children : Node → List Node
  | .statement body => [body.node]
  | .select ⟨_, columns, source, filter, groupBy, having, orderBy, limit, offset⟩ =>
    ofColumns columns ++ ofTable? source ++ ofExpression? filter ++ ofExpressions groupBy
      ++ ofExpression? having ++ ofSortKeys orderBy
      ++ ofExpression? limit ++ ofExpression? offset
  | .insert ⟨_, _, source, returning⟩ => ofInsertSource source ++ ofColumns returning
  | .update ⟨_, _, assignments, source, filter, returning⟩ =>
    ofAssignments assignments ++ ofTable? source ++ ofExpression? filter ++ ofColumns returning
  | .delete ⟨_, _, filter, returning⟩ => ofExpression? filter ++ ofColumns returning
  | .createSequence create => ofDataType? create.options.dataType
  | .alterSequence ⟨_, _, .options chosen _⟩ => ofDataType? chosen.dataType
  | .alterSequence ⟨_, _, .rename _⟩ | .alterSequence ⟨_, _, .owner _⟩
  | .alterSequence ⟨_, _, .schema _⟩ => []
  | .dropSequence _ => []
  | .table (.table _ _) => []
  | .table (.subquery query _) => [.select query]
  | .table (.join left ⟨_, right, condition, _⟩) =>
    [.table left, .table right] ++ ofExpression? condition
  | .expression body => [body.node]
  | .reference _ _ => []
  | .literal _ => []
  | .parameter _ => []
  | .unary _ operand => [.expression operand]
  | .binary left _ right => [.expression left, .expression right]
  | .ternary _ value low high => [.expression value, .expression low, .expression high]
  | .inList operand list _ => .expression operand :: ofExpressions list
  | .call _ arguments _ => ofExpressions arguments
  | .cast operand target => [.expression operand, .dataType target]
  | .case subject arms otherwise =>
    ofExpression? subject ++ ofArms arms ++ ofExpression? otherwise
  | .dataType _ => []

end Node

/-- Something holds of all nodes of a list. -/
def Node.All (holds : Node → Prop) (nodes : List Node) : Prop := ∀ node ∈ nodes, holds node

namespace Node.All

variable {holds : Node → Prop} {node : Node} {nodes others : List Node}

theorem nil : Node.All holds [] := List.forall_mem_nil holds

theorem one (here : holds node) : Node.All holds [node] := List.forall_mem_singleton.mpr here

theorem cons (here : holds node) (others : Node.All holds nodes) : Node.All holds (node :: nodes) :=
  List.forall_mem_cons.mpr ⟨here, others⟩

theorem append (first : Node.All holds nodes) (second : Node.All holds others) :
    Node.All holds (nodes ++ others) :=
  List.forall_mem_append.mpr ⟨first, second⟩

end Node.All

/-- What holds of a node holds because it holds of the children of the node. -/
def Node.PassesUp (holds : Node → Prop) : Prop :=
  ∀ node : Node, Node.All holds node.children → holds node

section Induction

variable {holds : Node → Prop}

mutual

theorem Expr.holds_node (up : Node.PassesUp holds) : (body : Expr) → holds body.node
  | .reference _ _ => up _ .nil
  | .literal _ => up _ .nil
  | .parameter _ => up _ .nil
  | .unary _ operand => up _ (.one (up _ (.one (operand.holds_node up))))
  | .binary left _ right =>
      up _ (.cons (up _ (.one (left.holds_node up))) (.one (up _ (.one (right.holds_node up)))))
  | .ternary _ value low high =>
      up _ (.cons (up _ (.one (value.holds_node up))) (.cons (up _ (.one (low.holds_node up)))
        (.one (up _ (.one (high.holds_node up))))))
  | .inList operand list _ =>
      up _ (.cons (up _ (.one (operand.holds_node up))) (expressions_all up list))
  | .call _ arguments _ => up _ (expressions_all up arguments)
  | .cast operand _ => up _ (.cons (up _ (.one (operand.holds_node up))) (.one (up _ .nil)))
  | .case subject arms otherwise =>
      up _ (.append (.append (expression?_all up subject) (arms_all up arms))
        (expression?_all up otherwise))
  | .select query => query.holds_node up

theorem expression?_all (up : Node.PassesUp holds) :
    (expression : Option Expr) → Node.All holds (Node.ofExpression? expression)
  | none => .nil
  | some expression => .one (up _ (.one (expression.holds_node up)))

theorem expressions_all (up : Node.PassesUp holds) :
    (expressions : List Expr) → Node.All holds (Node.ofExpressions expressions)
  | [] => .nil
  | expression :: expressions =>
      .cons (up _ (.one (expression.holds_node up))) (expressions_all up expressions)

theorem CaseArm.all (up : Node.PassesUp holds) :
    (arm : CaseArm) → Node.All holds [.expression arm.condition, .expression arm.result]
  | ⟨condition, result⟩ =>
      .cons (up _ (.one (condition.holds_node up))) (.one (up _ (.one (result.holds_node up))))

theorem arms_all (up : Node.PassesUp holds) :
    (arms : List CaseArm) → Node.All holds (Node.ofArms arms)
  | [] => .nil
  | arm :: arms => .append (arm.all up) (arms_all up arms)

theorem Select.holds_node (up : Node.PassesUp holds) : (query : Select) → holds (.select query)
  | ⟨_, columns, source, filter, groupBy, having, orderBy, limit, offset⟩ =>
      up _ (.append (.append (.append (.append (.append (.append (.append
        (columns_all up columns) (table?_all up source)) (expression?_all up filter))
        (expressions_all up groupBy)) (expression?_all up having)) (sortKeys_all up orderBy))
        (expression?_all up limit)) (expression?_all up offset))

theorem OutputColumn.holds_node (up : Node.PassesUp holds) :
    (column : OutputColumn) → holds (.expression column.value)
  | ⟨value, _⟩ => up _ (.one (value.holds_node up))

theorem columns_all (up : Node.PassesUp holds) :
    (columns : List OutputColumn) → Node.All holds (Node.ofColumns columns)
  | [] => .nil
  | column :: columns => .cons (column.holds_node up) (columns_all up columns)

theorem SortKey.holds_node (up : Node.PassesUp holds) :
    (key : SortKey) → holds (.expression key.key)
  | ⟨key, _, _⟩ => up _ (.one (key.holds_node up))

theorem sortKeys_all (up : Node.PassesUp holds) :
    (keys : List SortKey) → Node.All holds (Node.ofSortKeys keys)
  | [] => .nil
  | key :: keys => .cons (key.holds_node up) (sortKeys_all up keys)

theorem TableRef.holds_node (up : Node.PassesUp holds) : (table : TableRef) → holds (.table table)
  | .table _ _ => up _ .nil
  | .subquery query _ => up _ (.one (query.holds_node up))
  | .join left ⟨_, right, condition, _⟩ =>
      up _ (.append (.cons (left.holds_node up) (.one (right.holds_node up)))
        (expression?_all up condition))

theorem table?_all (up : Node.PassesUp holds) :
    (table : Option TableRef) → Node.All holds (Node.ofTable? table)
  | none => .nil
  | some table => .one (table.holds_node up)

end

theorem assignments_all (up : Node.PassesUp holds) :
    (assignments : List Assignment) → Node.All holds (Node.ofAssignments assignments)
  | [] => .nil
  | assignment :: assignments =>
      .cons (up _ (.one (assignment.value.holds_node up))) (assignments_all up assignments)

theorem rows_all (up : Node.PassesUp holds) :
    (rows : List (List Expr)) → Node.All holds (rows.flatMap Node.ofExpressions)
  | [] => .nil
  | row :: rows => .append (expressions_all up row) (rows_all up rows)

theorem InsertSource.all (up : Node.PassesUp holds) :
    (source : InsertSource) → Node.All holds (Node.ofInsertSource source)
  | .rows cells => rows_all up cells
  | .query body => .one (body.holds_node up)
  | .defaults => .nil

theorem dataType?_all (up : Node.PassesUp holds) :
    (type : Option DataType) → Node.All holds (Node.ofDataType? type)
  | none => .nil
  | some _ => .one (up _ .nil)

theorem Statement.holds_node (up : Node.PassesUp holds) : (body : Statement) → holds body.node
  | .select body => body.holds_node up
  | .insert ⟨_, _, source, returning⟩ =>
      up _ (.append (source.all up) (columns_all up returning))
  | .update ⟨_, _, assignments, source, filter, returning⟩ =>
      up _ (.append (.append (.append (assignments_all up assignments) (table?_all up source))
        (expression?_all up filter)) (columns_all up returning))
  | .delete ⟨_, _, filter, returning⟩ =>
      up _ (.append (expression?_all up filter) (columns_all up returning))
  | .createSequence create => up _ (dataType?_all up create.options.dataType)
  | .alterSequence ⟨_, _, .options chosen _⟩ => up _ (dataType?_all up chosen.dataType)
  | .alterSequence ⟨_, _, .rename _⟩ => up _ .nil
  | .alterSequence ⟨_, _, .owner _⟩ => up _ .nil
  | .alterSequence ⟨_, _, .schema _⟩ => up _ .nil
  | .dropSequence _ => up _ .nil

/-- What holds of a node because it holds of the children of the node holds of every node. -/
theorem Node.holds_of_passesUp (up : Node.PassesUp holds) : (node : Node) → holds node
  | .statement body => up _ (.one (body.holds_node up))
  | .select body => body.holds_node up
  | .insert body => (Statement.insert body).holds_node up
  | .update body => (Statement.update body).holds_node up
  | .delete body => (Statement.delete body).holds_node up
  | .createSequence body => (Statement.createSequence body).holds_node up
  | .alterSequence body => (Statement.alterSequence body).holds_node up
  | .dropSequence body => (Statement.dropSequence body).holds_node up
  | .table body => body.holds_node up
  | .expression body => up _ (.one (body.holds_node up))
  | .reference qualifier column => (Expr.reference qualifier column).holds_node up
  | .literal value => (Expr.literal value).holds_node up
  | .parameter name => (Expr.parameter name).holds_node up
  | .unary operator operand => (Expr.unary operator operand).holds_node up
  | .binary left operator right => (Expr.binary left operator right).holds_node up
  | .ternary operator value low high => (Expr.ternary operator value low high).holds_node up
  | .inList operand list negated => (Expr.inList operand list negated).holds_node up
  | .call function arguments distinct => (Expr.call function arguments distinct).holds_node up
  | .cast operand target => (Expr.cast operand target).holds_node up
  | .case subject arms otherwise => (Expr.case subject arms otherwise).holds_node up
  | .dataType _ => up _ .nil

end Induction

/-- A node stands above its children, and no way down goes on for ever. -/
instance : WellFoundedRelation Node where
  rel child node := child ∈ node.children
  wf := ⟨Node.holds_of_passesUp fun node below => Acc.intro node below⟩

end SqlTree
