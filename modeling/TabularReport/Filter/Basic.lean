import TabularReport.Json.Basic

/-!
# Filter trees

A filter is a tree of conditions joined by `and` and `or`. A condition compares a column with a value
written into it or with a parameter of the run.
-/

namespace TabularReport

/-- How the members of a group are joined. -/
inductive Logic where
  | and
  | or
deriving DecidableEq, Inhabited

/-- The connective of a group in a statement. -/
def Logic.keyword : Logic → String
  | .and => "AND"
  | .or => "OR"

/-- The comparison of a condition. -/
inductive Operator where
  | equal
  | notEqual
  | greater
  | greaterOrEqual
  | less
  | lessOrEqual
  | like
  | notLike
  | isIn
  | notIn
  | isNull
  | isNotNull
  | between
deriving DecidableEq, Inhabited

namespace Operator

/-- The operator in a statement. -/
def sql : Operator → String
  | .equal => "="
  | .notEqual => "!="
  | .greater => ">"
  | .greaterOrEqual => ">="
  | .less => "<"
  | .lessOrEqual => "<="
  | .like => "LIKE"
  | .notLike => "NOT LIKE"
  | .isIn => "IN"
  | .notIn => "NOT IN"
  | .isNull => "IS NULL"
  | .isNotNull => "IS NOT NULL"
  | .between => "BETWEEN"

/-- Whether the operator takes no value. -/
def isNullary : Operator → Bool
  | .isNull | .isNotNull => true
  | _ => false

end Operator

/-- A comparison of a column. When a parameter is named, its value counts and the literal does not. -/
structure Condition where
  column : String
  operator : Operator
  value : Option Json := none
  parameterRef : Option String := none
deriving Inhabited

/-- A node of a filter tree. -/
inductive FilterNode where
  | leaf (condition : Condition)
  | group (logic : Logic) (nodes : List FilterNode)
deriving Inhabited

/-- A filter: a group of conditions and further groups. -/
structure FilterGroup where
  logic : Logic := .and
  nodes : List FilterNode := []
deriving Inhabited

namespace FilterGroup

/-- The group as a node of a larger one. -/
def node (g : FilterGroup) : FilterNode := .group g.logic g.nodes

/-- Whether the group has no members. -/
def isEmpty (g : FilterGroup) : Bool := g.nodes.isEmpty

end FilterGroup

mutual

/-- The conditions of a node from left to right. -/
def FilterNode.leaves : FilterNode → List Condition
  | .leaf c => [c]
  | .group _ nodes => FilterNode.leavesOf nodes

/-- The conditions of a list of nodes from left to right. -/
def FilterNode.leavesOf : List FilterNode → List Condition
  | [] => []
  | n :: rest => n.leaves ++ FilterNode.leavesOf rest

end

/-- The conditions of a group from left to right. -/
def FilterGroup.leaves (g : FilterGroup) : List Condition := FilterNode.leavesOf g.nodes

end TabularReport
