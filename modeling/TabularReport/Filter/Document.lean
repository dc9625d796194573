import TabularReport.Document.Reader
import TabularReport.Filter.Basic

/-!
# Filter trees as documents

A node of a tree is read as a condition when it can be, and as a group otherwise. A group admits no other
entries than its own, so an object that has a column and is no condition is refused rather than read as an
empty group.
-/

namespace TabularReport

/-- The spellings of a group's logic. -/
def Logic.variants : List (String × Logic) := [("and", .and), ("or", .or)]

/-- The spellings of a comparison. -/
def Operator.variants : List (String × Operator) :=
  [("=", .equal), ("!=", .notEqual), (">", .greater), (">=", .greaterOrEqual), ("<", .less),
    ("<=", .lessOrEqual), ("like", .like), ("not like", .notLike), ("in", .isIn), ("not in", .notIn),
    ("is null", .isNull), ("is not null", .isNotNull), ("between", .between)]

/-- Read a comparison. -/
def Operator.reader : Reader Operator := Reader.oneOf Operator.variants

/-- How a comparison is written. -/
def Operator.spelling : Operator → String
  | .equal => "="
  | .notEqual => "!="
  | .greater => ">"
  | .greaterOrEqual => ">="
  | .less => "<"
  | .lessOrEqual => "<="
  | .like => "like"
  | .notLike => "not like"
  | .isIn => "in"
  | .notIn => "not in"
  | .isNull => "is null"
  | .isNotNull => "is not null"
  | .between => "between"

/-- How a group's logic is written. -/
def Logic.spelling : Logic → String
  | .and => "and"
  | .or => "or"

/-- Read a condition. -/
def Condition.reader : Reader Condition :=
  Reader.record "Condition" <|
    Condition.mk <$> .required "column" Reader.string
      <*> .required "operator" Operator.reader
      <*> .optional "value" Reader.json
      <*> .optional "parameterRef" Reader.string

/-- Read a group, given a reader of its members. -/
def FilterGroup.readerOf (member : Reader FilterNode) : Reader FilterGroup :=
  let fields : RecordReader FilterGroup :=
    FilterGroup.mk <$> .fieldWith ["logic", "operator"] (Reader.oneOf Logic.variants) "logic" (some .and)
      <*> .defaulted "conditions" (Reader.list member) []
  fields.reader "struct ConditionGroup" true

/-- Read a node whose groups nest at most so deep. -/
def FilterNode.readerWithin : Nat → Reader FilterNode
  | 0 => fun _ _ => .error (.noVariant "ConditionNode")
  | depth + 1 => Reader.settingAside fun s =>
    match Condition.reader .setAside s with
    | .ok c => .ok (.leaf c)
    | .error _ =>
      match FilterGroup.readerOf (FilterNode.readerWithin depth) .setAside s with
      | .ok g => .ok g.node
      | .error _ => .error (.noVariant "ConditionNode")

/-- Read a node. -/
def FilterNode.reader : Reader FilterNode := fun o s => FilterNode.readerWithin (s.depth + 1) o s

/-- Read a group. -/
def FilterGroup.reader : Reader FilterGroup := FilterGroup.readerOf FilterNode.reader

/-- An entry that is written only when there is something to write. -/
def Json.entryIfSome {α : Type} (name : String) (write : α → Json) : Option α → List (String × Json)
  | some a => [(name, write a)]
  | none => []

/-- Write a condition. -/
def Condition.toJson (c : Condition) : Json :=
  .object <|
    [("column", .string c.column), ("operator", .string c.operator.spelling)] ++
      Json.entryIfSome "value" id c.value ++ Json.entryIfSome "parameterRef" .string c.parameterRef

mutual

/-- Write a node. -/
def FilterNode.toJson : FilterNode → Json
  | .leaf c => c.toJson
  | .group logic nodes =>
    .object [("logic", .string logic.spelling), ("conditions", .array (FilterNode.listToJson nodes))]

/-- Write each node of a list. -/
def FilterNode.listToJson : List FilterNode → List Json
  | [] => []
  | n :: rest => n.toJson :: FilterNode.listToJson rest

end

/-- Write a group. -/
def FilterGroup.toJson (g : FilterGroup) : Json := g.node.toJson

end TabularReport
