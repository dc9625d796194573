import TabularReport.Filter.Basic
import TabularReport.Json.Printer

/-!
# From filter trees to statement fragments

A condition that has a value becomes a clause: the text of a comparison in which placeholders stand for
values, and those values in the order of the placeholders. A condition without a value is dropped and takes
no placeholder; so is a group with nothing left. Values never become part of the text.
-/

namespace TabularReport

/-- A comparison with the values for its placeholders. -/
structure Clause where
  column : String
  operator : Operator
  values : List Json

/-- A placeholder. -/
def placeholder (index : Nat) : String := "$" ++ toString index

/-- The text of a value inside a label or a pattern: texts stand for themselves, null for nothing. -/
def Json.label : Json → String
  | .string s => s
  | .null => ""
  | v => v.compact

/-- What a condition compares with: the named parameter, or the literal. Null counts as nothing. -/
def Condition.value? (c : Condition) (parameters : Fields) : Option Json :=
  let found := match c.parameterRef with
    | some name => Fields.get? parameters name
    | none => c.value
  found.bind Json.present?

/-- The values that an operator binds for the value of a condition; nothing when it drops the condition.
Lists bind each item, ranges their two bounds, and patterns match anywhere in a text. -/
def Operator.bind? (op : Operator) (v : Json) : Option (List Json) :=
  match op with
  | .isIn | .notIn =>
    match v with
    | .array [] => none
    | .array items => some items
    | _ => none
  | .between =>
    match (v.field? "from").bind Json.present?, (v.field? "to").bind Json.present? with
    | some low, some high => some [low, high]
    | _, _ => none
  | .like | .notLike => some [.string ("%" ++ v.label ++ "%")]
  | _ => some [v]

/-- The clause of a condition; nothing when it is dropped. -/
def Condition.clause? (c : Condition) (parameters : Fields) : Option Clause :=
  if c.operator.isNullary then some ⟨c.column, c.operator, []⟩
  else
    ((c.value? parameters).bind c.operator.bind?).map fun values => ⟨c.column, c.operator, values⟩

/-- The placeholders from an index on. -/
def placeholders (first : Nat) : Nat → List String
  | 0 => []
  | n + 1 => placeholder first :: placeholders (first + 1) n

/-- The text of a clause whose first placeholder has the given index. -/
def Clause.text (c : Clause) (first : Nat) : String :=
  let head := c.column ++ " " ++ c.operator.sql
  match c.operator with
  | .isNull | .isNotNull => head
  | .isIn | .notIn => head ++ " (" ++ ", ".intercalate (placeholders first c.values.length) ++ ")"
  | .between => head ++ " " ++ placeholder first ++ " AND " ++ placeholder (first + 1)
  | _ => head ++ " " ++ placeholder first

/-- A compiled filter: its text, the values of its placeholders in order, and the first index that it
leaves free. The text is empty when every condition has been dropped. -/
structure Fragment where
  sql : String
  params : List Json
  nextIndex : Nat

/-- Whether nothing is left of the filter. -/
def Fragment.isEmpty (f : Fragment) : Bool := f.sql.isEmpty

/-- The texts of the members of a group, with their values and the first free index. -/
structure Members where
  clauses : List String
  params : List Json
  nextIndex : Nat

/-- Join the members of a group; members of which nothing is left do not count. -/
def Members.join (m : Members) (logic : Logic) : Fragment :=
  ⟨(" " ++ logic.keyword ++ " ").intercalate (m.clauses.filter (! ·.isEmpty)), m.params, m.nextIndex⟩

mutual

/-- Compile a node; a group inside a group is put in parentheses. -/
def FilterNode.compile (parameters : Fields) (first : Nat) : FilterNode → Fragment
  | .leaf c =>
    match c.clause? parameters with
    | none => ⟨"", [], first⟩
    | some clause => ⟨clause.text first, clause.values, first + clause.values.length⟩
  | .group logic nodes =>
    let f := (FilterNode.compileAll parameters first nodes).join logic
    if f.isEmpty then f else { f with sql := "(" ++ f.sql ++ ")" }

/-- Compile the members of a group from left to right, numbering their placeholders through. -/
def FilterNode.compileAll (parameters : Fields) (first : Nat) : List FilterNode → Members
  | [] => ⟨[], [], first⟩
  | n :: rest =>
    let f := n.compile parameters first
    let more := FilterNode.compileAll parameters f.nextIndex rest
    ⟨f.sql :: more.clauses, f.params ++ more.params, more.nextIndex⟩

end

/-- Compile a filter whose first placeholder has the given index. -/
def FilterGroup.compile (g : FilterGroup) (parameters : Fields) (first : Nat) : Fragment :=
  (FilterNode.compileAll parameters first g.nodes).join g.logic

end TabularReport
