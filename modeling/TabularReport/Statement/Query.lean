import TabularReport.Statement.Token
import TabularReport.Template.Basic

/-!
# Queries

A query holds the clauses of a `SELECT` statement. The clauses are set in any order and written in the
order of the language: each clause is a function of what was set for it.
-/

namespace TabularReport

/-- A column, all columns, or an expression that is written already. -/
inductive ColumnExpr where
  | column (qualifier : Option String) (name : String)
  | star (qualifier : Option String)
  | raw (sql : String)
deriving DecidableEq, Inhabited

/-- The tokens of an expression. -/
def ColumnExpr.tokens : ColumnExpr → List Token
  | .column (some qualifier) name => [.qualifiedName qualifier name]
  | .column none name => [.name name]
  | .star (some qualifier) => [.name qualifier, .dot, .star]
  | .star none => [.star]
  | .raw sql => [.raw sql]

/-- The text of an expression. -/
def ColumnExpr.sql (e : ColumnExpr) : String := Token.textOf e.tokens

/-- The tokens of a name that is given to what stands before it. -/
def asName : Option String → List Token
  | some name => [.space, .as, .space, .name name]
  | none => []

/-- An item of a select list and the name it is given. -/
structure SelectItem where
  expr : ColumnExpr
  outputName : Option String := none
deriving DecidableEq, Inhabited

/-- The tokens of an item of a select list. -/
def SelectItem.tokens (i : SelectItem) : List Token := i.expr.tokens ++ asName i.outputName

/-- A relation and the name it is given. -/
structure TableRef where
  table : String
  aliasName : Option String := none
deriving DecidableEq, Inhabited

/-- The tokens of a relation. -/
def TableRef.tokens (t : TableRef) : List Token := .name t.table :: asName t.aliasName

/-- A joined relation; `on` is the text of a condition. -/
structure Join where
  kind : JoinKind
  table : TableRef
  on : Option String := none
deriving DecidableEq, Inhabited

/-- The tokens that say how a relation is joined. -/
def JoinKind.tokens : JoinKind → List Token
  | .inner => [.inner]
  | .left => [.left]
  | .right => [.right]
  | .full => [.full, .space, .outer]

/-- The tokens of a join. -/
def Join.tokens (j : Join) : List Token :=
  j.kind.tokens ++ [.space, .join, .space] ++ j.table.tokens ++
    match j.on with
    | some condition => [.space, .on, .space, .raw condition]
    | none => []

/-- An expression to sort by. -/
structure OrderItem where
  expr : ColumnExpr
  direction : SortDirection := .asc
deriving DecidableEq, Inhabited

/-- The token of a direction. -/
def SortDirection.token : SortDirection → Token
  | .asc => .asc
  | .desc => .desc

/-- The tokens of an expression to sort by. -/
def OrderItem.tokens (i : OrderItem) : List Token := i.expr.tokens ++ [.space, i.direction.token]

/-- The number of rows to return and to skip. -/
structure LimitOffset where
  limit : Option Nat := none
  offset : Option Nat := none
deriving DecidableEq, Inhabited

/-- The tokens of the numbers of rows to return and to skip. -/
def LimitOffset.tokens (w : LimitOffset) : List Token :=
  match w.limit, w.offset with
  | none, none => []
  | some n, none => [.limit, .space, .number n]
  | none, some m => [.offset, .space, .number m]
  | some n, some m => [.limit, .space, .number n, .space, .offset, .space, .number m]

/-- The clauses of a statement. A common table expression is a query under a name that the query itself may
read from. `condition` and `having` are texts of conditions whose placeholders are numbered already. -/
structure Query where
  ctes : List (String × Query) := []
  items : List SelectItem := []
  source : Option TableRef := none
  joins : List Join := []
  condition : Option String := none
  groups : List ColumnExpr := []
  groupCondition : Option String := none
  order : List OrderItem := []
  limitOffset : Option LimitOffset := none
deriving Inhabited

namespace Query

/-- Add a common table expression. -/
def withCte (q : Query) (name : String) (inner : Query) : Query :=
  { q with ctes := q.ctes ++ [(name, inner)] }

/-- Set the select list. -/
def select (q : Query) (items : List SelectItem) : Query := { q with items }

/-- Set the relation to read from. -/
def fromTable (q : Query) (table : TableRef) : Query := { q with source := some table }

/-- Add a join. -/
def join (q : Query) (j : Join) : Query := { q with joins := q.joins ++ [j] }

/-- Require a further condition; the empty text requires nothing. -/
def filter (q : Query) (condition : String) : Query :=
  if condition.isEmpty then q
  else
    match q.condition with
    | some before => { q with condition := some (before ++ " AND " ++ condition) }
    | none => { q with condition := some condition }

/-- Set the grouping. -/
def groupBy (q : Query) (groups : List ColumnExpr) : Query := { q with groups }

/-- Set the condition on groups; the empty text sets nothing. -/
def having (q : Query) (condition : String) : Query :=
  if condition.isEmpty then q else { q with groupCondition := some condition }

/-- Set the order. -/
def orderBy (q : Query) (order : List OrderItem) : Query := { q with order }

/-- Set the number of rows to return. -/
def limit (q : Query) (n : Nat) : Query :=
  { q with limitOffset := some { q.limitOffset.getD {} with limit := some n } }

/-- Set the number of rows to skip. -/
def offset (q : Query) (n : Nat) : Query :=
  { q with limitOffset := some { q.limitOffset.getD {} with offset := some n } }

/-- Parts separated by commas on one line. -/
def commaSeparated (parts : List (List Token)) : List Token := [.comma, .space].intercalate parts

/-- The select list, each item on a line of its own. -/
def selectTokens (items : List SelectItem) : List Token :=
  .select ::
    if items.isEmpty then []
    else [.newline, .indent 1] ++ [.comma, .newline, .indent 1].intercalate (items.map (·.tokens))

/-- A clause on a line of its own; nothing when it has no parts. -/
def clauseTokens (keyword : Token) (parts : List (List Token)) : List Token :=
  if parts.isEmpty then [] else [.newline, keyword, .space] ++ commaSeparated parts

/-- The numbers of rows to return and to skip on a line of their own. -/
def limitTokens (numbers : Option LimitOffset) : List Token :=
  match numbers with
  | none => []
  | some w => .newline :: w.tokens

mutual

/-- The tokens of a query: its clauses in the order of the language. -/
def tokens : Query → List Token
  | ⟨ctes, items, source, joins, condition, groups, groupCondition, order, limitOffset⟩ =>
    (if ctes.isEmpty then [] else [.with, .space] ++ commaSeparated (cteTokens ctes) ++ [.newline]) ++
      selectTokens items ++ clauseTokens .from (source.toList.map (·.tokens)) ++
      joins.flatMap (fun j => .newline :: j.tokens) ++
      clauseTokens .where (condition.toList.map ([.raw ·])) ++
      clauseTokens .groupBy (groups.map (·.tokens)) ++
      clauseTokens .having (groupCondition.toList.map ([.raw ·])) ++
      clauseTokens .orderBy (order.map (·.tokens)) ++ limitTokens limitOffset

/-- The tokens of each common table expression. -/
def cteTokens : List (String × Query) → List (List Token)
  | [] => []
  | (name, inner) :: rest =>
    ([.name name, .space, .as, .space, .openParen, .newline] ++ inner.tokens ++
      [.newline, .closeParen]) :: cteTokens rest

end

/-- The text of a query. -/
def sql (q : Query) : String := Token.textOf q.tokens

end Query

end TabularReport
