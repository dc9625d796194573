/-!
# Query texts as trees

What a query text says: select lists over joined relations, combined and sorted. Operators and functions go
by their names in upper case.
-/

namespace TabularReport.Sql

/-- A value of a relation. -/
inductive Cell where
  | null
  | integer (value : Int)
  | real (value : Float)
  | text (value : String)
  | blob (bytes : List Nat)
deriving DecidableEq, Inhabited

/-- How two results are combined. -/
inductive Combination where
  | union
  | intersect
  | except
deriving DecidableEq, Inhabited

mutual

/-- An expression. -/
inductive Expr where
  | literal (value : Cell)
  | placeholder (name : String)
  | column (qualifier : Option String) (name : String)
  /-- All columns, of one relation or of all. -/
  | star (qualifier : Option String)
  | operation (operator : String) (args : List Expr)
  | call (function : String) (distinct : Bool) (args : List Expr)
  /-- The value of a query, or whether it has rows. -/
  | subquery (asTest : Bool) (query : Select)
  | inQuery (value : Expr) (query : Select)

/-- A relation that a query reads. -/
inductive Relation where
  | table (name : String) (aliasName : Option String)
  | derived (query : Select) (aliasName : Option String)
  /-- A join; `kind` is its name in upper case. -/
  | join (kind : String) (left right : Relation) (condition : Option Expr)

/-- The rows of a query before they are sorted. -/
inductive Body where
  | select (distinct : Bool) (items : List (Expr × Option String)) (source : Option Relation)
      (condition : Option Expr) (groups : List Expr) (groupCondition : Option Expr)
  | values (rows : List (List Expr))
  | combined (how : Combination) (all : Bool) (left right : Body)
  | nested (query : Select)
  /-- New values for columns of those rows of a relation that meet a condition. -/
  | update (table : String) (assignments : List (String × Expr)) (condition : Option Expr)
  /-- Any other change of rows, of which only this is known. -/
  | change

/-- A query: named queries that it may read, its rows, their order (`true` for falling), and how many of them
to return and to skip. -/
inductive Select where
  | mk (ctes : List (String × Select)) (body : Body) (order : List (Expr × Bool))
      (limit offset : Option Expr)

end

/-- A statement. Of a statement that is no query only this is known. -/
inductive SqlStatement where
  | query (query : Select)
  | other

end TabularReport.Sql
