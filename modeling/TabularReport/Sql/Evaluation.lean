import TabularReport.Sql.Cell

/-!
# Rows of queries

`Select.result` gives the rows of a query over named relations. A condition is met when it is true, so not
when it is null; aggregates pass over nulls; an outer join fills up with nulls. The bound on the depth of
calls comes from the text of the query.
-/

namespace TabularReport.Sql

/-- Why a query has no rows to give. -/
inductive SqlFault where
  | unreadable
  | noTable (name : String)
  | noColumn (name : String)
  | noFunction (name : String)
deriving DecidableEq, Inhabited

/-- The text of a fault. -/
def SqlFault.message : SqlFault → String
  | .unreadable => "syntax error"
  | .noTable name => "no such table: " ++ name
  | .noColumn name => "no such column: " ++ name
  | .noFunction name => "no such function: " ++ name

/-- A column of a relation. -/
structure ColumnHead where
  relation : String
  name : String
  /-- Other values are compared with the column's as texts. -/
  isText : Bool
deriving DecidableEq, Inhabited

/-- Rows of values under columns. -/
structure Rows where
  columns : List ColumnHead
  rows : List (List Cell)
deriving DecidableEq, Inhabited

/-- The same rows as a relation of another name. -/
def Rows.named (r : Rows) (name : String) : Rows :=
  { r with columns := r.columns.map fun c => { c with relation := name } }

/-- The relations that a query may read and the values of its placeholders. -/
structure Scope where
  relations : List (String × Rows)
  params : List (String × Cell)

/-- What an expression is evaluated in: a row, and the rows of its group when there are groups. -/
structure Context where
  scope : Scope
  columns : List ColumnHead
  cells : List Cell
  group : Option Rows

/-- The rows of a named relation. -/
def Scope.find (s : Scope) (name : String) : Except SqlFault Rows :=
  match s.relations.find? fun (n, _) => Text.sameIgnoringCase n name with
  | some (_, rows) => .ok rows
  | none => .error (.noTable name)

/-- Whether a column answers to a reference. -/
def ColumnHead.answersTo (c : ColumnHead) (qualifier : Option String) (name : String) : Bool :=
  Text.sameIgnoringCase c.name name &&
    match qualifier with
    | some q => Text.sameIgnoringCase c.relation q
    | none => true

/-- The column that a reference means, with its value. -/
def Context.column? (c : Context) (qualifier : Option String) (name : String) :
    Option (ColumnHead × Cell) :=
  (c.columns.zip c.cells).find? fun (head, _) => head.answersTo qualifier name

/-- Whether an expression is a column of texts. -/
def Context.isTextColumn (c : Context) : Expr → Bool
  | .column q n => ((c.column? q n).map (·.1.isText)).getD false
  | _ => false

/-- A value as it is compared with a column of texts. -/
def asTextWhen (needed : Bool) : Cell → Cell
  | .integer i => if needed then .text (toString i) else .integer i
  | .real x => if needed then .text (Number.text (.float x)) else .real x
  | c => c

/-- The outcome of a comparison; a comparison with null has none. -/
def comparison? (operator : String) (a b : Cell) : Option Bool :=
  if a.isNull || b.isNull then none
  else
    match operator with
    | "=" | "==" => some (a.same b)
    | "<>" | "!=" => some (!a.same b)
    | "<" => some (a.before b)
    | "<=" => some (!b.before a)
    | ">" => some (b.before a)
    | _ => some (!a.before b)

/-- The conjunction of two conditions, of which either may be unknown. -/
def both : Option Bool → Option Bool → Option Bool
  | some false, _ | _, some false => some false
  | some true, some true => some true
  | _, _ => none

/-- The disjunction of two conditions, of which either may be unknown. -/
def either : Option Bool → Option Bool → Option Bool
  | some true, _ | _, some true => some true
  | some false, some false => some false
  | _, _ => none

/-- The value of an arithmetic operation. -/
def arithmetic (operator : String) (a b : Cell) : Cell :=
  match a, b with
  | .null, _ | _, .null => .null
  | .integer i, .integer j =>
    match operator with
    | "+" => .integer (i + j)
    | "-" => .integer (i - j)
    | "*" => .integer (i * j)
    | "/" => if j = 0 then .null else .integer (i.tdiv j)
    | _ => if j = 0 then .null else .integer (i.tmod j)
  | _, _ =>
    match a.float?, b.float? with
    | some x, some y =>
      match operator with
      | "+" => .real (x + y)
      | "-" => .real (x - y)
      | "*" => .real (x * y)
      | _ => if y == 0 then .null else .real (x / y)
    | _, _ => .null

/-- The negative of a value. -/
def negative : Cell → Cell
  | .null => .null
  | .integer i => .integer (-i)
  | c => match c.float? with
    | some x => .real (-x)
    | none => .null

/-- Two values as one text. -/
def joined (a b : Cell) : Cell :=
  match a.text?, b.text? with
  | some s, some t => .text (s ++ t)
  | _, _ => .null

/-- The value of a case distinction over conditions and results, and at last the default. -/
def firstMatch (test : Cell → Bool) : List Cell → Cell
  | condition :: result :: more => if test condition then result else firstMatch test more
  | [default] => default
  | [] => .null

/-- The value as one of the given type. -/
def castTo (type : String) (c : Cell) : Cell :=
  match c with
  | .null => .null
  | _ =>
    if ["text", "varchar", "char", "character"].contains type then ((c.text?).map .text).getD .null
    else if ["int", "integer", "bigint", "smallint"].contains type then
      match c with
      | .integer i => .integer i
      | _ => ((c.float?).map fun x => Cell.integer x.toInt64.toInt).getD .null
    else ((c.float?).map .real).getD .null

/-- The value of an operator other than a comparison with a column. -/
def operate (operator : String) (args : List Cell) : Except SqlFault Cell :=
  match operator, args with
  | "AND", [a, b] => .ok (.ofTruth (both a.truth? b.truth?))
  | "OR", [a, b] => .ok (.ofTruth (either a.truth? b.truth?))
  | "NOT", [a] => .ok (.ofTruth (a.truth?.map (! ·)))
  | "-", [a] => .ok (negative a)
  | "+", [a, b] | "-", [a, b] | "*", [a, b] | "/", [a, b] | "%", [a, b] => .ok (arithmetic operator a b)
  | "||", [a, b] => .ok (joined a b)
  | "IS NULL", [a] => .ok (.ofTruth (some a.isNull))
  | "IS NOT NULL", [a] => .ok (.ofTruth (some !a.isNull))
  | "IS TRUE", [a] => .ok (.ofTruth (some (a.truth? == some true)))
  | "IS NOT TRUE", [a] => .ok (.ofTruth (some (a.truth? != some true)))
  | "IS FALSE", [a] => .ok (.ofTruth (some (a.truth? == some false)))
  | "IS NOT FALSE", [a] => .ok (.ofTruth (some (a.truth? != some false)))
  | "IS DISTINCT FROM", [a, b] => .ok (.ofTruth (some (!a.same b)))
  | "IS NOT DISTINCT FROM", [a, b] => .ok (.ofTruth (some (a.same b)))
  | "LIKE", [a, b] =>
    match a.text?, b.text? with
    | some s, some pattern => .ok (.ofTruth (some (Cell.matchesLike pattern.toList s.toList)))
    | _, _ => .ok .null
  | "NOT LIKE", [a, b] =>
    match a.text?, b.text? with
    | some s, some pattern => .ok (.ofTruth (some !(Cell.matchesLike pattern.toList s.toList)))
    | _, _ => .ok .null
  | "CASE", _ :: branches => .ok (firstMatch (fun c => c.truth? == some true) branches)
  | "CASE OF", value :: branches => .ok (firstMatch (fun c => !value.isNull && value.same c) branches)
  | _, [a] =>
    match Text.dropPrefix? "CAST ".toList operator.toList with
    | some type => .ok (castTo (String.ofList type) a)
    | none => .error .unreadable
  | _, _ => .error .unreadable

/-- Whether a value is one of a list, where null stands for an unknown value. -/
def memberOf? (value : Cell) : List Cell → Option Bool
  | [] => some false
  | c :: more => either (comparison? "=" value c) (memberOf? value more)

/-- The functions of a group of rows. -/
def aggregateNames : List String := ["COUNT", "SUM", "AVG", "MIN", "MAX", "TOTAL"]

/-- The values without repetitions. -/
def distinctCells : List Cell → List Cell
  | [] => []
  | c :: rest => c :: (distinctCells rest).filter fun d => !d.same c

/-- The sum of values. -/
def sumCells (cells : List Cell) : Cell :=
  match cells with
  | [] => .null
  | first :: rest => rest.foldl (arithmetic "+") (arithmetic "+" (.integer 0) first)

/-- The value of a function of a group of rows for the values of its argument in them. -/
def aggregate (function : String) (cells : List Cell) : Cell :=
  let present := cells.filter (! ·.isNull)
  match function with
  | "COUNT" => .integer present.length
  | "SUM" => sumCells present
  | "TOTAL" => .real (((sumCells present).float?).getD 0)
  | "AVG" =>
    match (sumCells present).float? with
    | some total => .real (total / Float.ofNat present.length)
    | none => .null
  | "MIN" =>
    match present with
    | [] => .null
    | c :: rest => rest.foldl (fun least d => if d.before least then d else least) c
  | _ =>
    match present with
    | [] => .null
    | c :: rest => rest.foldl (fun most d => if most.before d then d else most) c

/-- The value of a function of its arguments. -/
def applyFunction (function : String) (args : List Cell) : Except SqlFault Cell :=
  match function, args with
  | "COALESCE", _ | "IFNULL", _ => .ok ((args.find? (! ·.isNull)).getD .null)
  | "NULLIF", [a, b] => .ok (if !a.isNull && a.same b then .null else a)
  | "UPPER", [a] => .ok (((a.text?).map fun s => Cell.text s.toUpper).getD .null)
  | "LOWER", [a] => .ok (((a.text?).map fun s => Cell.text (Text.lower s)).getD .null)
  | "LENGTH", [a] => .ok (((a.text?).map fun s => Cell.integer s.length).getD .null)
  | "TRIM", [a] => .ok (((a.text?).map fun s => Cell.text (String.ofList (Text.trim s.toList))).getD .null)
  | "ABS", [a] => .ok (if a.before (.integer 0) && !a.isNull then negative a else a)
  | _, _ => .error (.noFunction function)

mutual

/-- Whether an expression has a function of a group of rows. -/
def Expr.isAggregate : Nat → Expr → Bool
  | 0, _ => false
  | depth + 1, .operation _ args => Expr.anyAggregate depth args
  | depth + 1, .call f _ args => aggregateNames.contains f || Expr.anyAggregate depth args
  | _ + 1, _ => false

/-- Whether one of several expressions has a function of a group of rows. -/
def Expr.anyAggregate : Nat → List Expr → Bool
  | 0, _ => false
  | _ + 1, [] => false
  | depth + 1, e :: rest => e.isAggregate depth || Expr.anyAggregate depth rest

end

/-- The rows of each group, in the order in which the groups first appear. -/
def groupRows (rows : List (List Cell × List Cell)) : List (List (List Cell)) :=
  (rows.map (·.1)).eraseDups.map fun key => (rows.filter (·.1 == key)).map (·.2)

/-- Whether the first list of sort keys comes before the second; `falling` tells the direction of each. -/
def keysBefore : List (Cell × Bool) → List (Cell × Bool) → Bool
  | (a, falling) :: as, (b, _) :: bs =>
    if a.same b then keysBefore as bs else if falling then b.before a else a.before b
  | _, _ => false

/-- Rows without repetitions. -/
def distinctRows {α : Type} : List (List Cell × α) → List (List Cell × α)
  | [] => []
  | r :: rest => r :: (distinctRows rest).filter fun other => !(other.1 == r.1)

/-- The name of a column of a result that was given none. -/
def Expr.heading : Expr → String
  | .column _ name => name
  | .placeholder name => name
  | .literal c => (c.text?).getD "NULL"
  | .call f _ [.star none] => f ++ "(*)"
  | _ => "?column?"

/-- A number of rows; a negative one is no limit. -/
def rowCount? : Cell → Option Nat
  | .integer i => if i < 0 then none else some i.toNat
  | _ => none

/-- The rows of a join for the rows that meet its condition: pairs, with unmatched rows of the kept sides
filled up with nulls. -/
def joinRows (kind : String) (left right : Rows) (met : List Cell → List Cell → Bool) : Rows :=
  let pairs := left.rows.flatMap fun l =>
    let found := (right.rows.filter (met l)).map (l ++ ·)
    if found.isEmpty && (kind = "LEFT" || kind = "FULL") then
      [l ++ List.replicate right.columns.length .null]
    else found
  let unmatched :=
    if kind = "RIGHT" || kind = "FULL" then
      (right.rows.filter fun r => !left.rows.any fun l => met l r).map
        (List.replicate left.columns.length Cell.null ++ ·)
    else []
  ⟨left.columns ++ right.columns, pairs ++ unmatched⟩

/-- A result: its columns, and each row with what its sort keys are evaluated in. -/
structure Result where
  columns : List ColumnHead
  rows : List (List Cell × Context)

mutual

/-- The value of an expression. -/
def Expr.value : Nat → Context → Expr → Except SqlFault Cell
  | 0, _, _ => .error .unreadable
  | depth + 1, c, e =>
    match e with
    | .literal v => .ok v
    | .placeholder name => .ok (((c.scope.params.find? (·.1 == name)).map (·.2)).getD .null)
    | .column q n =>
      match c.column? q n with
      | some (_, v) => .ok v
      | none => .error (.noColumn (match q with | some s => s ++ "." ++ n | none => n))
    | .star _ => .error .unreadable
    | .operation op args => do
      let values ← Expr.values depth c args
      let textual := args.any c.isTextColumn
      let values := values.map (asTextWhen textual)
      match op, values with
      | "=", [a, b] | "==", [a, b] | "<>", [a, b] | "!=", [a, b] | "<", [a, b] | "<=", [a, b]
      | ">", [a, b] | ">=", [a, b] => return .ofTruth (comparison? op a b)
      | "BETWEEN", [a, low, high] =>
        return .ofTruth (both (comparison? ">=" a low) (comparison? "<=" a high))
      | "NOT BETWEEN", [a, low, high] =>
        return .ofTruth ((both (comparison? ">=" a low) (comparison? "<=" a high)).map (! ·))
      | "IN", a :: items => return .ofTruth (memberOf? a items)
      | "NOT IN", a :: items => return .ofTruth ((memberOf? a items).map (! ·))
      | _, _ => operate op (← Expr.values depth c args)
    | .call f distinct args =>
      match c.group, aggregateNames.contains f with
      | some rows, true =>
        match args with
        | [.star _] | [] => .ok (.integer rows.rows.length)
        | arg :: _ => do
          let cells ← rows.rows.mapM fun row => arg.value depth ⟨c.scope, rows.columns, row, none⟩
          return aggregate f (if distinct then distinctCells cells else cells)
      | _, _ => do applyFunction f (← Expr.values depth c args)
    | .subquery asTest q => do
      let result ← q.result depth c.scope
      if asTest then return .ofTruth (some !result.rows.isEmpty)
      return ((result.rows.head?).bind (·.head?)).getD .null
    | .inQuery v q => do
      let value ← v.value depth c
      let result ← q.result depth c.scope
      return .ofTruth (memberOf? value (result.rows.map fun row => row.head?.getD .null))

/-- The values of expressions. -/
def Expr.values : Nat → Context → List Expr → Except SqlFault (List Cell)
  | 0, _, _ => .error .unreadable
  | _ + 1, _, [] => .ok []
  | depth + 1, c, e :: rest => do
    let v ← e.value depth c
    let vs ← Expr.values depth c rest
    return v :: vs

/-- The rows of a relation that a query reads. -/
def Relation.rows : Nat → Scope → Relation → Except SqlFault Rows
  | 0, _, _ => .error .unreadable
  | _ + 1, s, .table name aliasName => do return (← s.find name).named (aliasName.getD name)
  | depth + 1, s, .derived q aliasName => do return (← q.result depth s).named (aliasName.getD "")
  | depth + 1, s, .join kind left right condition => do
    let l ← left.rows depth s
    let r ← right.rows depth s
    match condition with
    | none => return joinRows kind l r fun _ _ => true
    | some e =>
      let columns := l.columns ++ r.columns
      let pairs := l.rows.flatMap fun a => r.rows.map fun b => (a, b)
      let met ← pairs.filterM fun (a, b) => do
        return (← e.value depth ⟨s, columns, a ++ b, none⟩).truth? == some true
      return joinRows kind l r fun a b => met.contains (a, b)

/-- The columns and values of a select list for one row. -/
def Expr.selected : Nat → Context → List (Expr × Option String) →
    Except SqlFault (List (ColumnHead × Cell))
  | 0, _, _ => .error .unreadable
  | _ + 1, _, [] => .ok []
  | depth + 1, c, (.star qualifier, _) :: rest => do
    let all := (c.columns.zip c.cells).filter fun (head, _) =>
      match qualifier with
      | some q => Text.sameIgnoringCase head.relation q
      | none => true
    return all ++ (← Expr.selected depth c rest)
  | depth + 1, c, (e, name) :: rest => do
    let v ← e.value depth c
    let heading := match e with
      | .column q n => ((c.column? q n).map (·.1.name)).getD n
      | e => e.heading
    return (⟨"", name.getD heading, c.isTextColumn e⟩, v) :: (← Expr.selected depth c rest)

/-- The rows of a query before they are sorted. -/
def Body.result : Nat → Scope → Body → Except SqlFault Result
  | 0, _, _ => .error .unreadable
  | _ + 1, _, .update .. | _ + 1, _, .change => .error .unreadable
  | depth + 1, s, .nested q => do
    let rows ← q.result depth s
    return ⟨rows.columns, rows.rows.map fun row => (row, ⟨s, rows.columns, row, none⟩)⟩
  | depth + 1, s, .values rows => do
    let cells ← rows.mapM (Expr.values depth ⟨s, [], [], none⟩)
    let width := (cells.head?.map (·.length)).getD 0
    let columns := (List.range width).map fun i => ColumnHead.mk "" ("column" ++ toString (i + 1)) false
    return ⟨columns, cells.map fun row => (row, ⟨s, columns, row, none⟩)⟩
  | depth + 1, s, .combined how all left right => do
    let l ← left.result depth s
    let r ← right.result depth s
    let inRight (row : List Cell × Context) : Bool := r.rows.any (·.1 == row.1)
    let rows := match how with
      | .union => if all then l.rows ++ r.rows else distinctRows (l.rows ++ r.rows)
      | .intersect => distinctRows (l.rows.filter inRight)
      | .except => distinctRows (l.rows.filter fun row => !inRight row)
    return ⟨l.columns, rows.map fun (row, _) => (row, ⟨s, l.columns, row, none⟩)⟩
  | depth + 1, s, .select distinct items source condition groups groupCondition => do
    let read ← match source with
      | some relation => relation.rows depth s
      | none => .ok ⟨[], [[]]⟩
    let kept ← match condition with
      | none => .ok read.rows
      | some e => read.rows.filterM fun row => do
        return (← e.value depth ⟨s, read.columns, row, none⟩).truth? == some true
    let grouped := !groups.isEmpty || groupCondition.isSome || items.any fun (e, _) => e.isAggregate depth
    let contexts : List Context ←
      if grouped then do
        let keyed ← kept.mapM fun row => do
          return (← Expr.values depth ⟨s, read.columns, row, none⟩ groups, row)
        let found := if groups.isEmpty then [kept] else groupRows keyed
        let blank := List.replicate read.columns.length Cell.null
        pure (found.map fun rows =>
          ⟨s, read.columns, rows.head?.getD blank, some ⟨read.columns, rows⟩⟩)
      else pure (kept.map fun row => ⟨s, read.columns, row, none⟩)
    let contexts ← match groupCondition with
      | none => .ok contexts
      | some e => contexts.filterM fun c => do return (← e.value depth c).truth? == some true
    let blank : Context := ⟨s, read.columns, List.replicate read.columns.length .null,
      if grouped then some ⟨read.columns, []⟩ else none⟩
    let heads := (← Expr.selected depth blank items).map (·.1)
    let rows ← contexts.mapM fun c => do
      let cells := (← Expr.selected depth c items).map (·.2)
      return (cells, { c with columns := heads ++ c.columns, cells := cells ++ c.cells })
    return ⟨heads, if distinct then distinctRows rows else rows⟩

/-- The values that a row is sorted by, with their directions. A number stands for a column of the result. -/
def Expr.sortKeys : Nat → List Cell → Context → List (Expr × Bool) → Except SqlFault (List (Cell × Bool))
  | 0, _, _, _ => .error .unreadable
  | _ + 1, _, _, [] => .ok []
  | depth + 1, row, c, (e, falling) :: rest => do
    let key ← match e with
      | .literal (.integer i) => .ok ((row[(i - 1).toNat]?).getD .null)
      | e => e.value depth c
    return (key, falling) :: (← Expr.sortKeys depth row c rest)

/-- The relations that a query may read: those given, and each named query with its rows. -/
def Select.scope : Nat → Scope → List (String × Select) → Except SqlFault Scope
  | 0, _, _ => .error .unreadable
  | _ + 1, s, [] => .ok s
  | depth + 1, s, (name, q) :: rest => do
    let rows ← q.result depth s
    Select.scope depth { s with relations := (name, rows.named name) :: s.relations } rest

/-- The rows of a query. -/
def Select.result : Nat → Scope → Select → Except SqlFault Rows
  | 0, _, _ => .error .unreadable
  | depth + 1, s, .mk ctes body order limit offset => do
    let s ← Select.scope depth s ctes
    let result ← body.result depth s
    let keyed ← result.rows.mapM fun (row, c) => do
      return (← Expr.sortKeys depth row c order, row)
    let sorted := (keyed.mergeSort fun a b => !keysBefore b.1 a.1).map (·.2)
    let constant : Context := ⟨s, [], [], none⟩
    let skipped ← match offset with
      | some e => (e.value depth constant).map fun v => (rowCount? v).getD 0
      | none => .ok 0
    let returned ← match limit with
      | some e => (e.value depth constant).map rowCount?
      | none => .ok none
    let rest := sorted.drop skipped
    return ⟨result.columns, match returned with | some n => rest.take n | none => rest⟩

end

/-- A row with a new value in a named column. A column of texts holds numbers as texts. -/
def Context.assign (c : Context) (cells : List Cell) (name : String) (v : Cell) :
    Except SqlFault (List Cell) :=
  match c.columns.findIdx? (·.answersTo none name), c.column? none name with
  | some i, some (head, _) => .ok (cells.set i (asTextWhen head.isText v))
  | _, _ => .error (.noColumn name)

/-- A row with new values in some columns, all of which are evaluated in the row as it was. -/
def Context.assigned (depth : Nat) (c : Context) (assignments : List (String × Expr)) :
    Except SqlFault (List Cell) :=
  assignments.foldlM (fun cells (name, e) => do c.assign cells name (← e.value depth c)) c.cells

/-- A relation after those of its rows that meet a condition have been given new values. -/
def Rows.updated (depth : Nat) (s : Scope) (r : Rows) (assignments : List (String × Expr))
    (condition : Option Expr) : Except SqlFault Rows := do
  let changed (row : List Cell) : Except SqlFault (List Cell) := do
    let c : Context := ⟨s, r.columns, row, none⟩
    let new ← c.assigned depth assignments
    match condition with
    | none => return new
    | some e => return if (← e.value depth c).truth? == some true then new else row
  -- Without any row, the columns have to be there all the same.
  let _ ← changed (List.replicate r.columns.length .null)
  return { r with rows := ← r.rows.mapM changed }

end TabularReport.Sql
