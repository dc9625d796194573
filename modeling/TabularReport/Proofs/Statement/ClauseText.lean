import TabularReport.Proofs.Statement.Writing

/-!
# The text of clauses

A query is written clause by clause. The text of each clause is given here by the words of the
language and by what is set for the clause, without the tokens that the writer goes through; the
text of a common table expression consists of the clauses of its query again.
-/

namespace TabularReport

/-- The clauses of a query. -/
inductive QueryClause where
  | ctes
  | items
  | source
  | joins
  | condition
  | groups
  | groupCondition
  | order
  | rowLimit
  | rowOffset
deriving DecidableEq

/-- The clauses in the order of the language. -/
def QueryClause.all : List QueryClause :=
  [.ctes, .items, .source, .joins, .condition, .groups, .groupCondition, .order, .rowLimit,
    .rowOffset]

/-- The words of a clause. -/
def QueryClause.words : QueryClause → String
  | .ctes => "WITH "
  | .items => "SELECT"
  | .source => "\nFROM "
  | .joins => " JOIN "
  | .condition => "\nWHERE "
  | .groups => "\nGROUP BY "
  | .groupCondition => "\nHAVING "
  | .order => "\nORDER BY "
  | .rowLimit => "\nLIMIT "
  | .rowOffset => "OFFSET "

/-! ### What is written -/

/-- An expression as it is written. -/
def ColumnExpr.written : ColumnExpr → String
  | .column (some qualifier) name => qualifier ++ "." ++ name
  | .column none name => name
  | .star (some qualifier) => qualifier ++ ".*"
  | .star none => "*"
  | .raw sql => sql

/-- The name that is given to what stands before it. -/
def writtenName : Option String → String
  | some name => " AS " ++ name
  | none => ""

/-- An item of a select list as it is written. -/
def SelectItem.written (i : SelectItem) : String := i.expr.written ++ writtenName i.outputName

/-- A relation as it is written. -/
def TableRef.written (r : TableRef) : String := r.table ++ writtenName r.aliasName

/-- The words that say how a relation is joined. -/
def JoinKind.written : JoinKind → String
  | .inner => "INNER"
  | .left => "LEFT"
  | .right => "RIGHT"
  | .full => "FULL OUTER"

/-- A join as it is written. -/
def Join.written (j : Join) : String :=
  j.kind.written ++ " JOIN " ++ j.table.written ++
    match j.on with
    | some condition => " ON " ++ condition
    | none => ""

/-- An expression to sort by as it is written. -/
def OrderItem.written (i : OrderItem) : String :=
  i.expr.written ++
    match i.direction with
    | .asc => " ASC"
    | .desc => " DESC"

namespace Query

/-- The words of a clause and its parts, separated by commas; nothing without parts. -/
def partsText (c : QueryClause) (parts : List String) : String :=
  if parts.isEmpty then "" else c.words ++ ", ".intercalate parts

/-- The number of rows to return. The line of both numbers begins here, even if there are none. -/
def limitText : Option LimitOffset → String
  | some ⟨some n, _⟩ => "\nLIMIT " ++ toString n
  | some ⟨none, none⟩ => "\n"
  | _ => ""

/-- The number of rows to skip, on a line of its own unless it follows the number to return. -/
def offsetText : Option LimitOffset → String
  | some ⟨some _, some m⟩ => " OFFSET " ++ toString m
  | some ⟨none, some m⟩ => "\nOFFSET " ++ toString m
  | _ => ""

mutual

/-- The text of a clause of a query. -/
def clauseText : Query → QueryClause → String
  | ⟨ctes, items, source, joins, condition, groups, groupCondition, order, limitOffset⟩, c =>
    match c with
    | .ctes => if ctes.isEmpty then "" else partsText .ctes (cteTexts ctes) ++ "\n"
    | .items =>
      if items.isEmpty then "SELECT"
      else "SELECT\n  " ++ ",\n  ".intercalate (items.map (·.written))
    | .source => partsText .source (source.toList.map (·.written))
    | .joins => String.join (joins.map fun j ↦ "\n" ++ j.written)
    | .condition => partsText .condition condition.toList
    | .groups => partsText .groups (groups.map (·.written))
    | .groupCondition => partsText .groupCondition groupCondition.toList
    | .order => partsText .order (order.map (·.written))
    | .rowLimit => limitText limitOffset
    | .rowOffset => offsetText limitOffset

/-- The texts of common table expressions. -/
def cteTexts : List (String × Query) → List String
  | [] => []
  | (name, inner) :: rest =>
    (name ++ " AS (\n" ++ String.join (QueryClause.all.map fun c ↦ inner.clauseText c) ++ "\n)") ::
      cteTexts rest

end

end Query

/-! ### The writer -/

namespace Token

private theorem textOf_intercalate (s : List Token) (parts : List (List Token)) :
    textOf (s.intercalate parts) = (textOf s).intercalate (parts.map textOf) := by
  induction parts with
  | nil => rfl
  | cons part rest ih =>
    cases rest with
    | nil => simp
    | cons next more =>
      rw [List.intercalate_cons_cons, textOf_append, textOf_append, ih]
      simp only [List.map_cons, String.intercalate_cons_cons, String.append_assoc]

private theorem textOf_flatMap {α : Type} (f : α → List Token) (l : List α) :
    textOf (l.flatMap f) = String.join (l.map fun a ↦ textOf (f a)) := by
  induction l with
  | nil => rfl
  | cons a rest ih => rw [List.flatMap_cons, textOf_append, ih, List.map_cons, String.join_cons]

end Token

private theorem textOf_expr (e : ColumnExpr) : Token.textOf e.tokens = e.written := by
  rcases e with ⟨_ | q, n⟩ | ⟨_ | q⟩ | s <;>
    simp [ColumnExpr.tokens, ColumnExpr.written, Token.textOf, Token.text]

private theorem textOf_asName (name : Option String) :
    Token.textOf (asName name) = writtenName name := by
  cases name <;> simp [asName, writtenName, Token.textOf, Token.text, ← String.append_assoc]

private theorem textOf_item (i : SelectItem) : Token.textOf i.tokens = i.written := by
  rw [SelectItem.tokens, Token.textOf_append, textOf_expr, textOf_asName]
  rfl

private theorem textOf_table (r : TableRef) : Token.textOf r.tokens = r.written := by
  rw [TableRef.tokens, Token.textOf, textOf_asName]
  rfl

private theorem textOf_join (j : Join) : Token.textOf j.tokens = j.written := by
  obtain ⟨kind, table, on⟩ := j
  have hkind : Token.textOf kind.tokens = kind.written := by
    cases kind <;> decide
  cases on <;>
    simp [Join.tokens, Join.written, Token.textOf_append, hkind, textOf_table, Token.textOf,
      Token.text, ← String.append_assoc]

private theorem textOf_orderItem (i : OrderItem) : Token.textOf i.tokens = i.written := by
  obtain ⟨expr, direction⟩ := i
  rw [OrderItem.tokens, Token.textOf_append, textOf_expr]
  cases direction <;> rfl

namespace Query

/-- The tokens of a clause; nothing when there is none. -/
def tokensOf (q : Query) : QueryClause → List Token
  | .ctes =>
    if q.ctes.isEmpty then []
    else [.with, .space] ++ commaSeparated (cteTokens q.ctes) ++ [.newline]
  | .items => selectTokens q.items
  | .source => clauseTokens .from (q.source.toList.map (·.tokens))
  | .joins => q.joins.flatMap fun j ↦ .newline :: j.tokens
  | .condition => clauseTokens .where (q.condition.toList.map ([.raw ·]))
  | .groups => clauseTokens .groupBy (q.groups.map (·.tokens))
  | .groupCondition => clauseTokens .having (q.groupCondition.toList.map ([.raw ·]))
  | .order => clauseTokens .orderBy (q.order.map (·.tokens))
  | .rowLimit =>
    match q.limitOffset with
    | some ⟨some n, _⟩ => [.newline, .limit, .space, .number n]
    | some ⟨none, none⟩ => [.newline]
    | _ => []
  | .rowOffset =>
    match q.limitOffset with
    | some ⟨some _, some m⟩ => [.space, .offset, .space, .number m]
    | some ⟨none, some m⟩ => [.newline, .offset, .space, .number m]
    | _ => []

/-- A query is written clause by clause. -/
theorem tokens_eq_flatMap (q : Query) : q.tokens = QueryClause.all.flatMap q.tokensOf := by
  have hlimit : limitTokens q.limitOffset = q.tokensOf .rowLimit ++ q.tokensOf .rowOffset := by
    unfold limitTokens tokensOf
    rcases q.limitOffset with _ | ⟨_ | n, _ | m⟩ <;> rfl
  rw [tokens_eq, bodyTokens, hlimit]
  simp [QueryClause.all, tokensOf]

private theorem textOf_clauseTokens {c : QueryClause} {keyword : Token}
    (hc : Token.textOf [.newline, keyword, .space] = c.words) (parts : List (List Token)) :
    Token.textOf (clauseTokens keyword parts) = partsText c (parts.map Token.textOf) := by
  unfold clauseTokens partsText
  cases parts with
  | nil => rfl
  | cons part rest =>
    have hcomma : Token.textOf [.comma, .space] = ", " := by decide
    simp only [List.isEmpty_cons, List.map_cons, Bool.false_eq_true, if_false,
      Token.textOf_append, hc, commaSeparated, Token.textOf_intercalate, hcomma]

private theorem textOf_selectTokens (items : List SelectItem) :
    Token.textOf (selectTokens items) =
      if items.isEmpty then "SELECT"
      else "SELECT\n  " ++ ",\n  ".intercalate (items.map (·.written)) := by
  unfold selectTokens
  cases items with
  | nil => rfl
  | cons i rest =>
    have hfirst : Token.textOf [.select, .newline, .indent 1] = "SELECT\n  " := by decide
    have hcomma : Token.textOf [.comma, .newline, .indent 1] = ",\n  " := by decide
    have hitems : (List.map (·.tokens) (i :: rest)).map Token.textOf =
        (i :: rest).map (·.written) := by
      rw [List.map_map]
      exact List.map_congr_left fun j _ ↦ textOf_item j
    simp only [List.isEmpty_cons, Bool.false_eq_true, if_false, ← List.cons_append,
      Token.textOf_append, hfirst, Token.textOf_intercalate, hcomma, hitems]

private theorem textOf_tokensOf (q : Query)
    (h : (cteTokens q.ctes).map Token.textOf = cteTexts q.ctes) :
    ∀ c : QueryClause, Token.textOf (q.tokensOf c) = q.clauseText c := by
  obtain ⟨ctes, items, source, joins, condition, groups, groupCondition, order, limitOffset⟩ := q
  intro c
  cases c with
  | ctes =>
    cases ctes with
    | nil => rfl
    | cons d rest =>
      have hwith : Token.textOf [.with, .space] = "WITH " := by decide
      have hcomma : Token.textOf [.comma, .space] = ", " := by decide
      have hline : Token.textOf [.newline] = "\n" := by decide
      have hparts : (cteTexts (d :: rest)).isEmpty = false := rfl
      simp only [tokensOf, clauseText, partsText, List.isEmpty_cons, Bool.false_eq_true, if_false,
        hparts, Token.textOf_append, hwith, commaSeparated, Token.textOf_intercalate, hcomma, hline,
        h, QueryClause.words]
  | items => exact (textOf_selectTokens items).trans (by rw [clauseText])
  | source =>
    rw [tokensOf, textOf_clauseTokens (c := .source) (by decide), List.map_map, clauseText]
    exact congrArg _ (List.map_congr_left fun r _ ↦ textOf_table r)
  | joins =>
    rw [tokensOf, Token.textOf_flatMap, clauseText]
    refine congrArg _ (List.map_congr_left fun j _ ↦ ?_)
    rw [Token.textOf, textOf_join]
    rfl
  | condition =>
    rw [tokensOf, textOf_clauseTokens (c := .condition) (by decide), List.map_map, clauseText]
    cases condition <;> simp [Token.textOf, Token.text]
  | groups =>
    rw [tokensOf, textOf_clauseTokens (c := .groups) (by decide), List.map_map, clauseText]
    exact congrArg _ (List.map_congr_left fun e _ ↦ textOf_expr e)
  | groupCondition =>
    rw [tokensOf, textOf_clauseTokens (c := .groupCondition) (by decide), List.map_map, clauseText]
    cases groupCondition <;> simp [Token.textOf, Token.text]
  | order =>
    rw [tokensOf, textOf_clauseTokens (c := .order) (by decide), List.map_map, clauseText]
    exact congrArg _ (List.map_congr_left fun i _ ↦ textOf_orderItem i)
  | rowLimit =>
    rw [clauseText]
    rcases limitOffset with _ | ⟨_ | n, _ | m⟩ <;>
      simp [tokensOf, limitText, Token.textOf, Token.text, ← String.append_assoc]
  | rowOffset =>
    rw [clauseText]
    rcases limitOffset with _ | ⟨_ | n, _ | m⟩ <;>
      simp [tokensOf, offsetText, Token.textOf, Token.text, ← String.append_assoc]

private theorem sql_eq_join {q : Query}
    (h : (cteTokens q.ctes).map Token.textOf = cteTexts q.ctes) :
    q.sql = String.join (QueryClause.all.map fun c ↦ q.clauseText c) := by
  rw [sql, tokens_eq_flatMap, Token.textOf_flatMap]
  exact congrArg _ (List.map_congr_left fun c _ ↦ textOf_tokensOf q h c)

mutual

/-- The text of a query is the texts of its clauses in the order of the language. -/
theorem sql_eq : (q : Query) → q.sql = String.join (QueryClause.all.map fun c ↦ q.clauseText c)
  | ⟨ctes, _, _, _, _, _, _, _, _⟩ => sql_eq_join (textOf_cteTokens ctes)

private theorem textOf_cteTokens : (ctes : List (String × Query)) →
    (cteTokens ctes).map Token.textOf = cteTexts ctes
  | [] => rfl
  | (name, inner) :: rest => by
    have hinner : Token.textOf inner.tokens =
        String.join (QueryClause.all.map fun c ↦ inner.clauseText c) := sql_eq inner
    have hstart : Token.textOf [.name name, .space, .as, .space, .openParen, .newline] =
        name ++ " AS (\n" := by
      simp [Token.textOf, Token.text]
    have hend : Token.textOf [.newline, .closeParen] = "\n)" := by decide
    rw [cteTokens, List.map_cons, textOf_cteTokens rest, cteTexts, Token.textOf_append,
      Token.textOf_append, hinner, hstart, hend]

end

end Query

end TabularReport
