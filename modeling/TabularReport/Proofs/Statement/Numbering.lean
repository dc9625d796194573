import TabularReport.Proofs.Statement.Provenance
import TabularReport.Proofs.Validation.Identifier

/-!
# Placeholders of whole statements

The placeholders of a statement are numbered through from one, in the order of the text, whether or
not a page is asked for. The value of each one comes from the condition whose clause wrote it.
-/

namespace TabularReport

open Placeholder

/-- A text in which the texts of clauses stand one after another, with no dollar sign outside of
them. -/
inductive Interleaves : List NumberedClause → String → Prop
  | rest {s : String} : '$' ∉ s.toList → Interleaves [] s
  | clause {before after : String} {k : NumberedClause} {ks : List NumberedClause} :
      '$' ∉ before.toList → Interleaves ks after → Interleaves (k :: ks) (before ++ k.text ++ after)

/-- How the placeholders and parameters of a statement belong to the conditions of its template and
request: `requested` are the conditions of the request with their columns' expressions, and
`clauses` is what is left of all conditions. -/
structure AssembledQuery.Numbered (a : AssembledQuery) (t : ReportTemplate) (request : QueryRequest)
    (requested : List Condition) (clauses : List Clause) : Prop where
  resolved : List.Forall₂ t.Resolves request.leaves requested
  survive : Condition.Survive request.parameters
    (t.config.filters.toList.flatMap (·.leaves) ++ requested ++
      t.config.having.toList.flatMap (·.leaves))
    clauses
  /-- Read from left to right the placeholders are `$1`, `$2` and so on, one for each parameter. -/
  placeholders : digitsIn a.sql.toList = digitsFrom 1 a.params.length
  /-- The clauses stand in the text in this order, and all placeholders belong to them. -/
  text : Interleaves (NumberedClause.numberFrom 1 clauses) a.sql
  /-- A clause writes one placeholder for each of its values, from its first index on. -/
  written : ∀ k ∈ NumberedClause.numberFrom 1 clauses,
    digitsIn k.text.toList = digitsFrom k.first k.clause.values.length
  /-- The parameter of a placeholder is the value of the clause that wrote it. -/
  bound : ∀ k ∈ NumberedClause.numberFrom 1 clauses, ∀ i < k.clause.values.length,
    a.params[k.first + i - 1]? = k.clause.values[i]?
  /-- There are no further parameters. -/
  params : a.params = Clause.allValues clauses

private theorem Interleaves.prepend {p s : String} {ks : List NumberedClause} (hp : '$' ∉ p.toList)
    (h : Interleaves ks s) : Interleaves ks (p ++ s) := by
  cases h with
  | rest hs =>
    refine .rest ?_
    rw [String.toList_append, List.mem_append, not_or]
    exact ⟨hp, hs⟩
  | clause hb ha =>
    rw [← String.append_assoc, ← String.append_assoc]
    refine .clause ?_ ha
    rw [String.toList_append, List.mem_append, not_or]
    exact ⟨hp, hb⟩

/-- Clauses that are numbered through take the indices of all their values, one after another. -/
theorem NumberedClause.range'_numberFrom (first : Nat) (clauses : List Clause) :
    (numberFrom first clauses).flatMap (fun k ↦ List.range' k.first k.clause.values.length) =
      List.range' first (Clause.allValues clauses).length := by
  induction clauses generalizing first with
  | nil => rfl
  | cons k rest ih =>
    have hl : (Clause.allValues (k :: rest)).length =
        k.values.length + (Clause.allValues rest).length := by
      rw [Clause.allValues, List.flatMap_cons, List.length_append]
      rfl
    rw [numberFrom, List.flatMap_cons, ih, hl, List.range'_append_1]

private theorem NumberedClause.digitsFrom_numberFrom (first : Nat) (clauses : List Clause) :
    (numberFrom first clauses).flatMap (fun k ↦ digitsFrom k.first k.clause.values.length) =
      digitsFrom first (Clause.allValues clauses).length := by
  simp only [digitsFrom, ← range'_numberFrom, List.map_flatMap]

/-- Clauses that are numbered through start at the first index or later. -/
theorem NumberedClause.le_of_mem_numberFrom {first : Nat} {clauses : List Clause}
    {k : NumberedClause} (h : k ∈ numberFrom first clauses) : first ≤ k.first := by
  induction clauses generalizing first with
  | nil => cases h
  | cons c rest ih =>
    rcases List.mem_cons.mp h with rfl | h
    · exact Nat.le_refl _
    · exact Nat.le_of_add_right_le (ih h)

/-- The value of a clause that is numbered through stands among all values at its index. -/
theorem NumberedClause.getElem?_allValues {first : Nat} {clauses : List Clause} {k : NumberedClause}
    (h : k ∈ numberFrom first clauses) {i : Nat} (hi : i < k.clause.values.length) :
    (Clause.allValues clauses)[k.first + i - first]? = k.clause.values[i]? := by
  induction clauses generalizing first with
  | nil => cases h
  | cons c rest ih =>
    have hv : Clause.allValues (c :: rest) = c.values ++ Clause.allValues rest := List.flatMap_cons
    rw [hv]
    rcases List.mem_cons.mp h with rfl | h
    · rw [Nat.add_sub_cancel_left, List.getElem?_append_left hi]
    -- Later clauses start after the values of this one, so that the differences do not underflow.
    · have hf := le_of_mem_numberFrom h
      have hle : c.values.length ≤ k.first + i - first := by omega
      rw [List.getElem?_append_right hle, ← ih h]
      congr 1
      omega

/-- Whether a statement is written without dollar signs, apart from its clauses. -/
structure Lexicon.DollarFree (x : Lexicon) : Prop where
  pieces : ∀ p, x.Piece p → '$' ∉ p.toList
  authored : ∀ s ∈ x.authored, '$' ∉ s.toList

namespace Composed

variable {x : Lexicon} {ks : List NumberedClause} {s : String}

private theorem dollar_not_mem (hd : x.DollarFree) (h : Composed x ks s) (hk : ks = []) :
    '$' ∉ s.toList := by
  have hjoin {a b : String} (ha : '$' ∉ a.toList) (hb : '$' ∉ b.toList) :
      '$' ∉ (a ++ b).toList := by
    rw [String.toList_append, List.mem_append, not_or]
    exact ⟨ha, hb⟩
  induction h with
  | nil => simp
  | piece hs _ ih => exact hjoin (hd.pieces _ hs) (ih hk)
  | authored hs _ _ ih => exact hjoin (hd.authored _ hs) (ih hk)
  | clause => cases hk

private theorem digitsIn_toList (hd : x.DollarFree) (h : Composed x ks s) :
    digitsIn s.toList = ks.flatMap fun k ↦ digitsFrom k.first k.clause.values.length := by
  induction h with
  | nil => rfl
  | piece hs _ ih => rw [String.toList_append, digitsIn_append _ (hd.pieces _ hs), ih]
  | authored hs _ _ ih => rw [String.toList_append, digitsIn_append _ (hd.authored _ hs), ih]
  | clause hc hf hr _ _ ih =>
    rw [String.toList_append, NumberedClause.text,
      Clause.digitsIn_text hf (hc.dollar_not_mem hd rfl) _ (startsWithDigit_of_isSeparate hr), ih,
      List.flatMap_cons]

/-- The clauses of a text stand in it one after another when no other part has a dollar sign. -/
theorem interleaves (hd : x.DollarFree) (h : Composed x ks s) : Interleaves ks s := by
  induction h with
  | nil => exact .rest (by simp)
  | piece hs _ ih => exact ih.prepend (hd.pieces _ hs)
  | authored hs _ _ ih => exact ih.prepend (hd.authored _ hs)
  | @clause k ks rest hc hf hr _ _ ih =>
    have ht : k.text = "" ++ k.text := String.empty_append.symm
    rw [ht]
    exact .clause (by simp) ih

private theorem digitsIn_clause (hd : x.DollarFree) (h : Composed x ks s) :
    ∀ k ∈ ks, digitsIn k.text.toList = digitsFrom k.first k.clause.values.length := by
  induction h with
  | nil => simp
  | piece _ _ ih => exact ih
  | authored _ _ _ ih => exact ih
  | clause hc hf _ _ _ ih =>
    intro k hk
    rcases List.mem_cons.mp hk with rfl | hk
    · exact NumberedClause.digitsIn_text hf (hc.dollar_not_mem hd rfl)
    · exact ih k hk

end Composed

/-- A character that neither the words nor checked names and numbers have is in no piece of an
accepted template. -/
theorem ReportTemplate.not_mem_piece {t : ReportTemplate} (h : t.problems = []) {c : Char}
    (hw : ∀ w ∈ vocabulary, c ∉ w.toList)
    (hc : Identifier.isFoldedPart c = false ∧ Text.isBlank c = false ∧ c ∉ ['.', '*', '(', ')'])
    {page : Option AppliedPage} {p : String} (hp : (t.lexicon page).Piece p) : c ∉ p.toList := by
  cases hp with
  | word hm => exact hw p hm
  | name hn =>
    rcases isSafe_of_mem_names h hn with hs | ⟨rfl, -⟩
    · exact Identifier.not_mem_of_isSafe hs hc
    · exact hw "*" (by decide)
  | @number n _ =>
    rw [show toString n = n.repr from rfl, Nat.toList_repr]
    intro hm
    have hpart : Identifier.isFoldedPart c = true := by
      simp [Identifier.isFoldedPart, Identifier.isPart, isDigit_toDigits hm]
    rw [hc.1] at hpart
    cases hpart

/-- The statements of an accepted template are written without dollar signs, apart from their
clauses, when its author has written none. -/
theorem ReportTemplate.dollarFree_lexicon {t : ReportTemplate} (h : t.problems = [])
    (ha : ∀ s ∈ t.authored, '$' ∉ s.toList) (page : Option AppliedPage) :
    (t.lexicon page).DollarFree where
  pieces := fun _ hp ↦ not_mem_piece h (by decide) (by decide) hp
  authored := ha

namespace StatementPlan

variable {p : StatementPlan} {t : ReportTemplate} {request : QueryRequest} {limits : PageLimits}

/-- The conditions of a planned statement: those of the template, of the request, and on groups. -/
def leaves (p : StatementPlan) (t : ReportTemplate) : List Condition :=
  t.config.filters.toList.flatMap (·.leaves) ++ p.filters.toList.flatMap (·.leaves) ++
    t.config.having.toList.flatMap (·.leaves)

/-- The clauses of a planned statement are what is left of its conditions. -/
theorem clauses_eq (p : StatementPlan) (t : ReportTemplate) (parameters : Fields) :
    p.rowClauses t parameters ++ groupClauses t parameters =
      Condition.clauses parameters (p.leaves t) := by
  rw [rowClauses, groupClauses, rowFilters, FilterGroup.clausesOf_eq, FilterGroup.clausesOf_eq,
    leaves, List.flatMap_append, Condition.clauses, Condition.clauses, Condition.clauses,
    ← List.filterMap_append]

/-- The placeholders of a planned statement are numbered through, one for each parameter, when it is
written without further dollar signs. -/
theorem Checked.digitsIn_sql (h : p.Checked t request limits) {parameters : Fields}
    (hd : (t.lexicon (p.page.map (·.1))).DollarFree) :
    digitsIn (p.statement t parameters).sql.toList =
      digitsFrom 1 (p.statement t parameters).params.length := by
  have hv : (p.statement t parameters).params = _ := p.params_eq t parameters
  rw [(h.composed_sql parameters).digitsIn_toList hd, NumberedClause.digitsFrom_numberFrom, ← hv]

end StatementPlan

/-- The placeholders of an assembled statement are numbered through, and each parameter is the value
of the condition that wrote its placeholder. Only the author of the template could write further
placeholders. -/
theorem ReportTemplate.numbered_of_assemble {t : ReportTemplate} {request : QueryRequest}
    {limits : PageLimits} {a : AssembledQuery}
    (hc : ∀ c ∈ t.config.columns, ∀ e ∈ c.expression, '$' ∉ e.toList)
    (hj : ∀ j ∈ t.config.joins, ∀ e ∈ j.condition, '$' ∉ e.toList)
    (h : t.assemble request limits = .ok a) :
    ∃ requested clauses, a.Numbered t request requested clauses := by
  obtain ⟨p, hk, rfl⟩ := exists_plan_of_assemble h
  have hd : (t.lexicon (p.page.map (·.1))).DollarFree := by
    refine dollarFree_lexicon hk.accepted (fun e he ↦ ?_) _
    rcases List.mem_append.mp he with he | he
    · obtain ⟨c, hm, he⟩ := List.mem_filterMap.mp he
      exact hc c hm e he
    · obtain ⟨j, hm, he⟩ := List.mem_filterMap.mp he
      exact hj j hm e he
  have hs := hk.composed_sql request.parameters
  have hv := p.params_eq t request.parameters
  rw [p.clauses_eq] at hs hv
  exact ⟨_, Condition.clauses request.parameters (p.leaves t),
    { resolved := hk.forall₂_leaves
      survive := Condition.survive_clauses _ _
      placeholders := hk.digitsIn_sql hd
      text := hs.interleaves hd
      written := hs.digitsIn_clause hd
      bound := by
        intro k hm i hi
        have hg := NumberedClause.getElem?_allValues hm hi
        rwa [← hv] at hg
      params := hv }⟩

/-- A report on orders and their customers. -/
def ordersReport : ReportTemplate :=
  { id := "orders"
    name := "Orders"
    dataSources := [{ name := "orders", aliasName := some "o" }, .table "customers"]
    config :=
      { columns :=
          [{ name := "region", source := some "customers", filterable := true },
            { name := "net", expression := some "o.total - o.tax"
              sortable := true, filterable := true }]
        joins :=
          [{ leftSource := "o", leftColumn := "customer_id"
             rightSource := "customers", rightColumn := "id"
             condition := some "customers.active" }]
        groupBy := ["region"]
        filters := some
          { logic := .or
            nodes :=
              [.leaf { column := "o.status", operator := .isIn, parameterRef := some "statuses" },
                .leaf { column := "o.note", operator := .like, parameterRef := some "note" }] }
        having := some
          { nodes :=
              [.leaf { column := "count(*)", operator := .greater, value := some (.string "5") }] }
        aggregations := [⟨.count, "*", "orders"⟩] }
    parameters := [.named "statuses" .multiSelect, .named "note" .text] }

/-- A request for a page of the report, without a note. -/
def ordersRequest : QueryRequest :=
  { parameters := [("statuses", .array [.string "open", .string "held"])]
    filters := some
      { nodes :=
          [.leaf { column := "net", operator := .between
                   value := some (.object [("from", .string "1"), ("to", .string "9")]) }] }
    sorting := [⟨"net", .desc⟩]
    pagination := some { page := 2 } }

/-- The statement for a page of a report numbers its placeholders through. -/
theorem numbered_ordersReport :
    ∃ a, ordersReport.assemble ordersRequest {} = .ok a ∧ a.params.length = 5 ∧
      ∃ requested clauses, a.Numbered ordersReport ordersRequest requested clauses := by
  have hlen : (ordersReport.assemble ordersRequest {}).toOption.map (·.params.length) = some 5 := by
    decide +kernel
  obtain ⟨a, h, hn⟩ := Except.exists_ok_of_toOption hlen
  exact ⟨a, h, hn, ReportTemplate.numbered_of_assemble (by decide) (by decide) h⟩

end TabularReport
