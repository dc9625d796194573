import TabularReport.Proofs.Run.Paging
import TabularReport.Proofs.Statement.Emission
import TabularReport.Proofs.Statement.PageArithmetic
import TabularReport.Proofs.Statement.RowCondition

/-!
# The numbers of rows in a statement

A wrapped statement limits its rows in one place, where it takes the page. The numbers that stand
there are those of the page that a run gets, for all words that the page can depend on.
-/

namespace TabularReport

/-- Whether a token limits the number of rows, or is such a number. -/
def Token.isBound : Token → Bool
  | .limit | .offset | .number _ => true
  | _ => false

private theorem Token.filter_isBound {tokens : List Token} (h : tokens.all isPart = true) :
    tokens.filter isBound = [] := by
  have hpart (token : Token) (hp : token.isPart = true) : token.isBound = false := by
    cases token <;> first | rfl | cases hp
  refine List.filter_eq_nil_iff.mpr fun token hm ↦ ?_
  rw [hpart token (List.all_eq_true.mp h token hm)]
  decide

namespace Query

private theorem filter_isBound_bodyTokens (q : Query) :
    q.bodyTokens.filter Token.isBound =
      (limitTokens q.limitOffset).filter Token.isBound := by
  obtain ⟨before, after, hbody, hbefore, hafter⟩ := q.all_isPart_bodyTokens
  have hcondition : (clauseTokens .where (q.condition.toList.map ([.raw ·]))).filter Token.isBound =
      [] := by
    cases q.condition <;> rfl
  rw [hbody]
  simp only [List.filter_append, Token.filter_isBound hbefore, hcondition,
    Token.filter_isBound hafter, List.nil_append]

private theorem filter_isBound_tokens {q : Query} (hc : q.ctes = []) (hn : q.limitOffset = none) :
    q.tokens.filter Token.isBound = [] := by
  rw [tokens_eq_bodyTokens hc, filter_isBound_bodyTokens, hn]
  rfl

variable {inner : Query} (sorts : List SortSpec) (page : AppliedPage)

private theorem filter_isBound_paged (hc : inner.ctes = []) (hn : inner.limitOffset = none) :
    (inner.paged sorts page).tokens.filter Token.isBound =
      [.limit, .number page.pageSize, .offset, .number page.offset] := by
  have hrows : (pageRows sorts page).tokens.filter Token.isBound =
      [.limit, .number page.pageSize, .offset, .number page.offset] := by
    rw [tokens_eq_bodyTokens rfl, filter_isBound_bodyTokens]
    rfl
  rw [tokens_paged]
  simp only [List.filter_append, filter_isBound_tokens hc hn, hrows,
    filter_isBound_tokens (q := countRows) rfl rfl,
    filter_isBound_tokens (q := pageAndCount sorts) rfl rfl]
  rfl

private theorem within_sql_paged (inner : Query) :
    Text.Within ("\nLIMIT " ++ toString page.pageSize ++ " OFFSET " ++ toString page.offset)
      (inner.paged sorts page).sql := by
  have hlimit : Token.textOf (limitTokens (some ⟨some page.pageSize, some page.offset⟩)) =
      "\nLIMIT " ++ toString page.pageSize ++ " OFFSET " ++ toString page.offset := by
    have hline : "\nLIMIT " = "\n" ++ "LIMIT" ++ " " := by decide
    have hword : " OFFSET " = " " ++ "OFFSET" ++ " " := by decide
    rw [hline, hword]
    simp only [limitTokens, LimitOffset.tokens, Token.textOf, Token.text, String.append_assoc,
      String.append_empty]
  have hrows : Text.Within
      ("\nLIMIT " ++ toString page.pageSize ++ " OFFSET " ++ toString page.offset)
      (pageRows sorts page).sql := by
    rw [sql, tokens_eq_bodyTokens rfl, bodyTokens, Token.textOf_append, ← hlimit]
    exact (Text.Within.refl _).prepend _
  rw [sql_paged]
  exact (((((hrows.append _).prepend _).prepend _).prepend _).prepend _).prepend _

end Query

/-- How a statement takes a page: it reports this page, and the size and the offset of the page are
the only numbers of rows that it is written with. -/
structure AssembledQuery.Takes (a : AssembledQuery) (page : AppliedPage) : Prop where
  reported : a.page = some page
  bounds : a.query.tokens.filter Token.isBound =
    [.limit, .number page.pageSize, .offset, .number page.offset]
  text : Text.Within ("\nLIMIT " ++ toString page.pageSize ++ " OFFSET " ++ toString page.offset)
    a.sql

/-- How a template applies the page that words ask for: no step of the arithmetic fails, the page is
within the limits, its offset is exact or else the largest word, the pages of this size lie side by
side, and the statements for the page take it. -/
structure ReportTemplate.AppliesPage (t : ReportTemplate) (w : PageWords) : Prop where
  total : ∃ p, w.applied? = some p ∧ p.applied = t.appliedPage w.wish w.limits
  page : (t.appliedPage w.wish w.limits).page = max 1 w.page.toNat
  pageSize : 1 ≤ (t.appliedPage w.wish w.limits).pageSize ∧
    (t.appliedPage w.wish w.limits).pageSize ≤ min largestPage (max 1 w.largest.toNat)
  unsaturated : (t.appliedPage w.wish w.limits).IsExact →
    (t.appliedPage w.wish w.limits).offset = (t.appliedPage w.wish w.limits).before
  saturated : ¬ (t.appliedPage w.wish w.limits).IsExact →
    (t.appliedPage w.wish w.limits).offset = largestWord
  tiles : t.Tiles w.wish.pageSize w.limits
  statements : ∀ (request : QueryRequest) (a : AssembledQuery), request.pagination = some w.wish →
    t.assemble request w.limits = .ok a → a.Takes (t.appliedPage w.wish w.limits)

/-- Every template applies every page that words ask for, with any limits. -/
theorem ReportTemplate.appliesPage_of_words {t : ReportTemplate} {w : PageWords}
    (h : t.config.pageSize = w.declared.map (·.toNat)) : t.AppliesPage w := by
  obtain ⟨hpage, hsize⟩ := t.bounds_appliedPage w.wish w.limits
  constructor
  case total => exact w.exists_applied? h
  case page => exact hpage
  case pageSize => exact hsize
  case unsaturated => exact Nat.min_eq_left
  case saturated => exact fun hlarge ↦ Nat.min_eq_right (Nat.le_of_not_le hlarge)
  case tiles => exact t.tiles_pageAt w.wish.pageSize w.limits
  case statements =>
    intro request a hw ha
    obtain ⟨-, happlied, -, inner, hctes, hnumbers, hquery⟩ :=
      exists_paged_of_assemble ha hw
    refine ⟨happlied, ?_, ?_⟩
    · rw [hquery]
      exact Query.filter_isBound_paged _ _ hctes hnumbers
    · rw [AssembledQuery.sql, hquery]
      exact Query.within_sql_paged _ _ inner

/-- A report on rooms, twenty on a page. -/
def roomsReport : ReportTemplate :=
  { id := "rooms"
    name := "Rooms"
    dataSources := [.table "rooms"]
    config := { columns := [{ name := "room" }], pageSize := some 20 } }

/-- The last page that can be asked for, with limits that leave out nothing. -/
def lastPage : PageWords :=
  { page := 18446744073709551615, declared := some 20, largest := 18446744073709551615, usual := 0 }

/-- The last page of the report on rooms starts at the largest word. -/
theorem appliesPage_roomsReport :
    roomsReport.AppliesPage lastPage ∧
      roomsReport.appliedPage lastPage.wish lastPage.limits = ⟨largestWord, 20, largestWord⟩ :=
  ⟨ReportTemplate.appliesPage_of_words rfl, by decide +kernel⟩

/-- The third page of the report on rooms starts after forty of them. -/
example :
    (roomsReport.assemble { pagination := some { page := 3 } } {}).toOption.map (·.page) =
      some (some ⟨3, 20, 40⟩) := by
  decide +kernel

end TabularReport
