import TabularReport.Proofs.Statement.Numbering

/-!
# Characters of whole statements

A template without expressions and join conditions of its author is written with fixed words, its
checked names, numbers and placeholders. No value of a request becomes part of the text, and no
character of it can end a name, start a comment or open a literal.
-/

namespace TabularReport

open Placeholder Identifier

/-- A character that may stand anywhere in a statement: a letter or digit of ASCII, an underscore, a
blank, or one of a few signs. -/
def isStatementChar (c : Char) : Bool :=
  isPart c || "_.,()*=!<>$".toList.contains c || Text.isBlank c

/-- A fixed word, a name, a number or a placeholder. -/
inductive Lexicon.Spelling (x : Lexicon) : String → Prop
  | word {s : String} : s ∈ vocabulary → Spelling x s
  | name {s : String} : s ∈ x.names → Spelling x s
  | number {n : Nat} : n ∈ x.numbers → Spelling x (toString n)
  | placeholder (n : Nat) : Spelling x (placeholder n)

/-- A text that is written with fixed words, names, numbers and placeholders alone. -/
inductive Lexicon.Spelled (x : Lexicon) : String → Prop
  | nil : Spelled x ""
  | cons {s rest : String} : x.Spelling s → Spelled x rest → Spelled x (s ++ rest)

namespace Lexicon.Spelled

variable {x : Lexicon} {a b : String}

private theorem single (h : x.Spelling a) : Spelled x a := by
  have hs := Lexicon.Spelled.cons h .nil
  rwa [String.append_empty] at hs

private theorem append (ha : Spelled x a) (hb : Spelled x b) : Spelled x (a ++ b) := by
  induction ha with
  | nil => rwa [String.empty_append]
  | cons hs _ ih =>
    rw [String.append_assoc]
    exact .cons hs ih

private theorem operands (k : Clause) (first : Nat) : Spelled x (k.operands first) := by
  have hp : ∀ n, Spelled x (" " ++ placeholder n) := fun n ↦
    (single (.word (by decide))).append (single (.placeholder n))
  unfold Clause.operands
  cases k.operator with
  | isNull | isNotNull => exact .nil
  | isIn | notIn =>
    have hl : Spelled x (", ".intercalate (placeholders first k.values.length)) :=
      Text.intercalate_induction .nil (fun _ _ ↦ append) (single (.word (by decide)))
        (forall_mem_placeholders (fun n ↦ single (.placeholder n)) first k.values.length)
    exact ((single (.word (by decide))).append hl).append (single (.word (by decide)))
  | between =>
    exact ((hp first).append (single (.word (by decide)))).append
      (single (.placeholder (first + 1)))
  | _ => exact hp first

private theorem clause {k : Clause} (h : Spelled x k.column) (first : Nat) :
    Spelled x (k.text first) := by
  have ho : Spelled x k.operator.sql := by
    refine single (.word ?_)
    cases k.operator <;> decide
  rw [k.text_eq]
  exact ((h.append (single (.word (by decide)))).append ho).append (operands k first)

end Lexicon.Spelled

private theorem Composed.spelled {x : Lexicon} {ks : List NumberedClause} {s : String}
    (ha : x.authored = []) (h : Composed x ks s) : x.Spelled s := by
  induction h with
  | nil => exact .nil
  | piece hp _ ih =>
    cases hp with
    | word hw => exact .cons (.word hw) ih
    | name hn => exact .cons (.name hn) ih
    | number hn => exact .cons (.number hn) ih
  | authored hs =>
    rw [ha] at hs
    cases hs
  | clause _ _ _ _ hc ih => exact (Lexicon.Spelled.clause hc _).append ih

private theorem isStatementChar_of_isFoldedLetter {c : Char} (h : isFoldedLetter c = true) :
    isStatementChar c = false := by
  have hc : c = Char.ofNat 0x17F ∨ c = Char.ofNat 0x212A := by
    rw [isFoldedLetter, Bool.or_eq_true, beq_iff_eq, beq_iff_eq] at h
    refine h.imp (fun hn ↦ ?_) fun hn ↦ ?_ <;> rw [← hn, Char.ofNat_toNat]
  rcases hc with rfl | rfl <;> decide

-- The characters of a word, a checked name, a number or a placeholder: outside of aggregates they
-- may all stand anywhere.
private theorem Lexicon.Spelling.chars {x : Lexicon} (hn : ∀ n ∈ x.names, isSafe n = true ∨ n = "*")
    {s : String} (h : x.Spelling s) :
    (∀ c ∈ s.toList, isStatementChar c = true) ∨
      s ∈ x.names ∧ isAggregate s.toList = true ∧
        ∀ c ∈ s.toList, isStatementChar c = true ∨ isFoldedLetter c = true := by
  have hd : ∀ n, ∀ c ∈ Nat.toDigits 10 n, isStatementChar c = true := by
    intro n c hc
    simp [isStatementChar, isPart, isDigit_toDigits hc]
  cases h with
  | word hw =>
    have hv : ∀ w ∈ vocabulary, w.toList.all isStatementChar = true := by decide
    exact .inl (List.all_eq_true.mp (hv s hw))
  | name hm =>
    rcases hn s hm with hs | rfl
    · rcases isSafe_chars hs with hc | ha
      · left
        intro c hm
        rcases hc c hm with hp | rfl
        · simp [isStatementChar, hp]
        · decide
      · refine .inr ⟨hm, ha, fun c hc ↦ ?_⟩
        rcases isAggregate_chars ha c hc with hp | rfl | rfl | rfl | rfl | hb
        · rw [isFoldedPart, Bool.or_eq_true] at hp
          exact hp.imp_left fun hp ↦ by simp [isStatementChar, hp]
        · exact .inl (by decide)
        · exact .inl (by decide)
        · exact .inl (by decide)
        · exact .inl (by decide)
        · exact .inl (by simp [isStatementChar, hb])
    · exact .inl (List.all_eq_true.mp (by decide))
  | @number n _ =>
    left
    rw [show toString n = n.repr from rfl, Nat.toList_repr]
    exact hd n
  | placeholder n =>
    left
    rw [toList_placeholder]
    intro c hc
    rcases List.mem_cons.mp hc with rfl | hc
    · decide
    · exact hd n c hc

/-- A character stands inside of one of some texts, at a place of a text that is written with them.
-/
def StandsInside (texts : List (List Char)) (before : List Char) (c : Char) (after : List Char) :
    Prop :=
  ∃ s ∈ texts, ∃ b x y e, before = b ++ x ∧ after = y ++ e ∧ s = x ++ c :: y

/-- The aggregates among the names of a template. -/
def ReportTemplate.aggregateNames (t : ReportTemplate) : List (List Char) :=
  (t.names.map String.toList).filter isAggregate

namespace Lexicon.Spelled

variable {x : Lexicon} {s : String}

private theorem chars (hn : ∀ n ∈ x.names, isSafe n = true ∨ n = "*") (h : x.Spelled s) :
    ∀ c ∈ s.toList, isStatementChar c = true ∨ isFoldedLetter c = true := by
  induction h with
  | nil => simp
  | cons hs _ ih =>
    intro c hc
    rw [String.toList_append] at hc
    rcases List.mem_append.mp hc with hc | hc
    · rcases hs.chars hn with hp | ⟨-, -, hp⟩
      · exact .inl (hp c hc)
      · exact hp c hc
    · exact ih c hc

private theorem folded (hn : ∀ n ∈ x.names, isSafe n = true ∨ n = "*") (h : x.Spelled s) {c : Char}
    (hc : isFoldedLetter c = true) {before after : List Char}
    (hs : s.toList = before ++ c :: after) :
    StandsInside ((x.names.map String.toList).filter isAggregate) before c after := by
  induction h generalizing before after with
  | nil => simp at hs
  | @cons p rest hp _ ih =>
    rw [String.toList_append] at hs
    have hlater : ∀ b, before = p.toList ++ b → rest.toList = b ++ c :: after →
        StandsInside ((x.names.map String.toList).filter isAggregate) before c after := by
      intro b hb hr
      obtain ⟨q, hq, b', x', y', e', hbx, hye, hqe⟩ := ih hr
      refine ⟨q, hq, p.toList ++ b', x', y', e', ?_, hye, hqe⟩
      rw [hb, hbx, List.append_assoc]
    -- The character comes after the first spelling of the text, or it belongs to this spelling.
    rcases List.append_eq_append_iff.mp hs with ⟨b, hb, hr⟩ | ⟨y, hy, he⟩
    · exact hlater b hb hr
    · cases y with
      | nil => exact hlater [] (by rw [hy]; simp) he.symm
      | cons d y =>
        obtain ⟨rfl, ha⟩ := List.cons.inj he
        rcases hp.chars hn with hplain | ⟨hmem, hagg, -⟩
        · have hf := hplain c (by rw [hy]; simp)
          rw [isStatementChar_of_isFoldedLetter hc] at hf
          cases hf
        · exact ⟨p.toList, List.mem_filter.mpr ⟨List.mem_map_of_mem hmem, hagg⟩, [], before, y,
            rest.toList, rfl, ha, hy⟩

end Lexicon.Spelled

/-- What the text of a statement is made of, for a template without expressions and join conditions
of its author. -/
structure AssembledQuery.Harmless (a : AssembledQuery) (t : ReportTemplate)
    (request : QueryRequest) : Prop where
  /-- The text consists of fixed words, names of the template, the size and offset of the page, and
  placeholders, so that no value of the request reaches it. -/
  spelled : (t.lexicon a.page).Spelled a.sql
  /-- There is one placeholder for each parameter. -/
  placeholders : digitsIn a.sql.toList = digitsFrom 1 a.params.length
  names : ∀ n ∈ t.names, isSafe n = true ∨ n = "*" ∧ ∃ g ∈ t.config.aggregations, g.column = n
  filters : ∀ c ∈ request.leaves, c.column ∈ t.names ∧ isSafe c.column = true
  sorts : ∀ s ∈ request.sorting, s.column ∈ t.names ∧ isSafe s.column = true
  chars : ∀ c ∈ a.sql.toList, isStatementChar c = true ∨ isFoldedLetter c = true
  /-- The two letters outside of ASCII stand inside of aggregates alone. -/
  folded : ∀ before c after, a.sql.toList = before ++ c :: after → isFoldedLetter c = true →
    StandsInside t.aggregateNames before c after
  /-- Quotes, semicolons, hyphens, slashes and backslashes do not occur. -/
  signs : ∀ c ∈ "\"';-/\\".toList, c ∉ a.sql.toList

/-- The statement of a template without expressions and join conditions is harmless, whatever the
request. -/
theorem ReportTemplate.harmless_of_assemble {t : ReportTemplate} {request : QueryRequest}
    {limits : PageLimits} {a : AssembledQuery} (hc : ∀ c ∈ t.config.columns, c.expression = none)
    (hj : ∀ j ∈ t.config.joins, j.condition = none) (h : t.assemble request limits = .ok a) :
    a.Harmless t request := by
  obtain ⟨p, hk, rfl⟩ := exists_plan_of_assemble h
  have ha : t.authored = [] := by
    rw [authored, List.append_eq_nil_iff, List.filterMap_eq_nil_iff, List.filterMap_eq_nil_iff]
    exact ⟨hc, hj⟩
  have hd : (t.lexicon (p.page.map (·.1))).DollarFree :=
    dollarFree_lexicon hk.accepted (by simp [ha]) _
  have hn : ∀ n ∈ t.names, isSafe n = true ∨ n = "*" := fun n hm ↦
    (isSafe_of_mem_names hk.accepted hm).imp_right And.left
  have hs := (hk.composed_sql request.parameters).spelled ha
  have hcol : ∀ column ∈ t.config.columns, column.name ∈ t.names ∧ isSafe column.name = true := by
    intro column hm
    obtain ⟨again, hp⟩ := column_problems hk.accepted hm
    refine ⟨name_mem_names hm, ColumnDefinition.isSafe_of_problems hp _ ?_⟩
    simp [ColumnDefinition.names, hc column hm]
  have hchars := hs.chars hn
  exact
    { spelled := hs
      placeholders := hk.digitsIn_sql hd
      names := fun n hm ↦ isSafe_of_mem_names hk.accepted hm
      filters := by
        intro c hm
        obtain ⟨column, hcolumn, he⟩ := hk.column_of_leaf hm
        exact he ▸ hcol column hcolumn
      sorts := by
        intro s hm
        obtain ⟨column, hcolumn, he⟩ := hk.column_of_sort hm
        exact he ▸ hcol column hcolumn
      chars := hchars
      folded := fun before c after he hf ↦ hs.folded hn hf he
      signs := by
        intro c hm hmem
        have hq : "\"';-/\\".toList.all
            (fun c ↦ !isStatementChar c && !isFoldedLetter c) = true := by
          decide
        have hc := List.all_eq_true.mp hq c hm
        rcases hchars c hmem with hp | hp <;> simp [hp] at hc }

/-- A report on regions whose condition on groups has a letter outside of ASCII. -/
def regionsReport : ReportTemplate :=
  { id := "regions"
    name := "Regions"
    dataSources := [.table "orders"]
    config :=
      { columns := [{ name := "region", sortable := true, filterable := true }]
        groupBy := ["region"]
        having := some
          { nodes :=
              [.leaf
                { column := "\u017fum(total)", operator := .greater
                  value := some (.string "5") }] }
        aggregations := [⟨.sum, "total", "revenue"⟩] } }

/-- A request for one region, named by a text that tries to end the statement. -/
def regionsRequest : QueryRequest :=
  { filters := some
      { nodes :=
          [.leaf
            { column := "region", operator := .like
              value := some (.string "x'; DROP TABLE orders; --") }] }
    sorting := [⟨"region", .asc⟩] }

/-- The statement for a request with a hostile value is harmless. -/
theorem harmless_regionsReport :
    ∃ a, regionsReport.assemble regionsRequest {} = .ok a ∧ a.params.length = 2 ∧
      a.Harmless regionsReport regionsRequest := by
  have hlen : (regionsReport.assemble regionsRequest {}).toOption.map (·.params.length) =
      some 2 := by
    decide +kernel
  obtain ⟨a, h, hn⟩ := Except.exists_ok_of_toOption hlen
  exact ⟨a, h, hn, ReportTemplate.harmless_of_assemble (by decide) (by decide) h⟩

end TabularReport
