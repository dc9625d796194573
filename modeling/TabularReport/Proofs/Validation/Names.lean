import TabularReport.Validation.Template

/-!
# The names of an accepted template

Validation looks at every name that a template's statements are written with. A template without
problems has only safe identifiers as names, apart from the star of an aggregate, and its columns
are read from declared sources.
-/

namespace TabularReport

/-- The names of a source. -/
def DataSource.names (s : DataSource) : List String := s.name :: s.aliasName.toList

/-- The names of a column; one with an expression is not read under a name of its own. -/
def ColumnDefinition.names (c : ColumnDefinition) : List String :=
  if c.expression.isSome then [c.name] else [c.name, c.storageName]

/-- The names of a join. -/
def JoinDefinition.names (j : JoinDefinition) : List String := [j.leftColumn, j.rightColumn]

/-- The names in a filter. -/
def FilterGroup.names (g : FilterGroup) : List String := g.leaves.map (·.column)

/-- The names of an aggregate. -/
def Aggregation.names (a : Aggregation) : List String := [a.column, a.outputName]

/-- The names of a template that its statements are written with. -/
def ReportTemplate.names (t : ReportTemplate) : List String :=
  t.dataSources.flatMap (·.names) ++ t.config.columns.flatMap (·.names) ++
    t.config.joins.flatMap (·.names) ++ t.config.groupBy ++ t.config.orderBy.map (·.column) ++
    t.config.filters.toList.flatMap (·.names) ++ t.config.having.toList.flatMap (·.names) ++
    t.config.aggregations.flatMap (·.names)

/-- There is no problem with a name exactly when it is a safe identifier. -/
theorem Identifier.problems_eq_nil_iff {s context : String} :
    problems s context = [] ↔ isSafe s = true := by
  unfold problems check
  cases isSafe s <;> simp

/-- The names of a source without problems are safe. -/
theorem DataSource.isSafe_of_problems {s : DataSource} (h : s.problems = []) :
    ∀ n ∈ s.names, Identifier.isSafe n = true := by
  obtain ⟨hn, ha⟩ := List.append_eq_nil_iff.mp h
  intro n hm
  rcases List.mem_cons.mp hm with rfl | hm
  · exact Identifier.problems_eq_nil_iff.mp hn
  · rw [Option.mem_toList] at hm
    rw [hm] at ha
    exact Identifier.problems_eq_nil_iff.mp ha

/-- The names of a column without problems are safe. -/
theorem ColumnDefinition.isSafe_of_problems {t : ReportTemplate} {c : ColumnDefinition}
    {again : Bool}
    (h : c.problems t again = []) : ∀ n ∈ c.names, Identifier.isSafe n = true := by
  obtain ⟨hn, hr⟩ := List.append_eq_nil_iff.mp h
  have hname := Identifier.problems_eq_nil_iff.mp (List.append_eq_nil_iff.mp hn).2
  intro n hm
  unfold names at hm
  split at hm
  · rw [List.mem_singleton.mp hm]
    exact hname
  · next he =>
    rw [if_neg he] at hr
    have hc := (List.append_eq_nil_iff.mp hr).2
    have hs : Identifier.isSafe c.storageName = true := by
      unfold storageName
      cases hcol : c.column with
      | none => exact hname
      | some storage =>
        rw [hcol] at hc
        exact Identifier.problems_eq_nil_iff.mp hc
    rcases List.mem_cons.mp hm with rfl | hm
    · exact hname
    · rw [List.mem_singleton.mp hm]
      exact hs

/-- The source of a column without problems is declared. -/
theorem ColumnDefinition.findSource?_of_problems {t : ReportTemplate} {c : ColumnDefinition}
    {again : Bool}
    (h : c.problems t again = []) (he : c.expression = none) {source : String}
    (hs : c.source = some source) : ∃ s, t.findSource? source = some s := by
  have hr := (List.append_eq_nil_iff.mp h).2
  rw [he, if_neg (by decide), hs] at hr
  have hf := (List.append_eq_nil_iff.mp hr).1
  cases hd : t.findSource? source with
  | none => simp [hd] at hf
  | some s => exact ⟨s, rfl⟩

private theorem Aggregation.isSafe_of_problems {a : Aggregation} {again : Bool}
    (h : a.problems again = []) :
    ∀ n ∈ a.names, Identifier.isSafe n = true ∨ n = "*" ∧ a.column = n := by
  obtain ⟨hn, hc⟩ := List.append_eq_nil_iff.mp h
  intro n hm
  rcases List.mem_cons.mp hm with rfl | hm
  · by_cases hs : a.column = "*"
    · exact .inr ⟨hs, rfl⟩
    · rw [if_neg hs] at hc
      exact .inl (Identifier.problems_eq_nil_iff.mp hc)
  · rw [List.mem_singleton.mp hm]
    exact .inl (Identifier.problems_eq_nil_iff.mp (List.append_eq_nil_iff.mp hn).2)

private theorem JoinDefinition.isSafe_of_problems {t : ReportTemplate} {j : JoinDefinition}
    {index : Nat} (h : j.problems t index = []) : ∀ n ∈ j.names, Identifier.isSafe n = true := by
  obtain ⟨hl, hr⟩ := List.append_eq_nil_iff.mp h
  have hl := Identifier.problems_eq_nil_iff.mp (List.append_eq_nil_iff.mp hl).2
  have hr := Identifier.problems_eq_nil_iff.mp (List.append_eq_nil_iff.mp hr).2
  intro n hm
  rcases List.mem_cons.mp hm with rfl | hm
  · exact hl
  · rw [List.mem_singleton.mp hm]
    exact hr

/-- The sources of a join without problems are declared. -/
theorem JoinDefinition.findSource?_of_problems {t : ReportTemplate} {j : JoinDefinition}
    {index : Nat} (h : j.problems t index = []) :
    (∃ left, t.findSource? j.leftSource = some left) ∧
      ∃ right, t.findSource? j.rightSource = some right := by
  have hside {side source column : String} (h : sideProblems t index side source column = []) :
      ∃ s, t.findSource? source = some s := by
    have hf := (List.append_eq_nil_iff.mp h).1
    cases hd : t.findSource? source with
    | none => simp [hd] at hf
    | some s => exact ⟨s, rfl⟩
  obtain ⟨hl, hr⟩ := List.append_eq_nil_iff.mp h
  exact ⟨hside hl, hside hr⟩

private theorem FilterGroup.columnProblems_eq_nil_iff {g : FilterGroup} {context : String} :
    g.columnProblems context = [] ↔ ∀ n ∈ g.names, Identifier.isSafe n = true := by
  unfold columnProblems checkColumns names
  cases hf : g.leaves.find? fun c => !Identifier.isSafe c.column with
  | none => simpa using hf
  | some c =>
    have hm := List.mem_of_find?_eq_some hf
    have hs := List.find?_some hf
    simp only [List.cons_ne_nil, false_iff, List.forall_mem_map]
    intro h
    simp [h c hm] at hs

private theorem length_repeats (seen l : List String) : (repeats seen l).length = l.length := by
  induction l generalizing seen with
  | nil => rfl
  | cons n rest ih => rw [repeats, List.length_cons, ih, List.length_cons]

private theorem forall_repeats_eq_false_iff {seen l : List String} :
    (∀ again ∈ repeats seen l, again = false) ↔ l.Nodup ∧ ∀ n ∈ l, n ∉ seen := by
  induction l generalizing seen with
  | nil => simp [repeats]
  | cons n rest ih =>
    rw [repeats, List.forall_mem_cons, ih, List.nodup_cons, List.forall_mem_cons]
    simp only [List.contains_eq_mem, decide_eq_false_iff_not, List.mem_cons, not_or]
    constructor
    · rintro ⟨hn, hrest, hseen⟩
      exact ⟨⟨fun hm ↦ (hseen n hm).1 rfl, hrest⟩, hn, fun m hm ↦ (hseen m hm).2⟩
    · rintro ⟨⟨hn, hrest⟩, hseen, hmore⟩
      refine ⟨hseen, hrest, fun m hm ↦ ⟨?_, hmore m hm⟩⟩
      rintro rfl
      exact hn hm

private theorem exists_mem_zip {α β : Type} {a : α} {l : List α} {m : List β} (ha : a ∈ l)
    (h : l.length ≤ m.length) : ∃ b, (a, b) ∈ l.zip m := by
  rw [← List.map_fst_zip h] at ha
  obtain ⟨⟨a', b⟩, hb, rfl⟩ := List.mem_map.mp ha
  exact ⟨b, hb⟩

namespace ReportTemplate

variable {t : ReportTemplate}

/-- Each column and each aggregate is said to repeat a name or not. -/
private theorem length_outputNames (t : ReportTemplate) :
    (repeats [] t.outputNames).length = t.config.columns.length + t.config.aggregations.length := by
  rw [length_repeats, outputNames, List.length_append, List.length_map, List.length_map]

/-- There is no problem with a source of an accepted template. -/
theorem source_problems (h : t.problems = []) {s : DataSource} (hs : s ∈ t.dataSources) :
    s.problems = [] := by
  simp only [problems, sourceProblems, List.append_eq_nil_iff, List.flatMap_eq_nil_iff] at h
  exact h.1.1.1.1.2 s hs

/-- An accepted template has a source to start from. -/
theorem exists_primarySource? (h : t.problems = []) : ∃ s, t.primarySource? = some s := by
  simp only [problems, sourceProblems, List.append_eq_nil_iff] at h
  unfold primarySource?
  cases hs : t.dataSources with
  | nil => simp [hs] at h
  | cons s rest => exact ⟨s, rfl⟩

/-- There is no problem with a column of an accepted template. -/
theorem column_problems (h : t.problems = []) {c : ColumnDefinition} (hc : c ∈ t.config.columns) :
    ∃ again, c.problems t again = [] := by
  simp only [problems, columnProblems, List.append_eq_nil_iff, List.flatMap_eq_nil_iff] at h
  have hl : t.config.columns.length ≤ (repeats [] t.outputNames).length := by
    have hr := length_outputNames t
    omega
  obtain ⟨again, hm⟩ := exists_mem_zip hc hl
  exact ⟨again, h.1.1.1.2.1.2 (c, again) hm⟩

/-- There is no problem with an aggregate of an accepted template. -/
theorem aggregation_problems (h : t.problems = []) {a : Aggregation}
    (ha : a ∈ t.config.aggregations) :
    ∃ again, a.problems again = [] := by
  simp only [problems, columnProblems, List.append_eq_nil_iff, List.flatMap_eq_nil_iff] at h
  have hl : t.config.aggregations.length ≤
      ((repeats [] t.outputNames).drop t.config.columns.length).length := by
    have hr := length_outputNames t
    rw [List.length_drop]
    omega
  obtain ⟨again, hm⟩ := exists_mem_zip ha hl
  exact ⟨again, h.1.1.1.2.2 (a, again) hm⟩

/-- The columns and aggregates of an accepted template all have names of their own. -/
theorem nodup_outputNames (h : t.problems = []) : t.outputNames.Nodup := by
  have hl := length_outputNames t
  simp only [problems, columnProblems, List.append_eq_nil_iff, List.flatMap_eq_nil_iff] at h
  suffices hr : ∀ again ∈ repeats [] t.outputNames, again = false from
    (forall_repeats_eq_false_iff.mp hr).1
  intro again hm
  obtain ⟨i, hi, rfl⟩ := List.mem_iff_getElem.mp hm
  by_cases hc : i < t.config.columns.length
  · have hz : (t.config.columns[i], (repeats [] t.outputNames)[i]) ∈
        t.config.columns.zip (repeats [] t.outputNames) :=
      List.mem_iff_getElem.mpr ⟨i, by simp; omega, by simp⟩
    have hp := List.append_eq_nil_iff.mp (h.1.1.1.2.1.2 _ hz)
    exact Bool.eq_false_iff.mpr fun ht ↦ by simp [ht] at hp
  · have hz : (t.config.aggregations[i - t.config.columns.length], (repeats [] t.outputNames)[i]) ∈
        t.config.aggregations.zip ((repeats [] t.outputNames).drop t.config.columns.length) :=
      List.mem_iff_getElem.mpr ⟨i - t.config.columns.length, by simp; omega, by
        simp only [List.getElem_zip, List.getElem_drop, Prod.mk.injEq, true_and]
        congr 1
        omega⟩
    have hp := List.append_eq_nil_iff.mp (h.1.1.1.2.2 _ hz)
    exact Bool.eq_false_iff.mpr fun ht ↦ by simp [ht] at hp

/-- The parameters of an accepted template all have names of their own. -/
theorem nodup_parameterNames (h : t.problems = []) : (t.parameters.map (·.name)).Nodup := by
  simp only [problems, parameterProblems, List.append_eq_nil_iff, List.map_eq_nil_iff,
    List.filter_eq_nil_iff] at h
  suffices hr : ∀ again ∈ repeats [] (t.parameters.map (·.name)), again = false from
    (forall_repeats_eq_false_iff.mp hr).1
  intro again hm
  obtain ⟨i, hi, rfl⟩ := List.mem_iff_getElem.mp hm
  have hl := length_repeats [] (t.parameters.map (·.name))
  have hz := List.getElem_mem (l := (t.parameters.map (·.name)).zip
    (repeats [] (t.parameters.map (·.name)))) (n := i) (by rw [List.length_zip]; omega)
  simpa using h.1.2.1 _ hz

/-- There is no problem with a join of an accepted template. -/
theorem join_problems (h : t.problems = []) {j : JoinDefinition} (hj : j ∈ t.config.joins) :
    ∃ index, j.problems t index = [] := by
  simp only [problems, joinProblems, List.append_eq_nil_iff, List.flatMap_eq_nil_iff] at h
  obtain ⟨i, hi, rfl⟩ := List.mem_iff_getElem.mp hj
  exact ⟨i, h.1.1.2 (t.config.joins[i], i) (List.mk_mem_zipIdx_iff_getElem?.mpr (by simp [hi]))⟩

/-- There is no problem with the columns of the filter of an accepted template. -/
theorem isSafe_of_filters (h : t.problems = []) {g : FilterGroup}
    (hg : g ∈ t.config.filters.toList) : ∀ n ∈ g.names, Identifier.isSafe n = true := by
  simp only [problems, clauseProblems, List.append_eq_nil_iff, List.flatMap_eq_nil_iff] at h
  exact FilterGroup.columnProblems_eq_nil_iff.mp (h.2.1.2 g hg)

/-- The names of an accepted template are safe identifiers, or the star that an aggregate is taken
of. -/
theorem isSafe_of_mem_names (h : t.problems = []) {n : String} (hn : n ∈ t.names) :
    Identifier.isSafe n = true ∨ n = "*" ∧ ∃ a ∈ t.config.aggregations, a.column = n := by
  have hs : t.sourceProblems = [] ∧ t.clauseProblems = [] := by
    simp only [problems, List.append_eq_nil_iff] at h
    exact ⟨h.1.1.1.1, h.2⟩
  obtain ⟨hs, hc⟩ := hs
  simp only [sourceProblems, clauseProblems, List.append_eq_nil_iff,
    List.flatMap_eq_nil_iff] at hs hc
  obtain ⟨⟨⟨hg, ho⟩, hw⟩, hh⟩ := hc
  simp only [names, List.mem_append, List.mem_flatMap] at hn
  obtain (((((((⟨s, hm, hn⟩ | ⟨c, hm, hn⟩) | ⟨j, hm, hn⟩) | hn) | hn) |
    ⟨g, hm, hn⟩) | ⟨g, hm, hn⟩) | ⟨a, hm, hn⟩) := hn
  · exact .inl (DataSource.isSafe_of_problems (hs.2 s hm) n hn)
  · obtain ⟨again, hp⟩ := column_problems h hm
    exact .inl (ColumnDefinition.isSafe_of_problems hp n hn)
  · obtain ⟨index, hp⟩ := join_problems h hm
    exact .inl (JoinDefinition.isSafe_of_problems hp n hn)
  · exact .inl (Identifier.problems_eq_nil_iff.mp (hg n hn))
  · obtain ⟨s, hm, rfl⟩ := List.mem_map.mp hn
    exact .inl (Identifier.problems_eq_nil_iff.mp (ho s hm))
  · exact .inl (FilterGroup.columnProblems_eq_nil_iff.mp (hw g hm) n hn)
  · exact .inl (FilterGroup.columnProblems_eq_nil_iff.mp (hh g hm) n hn)
  · obtain ⟨again, hp⟩ := aggregation_problems h hm
    exact (Aggregation.isSafe_of_problems hp n hn).imp_right fun hstar ↦ ⟨hstar.1, a, hm, hstar.2⟩

end ReportTemplate

end TabularReport
