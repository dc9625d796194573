import TabularReport.Proofs.Statement.Scope

/-!
# Sources that shadow others

A reference means the first source that answers to it, by its alias or by its name. A source with an
alias answers to its name still, although no column of the statement is qualified with that, so a
source can be hidden from its own qualifier by one before it. A column or a join that goes by the
qualifier is then bound to the earlier source. Validation looks at each source alone and rules none
of this out.
-/

namespace TabularReport

private theorem DataSource.answersTo_qualifier (s : DataSource) :
    s.answersTo s.qualifier = true := by
  unfold answersTo qualifier
  cases s.aliasName <;> simp

private theorem find?_eq_some_self_iff {α : Type} [DecidableEq α] {l : List α} {p : α → Bool}
    {a : α} (ha : a ∈ l) (hp : p a = true) :
    l.find? p = some a ↔ ∀ b ∈ l.takeWhile (· ≠ a), p b = false := by
  induction l with
  | nil => cases ha
  | cons b rest ih =>
    by_cases hb : b = a
    · subst hb
      simp [hp]
    · have hrest := ih ((List.mem_cons.mp ha).resolve_left (Ne.symm hb))
      rw [List.find?_cons, List.takeWhile_cons_of_pos (by simpa using hb), List.forall_mem_cons,
        ← hrest]
      cases p b <;> simp [hb]

namespace ReportTemplate

/-- Whether a source of a template comes before another one and answers to its qualifier. -/
def Shadows (t : ReportTemplate) (w s : DataSource) : Prop :=
  w ∈ t.dataSources.takeWhile (· ≠ s) ∧ w.answersTo s.qualifier = true

/-- How the qualifier of a source is bound in a template where it means a source `u`. -/
structure BindsTo (t : ReportTemplate) (s u : DataSource) : Prop where
  found : t.findSource? s.qualifier = some u
  itself : u = s ↔ ∀ w, ¬ t.Shadows w s
  shadows : u ≠ s → t.Shadows u s
  /-- The source that the statement starts from comes before all others. -/
  primary : t.primarySource? = some s → u = s
  columns : ∀ c : ColumnDefinition, c.expression = none → c.source = some s.qualifier →
    t.reference c = .column (some u.qualifier) c.storageName
  joins : ∀ index side, t.joinSide index side s.qualifier = .ok u

variable {t : ReportTemplate} {s w : DataSource}

private theorem findSource?_qualifier_iff (hs : s ∈ t.dataSources) :
    t.findSource? s.qualifier = some s ↔ ∀ w, ¬ t.Shadows w s := by
  rw [findSource?, find?_eq_some_self_iff hs s.answersTo_qualifier]
  simp only [Shadows, not_and, Bool.not_eq_true]

private theorem shadows_of_findSource? (hs : s ∈ t.dataSources) {u : DataSource}
    (hf : t.findSource? s.qualifier = some u) (hne : u ≠ s) : t.Shadows u s := by
  obtain ⟨hu, before, after, hsplit, hbefore⟩ := List.find?_eq_some_iff_append.mp hf
  refine ⟨?_, hu⟩
  have hnot : ∀ b ∈ before, b ≠ s := by
    rintro b hb rfl
    have hno := hbefore b hb
    rw [b.answersTo_qualifier] at hno
    cases hno
  rw [hsplit, List.takeWhile_append_of_pos (by simpa using hnot),
    List.takeWhile_cons_of_pos (by simpa using hne)]
  exact List.mem_append_right _ (List.mem_cons_self ..)

private theorem exists_bindsTo (hs : s ∈ t.dataSources) : ∃ u, t.BindsTo s u := by
  have hsome : (t.findSource? s.qualifier).isSome = true :=
    List.find?_isSome.mpr ⟨s, hs, s.answersTo_qualifier⟩
  obtain ⟨u, hf⟩ := Option.isSome_iff_exists.mp hsome
  have hitself : u = s ↔ ∀ w, ¬ t.Shadows w s := by
    rw [← findSource?_qualifier_iff hs, hf, Option.some_inj]
  refine ⟨u, hf, hitself, shadows_of_findSource? hs hf, fun hp ↦ hitself.mpr ?_, ?_, ?_⟩
  · rintro w ⟨hw, -⟩
    obtain ⟨rest, hd⟩ := List.head?_eq_some_iff.mp hp
    simp [hd] at hw
  · exact fun c he hc ↦ reference_of_findSource? he hc hf
  · exact fun _ _ ↦ joinSide_eq_ok_iff.mpr hf

private theorem findSource?_of_subset {more : List DataSource} (hmore : t.dataSources ⊆ more)
    {name : String} (h : (t.findSource? name).isNone = false) :
    (findSource? { t with dataSources := more } name).isNone = false := by
  rw [Option.isNone_eq_false_iff, findSource?, List.find?_isSome] at h ⊢
  obtain ⟨s, hs, ha⟩ := h
  exact ⟨s, hmore hs, ha⟩

private theorem declared_of_subset {more : List DataSource} (hmore : t.dataSources ⊆ more)
    {name : String} {e : ValidationError}
    (h : (if (t.findSource? name).isNone then [e] else []) = []) :
    (if (findSource? { t with dataSources := more } name).isNone then [e] else []) = [] := by
  cases hn : (t.findSource? name).isNone with
  | true => simp [hn] at h
  | false => simp [findSource?_of_subset hmore hn]

private theorem problems_of_subset {more : List DataSource} (ht : t.problems = [])
    (hmore : t.dataSources ⊆ more) (hsafe : ∀ w ∈ more, w.problems = []) :
    problems { t with dataSources := more } = [] := by
  have hcolumn {c : ColumnDefinition} {again : Bool} (h : c.problems t again = []) :
      c.problems { t with dataSources := more } again = [] := by
    obtain ⟨hname, hrest⟩ := List.append_eq_nil_iff.mp h
    refine List.append_eq_nil_iff.mpr ⟨hname, ?_⟩
    split at hrest
    · next he => rw [if_pos he]
    · next he =>
      rw [if_neg he]
      obtain ⟨hsource, hstorage⟩ := List.append_eq_nil_iff.mp hrest
      refine List.append_eq_nil_iff.mpr ⟨?_, hstorage⟩
      cases hc : c.source with
      | none => rfl
      | some source =>
        rw [hc] at hsource
        exact declared_of_subset hmore hsource
  have hside {index : Nat} {side source column : String}
      (h : JoinDefinition.sideProblems t index side source column = []) :
      JoinDefinition.sideProblems { t with dataSources := more } index side source column = [] := by
    obtain ⟨hsource, hcolumn⟩ := List.append_eq_nil_iff.mp h
    exact List.append_eq_nil_iff.mpr ⟨declared_of_subset hmore hsource, hcolumn⟩
  obtain ⟨s, hs⟩ := exists_primarySource? ht
  simp only [problems, List.append_eq_nil_iff] at ht ⊢
  obtain ⟨⟨⟨⟨-, hcolumns⟩, hjoins⟩, hparameters⟩, hclauses⟩ := ht
  refine ⟨⟨⟨⟨?_, ?_⟩, ?_⟩, hparameters⟩, hclauses⟩
  · have hne : more ≠ [] := List.ne_nil_of_mem (hmore (List.mem_of_head? hs))
    simpa [sourceProblems, hne] using hsafe
  · simp only [columnProblems, List.append_eq_nil_iff, List.flatMap_eq_nil_iff] at hcolumns ⊢
    exact ⟨⟨hcolumns.1.1, fun c hc ↦ hcolumn (hcolumns.1.2 c hc)⟩, hcolumns.2⟩
  · simp only [joinProblems, List.flatMap_eq_nil_iff] at hjoins ⊢
    intro j hj
    obtain ⟨hl, hr⟩ := List.append_eq_nil_iff.mp (hjoins j hj)
    exact List.append_eq_nil_iff.mpr ⟨hside hl, hside hr⟩

/-- The qualifier of a declared source means it unless a source before it answers to that, and an
accepted template stays accepted when such a source is put before its own. -/
theorem bindsTo_qualifier (ht : t.problems = []) (hs : s ∈ t.dataSources) :
    (∃ u, t.BindsTo s u) ∧
      ∀ w, w.problems = [] → w.answersTo s.qualifier = true →
        problems { t with dataSources := w :: t.dataSources } = [] ∧
          BindsTo { t with dataSources := w :: t.dataSources } s w := by
  refine ⟨exists_bindsTo hs, fun w hw ha ↦ ⟨?_, ?_⟩⟩
  · refine problems_of_subset ht (List.subset_cons_self ..) (List.forall_mem_cons.mpr ⟨hw, ?_⟩)
    exact fun u hu ↦ source_problems ht hu
  · have hfound : findSource? { t with dataSources := w :: t.dataSources } s.qualifier = some w :=
      List.find?_cons_of_pos ha
    obtain ⟨u, hu⟩ := exists_bindsTo (t := { t with dataSources := w :: t.dataSources })
      (List.mem_cons_of_mem w hs)
    obtain rfl : w = u := Option.some_inj.mp (hfound.symm.trans hu.found)
    exact hu

end ReportTemplate

/-- The table of new orders under an alias. -/
def newOrders : DataSource := ⟨.table, "orders", some "o"⟩

/-- The table of old orders under the name that the table of new ones has. -/
def oldOrders : DataSource := ⟨.table, "old_orders", some "orders"⟩

/-- Totals of old orders, which are joined to the new ones of a customer. -/
def oldTotals : ReportTemplate :=
  { ReportTemplate.on "orders" "Orders" newOrders with
    dataSources := [newOrders, oldOrders]
    config :=
      { columns := [{ name := "old_total", source := some "orders", column := some "total" }]
        joins := [⟨"o", "customer", "old_orders", "customer", .inner, none⟩] } }

/-- The name of the old orders is bound to the new ones, which come before them. -/
theorem bindsTo_oldOrders :
    oldTotals.problems = [] ∧ oldOrders ∈ oldTotals.dataSources ∧
      (∃ u, oldTotals.BindsTo oldOrders u ∧ u = newOrders) ∧
      oldTotals.Shadows newOrders oldOrders := by
  have hok : oldTotals.problems = [] := by decide +kernel
  have hold : oldOrders ∈ oldTotals.dataSources := by decide
  obtain ⟨⟨u, hu⟩, -⟩ := ReportTemplate.bindsTo_qualifier hok hold
  have hnew : u = newOrders := Option.some_inj.mp (hu.found.symm.trans (by decide))
  refine ⟨hok, hold, ⟨u, hu, hnew⟩, ?_⟩
  rw [← hnew]
  exact hu.shadows (by rw [hnew]; decide)

/-- An accepted template whose second source is not what its qualifier means: the column that goes
by it is read from the first source, although the statement has the qualifier for the second. -/
theorem shadowed_oldOrders :
    oldTotals.problems = [] ∧ oldOrders ∈ oldTotals.dataSources ∧
      oldTotals.findSource? oldOrders.qualifier = some newOrders ∧
      oldTotals.findSource? oldOrders.qualifier ≠ some oldOrders ∧
      (oldTotals.assemble {} {}).toOption.map (·.sql) =
        some ("SELECT\n  o.total AS old_total\nFROM orders AS o\n" ++
          "INNER JOIN old_orders AS orders ON o.customer = orders.customer") := by
  decide +kernel

end TabularReport
