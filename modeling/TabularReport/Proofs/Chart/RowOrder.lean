import TabularReport.Proofs.Chart.Axes

/-!
# Dates on an axis, and the order of rows

Where each row of a chart has a date of its own, the chart shows its rows in the order of time.
There is only one such order, so it does not matter in which order the rows came.
-/

namespace TabularReport

private theorem Instant.eq_of_le_of_le {a b : Instant} (hab : a.le b = true) (hba : b.le a = true) :
    a = b := by
  obtain ⟨seconds, nanos⟩ := a
  obtain ⟨seconds', nanos'⟩ := b
  simp only [le_iff] at hab hba
  simp only [mk.injEq]
  omega

/-- The labels that rows carry in a field. -/
def rowLabels (field : String) (rows : List Fields) : List String :=
  rows.filterMap (rowLabel? field)

/-- Whether each label that rows carry is a date that no other row has, however it is written. -/
structure DatedApart (field : String) (rows : List Fields) : Prop where
  distinct : (rowLabels field rows).Nodup
  dates : ∀ label ∈ rowLabels field rows, (Instant.ofText? label).isSome = true
  instants : ((rowLabels field rows).map Instant.ofText?).Nodup

variable {field : String} {rows rows' : List Fields}

private theorem DatedApart.perm (h : DatedApart field rows) (hperm : rows.Perm rows') :
    DatedApart field rows' := by
  have hlabels : (rowLabels field rows).Perm (rowLabels field rows') := hperm.filterMap _
  exact ⟨hlabels.nodup_iff.mp h.distinct, fun label hl ↦ h.dates label (hlabels.mem_iff.mpr hl),
    (hlabels.map _).nodup_iff.mp h.instants⟩

private theorem labelledRows_of_nodup {seen : List String}
    (hdistinct : (rowLabels field rows).Nodup)
    (hnew : ∀ label ∈ rowLabels field rows, label ∉ seen) :
    labelledRows field seen rows =
      rows.filterMap fun row ↦ (rowLabel? field row).map fun label ↦ (label, row) := by
  induction rows generalizing seen with
  | nil => rfl
  | cons row rest ih =>
    cases hl : rowLabel? field row with
    | none =>
      rw [rowLabels, List.filterMap_cons_none hl] at hdistinct hnew
      rw [labelledRows_cons_of_none hl, ih hdistinct hnew,
        List.filterMap_cons_none (by rw [hl]; rfl)]
    | some label =>
      rw [rowLabels, List.filterMap_cons_some hl] at hdistinct hnew
      obtain ⟨hnot, hrest⟩ := List.nodup_cons.mp hdistinct
      obtain ⟨hlabel, hothers⟩ := List.forall_mem_cons.mp hnew
      have hmet : ∀ other ∈ rowLabels field rest, other ∉ label :: seen := by
        intro other ho hmem
        rcases List.mem_cons.mp hmem with rfl | hmem
        · exact hnot ho
        · exact hothers other ho hmem
      rw [labelledRows_cons_of_some hl, if_neg hlabel, ih hrest hmet,
        List.filterMap_cons_some (by rw [hl]; rfl)]

private theorem map_fst_labelledRows_of_nodup (h : (rowLabels field rows).Nodup) :
    (labelledRows field [] rows).map (·.1) = rowLabels field rows := by
  rw [labelledRows_of_nodup h fun _ _ ↦ List.not_mem_nil, List.map_filterMap, rowLabels]
  congr 1
  funext row
  cases rowLabel? field row <;> rfl

private theorem DatedApart.isSome_of_mem (h : DatedApart field rows) {p : String × Fields}
    (hp : p ∈ labelledRows field [] rows) : (Instant.ofText? p.1).isSome = true := by
  refine h.dates p.1 ?_
  rw [← map_fst_labelledRows_of_nodup h.distinct]
  exact List.mem_map_of_mem hp

private theorem pairwise_inDateOrder {kept : List (String × Fields)}
    (hdates : ∀ p ∈ kept, (Instant.ofText? p.1).isSome = true) :
    (inDateOrder kept).Pairwise fun p q ↦ InTime (fun _ _ ↦ True) p.1 q.1 :=
  (inDateOrder_of_dated hdates (List.pairwise_of_forall fun _ _ ↦ trivial)).2

private theorem inDateOrder_eq_of_perm {kept kept' : List (String × Fields)}
    (hperm : kept.Perm kept') (hdates : ∀ p ∈ kept, (Instant.ofText? p.1).isSome = true)
    (hapart : (kept.map fun p ↦ Instant.ofText? p.1).Nodup) :
    inDateOrder kept = inDateOrder kept' := by
  have hsame := inDateOrder_perm kept
  have hsame' := inDateOrder_perm kept'
  refine List.Perm.eq_of_pairwise (fun p q hp hq hpq hqp ↦ ?_) (pairwise_inDateOrder hdates)
    (pairwise_inDateOrder fun p hp ↦ hdates p (hperm.mem_iff.mpr hp))
    (hsame.trans (hperm.trans hsame'.symm))
  have hp := hsame.mem_iff.mp hp
  have hq := hperm.mem_iff.mpr (hsame'.mem_iff.mp hq)
  obtain ⟨s, hs⟩ := Option.isSome_iff_exists.mp (hdates p hp)
  obtain ⟨t, ht⟩ := Option.isSome_iff_exists.mp (hdates q hq)
  have hst : s = t := Instant.eq_of_le_of_le (hpq s t hs ht).1 (hqp t s ht hs).1
  exact List.inj_on_of_nodup_map hapart hp hq (by rw [hs, ht, hst])

private theorem DatedApart.shownRows_eq (h : DatedApart field rows) (hperm : rows.Perm rows')
    {chartType : ChartType} (hc : chartType ≠ .radar) :
    shownRows chartType field rows = shownRows chartType field rows' := by
  rw [shownRows_of_ne_radar hc, shownRows_of_ne_radar hc]
  refine inDateOrder_eq_of_perm ?_ (fun _ hp ↦ h.isSome_of_mem hp) ?_
  · rw [labelledRows_of_nodup h.distinct fun _ _ ↦ List.not_mem_nil,
      labelledRows_of_nodup (h.perm hperm).distinct fun _ _ ↦ List.not_mem_nil]
    exact hperm.filterMap _
  · have hinstants := h.instants
    rwa [← map_fst_labelledRows_of_nodup h.distinct, List.map_map] at hinstants

/-- Of two dates the first is before the second. -/
def DatedBefore (a b : String) : Prop :=
  ∃ s t, Instant.ofText? a = some s ∧ Instant.ofText? b = some t ∧ s.le t = true ∧ s ≠ t

private theorem DatedApart.labels_shownRows (h : DatedApart field rows) {chartType : ChartType}
    (hc : chartType ≠ .radar) :
    ((shownRows chartType field rows).map (·.1)).Perm (rowLabels field rows) ∧
      ((shownRows chartType field rows).map (·.1)).Pairwise DatedBefore := by
  have hperm : ((shownRows chartType field rows).map (·.1)).Perm (rowLabels field rows) := by
    rw [← map_fst_labelledRows_of_nodup h.distinct]
    exact (shownRows_perm chartType field rows).map _
  have hsorted := pairwise_inDateOrder fun _ hp ↦ h.isSome_of_mem hp
  have hapart := List.pairwise_map.mp ((hperm.map _).nodup_iff.mpr h.instants)
  refine ⟨hperm, ?_⟩
  rw [shownRows_of_ne_radar hc] at hperm hapart ⊢
  refine ((List.pairwise_map.mpr hsorted).and hapart).imp_of_mem ?_
  rintro a b ha hb ⟨htime, hne⟩
  obtain ⟨s, hs⟩ := Option.isSome_iff_exists.mp (h.dates a (hperm.mem_iff.mp ha))
  obtain ⟨t, ht⟩ := Option.isSome_iff_exists.mp (h.dates b (hperm.mem_iff.mp hb))
  exact ⟨s, t, hs, ht, (htime s t hs ht).1, fun hst ↦ hne (by rw [hs, ht, hst])⟩

private theorem DataMapping.axes_congr {m : DataMapping} {chartType : ChartType}
    {config : ChartConfig}
    (h : ∀ x, m.x = some x → shownRows chartType x rows = shownRows chartType x rows') :
    m.axes chartType config rows = m.axes chartType config rows' := by
  unfold axes
  cases hx : m.x with
  | none => rfl
  | some x =>
    cases m.axisFields chartType with
    | error e => rfl
    | ok fields =>
      change Except.ok (ChartPayload.series ((shownRows chartType x rows).map (·.1))
        (fields.zipIdx.map fun p ↦ m.dataset config (shownRows chartType x rows) p.1 p.2)) = _
      rw [h x hx]
      rfl

/-- The chart types that sort dates. -/
def timeTypes : List ChartType := [.bar, .line, .area]

/-- A chart over dates that differ is the same for all orders of its rows: it has the label of each
row once, the earlier ones first. -/
theorem ChartData.ofRows_perm {chartType : ChartType} (hc : chartType ∈ timeTypes)
    (m : DataMapping) (config : ChartConfig) (hperm : rows.Perm rows')
    (hdated : ∀ x, m.x = some x → DatedApart x rows) :
    ChartData.ofRows chartType rows m config = ChartData.ofRows chartType rows' m config ∧
      ∀ chart, ChartData.ofRows chartType rows m config = .ok chart →
        ∃ x labels datasets, m.x = some x ∧ chart.payload = .series labels datasets ∧
          labels.Perm (rowLabels x rows) ∧ labels.Pairwise DatedBefore := by
  have haxes : chartType ∈ axisTypes := by
    simp only [timeTypes, axisTypes, List.mem_cons, List.not_mem_nil, or_false] at hc ⊢
    tauto
  have hradar : chartType ≠ .radar := by
    rintro rfl
    exact absurd hc (by decide)
  constructor
  · rw [ofRows_of_axisTypes haxes, ofRows_of_axisTypes haxes]
    rw [DataMapping.axes_congr fun x hx ↦ (hdated x hx).shownRows_eq hperm hradar]
  · intro chart hchart
    obtain ⟨payload, hpayload, rfl⟩ := (ofRows_eq_ok_iff_of_axisTypes haxes).mp hchart
    obtain ⟨x, fields, hx, -, -, rfl⟩ := DataMapping.axes_eq_ok_iff.mp hpayload
    exact ⟨x, _, _, hx, rfl, (hdated x hx).labels_shownRows hradar⟩

/-- Sales of three days, written in three ways and in no order, and one row without a day. -/
def scatteredSales : List Fields :=
  [[("day", .string "2024-03-02"), ("sold", .ofNat 3)],
    [("day", .string "2024-02-29T23:30:00Z"), ("sold", .ofNat 8)],
    [("sold", .ofNat 5)],
    [("day", .string " 2024-03-01 10:00:00"), ("sold", .ofNat 9)]]

private theorem datedApart_scatteredSales : DatedApart "day" scatteredSales := by
  have hlabels : rowLabels "day" scatteredSales =
      ["2024-03-02", "2024-02-29T23:30:00Z", " 2024-03-01 10:00:00"] := rfl
  refine ⟨?_, ?_, ?_⟩
  · rw [hlabels]
    decide
  · rw [hlabels]
    decide +kernel
  · rw [hlabels]
    decide +kernel

/-- A line shows these sales alike in both directions. -/
theorem ofRows_perm_scatteredSales :
    let m : DataMapping := { x := some "day", y := some (.one "sold") }
    ChartType.line ∈ timeTypes ∧ scatteredSales.Perm scatteredSales.reverse ∧
      (∀ x, m.x = some x → DatedApart x scatteredSales) ∧
      ∃ chart labels datasets, ChartData.ofRows .line scatteredSales m {} = .ok chart ∧
        ChartData.ofRows .line scatteredSales.reverse m {} = .ok chart ∧
        chart.payload = .series labels datasets ∧
        labels.Perm ["2024-03-02", "2024-02-29T23:30:00Z", " 2024-03-01 10:00:00"] ∧
        labels.Pairwise DatedBefore := by
  intro m
  have hline : ChartType.line ∈ timeTypes := by decide
  have hperm : scatteredSales.Perm scatteredSales.reverse := (List.reverse_perm _).symm
  have hdated : ∀ x, m.x = some x → DatedApart x scatteredSales := by
    rintro x ⟨⟩
    exact datedApart_scatteredSales
  obtain ⟨hsame, hshape⟩ := ChartData.ofRows_perm hline m {} hperm hdated
  obtain ⟨chart, hchart⟩ : ∃ chart, ChartData.ofRows .line scatteredSales m {} = .ok chart :=
    ⟨_, (ChartData.ofRows_eq_ok_iff_of_axisTypes (by decide)).mpr
      ⟨_, DataMapping.axes_eq_ok_iff.mpr ⟨"day", ["sold"], rfl, rfl, by simp, rfl⟩, rfl⟩⟩
  obtain ⟨x, labels, datasets, hx, hseries, hlabels, hbefore⟩ := hshape chart hchart
  cases hx
  exact ⟨hline, hperm, hdated, chart, labels, datasets, hchart, hsame ▸ hchart, hseries, hlabels,
    hbefore⟩

end TabularReport
