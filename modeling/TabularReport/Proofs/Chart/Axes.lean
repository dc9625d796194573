import Mathlib.Data.List.Forall2
import Mathlib.Data.List.Nodup
import TabularReport.Chart.OfRows
import TabularReport.Proofs.Calendar.DateOrder
import TabularReport.Proofs.Store.Contents

/-!
# Charts on axes

A chart on axes has one label for each text that its rows have in the horizontal field, and under a
label it shows the first row that carries it. Labels come in the order of these rows, unless all of
them are dates: then they come in the order of time, and labels of one instant in the order of their
rows.
-/

namespace TabularReport

/-- The label that a row has in a field, when the field is there and not null. -/
def rowLabel? (field : String) (row : Fields) : Option String :=
  ((Fields.get? row field).bind Json.present?).map Json.label

/-- The first row that carries a label. -/
def firstRow? (field : String) (rows : List Fields) (label : String) : Option Fields :=
  rows.find? (rowLabel? field · == some label)

/-- The place of the first row that carries a label. -/
def firstPlace (field : String) (rows : List Fields) (label : String) : Nat :=
  rows.findIdx (rowLabel? field · == some label)

variable {field label : String} {row : Fields} {rows : List Fields} {seen : List String}

private theorem rowLabel?_eq (field : String) (row : Fields) :
    rowLabel? field row =
      if Json.absent (Fields.get? row field) then none else some (cellLabel row field) := by
  rw [rowLabel?, cellLabel]
  cases Fields.get? row field with
  | none => rfl
  | some v => cases hv : v.isNull <;> simp [Json.absent, Json.present?, hv]

/-- A row without a label is passed over. -/
theorem labelledRows_cons_of_none (h : rowLabel? field row = none) :
    labelledRows field seen (row :: rows) = labelledRows field seen rows := by
  rw [rowLabel?_eq] at h
  rw [labelledRows]
  split at h
  · next ha => rw [if_pos ha]
  · cases h

/-- A row with a label is kept unless the label has been met. -/
theorem labelledRows_cons_of_some (h : rowLabel? field row = some label) :
    labelledRows field seen (row :: rows) =
      if label ∈ seen then labelledRows field seen rows
      else (label, row) :: labelledRows field (label :: seen) rows := by
  rw [rowLabel?_eq] at h
  rw [labelledRows]
  split at h
  · cases h
  · next ha =>
    cases h
    rw [if_neg ha]
    simp only [List.contains_iff_mem]

private theorem mem_labelledRows :
    (label, row) ∈ labelledRows field seen rows ↔
      label ∉ seen ∧ firstRow? field rows label = some row := by
  induction rows generalizing seen with
  | nil => simp [labelledRows, firstRow?]
  | cons first rest ih =>
    rw [firstRow?, List.find?_cons]
    cases hf : rowLabel? field first with
    | none =>
      rw [labelledRows_cons_of_none hf, ih]
      rfl
    | some own =>
      rw [labelledRows_cons_of_some hf]
      by_cases ho : own = label
      · subst ho
        rw [beq_self_eq_true]
        split
        · next hm => simp [ih, hm]
        · next hm => simp [ih, hm, eq_comm]
      · have hne : (some own == some label) = false := by simpa using ho
        have hl : label ∉ own :: seen ↔ label ∉ seen := by simp [Ne.symm ho]
        have hpair : (label, row) ≠ (own, first) := by
          intro he
          exact ho (congrArg Prod.fst he).symm
        rw [hne]
        split
        · exact ih
        · rw [List.mem_cons, or_iff_right hpair, ih, hl]
          rfl

private theorem pairwise_labelledRows (field : String) (rows : List Fields) (seen : List String) :
    (labelledRows field seen rows).Pairwise fun a b ↦
      firstPlace field rows a.1 < firstPlace field rows b.1 := by
  -- A row that is passed over, or kept under its own label, moves the places of all others by one.
  have hshift {first : Fields} {rest : List Fields} {l : String}
      (h : rowLabel? field first ≠ some l) :
      firstPlace field (first :: rest) l = firstPlace field rest l + 1 := by
    have hf : (rowLabel? field first == some l) = false := beq_false_of_ne h
    rw [firstPlace, List.findIdx_cons, hf]
    rfl
  induction rows generalizing seen with
  | nil => exact List.Pairwise.nil
  | cons first rest ih =>
    have hrest {met : List String}
        (h : ∀ a ∈ labelledRows field met rest, rowLabel? field first ≠ some a.1) :
        (labelledRows field met rest).Pairwise fun a b ↦
          firstPlace field (first :: rest) a.1 < firstPlace field (first :: rest) b.1 := by
      refine (ih met).imp_of_mem fun {a b} ha hb hab ↦ ?_
      rw [hshift (h a ha), hshift (h b hb)]
      omega
    cases hf : rowLabel? field first with
    | none =>
      rw [labelledRows_cons_of_none hf]
      exact hrest (by simp [hf])
    | some own =>
      have hown {met : List String} (hm : own ∈ met) :
          ∀ a ∈ labelledRows field met rest, rowLabel? field first ≠ some a.1 := by
        rintro ⟨l, row⟩ ha he
        rw [hf] at he
        cases he
        exact (mem_labelledRows.mp ha).1 hm
      rw [labelledRows_cons_of_some hf]
      split
      · next hm => exact hrest (hown hm)
      · refine .cons (fun a ha ↦ ?_) (hrest (hown (List.mem_cons_self ..)))
        have hzero : firstPlace field (first :: rest) own = 0 := by
          rw [firstPlace, List.findIdx_cons, hf, beq_self_eq_true]
          rfl
        rw [hzero, hshift (hown (List.mem_cons_self ..) a ha)]
        omega

private theorem mapM_of_dated {kept : List (String × Fields)}
    (h : ∀ p ∈ kept, (Instant.ofText? p.1).isSome = true) :
    ∃ dated, (kept.mapM fun p ↦ (Instant.ofText? p.1).map fun t ↦ (t, p)) = some dated ∧
      dated.map (·.2) = kept ∧ ∀ d ∈ dated, Instant.ofText? d.2.1 = some d.1 := by
  induction kept with
  | nil => exact ⟨[], rfl, rfl, nofun⟩
  | cons p rest ih =>
    obtain ⟨hp, hrest⟩ := List.forall_mem_cons.mp h
    obtain ⟨t, ht⟩ := Option.isSome_iff_exists.mp hp
    obtain ⟨dated, hm, hmap, hall⟩ := ih hrest
    refine ⟨(t, p) :: dated, ?_, ?_, List.forall_mem_cons.mpr ⟨ht, hall⟩⟩
    · rw [List.mapM_cons, ht, hm]
      rfl
    · rw [List.map_cons, hmap]

private theorem mapM_of_undated {kept : List (String × Fields)}
    (h : ∃ p ∈ kept, Instant.ofText? p.1 = none) :
    (kept.mapM fun p ↦ (Instant.ofText? p.1).map fun t ↦ (t, p)) = none := by
  induction kept with
  | nil => simp at h
  | cons p rest ih =>
    rw [List.mapM_cons]
    cases hp : Instant.ofText? p.1 with
    | none => rfl
    | some t =>
      have hrest : ∃ q ∈ rest, Instant.ofText? q.1 = none := by
        obtain ⟨q, hq, hn⟩ := h
        rcases List.mem_cons.mp hq with rfl | hq
        · rw [hp] at hn
          cases hn
        · exact ⟨q, hq, hn⟩
      rw [ih hrest]
      rfl

private theorem inDateOrder_of_undated {kept : List (String × Fields)}
    (h : ∃ p ∈ kept, Instant.ofText? p.1 = none) : inDateOrder kept = kept := by
  rw [inDateOrder, mapM_of_undated h]

/-- Of two dates the first is not after the second, and they are related if they denote one
instant. -/
def InTime (R : String → String → Prop) (a b : String) : Prop :=
  ∀ s t, Instant.ofText? a = some s → Instant.ofText? b = some t →
    s.le t = true ∧ (s = t → R a b)

/-- Rows whose labels are all dates come in the order of time, and those of one instant in their
order. -/
theorem inDateOrder_of_dated {kept : List (String × Fields)} {R : String → String → Prop}
    (h : ∀ p ∈ kept, (Instant.ofText? p.1).isSome = true)
    (hR : kept.Pairwise fun a b ↦ R a.1 b.1) :
    (inDateOrder kept).Perm kept ∧ (inDateOrder kept).Pairwise fun a b ↦ InTime R a.1 b.1 := by
  obtain ⟨dated, hm, rfl, hall⟩ := mapM_of_dated h
  have hsorts := sortsBy_mergeSort Prod.fst (fun a b : Instant ↦ a.le b = true) Instant.le_trans
    Instant.le_total dated
  simp only [Bool.decide_eq_true] at hsorts
  rw [inDateOrder, hm]
  refine ⟨hsorts.perm.map _, List.pairwise_map.mpr ?_⟩
  refine (hsorts.pairwise (List.pairwise_map.mp hR)).imp_of_mem ?_
  intro a b ha hb ⟨hle, hR⟩ s t hs ht
  rw [hall a (hsorts.perm.mem_iff.mp ha)] at hs
  rw [hall b (hsorts.perm.mem_iff.mp hb)] at ht
  cases hs
  cases ht
  exact ⟨hle, hR⟩

/-- Rows in the order of their dates are the same rows. -/
theorem inDateOrder_perm (kept : List (String × Fields)) : (inDateOrder kept).Perm kept := by
  by_cases h : ∃ p ∈ kept, Instant.ofText? p.1 = none
  · rw [inDateOrder_of_undated h]
  · refine (inDateOrder_of_dated (R := fun _ _ ↦ True) (fun p hp ↦ ?_) ?_).1
    · exact Option.isSome_iff_ne_none.mpr fun hn ↦ h ⟨p, hp, hn⟩
    · exact List.pairwise_of_forall fun _ _ ↦ trivial

/-- The chart types that draw rows on axes. -/
def axisTypes : List ChartType := [.bar, .line, .area, .radar]

/-- How labels and data sets show rows on axes: `x` is the horizontal field, and `fields` are the
vertical ones. -/
structure IsAxisChart (chartType : ChartType) (m : DataMapping) (rows : List Fields) (x : String)
    (fields : List String) (labels : List String) (datasets : List Dataset) : Prop where
  distinct : labels.Nodup
  /-- Rows that have nothing in the horizontal field, or null, carry no label. -/
  carried : ∀ label, label ∈ labels ↔ ∃ row ∈ rows, rowLabel? x row = some label
  /-- There is a data set for each field, named by the entry of the series at its place. -/
  named : datasets.map (·.label) = fields.zipIdx.map fun (field, i) ↦ (m.series[i]?).getD field
  /-- Under each label stands the number that the first row with the label has in the field. -/
  values : List.Forall₂
    (fun field dataset ↦ List.Forall₂
      (fun label value ↦ ∃ row, firstRow? x rows label = some row ∧
        value = ((Fields.get? row field).bind Json.float?).getD 0)
      labels dataset.data)
    fields datasets
  /-- Dates come in the order of time, but not on a radar. -/
  dated : chartType ≠ .radar → (∀ label ∈ labels, (Instant.ofText? label).isSome = true) →
    labels.Pairwise (InTime fun a b ↦ firstPlace x rows a < firstPlace x rows b)
  /-- All other labels come in the order of the rows that first carry them. -/
  undated : (chartType = .radar ∨ ∃ label ∈ labels, Instant.ofText? label = none) →
    labels.Pairwise fun a b ↦ firstPlace x rows a < firstPlace x rows b

private theorem exists_firstRow?_iff :
    (∃ row, firstRow? field rows label = some row) ↔
      ∃ row ∈ rows, rowLabel? field row = some label := by
  rw [← Option.isSome_iff_exists, firstRow?, List.find?_isSome]
  simp

/-- The rows that a chart of a type shows, with their labels. -/
def shownRows (chartType : ChartType) (x : String) (rows : List Fields) : List (String × Fields) :=
  if chartType = .radar then labelledRows x [] rows else inDateOrder (labelledRows x [] rows)

/-- The rows that are shown are those that are the first ones with their labels. -/
theorem shownRows_perm (chartType : ChartType) (x : String) (rows : List Fields) :
    (shownRows chartType x rows).Perm (labelledRows x [] rows) := by
  unfold shownRows
  split
  · exact .refl _
  · exact inDateOrder_perm _

private theorem mem_shownRows {chartType : ChartType} :
    (label, row) ∈ shownRows chartType field rows ↔ firstRow? field rows label = some row := by
  rw [(shownRows_perm chartType field rows).mem_iff, mem_labelledRows]
  exact and_iff_right List.not_mem_nil

private theorem nodup_shownRows (chartType : ChartType) (x : String) (rows : List Fields) :
    ((shownRows chartType x rows).map (·.1)).Nodup := by
  rw [((shownRows_perm chartType x rows).map _).nodup_iff]
  refine List.pairwise_map.mpr ((pairwise_labelledRows x rows []).imp fun hlt he ↦ ?_)
  rw [he] at hlt
  exact Nat.lt_irrefl _ hlt

/-- The data set that rows give for a field. -/
def DataMapping.dataset (m : DataMapping) (config : ChartConfig) (kept : List (String × Fields))
    (field : String) (index : Nat) : Dataset :=
  ⟨m.seriesLabel index field, kept.map fun p ↦ cellFloat p.2 field,
    (config.colors[index % Nat.max 1 config.colors.length]?).toList⟩

/-- Rows are drawn on axes when there is a horizontal field and at least one vertical one. -/
theorem DataMapping.axes_eq_ok_iff {m : DataMapping} {chartType : ChartType} {config : ChartConfig}
    {payload : ChartPayload} :
    m.axes chartType config rows = .ok payload ↔
      ∃ x fields, m.x = some x ∧ m.y.map (·.fields) = some fields ∧ fields ≠ [] ∧
        payload = .series ((shownRows chartType x rows).map (·.1))
          (fields.zipIdx.map fun (field, i) ↦
            m.dataset config (shownRows chartType x rows) field i) := by
  unfold axes axisFields
  cases m.x with
  | none => simp [require, bind, Except.bind]
  | some x =>
    cases m.y.map (·.fields) with
    | none => simp [require, bind, Except.bind]
    | some fields =>
      cases fields with
      | nil => simp [require, bind, Except.bind]
      | cons field rest =>
        constructor
        · intro h
          cases h
          exact ⟨x, _, rfl, rfl, List.cons_ne_nil _ _, rfl⟩
        · rintro ⟨_, _, hx, hf, -, rfl⟩
          cases hx
          cases hf
          rfl

/-- Charts of these types draw their rows on axes. -/
theorem ChartData.ofRows_of_axisTypes {chartType : ChartType} (hc : chartType ∈ axisTypes)
    (rows : List Fields) (m : DataMapping) (config : ChartConfig) :
    ChartData.ofRows chartType rows m config =
      (m.axes chartType config rows).map fun payload ↦
        ⟨chartType, payload, config.chartOptions chartType⟩ := by
  simp only [axisTypes, List.mem_cons, List.not_mem_nil, or_false] at hc
  rcases hc with rfl | rfl | rfl | rfl <;>
  · unfold ChartData.ofRows
    dsimp only
    cases m.axes _ config rows <;> rfl

/-- A chart on axes is there when its payload is. -/
theorem ChartData.ofRows_eq_ok_iff_of_axisTypes {chartType : ChartType} (hc : chartType ∈ axisTypes)
    {rows : List Fields} {m : DataMapping} {config : ChartConfig} {chart : ChartData} :
    ChartData.ofRows chartType rows m config = .ok chart ↔
      ∃ payload, m.axes chartType config rows = .ok payload ∧
        ⟨chartType, payload, config.chartOptions chartType⟩ = chart := by
  rw [ofRows_of_axisTypes hc]
  cases m.axes chartType config rows <;> simp [Except.map]

/-- A chart that is no radar shows its rows in the order of their dates. -/
theorem shownRows_of_ne_radar {chartType : ChartType} (h : chartType ≠ .radar) (x : String)
    (rows : List Fields) : shownRows chartType x rows = inDateOrder (labelledRows x [] rows) :=
  if_neg h

private theorem shownRows_of_undated {chartType : ChartType} {x : String}
    (h : chartType = .radar ∨
      ∃ label ∈ (shownRows chartType x rows).map (·.1), Instant.ofText? label = none) :
    shownRows chartType x rows = labelledRows x [] rows := by
  by_cases hc : chartType = .radar
  · exact if_pos hc
  · obtain ⟨_, hl, hn⟩ := h.resolve_left hc
    obtain ⟨p, hp, rfl⟩ := List.mem_map.mp hl
    rw [(shownRows_perm chartType x rows).mem_iff] at hp
    rw [shownRows_of_ne_radar hc, inDateOrder_of_undated ⟨p, hp, hn⟩]

private theorem isAxisChart_shownRows (chartType : ChartType) (m : DataMapping)
    (config : ChartConfig) (rows : List Fields) (x : String) (fields : List String) :
    IsAxisChart chartType m rows x fields ((shownRows chartType x rows).map (·.1))
      (fields.zipIdx.map fun (field, i) ↦
        m.dataset config (shownRows chartType x rows) field i) := by
  have hperm := shownRows_perm chartType x rows
  have hplaces := pairwise_labelledRows x rows []
  refine ⟨nodup_shownRows chartType x rows, fun label ↦ ?_, ?_, ?_, fun hc hdates ↦ ?_, fun h ↦ ?_⟩
  · rw [← exists_firstRow?_iff]
    simp only [← @mem_shownRows x label _ rows chartType, List.mem_map, Prod.exists,
      exists_and_right, exists_eq_right]
  · rw [List.map_map]
    rfl
  · refine (List.forall₂_iff_get).mpr ⟨by simp, fun i hi hj ↦ ?_⟩
    simp only [List.get_eq_getElem, List.getElem_map, List.getElem_zipIdx, DataMapping.dataset]
    refine List.forall₂_map_left_iff.mpr (List.forall₂_map_right_iff.mpr ?_)
    refine List.forall₂_same.mpr fun p hp ↦ ⟨p.2, mem_shownRows.mp hp, rfl⟩
  · rw [shownRows_of_ne_radar hc] at hdates ⊢
    have hkept : ∀ p ∈ labelledRows x [] rows, (Instant.ofText? p.1).isSome = true := by
      intro p hp
      refine hdates _ (List.mem_map_of_mem ?_)
      exact (inDateOrder_perm _).mem_iff.mpr hp
    exact List.pairwise_map.mpr (inDateOrder_of_dated hkept hplaces).2
  · rw [shownRows_of_undated h]
    exact List.pairwise_map.mpr hplaces

/-- A chart that draws rows on axes is there when there are a horizontal field and a vertical one,
and shows the rows by their labels. -/
theorem ChartData.isAxisChart_ofRows {chartType : ChartType} (hc : chartType ∈ axisTypes)
    (rows : List Fields) (m : DataMapping) (config : ChartConfig) :
    ((∃ chart, ChartData.ofRows chartType rows m config = .ok chart) ↔
      ∃ x fields, m.x = some x ∧ m.y.map (·.fields) = some fields ∧ fields ≠ []) ∧
    ∀ chart, ChartData.ofRows chartType rows m config = .ok chart →
      ∃ x fields labels datasets, m.x = some x ∧ m.y.map (·.fields) = some fields ∧
        chart.payload = .series labels datasets ∧
        IsAxisChart chartType m rows x fields labels datasets := by
  constructor
  · constructor
    · rintro ⟨chart, h⟩
      obtain ⟨payload, hp, -⟩ := (ofRows_eq_ok_iff_of_axisTypes hc).mp h
      obtain ⟨x, fields, hx, hf, hne, -⟩ := DataMapping.axes_eq_ok_iff.mp hp
      exact ⟨x, fields, hx, hf, hne⟩
    · rintro ⟨x, fields, hx, hf, hne⟩
      exact ⟨_, (ofRows_eq_ok_iff_of_axisTypes hc).mpr
        ⟨_, DataMapping.axes_eq_ok_iff.mpr ⟨x, fields, hx, hf, hne, rfl⟩, rfl⟩⟩
  · intro chart h
    obtain ⟨payload, hp, rfl⟩ := (ofRows_eq_ok_iff_of_axisTypes hc).mp h
    obtain ⟨x, fields, hx, hf, -, rfl⟩ := DataMapping.axes_eq_ok_iff.mp hp
    exact ⟨x, fields, _, _, hx, hf, rfl, isAxisChart_shownRows chartType m config rows x fields⟩

/-- Sales of three days, of which two texts write one instant. One row has no day, and the last row
comes after another one of its day. -/
def salesByDay : List Fields :=
  [[("day", .string "2024-03-02"), ("sold", .ofNat 3)],
    [("day", .null), ("sold", .ofNat 8)],
    [("day", .string "2024-03-01 00:00:00"), ("sold", .string "5")],
    [("day", .string "2024-03-01")],
    [("day", .string "2024-03-02"), ("sold", .ofNat 9)]]

private theorem shownRows_salesByDay : (shownRows .line "day" salesByDay).map (·.1) =
    ["2024-03-01 00:00:00", "2024-03-01", "2024-03-02"] := by
  have hkept : labelledRows "day" [] salesByDay =
      [("2024-03-02", [("day", .string "2024-03-02"), ("sold", .ofNat 3)]),
        ("2024-03-01 00:00:00", [("day", .string "2024-03-01 00:00:00"), ("sold", .string "5")]),
        ("2024-03-01", [("day", .string "2024-03-01")])] := rfl
  have hsecond : Instant.ofText? "2024-03-02" = some ⟨1709337600, 0⟩ := by decide +kernel
  have htimed : Instant.ofText? "2024-03-01 00:00:00" = some ⟨1709251200, 0⟩ := by decide +kernel
  have hfirst : Instant.ofText? "2024-03-01" = some ⟨1709251200, 0⟩ := by decide +kernel
  rw [shownRows_of_ne_radar (by decide), hkept, inDateOrder]
  simp [hsecond, htimed, hfirst, List.mergeSort, List.MergeSort.Internal.splitInTwo, Instant.le]

/-- The sales are drawn on a line, where the first row of a day counts. -/
theorem isAxisChart_ofRows_salesByDay :
    let m : DataMapping :=
      { x := some "day", y := some (.many ["sold", "spent"]), series := ["Sold"] }
    ChartType.line ∈ axisTypes ∧ ∃ chart datasets,
      ChartData.ofRows .line salesByDay m {} = .ok chart ∧
        chart.payload =
          .series ["2024-03-01 00:00:00", "2024-03-01", "2024-03-02"] datasets ∧
        IsAxisChart .line m salesByDay "day" ["sold", "spent"]
          ["2024-03-01 00:00:00", "2024-03-01", "2024-03-02"] datasets := by
  intro m
  have hline : ChartType.line ∈ axisTypes := by decide
  obtain ⟨hok, hshape⟩ := ChartData.isAxisChart_ofRows hline salesByDay m {}
  obtain ⟨chart, hchart⟩ := hok.mpr ⟨"day", ["sold", "spent"], rfl, rfl, by simp⟩
  obtain ⟨_, _, labels, datasets, hx, hf, hseries, hdrawn⟩ := hshape chart hchart
  obtain ⟨payload, haxes, rfl⟩ := (ChartData.ofRows_eq_ok_iff_of_axisTypes hline).mp hchart
  obtain ⟨_, _, hx', -, -, rfl⟩ := DataMapping.axes_eq_ok_iff.mp haxes
  cases hx
  cases hf
  cases hx'
  cases hseries
  rw [shownRows_salesByDay] at hdrawn
  exact ⟨hline, _, _, hchart, by rw [shownRows_salesByDay], hdrawn⟩

end TabularReport
