import TabularReport.Proofs.Decimal.FloatOrder
import TabularReport.Proofs.Store.Contents

/-!
# Charts of categories

A chart of categories has one label and one value for each row. They stay in the order of the rows,
but on a funnel the larger values come first. The colors repeat over and over.
-/

namespace TabularReport

variable {chartType : ChartType} {m : DataMapping} {config : ChartConfig} {rows : List Fields}

/-- The chart types that draw one value for each row. -/
def categoricalTypes : List ChartType := [.pie, .donut, .polar, .funnel]

/-- The label and the value of a row: the text in one field and the number in another, where the
empty text and zero stand for what is not there. -/
def rowPair (labelField valueField : String) (row : Fields) : String × Float :=
  (((Fields.get? row labelField).map Json.label).getD "",
    ((Fields.get? row valueField).bind Json.float?).getD 0)

/-- How labels and a data set show rows as categories. -/
structure IsCategoricalChart (chartType : ChartType) (config : ChartConfig) (rows : List Fields)
    (labelField valueField : String) (labels : List String) (dataset : Dataset) : Prop where
  named : dataset.label = valueField
  labels_length : labels.length = rows.length
  data_length : dataset.data.length = rows.length
  /-- On all but a funnel the entries at a place are those of the row there. -/
  aligned : chartType ≠ .funnel → ∀ (i : Nat) (row : Fields), rows[i]? = some row →
    labels[i]? = some (rowPair labelField valueField row).1 ∧
      dataset.data[i]? = some (rowPair labelField valueField row).2
  /-- On a funnel the entries are those of the rows, put into falling order of their values. -/
  falling : chartType = .funnel →
    SortsBy Prod.snd (fun a b ↦ TotalLe b a) (rows.map (rowPair labelField valueField))
      (labels.zip dataset.data)
  /-- Each entry has one of the colors, and after the last color comes the first one again. -/
  colored : config.colors ≠ [] → dataset.colors.length = rows.length ∧
    ∀ i < rows.length, dataset.colors[i]? = config.colors[i % config.colors.length]?
  uncolored : config.colors = [] → dataset.colors = []

private theorem IsCategoricalChart.not_lt {labelField valueField : String} {labels : List String}
    {dataset : Dataset}
    (h : IsCategoricalChart .funnel config rows labelField valueField labels dataset) :
    dataset.data.Pairwise fun a b ↦ ¬ a < b := by
  have hlength : dataset.data.length ≤ labels.length :=
    Nat.le_of_eq (h.data_length.trans h.labels_length.symm)
  rw [← List.map_snd_zip hlength, List.pairwise_map]
  exact (h.falling rfl).ordered.imp TotalLe.not_lt

private theorem sortsBy_fallingOrder (pairs : List (String × Float)) :
    SortsBy Prod.snd (fun a b ↦ TotalLe b a) pairs (fallingOrder pairs) := by
  have hsorts := sortsBy_mergeSort (Prod.snd : String × Float → Float)
    (fun a b ↦ floatRank b ≤ floatRank a) (fun hab hbc ↦ Int.le_trans hbc hab)
    (fun a b ↦ Int.le_total (floatRank b) (floatRank a)) pairs
  exact ⟨hsorts.perm, hsorts.ordered.imp floatRank_le_iff.mp, hsorts.stable⟩

private theorem cycledColors_spec {colors : List String} (h : colors ≠ []) (n : Nat) :
    (cycledColors colors n).length = n ∧
      ∀ i < n, (cycledColors colors n)[i]? = colors[i % colors.length]? := by
  have hpos : 0 < colors.length := List.length_pos_iff.mpr h
  have hcolors : cycledColors colors n =
      (List.range n).map fun i ↦ colors.get ⟨i % colors.length, Nat.mod_lt _ hpos⟩ := by
    rw [cycledColors, ← List.filterMap_eq_map]
    congr 1
    funext i
    exact List.getElem?_eq_getElem _
  rw [hcolors]
  refine ⟨by rw [List.length_map, List.length_range], fun i hi ↦ ?_⟩
  rw [List.getElem?_map, List.getElem?_range hi, Option.map_some,
    List.getElem?_eq_getElem (Nat.mod_lt i hpos), List.get_eq_getElem]

private theorem cycledColors_nil (n : Nat) : cycledColors [] n = [] :=
  List.filterMap_eq_nil_iff.mpr fun _ _ ↦ rfl

/-- The pairs of label and value that a chart of categories shows. -/
def shownPairs (chartType : ChartType) (labelField valueField : String) (rows : List Fields) :
    List (String × Float) :=
  if chartType = .funnel then fallingOrder (rows.map (rowPair labelField valueField))
  else rows.map (rowPair labelField valueField)

private theorem length_shownPairs (chartType : ChartType) (labelField valueField : String)
    (rows : List Fields) :
    (shownPairs chartType labelField valueField rows).length = rows.length := by
  unfold shownPairs
  split
  · rw [(sortsBy_fallingOrder _).perm.length_eq, List.length_map]
  · rw [List.length_map]

private theorem DataMapping.categorical_eq_ok_iff {payload : ChartPayload} :
    m.categorical chartType config rows = .ok payload ↔
      ∃ labelField valueField, m.labels = some labelField ∧ m.values = some valueField ∧
        payload = .series ((shownPairs chartType labelField valueField rows).map (·.1))
          [⟨valueField, (shownPairs chartType labelField valueField rows).map (·.2),
            cycledColors config.colors rows.length⟩] := by
  unfold categorical
  cases m.labels with
  | none => simp [require, bind, Except.bind]
  | some labelField =>
    cases m.values with
    | none => simp [require, bind, Except.bind]
    | some valueField =>
      change Except.ok (ChartPayload.series
        ((shownPairs chartType labelField valueField rows).map _)
        [⟨valueField, (shownPairs chartType labelField valueField rows).map _,
          cycledColors config.colors (shownPairs chartType labelField valueField rows).length⟩]) =
        _ ↔ _
      rw [length_shownPairs]
      simp [eq_comm]

private theorem ChartData.ofRows_of_categoricalTypes (hc : chartType ∈ categoricalTypes)
    (rows : List Fields) (m : DataMapping) (config : ChartConfig) :
    ChartData.ofRows chartType rows m config =
      (m.categorical chartType config rows).map fun payload ↦
        ⟨chartType, payload, config.chartOptions chartType⟩ := by
  simp only [categoricalTypes, List.mem_cons, List.not_mem_nil, or_false] at hc
  rcases hc with rfl | rfl | rfl | rfl <;>
  · unfold ChartData.ofRows
    dsimp only
    cases m.categorical _ config rows <;> rfl

private theorem isCategoricalChart_shownPairs (chartType : ChartType) (config : ChartConfig)
    (rows : List Fields) (labelField valueField : String) :
    IsCategoricalChart chartType config rows labelField valueField
      ((shownPairs chartType labelField valueField rows).map (·.1))
      ⟨valueField, (shownPairs chartType labelField valueField rows).map (·.2),
        cycledColors config.colors rows.length⟩ where
  named := rfl
  labels_length := by rw [List.length_map, length_shownPairs]
  data_length := by rw [List.length_map, length_shownPairs]
  aligned := by
    intro hc i row hrow
    rw [shownPairs, if_neg hc]
    simp only [List.getElem?_map, hrow, Option.map_some, and_self]
  falling := by
    intro hc
    have hzip : shownPairs chartType labelField valueField rows = _ := List.zip_of_prod rfl rfl
    change SortsBy Prod.snd _ _ (((shownPairs chartType labelField valueField rows).map _).zip _)
    rw [← hzip, shownPairs, if_pos hc]
    exact sortsBy_fallingOrder _
  colored := fun h ↦ cycledColors_spec h rows.length
  uncolored := by
    intro h
    rw [h]
    exact cycledColors_nil _

/-- A chart of categories is there when there are a field of labels and one of values, and has one
data set whose values stay with their labels. -/
theorem ChartData.isCategoricalChart_ofRows (hc : chartType ∈ categoricalTypes)
    (rows : List Fields) (m : DataMapping) (config : ChartConfig) :
    ((∃ chart, ChartData.ofRows chartType rows m config = .ok chart) ↔
      m.labels.isSome = true ∧ m.values.isSome = true) ∧
    ∀ chart, ChartData.ofRows chartType rows m config = .ok chart →
      ∃ labelField valueField labels dataset, m.labels = some labelField ∧
        m.values = some valueField ∧ chart.payload = .series labels [dataset] ∧
        IsCategoricalChart chartType config rows labelField valueField labels dataset ∧
        (chartType = .funnel → dataset.data.Pairwise fun a b ↦ ¬ a < b) := by
  have hpayload {chart : ChartData} : ChartData.ofRows chartType rows m config = .ok chart ↔
      ∃ payload, m.categorical chartType config rows = .ok payload ∧
        ⟨chartType, payload, config.chartOptions chartType⟩ = chart := by
    rw [ofRows_of_categoricalTypes hc]
    cases m.categorical chartType config rows <;> simp [Except.map]
  constructor
  · rw [Option.isSome_iff_exists, Option.isSome_iff_exists]
    constructor
    · rintro ⟨chart, h⟩
      obtain ⟨payload, hp, -⟩ := hpayload.mp h
      obtain ⟨labelField, valueField, hlabels, hvalues, -⟩ :=
        DataMapping.categorical_eq_ok_iff.mp hp
      exact ⟨⟨labelField, hlabels⟩, valueField, hvalues⟩
    · rintro ⟨⟨labelField, hlabels⟩, valueField, hvalues⟩
      exact ⟨_, hpayload.mpr ⟨_, DataMapping.categorical_eq_ok_iff.mpr
        ⟨labelField, valueField, hlabels, hvalues, rfl⟩, rfl⟩⟩
  · intro chart h
    obtain ⟨payload, hp, rfl⟩ := hpayload.mp h
    obtain ⟨labelField, valueField, hlabels, hvalues, rfl⟩ :=
      DataMapping.categorical_eq_ok_iff.mp hp
    have hchart := isCategoricalChart_shownPairs chartType config rows labelField valueField
    refine ⟨labelField, valueField, _, _, hlabels, hvalues, rfl, hchart, ?_⟩
    rintro rfl
    exact hchart.not_lt

/-- Visitors by stage. One number is a text, one is null, one is missing, and one stage has no
name. -/
def visitorsByStage : List Fields :=
  [[("stage", .string "sign-up"), ("count", .string "12.5")],
    [("stage", .string "refund"), ("count", .null)],
    [("stage", .string "visit"), ("count", .ofNat 40)],
    [("count", .ofNat 12)],
    [("stage", .string "trial")]]

private theorem shownPairs_visitorsByStage :
    shownPairs .funnel "stage" "count" visitorsByStage =
      [("visit", 40), ("sign-up", 12.5), ("", 12), ("refund", 0), ("trial", 0)] := by
  have hpairs : visitorsByStage.map (rowPair "stage" "count") =
      [("sign-up", 12.5), ("refund", 0), ("visit", 40), ("", 12), ("trial", 0)] := by
    decide +kernel
  have hranks : floatRank 0 = 0 ∧ floatRank 12 = 4622945017495814144 ∧
      floatRank 12.5 = 4623226492472524800 ∧ floatRank 40 = 4630826316843712512 := by
    decide +kernel
  rw [shownPairs, if_pos rfl, hpairs, fallingOrder]
  simp [hranks, List.mergeSort, List.MergeSort.Internal.splitInTwo]

/-- A funnel of the visitors, in two colors. -/
theorem isCategoricalChart_ofRows_visitorsByStage :
    let m : DataMapping := { labels := some "stage", values := some "count" }
    let config : ChartConfig := { colors := ["#036", "#69c"] }
    ChartType.funnel ∈ categoricalTypes ∧ ∃ chart dataset,
      ChartData.ofRows .funnel visitorsByStage m config = .ok chart ∧
        chart.payload = .series ["visit", "sign-up", "", "refund", "trial"] [dataset] ∧
        dataset.data = [40, 12.5, 12, 0, 0] ∧
        dataset.colors = ["#036", "#69c", "#036", "#69c", "#036"] ∧
        IsCategoricalChart .funnel config visitorsByStage "stage" "count"
          ["visit", "sign-up", "", "refund", "trial"] dataset ∧
        dataset.data.Pairwise fun a b ↦ ¬ a < b := by
  intro m config
  have hfunnel : ChartType.funnel ∈ categoricalTypes := by decide
  obtain ⟨hok, hshape⟩ := ChartData.isCategoricalChart_ofRows hfunnel visitorsByStage m config
  obtain ⟨chart, hchart⟩ := hok.mpr ⟨rfl, rfl⟩
  obtain ⟨_, _, labels, dataset, hlabels, hvalues, hseries, hdrawn, hfalling⟩ :=
    hshape chart hchart
  cases hlabels
  cases hvalues
  have hcolors : cycledColors ["#036", "#69c"] 5 = ["#036", "#69c", "#036", "#69c", "#036"] := by
    decide
  have hshown : chart.payload = .series ["visit", "sign-up", "", "refund", "trial"]
      [⟨"count", [40, 12.5, 12, 0, 0], ["#036", "#69c", "#036", "#69c", "#036"]⟩] := by
    rw [ChartData.ofRows_of_categoricalTypes hfunnel,
      DataMapping.categorical_eq_ok_iff.mpr ⟨"stage", "count", rfl, rfl, rfl⟩] at hchart
    cases hchart
    dsimp only
    rw [shownPairs_visitorsByStage, ← hcolors]
    rfl
  rw [hshown] at hseries
  cases hseries
  exact ⟨hfunnel, chart, _, hchart, hshown, rfl, rfl, hdrawn, hfalling rfl⟩

end TabularReport
