import TabularReport.Document.Source
import TabularReport.Proofs.Json.Fields

/-!
# Values that are read as themselves

Reading a value whole puts the fields of its objects in the order of their keys. A value that has
been read is settled: reading it again changes nothing.
-/

namespace TabularReport

private theorem Fields.mem_or_mem_of_mem_overlay {below above : Fields} (h : IsSorted below)
    {p : String × Json} (hp : p ∈ overlay below above) : p ∈ above ∨ p ∈ below := by
  induction above generalizing below with
  | nil => exact .inr hp
  | cons q rest ih =>
    rcases ih (isSorted_insert h q.1 q.2) hp with hrest | hinsert
    · exact .inl (List.mem_cons_of_mem _ hrest)
    · rcases (mem_insert h).mp hinsert with rfl | ⟨hbelow, -⟩
      · exact .inl (List.mem_cons_self ..)
      · exact .inr hbelow

/-- The map of a list of pairs holds no others. -/
theorem Fields.mem_of_mem_ofList {pairs : List (String × Json)} {p : String × Json}
    (hp : p ∈ ofList pairs) : p ∈ pairs :=
  (mem_or_mem_of_mem_overlay List.Pairwise.nil hp).resolve_right List.not_mem_nil

/-- A sorted map is the map of its pairs. -/
theorem Fields.IsSorted.ofList_eq {fields : Fields} (h : IsSorted fields) :
    ofList fields = fields :=
  (isSorted_ofList fields).eq_of_mem_iff h fun _ ↦ mem_ofList h.nodup_keys

namespace Json

/-- Whether a value is read as itself. -/
def IsSettled (v : Json) : Prop := v.source.value = .ok v

private theorem itemValues_sourceItems {items : List Json} (h : ∀ v ∈ items, v.IsSettled) :
    Source.itemValues (sourceItems items) = .ok items := by
  induction items with
  | nil => rfl
  | cons v rest ih =>
    have hv : v.source.value = .ok v := h v (List.mem_cons_self ..)
    have hrest := ih fun w hw ↦ h w (List.mem_cons_of_mem _ hw)
    simp only [sourceItems, Source.itemValues, hv, hrest]

private theorem entryValues_sourceFields {fields : Fields} (h : ∀ p ∈ fields, p.2.IsSettled) :
    Source.entryValues (sourceFields fields) = .ok fields := by
  induction fields with
  | nil => rfl
  | cons p rest ih =>
    obtain ⟨key, v⟩ := p
    have hv : v.source.value = .ok v := h (key, v) (List.mem_cons_self ..)
    have hrest := ih fun q hq ↦ h q (List.mem_cons_of_mem _ hq)
    simp only [sourceFields, Source.entryValues, hv, hrest]

private theorem isSettled_array {items : List Json} (h : ∀ v ∈ items, v.IsSettled) :
    (array items).IsSettled := by
  simp only [IsSettled, source, Source.value, itemValues_sourceItems h]

/-- A sorted object of settled fields is settled. -/
theorem isSettled_object {fields : Fields} (hs : Fields.IsSorted fields)
    (h : ∀ p ∈ fields, p.2.IsSettled) : (object fields).IsSettled := by
  simp only [IsSettled, source, Source.value, entryValues_sourceFields h, hs.ofList_eq]

mutual

/-- Every value can be read, and what it is read as is settled. -/
theorem exists_value_source : (v : Json) → ∃ w, v.source.value = .ok w ∧ w.IsSettled
  | .null => ⟨_, rfl, rfl⟩
  | .bool _ => ⟨_, rfl, rfl⟩
  | .number _ => ⟨_, rfl, rfl⟩
  | .string _ => ⟨_, rfl, rfl⟩
  | .array items => by
    obtain ⟨ws, hws, hsettled⟩ := exists_itemValues items
    refine ⟨.array ws, ?_, isSettled_array hsettled⟩
    simp only [source, Source.value, hws]
  | .object fields => by
    obtain ⟨pairs, hpairs, hsettled⟩ := exists_entryValues fields
    refine ⟨.object (Fields.ofList pairs), ?_, ?_⟩
    · simp only [source, Source.value, hpairs]
    · exact isSettled_object (Fields.isSorted_ofList pairs) fun p hp ↦
        hsettled p (Fields.mem_of_mem_ofList hp)

/-- Every item can be read, and what it is read as is settled. -/
theorem exists_itemValues : (items : List Json) →
    ∃ ws, Source.itemValues (sourceItems items) = .ok ws ∧ ∀ w ∈ ws, w.IsSettled
  | [] => ⟨[], rfl, nofun⟩
  | v :: rest => by
    obtain ⟨w, hw, hsettled⟩ := exists_value_source v
    obtain ⟨ws, hws, hall⟩ := exists_itemValues rest
    refine ⟨w :: ws, ?_, List.forall_mem_cons.mpr ⟨hsettled, hall⟩⟩
    simp only [sourceItems, Source.itemValues, hw, hws]

/-- Every field can be read, and what it is read as is settled. -/
theorem exists_entryValues : (fields : List (String × Json)) →
    ∃ pairs, Source.entryValues (sourceFields fields) = .ok pairs ∧ ∀ p ∈ pairs, p.2.IsSettled
  | [] => ⟨[], rfl, nofun⟩
  | (key, v) :: rest => by
    obtain ⟨w, hw, hsettled⟩ := exists_value_source v
    obtain ⟨pairs, hpairs, hall⟩ := exists_entryValues rest
    refine ⟨(key, w) :: pairs, ?_, List.forall_mem_cons.mpr ⟨hsettled, hall⟩⟩
    simp only [sourceFields, Source.entryValues, hw, hpairs]

end

/-- What a value is read as is settled. -/
theorem isSettled_of_value {v w : Json} (h : v.source.value = .ok w) : w.IsSettled := by
  obtain ⟨u, hu, hsettled⟩ := exists_value_source v
  rw [h] at hu
  cases hu
  exact hsettled

end Json

end TabularReport
