import TabularReport.Filter.Document
import TabularReport.Proofs.Document.Record

/-!
# What filter trees are read from

A node is read as a condition where that succeeds and as a group otherwise, so a tree mirrors the
value that it is read from: every group has one member for each element of its list, in order, and
only a value that can be read as a condition becomes a leaf.
-/

namespace TabularReport

namespace Source

private theorem depth_le_itemsDepth {s : Source} {items : List Source} (h : s ∈ items) :
    s.depth ≤ itemsDepth items := by
  induction items with
  | nil => cases h
  | cons t rest ih =>
    rw [itemsDepth]
    cases h with
    | head => exact Nat.le_max_left ..
    | tail _ h => exact Nat.le_trans (ih h) (Nat.le_max_right ..)

private theorem depth_le_entriesDepth {entry : String × Source} {entries : List (String × Source)}
    (h : entry ∈ entries) : entry.2.depth ≤ entriesDepth entries := by
  induction entries with
  | nil => cases h
  | cons t rest ih =>
    obtain ⟨key, s⟩ := t
    rw [entriesDepth]
    cases h with
    | head => exact Nat.le_max_left ..
    | tail _ h => exact Nat.le_trans (ih h) (Nat.le_max_right ..)

end Source

private theorem Reader.items_congr {α : Type} {r r' : Reader α} {o : Origin} {sources : List Source}
    (h : ∀ s ∈ sources, r o s = r' o s) : items r o sources = items r' o sources := by
  induction sources with
  | nil => rfl
  | cons s rest ih =>
    have hrest := ih fun t ht ↦ h t (List.mem_cons_of_mem _ ht)
    rw [items, items, h s (List.mem_cons_self ..), hrest]

private theorem Reader.list_congr {α : Type} {r r' : Reader α} {o : Origin} {s : Source}
    (h : ∀ t : Source, t.depth < s.depth → r o t = r' o t) : list r o s = list r' o s := by
  cases s with
  | array sources stop =>
    have hitems : items r o sources = items r' o sources := by
      refine items_congr fun t ht ↦ h t ?_
      exact Nat.lt_succ_of_le (Source.depth_le_itemsDepth ht)
    simp only [list, hitems]
  | null | bool | number | string | object | unreadable | nestedTooDeep | cut => rfl

namespace FilterGroup

private theorem readerOf_congr {member member' : Reader FilterNode} {o : Origin} {s : Source}
    (h : ∀ t : Source, t.depth + 1 < s.depth → member o t = member' o t) :
    readerOf member o s = readerOf member' o s := by
  have hconditions {i : Nat} {form : RecordForm}
      (hparts : ∀ p ∈ RecordReader.parts form, p.depth < s.depth) :
      (RecordReader.defaulted "conditions" (Reader.list member) []).run o i form =
        (RecordReader.defaulted "conditions" (Reader.list member') []).run o i form := by
    refine RecordReader.run_fieldWith_congr fun p hp ↦ Reader.list_congr fun t ht ↦ h t ?_
    have := hparts p hp
    omega
  refine RecordReader.reader_congr rfl rfl ?_ ?_
  · rintro items stop rfl
    have hparts (p : Source) (hp : p ∈ RecordReader.parts (.positional items stop)) :
        p.depth < (Source.array items stop).depth :=
      Nat.lt_succ_of_le (Source.depth_le_itemsDepth hp)
    change (RecordReader.combine _ _).run _ _ _ = (RecordReader.combine _ _).run _ _ _
    simp only [RecordReader.combine]
    rw [hconditions hparts]
  · rintro entries stop rfl
    have hparts (p : Source) (hp : p ∈ RecordReader.parts (.keyed entries)) :
        p.depth < (Source.object entries stop).depth := by
      obtain ⟨entry, hentry, rfl⟩ := List.mem_map.mp hp
      exact Nat.lt_succ_of_le (Source.depth_le_entriesDepth hentry)
    change (RecordReader.combine _ _).run _ _ _ = (RecordReader.combine _ _).run _ _ _
    simp only [RecordReader.combine]
    rw [hconditions hparts]

end FilterGroup

namespace FilterNode

/-- Read what was set aside as a condition when it can be, and else as a group of members. -/
def chosenBy (member : Reader FilterNode) (s : Source) : Except ReadError FilterNode :=
  match Condition.reader .setAside s with
  | .ok c => .ok (.leaf c)
  | .error _ =>
    match FilterGroup.readerOf member .setAside s with
    | .ok g => .ok g.node
    | .error _ => .error (.noVariant "ConditionNode")

private theorem chosenBy_congr {member member' : Reader FilterNode} {s : Source}
    (h : ∀ t : Source, t.depth + 1 < s.depth → member .setAside t = member' .setAside t) :
    chosenBy member s = chosenBy member' s := by
  unfold chosenBy
  rw [FilterGroup.readerOf_congr h]

private theorem readerWithin_eq {n m : Nat} {o : Origin} {s : Source} (hn : s.depth < n)
    (hm : s.depth < m) : readerWithin n o s = readerWithin m o s := by
  induction n generalizing m o s with
  | zero => exact absurd hn (Nat.not_lt_zero _)
  | succ n ih =>
    cases m with
    | zero => exact absurd hm (Nat.not_lt_zero _)
    | succ m =>
      have hchosen : chosenBy (readerWithin n) s = chosenBy (readerWithin m) s :=
        chosenBy_congr fun t ht ↦ ih (by omega) (by omega)
      change Reader.settingAside (chosenBy _) o s = Reader.settingAside (chosenBy _) o s
      cases o <;> simp only [Reader.settingAside, hchosen]

/-- A node is read by setting it aside and choosing what it is. -/
theorem reader_eq (o : Origin) (s : Source) :
    reader o s = Reader.settingAside (chosenBy reader) o s := by
  have hchosen : chosenBy (readerWithin s.depth) s = chosenBy reader s :=
    chosenBy_congr fun t ht ↦ readerWithin_eq (by omega) (Nat.lt_succ_self _)
  change Reader.settingAside (chosenBy _) o s = _
  cases o <;> simp only [Reader.settingAside, hchosen]

/-- A node that is read is a condition that can be read, or a group that cannot be read as one. -/
theorem chosen_of_reader {o : Origin} {s : Source} {n : FilterNode} (h : reader o s = .ok n) :
    (∃ c, Condition.reader .setAside s = .ok c ∧ n = .leaf c) ∨
      (∀ c, Condition.reader .setAside s ≠ .ok c) ∧
        ∃ g, FilterGroup.reader .setAside s = .ok g ∧ n = g.node := by
  have hchosen : chosenBy reader s = .ok n := by
    rw [reader_eq] at h
    cases o with
    | text =>
      simp only [Reader.settingAside] at h
      split at h
      · cases h
      · exact h
    | value | setAside => exact h
  unfold chosenBy at hchosen
  split at hchosen
  · next c hc =>
    cases hchosen
    exact .inl ⟨c, hc, rfl⟩
  · next e he =>
    refine .inr ⟨fun c hc ↦ ?_, ?_⟩
    · rw [he] at hc
      cases hc
    · split at hchosen
      · next g hg =>
        cases hchosen
        exact ⟨g, hg, rfl⟩
      · cases hchosen

end FilterNode

/-- The values that are listed as the conditions of a group. -/
def Json.members (v : Json) : List Json :=
  match v.part? "conditions" 1 with
  | some (.array items) => items
  | _ => []

/-- Whether a value has the shape of a group: it has no column, and where it has conditions they
are a list. -/
structure Json.IsGroupShaped (v : Json) : Prop where
  column : v.field? "column" = none
  conditions : ∀ w, v.part? "conditions" 1 = some w → w = .array v.members

/-- Whether a value names the column and the comparison of a condition. -/
structure Condition.IsNamedBy (c : Condition) (v : Json) : Prop where
  column : v.part? "column" 0 = some (.string c.column)
  operator : ∃ w, v.part? "operator" 1 = some w ∧
    Operator.reader .setAside w.source = .ok c.operator

mutual

/-- Whether a node mirrors a value: a leaf is a condition that the value can be read as, and a group
has the shape of one, cannot be read as a condition, and mirrors its members. -/
def FilterNode.ReadFrom : FilterNode → Json → Prop
  | .leaf c, v => Condition.reader .setAside v.source = .ok c ∧ c.IsNamedBy v
  | .group _ nodes, v =>
    (∀ c, Condition.reader .setAside v.source ≠ .ok c) ∧ v.IsGroupShaped ∧
      FilterNode.AllReadFrom nodes v.members

/-- Whether nodes mirror values one by one, in order. -/
def FilterNode.AllReadFrom : List FilterNode → List Json → Prop
  | [], [] => True
  | n :: ns, v :: vs => n.ReadFrom v ∧ FilterNode.AllReadFrom ns vs
  | _, _ => False

end

/-- Whether a group mirrors a value: the value has the shape of a group, and the nodes of the group
mirror its members. -/
def FilterGroup.ReadFrom (g : FilterGroup) (v : Json) : Prop :=
  v.IsGroupShaped ∧ FilterNode.AllReadFrom g.nodes v.members

private theorem Reader.eq_string_of_string {o : Origin} {v : Json} {s : String}
    (h : string o v.source = .ok s) : v = .string s := by
  cases v with
  | string t =>
    cases h
    rfl
  | null | bool | number | array | object =>
    rw [Json.source] at h
    cases h

/-- A value that is read as a condition names its column and its comparison. -/
theorem Condition.isNamedBy_of_reader {v : Json} {c : Condition}
    (h : Condition.reader .setAside v.source = .ok c) : c.IsNamedBy v := by
  obtain ⟨form, hform, hfields⟩ := RecordReader.exists_form_of_reader h
  obtain ⟨_, parameterRef, hthree, -, rfl⟩ := RecordReader.run_seq_eq_ok_iff.mp hfields
  obtain ⟨_, value, htwo, -, rfl⟩ := RecordReader.run_seq_eq_ok_iff.mp hthree
  obtain ⟨_, operator, hone, hoperator, rfl⟩ := RecordReader.run_seq_eq_ok_iff.mp htwo
  obtain ⟨column, hcolumn, rfl⟩ := RecordReader.run_map_eq_ok_iff.mp hone
  obtain ⟨-, hd⟩ | ⟨w, hw, hs⟩ := RecordReader.part?_of_run hform hcolumn
  · cases hd
  obtain ⟨-, hd⟩ | ⟨u, hu, ho⟩ := RecordReader.part?_of_run hform hoperator
  · cases hd
  rw [Reader.eq_string_of_string hs] at hw
  exact ⟨hw, u, hu, ho⟩

namespace FilterGroup

variable {o : Origin} {v : Json} {g : FilterGroup}

private theorem field?_column_of_reader (h : reader o v.source = .ok g) :
    v.field? "column" = none := by
  cases hv : v with
  | object fields =>
    rw [Json.field?, Fields.get?, Option.map_eq_none_iff, List.find?_eq_none]
    intro field hfield hcolumn
    have hkeys := RecordReader.mem_keys_of_reader h hv field hfield
    rw [beq_iff_eq.mp hcolumn] at hkeys
    exact absurd hkeys (by decide)
  | null | bool | number | string | array => rfl

/-- The nodes of a group are read from its members, one from each, in order. -/
theorem items_of_reader (h : reader o v.source = .ok g) :
    v.IsGroupShaped ∧
      Reader.items FilterNode.reader o (Json.sourceItems v.members) = .ok g.nodes := by
  obtain ⟨form, hform, hfields⟩ := RecordReader.exists_form_of_reader h
  obtain ⟨_, nodes, hlogic, hnodes, rfl⟩ := RecordReader.run_seq_eq_ok_iff.mp hfields
  obtain ⟨logic, -, rfl⟩ := RecordReader.run_map_eq_ok_iff.mp hlogic
  obtain ⟨hnone, hd⟩ | ⟨w, hw, hlist⟩ := RecordReader.part?_of_run hform hnodes
  · have hpart : v.part? "conditions" 1 = none := hnone
    cases hd
    refine ⟨⟨field?_column_of_reader h, ?_⟩, ?_⟩
    · intro w hw
      rw [hpart] at hw
      cases hw
    · rw [Json.members, hpart]
      rfl
  · obtain ⟨vs, rfl, hitems⟩ := Reader.items_of_list hlist
    have hpart : v.part? "conditions" 1 = some (.array vs) := hw
    have hmembers : v.members = vs := by rw [Json.members, hpart]
    refine ⟨⟨field?_column_of_reader h, ?_⟩, ?_⟩
    · intro w hw
      rw [hpart] at hw
      rw [hmembers, ← Option.some.inj hw]
    · rw [hmembers]
      exact hitems

end FilterGroup

mutual

private theorem FilterNode.readFrom_of_eq_ok : (n : FilterNode) → {o : Origin} → {v : Json} →
    FilterNode.reader o v.source = .ok n → n.ReadFrom v
  | .leaf c, o, v, h => by
    obtain ⟨d, hd, he⟩ | ⟨-, g, -, he⟩ := chosen_of_reader h
    · cases he
      exact ⟨hd, Condition.isNamedBy_of_reader hd⟩
    · cases he
  | .group logic nodes, o, v, h => by
    obtain ⟨d, -, he⟩ | ⟨hnot, g, hg, he⟩ := chosen_of_reader h
    · cases he
    · cases he
      obtain ⟨hshape, hitems⟩ := FilterGroup.items_of_reader hg
      exact ⟨hnot, hshape, FilterNode.allReadFrom_of_items g.nodes hitems⟩

private theorem FilterNode.allReadFrom_of_items :
    (ns : List FilterNode) → {o : Origin} → {vs : List Json} →
    Reader.items FilterNode.reader o (Json.sourceItems vs) = .ok ns →
    FilterNode.AllReadFrom ns vs
  | [], o, vs, h => by
    cases vs with
    | nil => trivial
    | cons v rest =>
      rw [Json.sourceItems, Reader.items_cons_eq_ok_iff] at h
      obtain ⟨_, _, _, _, he⟩ := h
      cases he
  | n :: ns, o, vs, h => by
    cases vs with
    | nil => cases h
    | cons v rest =>
      rw [Json.sourceItems, Reader.items_cons_eq_ok_iff] at h
      obtain ⟨m, more, hv, hrest, he⟩ := h
      cases he
      exact ⟨FilterNode.readFrom_of_eq_ok n hv, FilterNode.allReadFrom_of_items ns hrest⟩

end

/-- Every group that is read mirrors the value that it is read from, at every depth: each element of
a list of conditions becomes a node, in order, and a node with a column becomes no group. An object
with a list of conditions of its own becomes a leaf only when it can be read as a condition too. -/
theorem FilterGroup.readFrom_of_reader {v : Json} {g : FilterGroup}
    (h : FilterGroup.reader.ofJson v = .ok g) : g.ReadFrom v := by
  obtain ⟨hshape, hitems⟩ := FilterGroup.items_of_reader h
  exact ⟨hshape, FilterNode.allReadFrom_of_items g.nodes hitems⟩

/-- The condition that an order is open. -/
def openOrders : Json :=
  .object [("column", .string "status"), ("operator", .string "="), ("value", .string "open")]

/-- Orders that are open, or large and not closed: a condition beside a group of two. -/
def openOrLarge : Json :=
  .object
    [("conditions", .array
        [openOrders,
          .object
            [("conditions", .array
                [.array [.string "amount", .string ">=", .number (.int 10)],
                  .object [("column", .string "closed"), ("operator", .string "is null")]])]]),
      ("operator", .string "or")]

/-- A tree that nests, in both forms of a condition, mirrors its value. -/
theorem FilterGroup.readFrom_openOrLarge :
    ∃ g, FilterGroup.reader.ofJson openOrLarge = .ok g ∧ g.leaves.length = 3 ∧
      g.ReadFrom openOrLarge :=
  have h : FilterGroup.reader.ofJson openOrLarge =
      .ok ⟨.or,
        [.leaf { column := "status", operator := .equal, value := some (.string "open") },
          .group .and
            [.leaf
                { column := "amount", operator := .greaterOrEqual
                  value := some (.number (.int 10)) },
              .leaf { column := "closed", operator := .isNull }]]⟩ := rfl
  ⟨_, h, rfl, FilterGroup.readFrom_of_reader h⟩

/-- A node that is a condition on the region and lists a condition on the status. -/
def northernOpenOrders : Json :=
  .object
    [("column", .string "region"), ("conditions", .array [openOrders]), ("operator", .string "="),
      ("value", .string "north")]

/-- The node becomes a leaf, and the condition that it lists is lost without an error. -/
theorem FilterGroup.loses_northernOpenOrders :
    northernOpenOrders.members = [openOrders] ∧
      FilterGroup.reader.ofJson (.object [("conditions", .array [northernOpenOrders])]) =
        .ok ⟨.and,
          [.leaf { column := "region", operator := .equal, value := some (.string "north") }]⟩ :=
  ⟨rfl, rfl⟩

end TabularReport
