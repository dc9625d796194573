import TabularReport.Proofs.Filter.Contribution

/-!
# Values and the text of a filter

Two values have the same shape for an operator when it binds equally many values for both. Filters
that differ in values of the same shape alone are written as the same text.
-/

namespace TabularReport

/-- The number of items of a value that is a list; other values have none. -/
def Json.itemCount : Option Json → Nat
  | some (.array items) => items.length
  | _ => 0

/-- Whether a value has both bounds of a range. -/
def Json.hasBounds (v : Option Json) : Bool :=
  v.any fun v => ((v.field? "from").bind present?).isSome && ((v.field? "to").bind present?).isSome

/-- Whether two values, if there are any, have the same shape for an operator: lists of the same
length for lists, two bounds or not for ranges, and otherwise presence. A test for null does not
look at values. -/
def Operator.SameShape (op : Operator) (v w : Option Json) : Prop :=
  match op with
  | .isNull | .isNotNull => True
  | .isIn | .notIn => Json.itemCount v = Json.itemCount w
  | .between => Json.hasBounds v = Json.hasBounds w
  | _ => v.isSome = w.isSome

/-- Two conditions in two runs that differ in values of the same shape alone. -/
structure Condition.Alike (p q : Fields) (c d : Condition) : Prop where
  column : c.column = d.column
  operator : c.operator = d.operator
  parameterRef : c.parameterRef = d.parameterRef
  shape : c.operator.SameShape (c.value? p) (d.value? q)

mutual

/-- Two nodes in two runs that differ in values of the same shape alone. -/
def FilterNode.Alike (p q : Fields) : FilterNode → FilterNode → Prop
  | .leaf c, .leaf d => c.Alike p q d
  | .group logic ms, .group logic' ns => logic = logic' ∧ FilterNode.AllAlike p q ms ns
  | _, _ => False

/-- Two lists of nodes that are alike one by one. -/
def FilterNode.AllAlike (p q : Fields) : List FilterNode → List FilterNode → Prop
  | [], [] => True
  | m :: ms, n :: ns => FilterNode.Alike p q m n ∧ FilterNode.AllAlike p q ms ns
  | _, _ => False

end

/-- Two filters in two runs that differ in values of the same shape alone. -/
def FilterGroup.Alike (p q : Fields) (g h : FilterGroup) : Prop :=
  g.logic = h.logic ∧ FilterNode.AllAlike p q g.nodes h.nodes

/-- What the text of a clause depends on: its column, its operator and the number of its values. -/
def Clause.outline (k : Clause) : String × Operator × Nat := (k.column, k.operator, k.values.length)

private theorem Clause.text_eq_of_outline {k l : Clause} (h : k.outline = l.outline) (first : Nat) :
    k.text first = l.text first := by
  simp only [outline, Prod.mk.injEq] at h
  simp only [text, h]

private theorem Operator.length_bind?_items {op : Operator} (h : op = .isIn ∨ op = .notIn)
    (v : Option Json) :
    (v.bind op.bind?).map List.length =
      if Json.itemCount v = 0 then none else some (Json.itemCount v) := by
  have hb : op.bind? = Operator.isIn.bind? := by rcases h with rfl | rfl <;> rfl
  rw [hb]
  cases v with
  | none => rfl
  | some v =>
    cases v with
    | array items => cases items <;> rfl
    | _ => rfl

private theorem Operator.length_bind?_bounds (v : Option Json) :
    (v.bind Operator.between.bind?).map List.length =
      if Json.hasBounds v then some 2 else none := by
  cases v with
  | none => rfl
  | some v =>
    cases hlow : (v.field? "from").bind Json.present? <;>
      cases hhigh : (v.field? "to").bind Json.present? <;>
      simp [bind?, Json.hasBounds, hlow, hhigh]

private theorem Operator.length_bind?_single {op : Operator}
    (h : op.isComparison = true ∨ op = .like ∨ op = .notLike) (v : Option Json) :
    (v.bind op.bind?).map List.length = if v.isSome then some 1 else none := by
  cases v with
  | none => rfl
  | some v => cases op <;> first | rfl | simp [isComparison] at h

private theorem Operator.SameShape.length_bind? {op : Operator} (hn : op.isNullary = false)
    {v w : Option Json} (h : op.SameShape v w) :
    (v.bind op.bind?).map List.length = (w.bind op.bind?).map List.length := by
  cases op with
  | isNull | isNotNull => cases hn
  | isIn | notIn =>
    have hc : Json.itemCount v = Json.itemCount w := h
    rw [length_bind?_items (by simp), length_bind?_items (by simp), hc]
  | between =>
    have hb : Json.hasBounds v = Json.hasBounds w := h
    rw [length_bind?_bounds, length_bind?_bounds, hb]
  | _ =>
    have hs : v.isSome = w.isSome := h
    rw [length_bind?_single (by simp [isComparison]), length_bind?_single (by simp [isComparison]),
      hs]

private theorem Condition.Alike.outline_clause? {p q : Fields} {c d : Condition}
    (h : c.Alike p q d) :
    (c.clause? p).map Clause.outline = (d.clause? q).map Clause.outline := by
  unfold clause?
  rw [← h.operator, ← h.column]
  split
  · rfl
  · next hn =>
    have hl := h.shape.length_bind? (Bool.eq_false_iff.mpr hn)
    have hm := congrArg (Option.map fun n ↦ (c.column, c.operator, n)) hl
    rw [Option.map_map, Option.map_map] at hm ⊢
    exact hm

mutual

private theorem FilterNode.compile_of_alike {p q : Fields} (first : Nat) :
    (m n : FilterNode) → m.Alike p q n →
    (m.compile p first).sql = (n.compile q first).sql ∧
      (m.compile p first).nextIndex = (n.compile q first).nextIndex
  | .leaf c, .leaf d, h => by
    have ho := h.outline_clause?
    rw [compile, compile]
    cases hc : c.clause? p with
    | none =>
      rw [hc] at ho
      rw [Option.map_eq_none_iff.mp ho.symm]
      exact ⟨rfl, rfl⟩
    | some k =>
      rw [hc] at ho
      obtain ⟨l, hd, he⟩ := Option.map_eq_some_iff.mp ho.symm
      rw [hd]
      refine ⟨Clause.text_eq_of_outline he.symm first, ?_⟩
      -- The values themselves may differ; how many there are decides on the index after them.
      have hlen : l.values.length = k.values.length := congrArg (·.2.2) he
      simp only [hlen]
  | .group logic ms, .group logic' ns, h => by
    obtain ⟨rfl, ha⟩ := h
    obtain ⟨hc, hn⟩ := compileAll_of_allAlike first ms ns ha
    have hs : ((compileAll p first ms).join logic).sql =
        ((compileAll q first ns).join logic).sql := by
      rw [Members.join, Members.join, hc]
    have he : ((compileAll p first ms).join logic).isEmpty =
        ((compileAll q first ns).join logic).isEmpty :=
      congrArg String.isEmpty hs
    rw [compile, compile]
    simp only [he, hs]
    by_cases hb : ((compileAll q first ns).join logic).isEmpty = true
    · simp only [if_pos hb]
      exact ⟨hs, hn⟩
    · simp only [if_neg hb]
      exact ⟨trivial, hn⟩
  | .leaf _, .group _ _, h => h.elim
  | .group _ _, .leaf _, h => h.elim

private theorem FilterNode.compileAll_of_allAlike {p q : Fields} (first : Nat) :
    (ms ns : List FilterNode) →
    AllAlike p q ms ns →
    (compileAll p first ms).clauses = (compileAll q first ns).clauses ∧
      (compileAll p first ms).nextIndex = (compileAll q first ns).nextIndex
  | [], [], _ => ⟨rfl, rfl⟩
  | m :: ms, n :: ns, h => by
    obtain ⟨hm, hn⟩ := compile_of_alike first m n h.1
    obtain ⟨hc, hi⟩ := compileAll_of_allAlike (n.compile q first).nextIndex ms ns h.2
    rw [compileAll, compileAll]
    simp only [hm, hn, hc, hi, and_self]
  | [], _ :: _, h => h.elim
  | _ :: _, [], h => h.elim

end

/-- Filters that are alike are compiled to the same text and leave the same index free. -/
theorem FilterGroup.compile_of_alike {p q : Fields} {g h : FilterGroup} (ha : g.Alike p q h)
    (first : Nat) :
    (g.compile p first).sql = (h.compile q first).sql ∧
      (g.compile p first).nextIndex = (h.compile q first).nextIndex := by
  obtain ⟨hl, hn⟩ := ha
  obtain ⟨hc, hi⟩ := FilterNode.compileAll_of_allAlike first g.nodes h.nodes hn
  refine ⟨?_, hi⟩
  rw [compile, compile, Members.join, Members.join, hc, hl]

mutual

private theorem FilterNode.alike_self {p q : Fields} : (n : FilterNode) →
    (∀ c ∈ n.leaves, c.operator.SameShape (c.value? p) (c.value? q)) → n.Alike p q n
  | .leaf c, h => ⟨rfl, rfl, rfl, h c (List.mem_singleton_self c)⟩
  | .group _ nodes, h => ⟨rfl, allAlike_self nodes h⟩

private theorem FilterNode.allAlike_self {p q : Fields} : (ns : List FilterNode) →
    (∀ c ∈ leavesOf ns, c.operator.SameShape (c.value? p) (c.value? q)) → AllAlike p q ns ns
  | [], _ => trivial
  | n :: rest, h =>
    ⟨alike_self n fun c hc ↦ h c (List.mem_append_left _ hc),
      allAlike_self rest fun c hc ↦ h c (List.mem_append_right _ hc)⟩

end

/-- A filter is alike to itself when the values of its conditions have the same shape in two runs.
-/
theorem FilterGroup.alike_self {p q : Fields} {g : FilterGroup}
    (h : ∀ c ∈ g.leaves, c.operator.SameShape (c.value? p) (c.value? q)) : g.Alike p q g :=
  ⟨rfl, FilterNode.allAlike_self g.nodes h⟩

end TabularReport
