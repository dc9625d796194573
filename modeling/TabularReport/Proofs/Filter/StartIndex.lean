import TabularReport.Proofs.Filter.WordIndex
import TabularReport.Proofs.Statement.Numbering
import TabularReport.Proofs.Text.Numeral

/-!
# Filters compiled from another index

A filter can be compiled from any index on. From a later index it binds the same values, and its
text is the same one with every placeholder moved on by the difference. The values are those of the
conditions from left to right; a condition that is dropped takes no index.
-/

namespace TabularReport

namespace Placeholder

open Text

/-- Change the number after each dollar sign of a text. `inNumber` says whether the text goes on
with digits of a number that has been written anew behind its dollar sign already. -/
def renumber (change : Nat → Nat) (inNumber : Bool) : List Char → List Char
  | [] => []
  | c :: rest =>
    if c = '$' then
      let ds := rest.takeWhile isDigit
      let number := if ds.isEmpty then [] else Nat.toDigits 10 (change (digitsValue ds))
      c :: (number ++ renumber change true rest)
    else if inNumber && isDigit c then renumber change true rest
    else c :: renumber change false rest

/-- Replace each placeholder `$j` of a text by the one that is so many places further on. -/
def moveOn (distance : Nat) (s : String) : String :=
  String.ofList (renumber (· + distance) false s.toList)

variable {change : Nat → Nat} {a b : List Char}

private theorem renumber_eq_of_startsWithDigit (inNumber : Bool) (h : startsWithDigit b = false) :
    renumber change inNumber b = renumber change false b := by
  cases b with
  | nil => rfl
  | cons c rest =>
    have hc : isDigit c = false := h
    simp only [renumber, hc, Bool.and_false]

private theorem renumber_append (inNumber : Bool) (a : List Char) (h : startsWithDigit b = false) :
    renumber change inNumber (a ++ b) = renumber change inNumber a ++ renumber change false b := by
  induction a generalizing inNumber with
  | nil => exact renumber_eq_of_startsWithDigit inNumber h
  | cons c rest ih =>
    have hb : b.takeWhile isDigit = [] := by
      cases b with
      | nil => rfl
      | cons d more => exact List.takeWhile_cons_of_neg (by simpa [startsWithDigit] using h)
    have hdigits : (rest ++ b).takeWhile isDigit = rest.takeWhile isDigit := by
      rw [List.takeWhile_append, hb, List.append_nil]
      split
      · next hall => exact ((List.takeWhile_prefix isDigit).eq_of_length hall).symm
      · rfl
    rw [List.cons_append, renumber, renumber, hdigits]
    split
    · simp only [ih, List.cons_append, List.append_assoc]
    · split
      · exact ih true
      · rw [ih, List.cons_append]

private theorem renumber_append_of_not_mem (b : List Char) (h : '$' ∉ a) :
    renumber change false (a ++ b) = a ++ renumber change false b := by
  induction a with
  | nil => rfl
  | cons c rest ih =>
    rw [List.mem_cons, not_or] at h
    simp only [List.cons_append, renumber, if_neg (Ne.symm h.1), ih h.2, Bool.false_and,
      Bool.false_eq_true, if_false]

private theorem renumber_digits (h : ∀ c ∈ a, isDigit c = true) : renumber change true a = [] := by
  induction a with
  | nil => rfl
  | cons c rest ih =>
    rw [List.forall_mem_cons] at h
    have hne : c ≠ '$' := by
      rintro rfl
      exact absurd h.1 (by decide)
    simp only [renumber, if_neg hne, h.1, Bool.and_self, if_true, ih h.2]

variable {distance : Nat} {s t : String}

private theorem moveOn_append (s : String) (h : startsWithDigit t.toList = false) :
    moveOn distance (s ++ t) = moveOn distance s ++ moveOn distance t := by
  rw [moveOn, String.toList_append, renumber_append false s.toList h, String.ofList_append]
  rfl

private theorem moveOn_append_of_not_mem (t : String) (h : '$' ∉ s.toList) :
    moveOn distance (s ++ t) = s ++ moveOn distance t := by
  rw [moveOn, String.toList_append, renumber_append_of_not_mem t.toList h, String.ofList_append,
    String.ofList_toList]
  rfl

private theorem moveOn_of_not_mem (h : '$' ∉ s.toList) : moveOn distance s = s := by
  have hs : moveOn distance (s ++ "") = s ++ moveOn distance "" := moveOn_append_of_not_mem "" h
  rwa [String.append_empty, show moveOn distance "" = "" from rfl, String.append_empty] at hs

private theorem moveOn_placeholder (distance k : Nat) :
    moveOn distance (placeholder k) = placeholder (k + distance) := by
  have hdigits : ∀ c ∈ Nat.toDigits 10 k, isDigit c = true := fun c hc ↦ isDigit_toDigits hc
  have hall : (Nat.toDigits 10 k).takeWhile isDigit = Nat.toDigits 10 k := by
    rw [List.takeWhile_eq_self_iff]
    exact hdigits
  have hne : (Nat.toDigits 10 k).isEmpty = false := by
    rw [List.isEmpty_eq_false_iff]
    exact List.ne_nil_of_length_pos Nat.length_toDigits_pos
  rw [← String.toList_inj, moveOn, String.toList_ofList, toList_placeholder, toList_placeholder,
    renumber, if_pos rfl]
  simp only [hall, hne, digitsValue_toDigits, renumber_digits hdigits, List.append_nil,
    Bool.false_eq_true, if_false]

private theorem moveOn_intercalate {l : List String} (h : '$' ∉ s.toList)
    (hs : ∀ t, startsWithDigit (s ++ t).toList = false) :
    moveOn distance (s.intercalate l) = s.intercalate (l.map (moveOn distance)) := by
  induction l with
  | nil => rfl
  | cons t rest ih =>
    cases rest with
    | nil => simp
    | cons u more =>
      rw [List.map_cons] at ih
      rw [String.intercalate_cons_cons, List.map_cons, List.map_cons,
        String.intercalate_cons_cons, String.append_assoc, moveOn_append t (hs _),
        moveOn_append_of_not_mem _ h, ih, ← String.append_assoc]

private theorem isEmpty_moveOn (distance : Nat) (s : String) :
    (moveOn distance s).isEmpty = s.isEmpty := by
  have hiff : moveOn distance s = "" ↔ s = "" := by
    rw [← String.toList_inj, ← String.toList_inj, moveOn, String.toList_ofList]
    cases s.toList with
    | nil => simp [renumber]
    | cons c rest =>
      simp only [renumber, Bool.false_and, Bool.false_eq_true, if_false]
      split <;> simp
  rw [Bool.eq_iff_iff, String.isEmpty_iff, String.isEmpty_iff, hiff]

end Placeholder

open Placeholder

/-! ### The same values and the same text -/

/-- A compiled filter moved on: the same values for placeholders that are further on. -/
def Fragment.moveOn (distance : Nat) (f : Fragment) : Fragment :=
  ⟨Placeholder.moveOn distance f.sql, f.params, f.nextIndex + distance⟩

/-- The members of a group moved on. -/
def Members.moveOn (distance : Nat) (m : Members) : Members :=
  ⟨m.clauses.map (Placeholder.moveOn distance), m.params, m.nextIndex + distance⟩

variable {parameters : Fields}

private theorem Clause.operands_add (k : Clause) (first distance : Nat) :
    k.operands (first + distance) = Placeholder.moveOn distance (k.operands first) := by
  have hsucc : first + distance + 1 = first + 1 + distance := Nat.add_right_comm ..
  unfold operands
  cases k.operator with
  | isNull | isNotNull => rfl
  | isIn | notIn =>
    have hrange : List.range' (first + distance) k.values.length =
        (List.range' first k.values.length).map (· + distance) := by
      rw [Nat.add_comm, ← List.map_add_range']
      simp only [Nat.add_comm]
    have hall : placeholders (first + distance) k.values.length =
        (placeholders first k.values.length).map (Placeholder.moveOn distance) := by
      simp only [placeholders_eq_map, hrange, List.map_map, Function.comp_def, moveOn_placeholder]
    have hcomma : ∀ t, startsWithDigit (", " ++ t).toList = false := fun t ↦ by
      rw [String.toList_append]
      rfl
    dsimp only
    rw [String.append_assoc, String.append_assoc, moveOn_append_of_not_mem _ (by decide),
      moveOn_append _ (by decide), moveOn_intercalate (by decide) hcomma, hall,
      moveOn_of_not_mem (s := ")") (by decide)]
  | between =>
    have hand : startsWithDigit (" AND " ++ placeholder (first + 1)).toList = false := by
      rw [String.toList_append]
      rfl
    dsimp only
    rw [String.append_assoc, String.append_assoc, String.append_assoc, String.append_assoc,
      moveOn_append_of_not_mem _ (by decide), moveOn_append _ hand,
      moveOn_append_of_not_mem _ (by decide), moveOn_placeholder, moveOn_placeholder, hsucc]
  | _ =>
    dsimp only
    rw [moveOn_append_of_not_mem _ (by decide), moveOn_placeholder]

private theorem Clause.text_add {k : Clause} (h : '$' ∉ k.column.toList) (first distance : Nat) :
    k.text (first + distance) = Placeholder.moveOn distance (k.text first) := by
  have hhead : '$' ∉ (k.column ++ " " ++ k.operator.sql).toList := by
    simp [h, k.operator.dollar_not_mem_sql]
  rw [text_eq, text_eq, operands_add, moveOn_append_of_not_mem _ hhead]

private theorem Members.join_moveOn (m : Members) (distance : Nat) (logic : Logic) :
    (m.moveOn distance).join logic = (m.join logic).moveOn distance := by
  have hkept : (m.clauses.map (Placeholder.moveOn distance)).filter (! ·.isEmpty) =
      (m.clauses.filter (! ·.isEmpty)).map (Placeholder.moveOn distance) := by
    rw [List.filter_map]
    congr 2
    funext s
    simp only [Function.comp_apply, isEmpty_moveOn]
  have hseparator : '$' ∉ (" " ++ logic.keyword ++ " ").toList ∧
      ∀ t, startsWithDigit (" " ++ logic.keyword ++ " " ++ t).toList = false := by
    refine ⟨by cases logic <;> decide, fun t ↦ ?_⟩
    rw [String.append_assoc, String.append_assoc, String.toList_append]
    rfl
  simp only [join, moveOn, Fragment.moveOn, hkept,
    moveOn_intercalate hseparator.1 hseparator.2]

mutual

private theorem FilterNode.compile_moveOn (first distance : Nat) : (n : FilterNode) →
    (∀ c ∈ n.leaves, '$' ∉ c.column.toList) →
    n.compile parameters (first + distance) = (n.compile parameters first).moveOn distance
  | .leaf c, h => by
    rw [compile, compile]
    cases hc : c.clause? parameters with
    | none => rfl
    | some k =>
      have hcolumn : '$' ∉ k.column.toList :=
        (Condition.clause?_fits hc).1 ▸ h c (List.mem_singleton_self c)
      simp only [Fragment.moveOn, Clause.text_add hcolumn, Nat.add_right_comm]
  | .group logic nodes, h => by
    have hall := compileAll_moveOn first distance nodes h
    have hsame (f : Fragment) : (f.moveOn distance).isEmpty = f.isEmpty :=
      isEmpty_moveOn distance f.sql
    rw [compile, compile, hall, Members.join_moveOn]
    simp only [hsame]
    split
    · rfl
    · simp only [Fragment.moveOn]
      rw [String.append_assoc, String.append_assoc, moveOn_append_of_not_mem _ (by decide),
        moveOn_append _ (by decide), moveOn_of_not_mem (s := ")") (by decide)]

private theorem FilterNode.compileAll_moveOn (first distance : Nat) : (ns : List FilterNode) →
    (∀ c ∈ leavesOf ns, '$' ∉ c.column.toList) →
    compileAll parameters (first + distance) ns =
      (compileAll parameters first ns).moveOn distance
  | [], _ => rfl
  | n :: rest, h => by
    have hn := compile_moveOn first distance n fun c hc ↦ h c (List.mem_append_left _ hc)
    have hrest := compileAll_moveOn (n.compile parameters first).nextIndex distance rest
      fun c hc ↦ h c (List.mem_append_right _ hc)
    rw [compileAll, compileAll, hn]
    simp only [Fragment.moveOn, hrest, Members.moveOn, List.map_cons]

end

private theorem FilterGroup.compile_moveOn {g : FilterGroup}
    (h : ∀ c ∈ g.leaves, '$' ∉ c.column.toList) (parameters : Fields) (first distance : Nat) :
    g.compile parameters (first + distance) = (g.compile parameters first).moveOn distance := by
  rw [compile, compile, FilterNode.compileAll_moveOn first distance g.nodes h, Members.join_moveOn]

/-! ### The conditions from left to right -/

/-- How a compiled filter follows its clauses from an index on: its values are those of the clauses
one after another, and each clause stands in the text with the index at which the values of the one
before it end. -/
structure Fragment.Follows (f : Fragment) (clauses : List Clause) (first : Nat) : Prop where
  params : f.params = Clause.allValues clauses
  text : Interleaves (NumberedClause.numberFrom first clauses) f.sql
  nextIndex : f.nextIndex = first + f.params.length

private theorem FilterGroup.follows_compile {g : FilterGroup}
    (h : ∀ c ∈ g.leaves, '$' ∉ c.column.toList) (parameters : Fields) (first : Nat) :
    (g.compile parameters first).Follows (g.clauses parameters) first := by
  let columns : Lexicon := ⟨g.leaves.map (·.column), [], []⟩
  have hcolumn : ∀ c ∈ g.leaves, Composed columns [] c.column := fun c hc ↦
    .name (List.mem_map_of_mem hc)
  have hfree : columns.DollarFree := by
    constructor
    · intro p hp
      cases hp with
      | word hw => exact (by decide : ∀ w ∈ vocabulary, '$' ∉ w.toList) p hw
      | name hn =>
        obtain ⟨c, hc, rfl⟩ := List.mem_map.mp hn
        exact h c hc
      | number hn => cases hn
    · intro s hs
      cases hs
  constructor
  case text => exact (g.composed_compile hcolumn parameters first).interleaves hfree
  all_goals rw [g.compile_eq]

/-! ### From every word -/

/-- How a filter is compiled from a word, where `clauses` is what is left of its conditions. -/
structure FilterGroup.CompilesFrom (g : FilterGroup) (parameters : Fields) (clauses : List Clause)
    (first : UInt64) : Prop where
  /-- There is a compiled filter exactly when the index after its last value is a word. -/
  succeeds : (g.compileFrom? .stops parameters first).isSome ↔
    first.toNat + (Clause.allValues clauses).length ≤ largestWord
  /-- It is the one that a statement is made of. -/
  compiled : ∀ f, g.compileFrom? .stops parameters first = some f →
    f.fragment = g.compile parameters first.toNat
  follows : ∀ f, g.compileFrom? .stops parameters first = some f →
    f.fragment.Follows clauses first.toNat
  /-- There is one from the first index too, with the same values and the same text before its
  placeholders are moved on. -/
  moved : 1 ≤ first → ∀ f, g.compileFrom? .stops parameters first = some f →
    ∃ f₁, g.compileFrom? .stops parameters 1 = some f₁ ∧
      f.fragment = f₁.fragment.moveOn (first.toNat - 1)
  /-- It does not matter then what becomes of sums beyond the largest word. -/
  wraps : ∀ f, g.compileFrom? .stops parameters first = some f →
    g.compileFrom? .wraps parameters first = some f

/-- A filter whose columns have no dollar sign is compiled alike from every word: the values are
those of its conditions from left to right, of which those that are dropped take no index, and its
text is the one from the first index with each placeholder moved on. -/
theorem FilterGroup.compilesFrom_words {g : FilterGroup}
    (h : ∀ c ∈ g.leaves, '$' ∉ c.column.toList) (parameters : Fields) :
    ∃ clauses, Condition.Survive parameters g.leaves clauses ∧
      ∀ first, g.CompilesFrom parameters clauses first := by
  refine ⟨g.clauses parameters, Condition.survive_clauses parameters g.leaves, fun first ↦ ?_⟩
  have hnext (k : Nat) : (g.compile parameters k).nextIndex =
      k + (Clause.allValues (g.clauses parameters)).length := by rw [g.compile_eq]
  have hfragment : ∀ f, g.compileFrom? .stops parameters first = some f →
      f.fragment = g.compile parameters first.toNat := by
    intro f hf
    rwa [compileFrom?_eq, Fragment.inWords?_eq_some_iff] at hf
  constructor
  case succeeds => rw [compileFrom?_eq, Fragment.isSome_inWords?, hnext]
  case compiled => exact hfragment
  case follows =>
    intro f hf
    rw [hfragment f hf]
    exact follows_compile h parameters first.toNat
  case wraps => exact fun _ ↦ compileFrom?_wraps
  case moved =>
    intro hone f hf
    have hle : 1 ≤ first.toNat := UInt64.le_iff_toNat_le.mp hone
    -- The index that is left free from the first one on is not beyond the one from a later one on.
    have hsome : (g.compileFrom? .stops parameters 1).isSome := by
      have hlarge : (g.compileFrom? .stops parameters first).isSome := Option.isSome_of_eq_some hf
      rw [compileFrom?_eq, Fragment.isSome_inWords?, hnext] at hlarge ⊢
      exact Nat.le_trans (Nat.add_le_add_right hle _) hlarge
    obtain ⟨f₁, hf₁⟩ := Option.isSome_iff_exists.mp hsome
    refine ⟨f₁, hf₁, ?_⟩
    rw [compileFrom?_eq, Fragment.inWords?_eq_some_iff] at hf₁
    calc f.fragment = g.compile parameters (1 + (first.toNat - 1)) := by
          rw [hfragment f hf, Nat.add_sub_cancel' hle]
      _ = f₁.fragment.moveOn (first.toNat - 1) := by
          rw [compile_moveOn h, hf₁]
          rfl

/-- A filter of parcels by their weight, their zone or note, and the day on which they are sent. -/
def parcelsFilter : FilterGroup :=
  { nodes :=
      [.leaf { column := "weight", operator := .greater, value := some (.string "2") },
        .group .or
          [.leaf { column := "note", operator := .like, parameterRef := some "note" },
            .leaf { column := "zone", operator := .isIn, parameterRef := some "zones" }],
        .leaf { column := "received", operator := .isNull },
        .leaf { column := "sent", operator := .between, parameterRef := some "days" }] }

/-- The parameters of a run on parcels, without a note. -/
def parcelsParameters : Fields :=
  [("days", .object [("from", .string "2024-05-01"), ("to", .string "2024-05-31")]),
    ("zones", .array [.string "1", .string "4"])]

/-- The filter of parcels from the first index, from the ninth, where the numbers get longer, from
the last word that leaves one free behind its five values, and from the word after it, where its
sums stop or wrap around. -/
theorem compilesFrom_words_parcels :
    (∃ clauses, Condition.Survive parcelsParameters parcelsFilter.leaves clauses ∧
        ∀ first, parcelsFilter.CompilesFrom parcelsParameters clauses first) ∧
      (parcelsFilter.compileFrom? .stops parcelsParameters 1).map (·.sql) =
        some "weight > $1 AND (zone IN ($2, $3)) AND received IS NULL AND sent BETWEEN $4 AND $5" ∧
      (parcelsFilter.compileFrom? .stops parcelsParameters 9).map (·.sql) =
        some ("weight > $9 AND (zone IN ($10, $11)) AND received IS NULL AND " ++
          "sent BETWEEN $12 AND $13") ∧
      (parcelsFilter.compileFrom? .stops parcelsParameters 18446744073709551610).map
        (·.nextIndex.toNat) = some largestWord ∧
      (parcelsFilter.compileFrom? .stops parcelsParameters 18446744073709551611).isNone ∧
      (parcelsFilter.compileFrom? .wraps parcelsParameters 18446744073709551611).map
        (·.nextIndex.toNat) = some 0 := by
  have hc : ∀ c ∈ parcelsFilter.leaves, '$' ∉ c.column.toList := by decide +kernel
  exact ⟨FilterGroup.compilesFrom_words hc parcelsParameters, by decide +kernel, by decide +kernel,
    by decide +kernel, by decide +kernel, by decide +kernel⟩

end TabularReport
