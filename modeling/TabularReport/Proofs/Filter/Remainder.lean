import TabularReport.Proofs.Filter.Contribution

/-!
# What is left of a filter tree

Dropped conditions leave a filter tree, and so do groups with nothing left. What remains is a
formula whose atoms are clauses, numbered through from left to right. Compiling a filter writes this
formula.
-/

namespace TabularReport

/-- Atoms joined by `and` and `or`. -/
inductive Formula (α : Type) where
  | atom (a : α)
  | joined (logic : Logic) (members : List (Formula α))

/-- A clause with the index of its first placeholder. -/
structure NumberedClause where
  clause : Clause
  first : Nat

/-- The text of a clause with its placeholders. -/
def NumberedClause.text (n : NumberedClause) : String := n.clause.text n.first

/-- Number clauses through: each one starts where the values of the one before it end. -/
def NumberedClause.numberFrom (first : Nat) : List Clause → List NumberedClause
  | [] => []
  | k :: rest => ⟨k, first⟩ :: numberFrom (first + k.values.length) rest

/-- The clauses that are left of the conditions of a node. -/
def FilterNode.clauses (parameters : Fields) (n : FilterNode) : List Clause :=
  Condition.clauses parameters n.leaves

/-- The clauses that are left of the conditions of a list of nodes. -/
def FilterNode.clausesOf (parameters : Fields) (ns : List FilterNode) : List Clause :=
  Condition.clauses parameters (FilterNode.leavesOf ns)

/-- The clauses that are left of the conditions of a filter. -/
def FilterGroup.clauses (parameters : Fields) (g : FilterGroup) : List Clause :=
  Condition.clauses parameters g.leaves

/-- Members that are left, joined; nothing when none is left. -/
def Formula.join? {α : Type} (logic : Logic) : List (Formula α) → Option (Formula α)
  | [] => none
  | m :: rest => some (.joined logic (m :: rest))

mutual

/-- What is left of a node whose first placeholder has the given index. -/
def FilterNode.remainder? (parameters : Fields) (first : Nat) :
    FilterNode → Option (Formula NumberedClause)
  | .leaf c => (c.clause? parameters).map fun k => .atom ⟨k, first⟩
  | .group logic nodes => Formula.join? logic (FilterNode.remainders parameters first nodes)

/-- What is left of each node of a list, without the nodes of which nothing is left. -/
def FilterNode.remainders (parameters : Fields) (first : Nat) :
    List FilterNode → List (Formula NumberedClause)
  | [] => []
  | n :: rest =>
    (n.remainder? parameters first).toList ++
      FilterNode.remainders parameters
        (first + (Clause.allValues (n.clauses parameters)).length) rest

end

/-- What is left of a filter whose first placeholder has the given index. -/
def FilterGroup.remainder? (g : FilterGroup) (parameters : Fields) (first : Nat) :
    Option (Formula NumberedClause) :=
  Formula.join? g.logic (FilterNode.remainders parameters first g.nodes)

namespace Formula

mutual

/-- The atoms of a formula from left to right. -/
def atoms {α : Type} : Formula α → List α
  | .atom a => [a]
  | .joined _ members => atomsOf members

/-- The atoms of a list of formulas from left to right. -/
def atomsOf {α : Type} : List (Formula α) → List α
  | [] => []
  | m :: rest => m.atoms ++ atomsOf rest

end

/-- The text of a member of a group: atoms stand for themselves, groups in parentheses. -/
def enclose : Formula NumberedClause → String → String
  | .atom _, s => s
  | .joined _ _, s => "(" ++ s ++ ")"

/-- What stands between the members of a group. -/
def separator (logic : Logic) : String := " " ++ logic.keyword ++ " "

mutual

/-- Write a formula. -/
def text : Formula NumberedClause → String
  | .atom n => n.text
  | .joined logic members => (separator logic).intercalate (memberTexts members)

/-- Write the members of a group. -/
def memberTexts : List (Formula NumberedClause) → List String
  | [] => []
  | m :: rest => m.enclose m.text :: memberTexts rest

end

/-- The text of a formula as a member of a group. -/
def memberText (f : Formula NumberedClause) : String := f.enclose f.text

/-- Members are written one by one. -/
theorem memberTexts_eq_map (ms : List (Formula NumberedClause)) :
    memberTexts ms = ms.map memberText := by
  induction ms with
  | nil => rfl
  | cons m rest ih => simp only [memberTexts, List.map_cons, memberText, ih]

end Formula

/-- The text of a clause is never empty. -/
theorem Clause.text_ne_empty (k : Clause) (first : Nat) : k.text first ≠ "" := by
  rw [ne_eq, ← String.toList_inj]
  unfold Clause.text
  split <;> simp

private theorem Formula.memberText_ne_empty (f : Formula NumberedClause) : f.memberText ≠ "" := by
  cases f with
  | atom n => exact n.clause.text_ne_empty n.first
  | joined logic members =>
    rw [ne_eq, ← String.toList_inj]
    simp [memberText, enclose]

private theorem Formula.map_memberText_ne_empty (ms : List (Formula NumberedClause)) :
    ∀ t ∈ ms.map memberText, t ≠ "" := by
  intro t ht
  obtain ⟨f, -, rfl⟩ := List.mem_map.mp ht
  exact f.memberText_ne_empty

/-- Texts with something between them are empty together only when there is none. -/
theorem Text.intercalate_eq_empty_iff {s : String} {l : List String} (h : ∀ t ∈ l, t ≠ "") :
    s.intercalate l = "" ↔ l = [] := by
  cases l with
  | nil => simp
  | cons t rest =>
    have ht := h t List.mem_cons_self
    cases rest with
    | nil => simp [ht]
    | cons u rest => simp [String.intercalate_cons_cons, ht]

/-- A property that texts keep when they are put together holds of texts with something between
them. -/
theorem Text.intercalate_induction {P : String → Prop} {s : String} {l : List String} (hnil : P "")
    (happend : ∀ a b, P a → P b → P (a ++ b)) (hs : P s) (h : ∀ t ∈ l, P t) :
    P (s.intercalate l) := by
  induction l with
  | nil => exact hnil
  | cons t rest ih =>
    have ht := h t List.mem_cons_self
    have hr := ih fun u hu ↦ h u (List.mem_cons_of_mem t hu)
    cases rest with
    | nil => simpa using ht
    | cons u more =>
      rw [String.intercalate_cons_cons]
      exact happend _ _ (happend _ _ ht hs) hr

private theorem Formula.text_join? (logic : Logic) (ms : List (Formula NumberedClause)) :
    ((join? logic ms).map text).getD "" = (separator logic).intercalate (ms.map memberText) := by
  cases ms with
  | nil => simp [join?]
  | cons m rest => simp [join?, text, memberTexts_eq_map]

private theorem Formula.memberText_join? (logic : Logic) (ms : List (Formula NumberedClause)) :
    ((join? logic ms).map memberText).getD "" =
      if ms = [] then "" else "(" ++ (separator logic).intercalate (ms.map memberText) ++ ")" := by
  cases ms with
  | nil => simp [join?]
  | cons m rest => simp [join?, memberText, enclose, text, memberTexts_eq_map]

/-- The values of two lists of clauses. -/
theorem Clause.allValues_append (a b : List Clause) :
    allValues (a ++ b) = allValues a ++ allValues b :=
  List.flatMap_append

private theorem FilterNode.clausesOf_cons (parameters : Fields) (n : FilterNode)
    (rest : List FilterNode) :
    clausesOf parameters (n :: rest) = n.clauses parameters ++ clausesOf parameters rest := by
  simp only [clausesOf, clauses, Condition.clauses, leavesOf, List.filterMap_append]

/-- A condition among nodes is one of their conditions. -/
theorem FilterNode.mem_leavesOf {c : Condition} {ns : List FilterNode} (h : .leaf c ∈ ns) :
    c ∈ leavesOf ns := by
  induction ns with
  | nil => cases h
  | cons n rest ih =>
    rcases List.mem_cons.mp h with rfl | h
    · exact List.mem_append_left _ (List.mem_singleton_self c)
    · exact List.mem_append_right _ (ih h)

private theorem Members.join_eq {m : Members} (logic : Logic) {ms : List (Formula NumberedClause)}
    (h : m.clauses.filter (! ·.isEmpty) = ms.map Formula.memberText) :
    m.join logic =
      ⟨((Formula.join? logic ms).map Formula.text).getD "", m.params, m.nextIndex⟩ := by
  rw [join, h, Formula.text_join?]
  rfl

mutual

private theorem FilterNode.compile_eq (parameters : Fields) (first : Nat) : (n : FilterNode) →
    n.compile parameters first =
      ⟨((n.remainder? parameters first).map Formula.memberText).getD "",
        Clause.allValues (n.clauses parameters),
        first + (Clause.allValues (n.clauses parameters)).length⟩
  | .leaf c => by
    cases h : c.clause? parameters with
    | none => simp [compile, remainder?, clauses, Condition.clauses, leaves, Clause.allValues, h]
    | some k =>
      simp [compile, remainder?, clauses, Condition.clauses, leaves, Clause.allValues, h,
        Formula.memberText, Formula.enclose, Formula.text, NumberedClause.text]
  | .group logic nodes => by
    obtain ⟨hc, hp, hn⟩ := compileAll_eq parameters first nodes
    have hj := Members.join_eq logic hc
    have he : clauses parameters (.group logic nodes) = clausesOf parameters nodes := rfl
    have ht := Formula.map_memberText_ne_empty (remainders parameters first nodes)
    rw [compile, hj, remainder?, Formula.text_join?, Formula.memberText_join?, he, hp, hn]
    simp only [Fragment.isEmpty, String.isEmpty_iff, Text.intercalate_eq_empty_iff ht,
      List.map_eq_nil_iff]
    split <;> simp_all

/-- Compiling the members of a group writes what is left of each one and binds their values in
order. -/
theorem FilterNode.compileAll_eq (parameters : Fields) (first : Nat) : (ns : List FilterNode) →
    (compileAll parameters first ns).clauses.filter (! ·.isEmpty) =
        (remainders parameters first ns).map Formula.memberText ∧
      (compileAll parameters first ns).params = Clause.allValues (clausesOf parameters ns) ∧
      (compileAll parameters first ns).nextIndex =
        first + (Clause.allValues (clausesOf parameters ns)).length
  | [] => ⟨rfl, rfl, rfl⟩
  | n :: rest => by
    have hn := compile_eq parameters first n
    obtain ⟨hc, hp, hi⟩ := compileAll_eq parameters
      (first + (Clause.allValues (n.clauses parameters)).length) rest
    rw [compileAll, hn, remainders, clausesOf_cons, Clause.allValues_append]
    refine ⟨?_, ?_, ?_⟩
    · cases hr : n.remainder? parameters first with
      | none => simpa using hc
      | some f => simpa [f.memberText_ne_empty] using hc
    · rw [hp]
    · rw [hi, List.length_append, Nat.add_assoc]

end

/-- Compiling a filter writes what is left of it, binds the values of its clauses in order, and
leaves free the index after the last of them. -/
theorem FilterGroup.compile_eq (g : FilterGroup) (parameters : Fields) (first : Nat) :
    g.compile parameters first =
      ⟨((g.remainder? parameters first).map Formula.text).getD "",
        Clause.allValues (g.clauses parameters),
        first + (Clause.allValues (g.clauses parameters)).length⟩ := by
  obtain ⟨hc, hp, hn⟩ := FilterNode.compileAll_eq parameters first g.nodes
  rw [compile, Members.join_eq g.logic hc, hp, hn]
  rfl

/-- Numbering goes on where the values of the clauses before end. -/
theorem NumberedClause.numberFrom_append (first : Nat) (a b : List Clause) :
    numberFrom first (a ++ b) =
      numberFrom first a ++ numberFrom (first + (Clause.allValues a).length) b := by
  induction a generalizing first with
  | nil => rfl
  | cons k rest ih =>
    have hl : first + (Clause.allValues (k :: rest)).length =
        first + k.values.length + (Clause.allValues rest).length := by
      simp only [Clause.allValues, List.flatMap_cons, List.length_append, Nat.add_assoc]
    rw [List.cons_append, numberFrom, ih, numberFrom, List.cons_append, hl]

/-- A numbered clause is one of the clauses that were numbered. -/
theorem NumberedClause.mem_numberFrom {k : NumberedClause} {first : Nat} {clauses : List Clause}
    (h : k ∈ numberFrom first clauses) : k.clause ∈ clauses := by
  induction clauses generalizing first with
  | nil => cases h
  | cons c rest ih =>
    rcases List.mem_cons.mp h with rfl | h
    · exact List.mem_cons_self
    · exact List.mem_cons_of_mem c (ih h)

/-- The atoms of formulas in two lists. -/
theorem Formula.atomsOf_append {α : Type} (a b : List (Formula α)) :
    atomsOf (a ++ b) = atomsOf a ++ atomsOf b := by
  induction a with
  | nil => rfl
  | cons m rest ih => rw [List.cons_append, atomsOf, ih, atomsOf, List.append_assoc]

/-- The atoms of at most one formula. -/
theorem Formula.atomsOf_toList {α : Type} (f : Option (Formula α)) :
    atomsOf f.toList = (f.map atoms).getD [] := by
  cases f with
  | none => rfl
  | some f => exact List.append_nil f.atoms

/-- The atoms of a list of formulas are those of each one. -/
theorem Formula.atomsOf_eq_flatMap {α : Type} (ms : List (Formula α)) :
    atomsOf ms = ms.flatMap atoms := by
  induction ms with
  | nil => rfl
  | cons m rest ih => rw [atomsOf, ih, List.flatMap_cons]

private theorem Formula.atoms_join? {α : Type} (logic : Logic) (ms : List (Formula α)) :
    ((join? logic ms).map atoms).getD [] = atomsOf ms := by
  cases ms <;> rfl

mutual

private theorem FilterNode.atoms_remainder? (parameters : Fields) (first : Nat) : (n : FilterNode) →
    ((n.remainder? parameters first).map Formula.atoms).getD [] =
      NumberedClause.numberFrom first (n.clauses parameters)
  | .leaf c => by
    cases h : c.clause? parameters with
    | none => simp [remainder?, clauses, Condition.clauses, leaves, h, NumberedClause.numberFrom]
    | some k =>
      simp [remainder?, clauses, Condition.clauses, leaves, h, NumberedClause.numberFrom,
        Formula.atoms]
  | .group logic nodes => by
    rw [remainder?, Formula.atoms_join?, atomsOf_remainders]
    rfl

private theorem FilterNode.atomsOf_remainders (parameters : Fields) (first : Nat) :
    (ns : List FilterNode) →
    Formula.atomsOf (remainders parameters first ns) =
      NumberedClause.numberFrom first (clausesOf parameters ns)
  | [] => rfl
  | n :: rest => by
    rw [remainders, Formula.atomsOf_append, Formula.atomsOf_toList, atoms_remainder?,
      atomsOf_remainders, clausesOf_cons, NumberedClause.numberFrom_append]

end

/-- The atoms of what is left of a filter are its clauses, numbered through. -/
theorem FilterGroup.atoms_remainder? (g : FilterGroup) (parameters : Fields) (first : Nat) :
    ((g.remainder? parameters first).map Formula.atoms).getD [] =
      NumberedClause.numberFrom first (g.clauses parameters) := by
  rw [remainder?, Formula.atoms_join?, FilterNode.atomsOf_remainders]
  rfl

mutual

private theorem FilterNode.remainder?_eq_none_iff (parameters : Fields) (first : Nat) :
    (n : FilterNode) →
    (n.remainder? parameters first = none ↔ n.clauses parameters = [])
  | .leaf c => by
    cases h : c.clause? parameters <;> simp [remainder?, clauses, Condition.clauses, leaves, h]
  | .group logic nodes => by
    have hr := remainders_eq_nil_iff parameters first nodes
    have hc : clauses parameters (.group logic nodes) = clausesOf parameters nodes := rfl
    rw [remainder?, hc, ← hr]
    cases remainders parameters first nodes <;> simp [Formula.join?]

private theorem FilterNode.remainders_eq_nil_iff (parameters : Fields) (first : Nat) :
    (ns : List FilterNode) →
    (remainders parameters first ns = [] ↔ clausesOf parameters ns = [])
  | [] => ⟨fun _ ↦ rfl, fun _ ↦ rfl⟩
  | n :: rest => by
    rw [remainders, clausesOf_cons, List.append_eq_nil_iff, List.append_eq_nil_iff,
      remainders_eq_nil_iff, ← remainder?_eq_none_iff parameters first n]
    simp

end

/-- Nothing is left of a filter exactly when no clause is. -/
theorem FilterGroup.remainder?_eq_none_iff (g : FilterGroup) (parameters : Fields) (first : Nat) :
    g.remainder? parameters first = none ↔ g.clauses parameters = [] := by
  have hr := FilterNode.remainders_eq_nil_iff parameters first g.nodes
  have hc : g.clauses parameters = FilterNode.clausesOf parameters g.nodes := rfl
  rw [remainder?, hc, ← hr]
  cases FilterNode.remainders parameters first g.nodes <;> simp [Formula.join?]

/-- The text of a compiled filter is empty exactly when every condition has been dropped. -/
theorem FilterGroup.compile_sql_eq_empty_iff (g : FilterGroup) (parameters : Fields) (first : Nat) :
    (g.compile parameters first).sql = "" ↔ g.clauses parameters = [] := by
  have ht := Formula.map_memberText_ne_empty (FilterNode.remainders parameters first g.nodes)
  rw [compile_eq, remainder?, Formula.text_join?, Text.intercalate_eq_empty_iff ht,
    List.map_eq_nil_iff]
  exact FilterNode.remainders_eq_nil_iff parameters first g.nodes

end TabularReport
