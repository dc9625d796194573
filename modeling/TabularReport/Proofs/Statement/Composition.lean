import TabularReport.Proofs.Filter.Placeholder
import TabularReport.Proofs.Statement.Condition
import TabularReport.Proofs.Validation.Names

/-!
# What statements are put together from

A statement is put together from fixed words, from names and expressions of its template, from
numbers, and from clauses. The clauses come in a known order. Each clause and each expression goes
on to the end of the statement, or to a blank, comma or closing parenthesis.
-/

namespace TabularReport

open Placeholder

/-- The words and signs that statements are written with, whatever the template. -/
def vocabulary : List String :=
  ["SELECT", "FROM", "WHERE", "AS", "ON", "JOIN", "INNER", "LEFT", "RIGHT", "FULL", "OUTER",
    "GROUP BY", "HAVING", "ORDER BY", "ASC", "DESC", "LIMIT", "OFFSET", "WITH", " AND ", " OR ",
    "TRUE", "=", "!=", ">", ">=", "<", "<=", "LIKE", "NOT LIKE", "IN", "NOT IN",
    "IS NULL", "IS NOT NULL", "BETWEEN", "COUNT(*)", "COUNT(", "COUNT(DISTINCT ", "SUM(", "AVG(",
    "MIN(", "MAX(", ",", ".", "*", "(", ")", " ", "\n", ", ", " (", " = ", " AND (", "1",
    rowsRelation, countRelation, pageRelation, totalCountColumn, pageRowColumn]

namespace ReportTemplate

/-- The expressions and conditions that a template's author has written. -/
def authored (t : ReportTemplate) : List String :=
  t.config.columns.filterMap (·.expression) ++ t.config.joins.filterMap (·.condition)

end ReportTemplate

/-- What a statement may be written with beside fixed words. -/
structure Lexicon where
  names : List String
  authored : List String
  numbers : List Nat

/-- What the statements of a template are written with. The numbers are those of the page, if one is
asked for. -/
def ReportTemplate.lexicon (t : ReportTemplate) (page : Option AppliedPage) : Lexicon :=
  ⟨t.names, t.authored, page.toList.flatMap fun p => [p.pageSize, p.offset]⟩

/-- The characters that can follow a clause or an expression. -/
def separators : List Char := [' ', '\n', ',', ')']

/-- Whether a text is empty or begins with a separator. -/
def isSeparate (cs : List Char) : Bool := cs.head?.all separators.contains

/-- A text that is put together from separate texts is separate. -/
theorem isSeparate_append {a b : List Char} (ha : isSeparate a = true) (hb : isSeparate b = true) :
    isSeparate (a ++ b) = true := by
  cases a with
  | nil => exact hb
  | cons c rest => exact ha

/-- A separate text starts with no digit. -/
theorem startsWithDigit_of_isSeparate {cs : List Char} (h : isSeparate cs = true) :
    startsWithDigit cs = false := by
  cases cs with
  | nil => rfl
  | cons c rest =>
    have hc : c ∈ separators := List.contains_iff_mem.mp h
    have hd : separators.all (fun d ↦ !startsWithDigit [d]) = true := by decide
    exact (Bool.not_eq_true' _).mp (List.all_eq_true.mp hd c hc)

/-- What a statement is put together from, apart from clauses and expressions. -/
inductive Lexicon.Piece (x : Lexicon) : String → Prop
  | word {s : String} : s ∈ vocabulary → Piece x s
  | name {s : String} : s ∈ x.names → Piece x s
  | number {n : Nat} : n ∈ x.numbers → Piece x (toString n)

/-- A text that is put together from pieces, from expressions and from clauses in the given order.
The column of a clause is put together from pieces and expressions. -/
inductive Composed (x : Lexicon) : List NumberedClause → String → Prop
  | nil : Composed x [] ""
  | piece {ks : List NumberedClause} {s rest : String} :
      x.Piece s → Composed x ks rest → Composed x ks (s ++ rest)
  | authored {ks : List NumberedClause} {s rest : String} :
      s ∈ x.authored → isSeparate rest.toList = true → Composed x ks rest →
      Composed x ks (s ++ rest)
  | clause {k : NumberedClause} {ks : List NumberedClause} {rest : String} :
      Composed x [] k.clause.column → k.clause.Fits → isSeparate rest.toList = true →
      Composed x ks rest → Composed x (k :: ks) (k.text ++ rest)

/-- Whether a text can stand before every text that is put together. -/
def Lexicon.Leads (x : Lexicon) (a : String) : Prop :=
  ∀ ks b, Composed x ks b → Composed x ks (a ++ b)

namespace Lexicon.Leads

variable {x : Lexicon} {ks : List NumberedClause} {a b : String}

/-- A text before one that is put together. -/
theorem before (ha : x.Leads a) (hb : Composed x ks b) : Composed x ks (a ++ b) := ha ks b hb

/-- A text that can stand before others is put together. -/
theorem composed (ha : x.Leads a) : Composed x [] a := by
  have hs := ha.before .nil
  rwa [String.append_empty] at hs

/-- Nothing. -/
theorem nil : x.Leads "" := by
  intro ks b hb
  rwa [String.empty_append]

/-- Texts one after another. -/
theorem append (ha : x.Leads a) (hb : x.Leads b) : x.Leads (a ++ b) := by
  intro ks c hc
  rw [String.append_assoc]
  exact ha.before (hb.before hc)

/-- A single piece. -/
theorem single (h : x.Piece a) : x.Leads a := fun _ _ hb ↦ .piece h hb

/-- A fixed word. -/
theorem word (h : a ∈ vocabulary) : x.Leads a := single (.word h)

/-- A name of the template. -/
theorem name (h : a ∈ x.names) : x.Leads a := single (.name h)

/-- An expression with a separate text after it. -/
theorem authored (h : a ∈ x.authored) (hd : isSeparate b.toList = true) (hne : b ≠ "")
    (hb : x.Leads b) : x.Leads (a ++ b) := by
  intro ks c hc
  rw [String.append_assoc]
  refine .authored h ?_ (hb.before hc)
  rw [String.toList_append]
  cases hl : b.toList with
  | nil => exact absurd (String.toList_inj.mp hl) hne
  | cons d rest =>
    rw [hl] at hd
    exact hd

end Lexicon.Leads

namespace Composed

variable {x : Lexicon} {ks ls : List NumberedClause} {a b : String}

/-- A single name of the template. -/
theorem name (h : a ∈ x.names) : Composed x [] a := Lexicon.Leads.composed (.name h)

/-- A single expression. -/
theorem ofAuthored (h : a ∈ x.authored) : Composed x [] a := by
  have hs := Composed.authored h (by rfl) .nil
  rwa [String.append_empty] at hs

private theorem ofClause {k : NumberedClause} (hc : Composed x [] k.clause.column)
    (hf : k.clause.Fits) :
    Composed x [k] k.text := by
  have hs := Composed.clause hc hf (by rfl) .nil
  rwa [String.append_empty] at hs

/-- A separate text can follow any other one. -/
theorem append (ha : Composed x ks a) (hb : Composed x ls b) (hd : isSeparate b.toList = true) :
    Composed x (ks ++ ls) (a ++ b) := by
  have hnext {rest : String} (hr : isSeparate rest.toList = true) :
      isSeparate (rest ++ b).toList = true := by
    rw [String.toList_append]
    exact isSeparate_append hr hd
  induction ha with
  | nil =>
    rw [List.nil_append, String.empty_append]
    exact hb
  | piece hp _ ih =>
    rw [String.append_assoc]
    exact .piece hp ih
  | authored hs hr _ ih =>
    rw [String.append_assoc]
    exact .authored hs (hnext hr) ih
  | clause hc hf hr _ _ ih =>
    rw [String.append_assoc]
    exact .clause hc hf (hnext hr) ih

/-- A text that is put together from nothing has no clauses. -/
theorem eq_nil_of_empty (h : Composed x ks "") : ks = [] := by
  generalize he : "" = s at h
  induction h with
  | nil => rfl
  | piece _ _ ih => exact ih (String.append_eq_empty_iff.mp he.symm).2.symm
  | authored _ _ _ ih => exact ih (String.append_eq_empty_iff.mp he.symm).2.symm
  | clause => exact absurd (String.append_eq_empty_iff.mp he.symm).1 (Clause.text_ne_empty _ _)

private theorem intercalate {α : Type} {sep : String} (hs : sep ∈ vocabulary)
    (hd : isSeparate sep.toList = true) (hne : sep ≠ "") {clauses : α → List NumberedClause}
    {text : α → String} {items : List α} (h : ∀ i ∈ items, Composed x (clauses i) (text i)) :
    Composed x (items.flatMap clauses) (sep.intercalate (items.map text)) := by
  induction items with
  | nil => exact .nil
  | cons i rest ih =>
    have hi := h i List.mem_cons_self
    have hr := ih fun j hj ↦ h j (List.mem_cons_of_mem i hj)
    cases rest with
    | nil => simpa using hi
    | cons j more =>
      rw [List.map_cons, List.map_cons, String.intercalate_cons_cons, List.flatMap_cons,
        String.append_assoc]
      refine append hi ((Lexicon.Leads.word hs).before hr) ?_
      rw [String.toList_append]
      cases hl : sep.toList with
      | nil => exact absurd (String.toList_inj.mp hl) hne
      | cons c cs => rwa [hl] at hd

private theorem parenthesized (h : Composed x ks a) : Composed x ks ("(" ++ a ++ ")") := by
  have hw : ∀ w ∈ vocabulary, x.Leads w := fun w hw ↦ .word hw
  have hc := append h (hw ")" (by decide)).composed (by decide)
  rw [List.append_nil] at hc
  rw [String.append_assoc]
  exact (hw "(" (by decide)).before hc

end Composed

namespace Formula

variable {x : Lexicon}

private theorem composed_memberText {f : Formula NumberedClause} (h : Composed x f.atoms f.text) :
    Composed x f.atoms f.memberText := by
  cases f with
  | atom k => exact h
  | joined logic ms => exact h.parenthesized

private theorem composed_conjunct {f : Formula NumberedClause} (h : Composed x f.atoms f.text)
    (others : Bool) :
    Composed x f.atoms (f.conjunct others) := by
  unfold conjunct
  split
  · exact h.parenthesized
  · exact h

private theorem separator_mem (logic : Logic) :
    separator logic ∈ vocabulary ∧ isSeparate (separator logic).toList = true ∧
      separator logic ≠ "" := by
  cases logic <;> decide

mutual

private theorem composed_text : (f : Formula NumberedClause) →
    (∀ k ∈ f.atoms, Composed x [] k.clause.column ∧ k.clause.Fits) → Composed x f.atoms f.text
  | .atom k, h => by
    obtain ⟨hc, hf⟩ := h k (List.mem_singleton_self k)
    exact .ofClause hc hf
  | .joined logic ms, h => by
    obtain ⟨hs, hd, hne⟩ := separator_mem logic
    rw [atoms, text, memberTexts_eq_map, atomsOf_eq_flatMap]
    exact .intercalate hs hd hne fun m hm ↦ composed_memberText (composed_texts ms h m hm)

private theorem composed_texts : (ms : List (Formula NumberedClause)) →
    (∀ k ∈ atomsOf ms, Composed x [] k.clause.column ∧ k.clause.Fits) →
    ∀ m ∈ ms, Composed x m.atoms m.text
  | [], _ => by simp
  | m :: rest, h => by
    have hm := composed_text m fun k hk ↦ h k (List.mem_append_left _ hk)
    have hr := composed_texts rest fun k hk ↦ h k (List.mem_append_right _ hk)
    intro f hf
    rcases List.mem_cons.mp hf with rfl | hf
    · exact hm
    · exact hr f hf

end

end Formula

/-- The text of a compiled filter is put together from its clauses. -/
theorem FilterGroup.composed_compile {x : Lexicon} {g : FilterGroup}
    (h : ∀ c ∈ g.leaves, Composed x [] c.column) (parameters : Fields) (first : Nat) :
    Composed x (NumberedClause.numberFrom first (g.clauses parameters))
      (g.compile parameters first).sql := by
  have hatoms := g.atoms_remainder? parameters first
  rw [g.compile_eq]
  cases hr : g.remainder? parameters first with
  | none =>
    rw [hr] at hatoms
    rw [← hatoms]
    exact .nil
  | some f =>
    rw [hr] at hatoms
    rw [← hatoms]
    refine f.composed_text fun k hk ↦ ?_
    have hm : k ∈ NumberedClause.numberFrom first (g.clauses parameters) := hatoms ▸ hk
    obtain ⟨hf, c, hc, he⟩ := Condition.mem_clauses (NumberedClause.mem_numberFrom hm)
    exact ⟨he ▸ h c hc, hf⟩

namespace StatementPlan

variable {x : Lexicon} {t : ReportTemplate} (p : StatementPlan) (parameters : Fields)

private theorem composed_columns {gs : List FilterGroup}
    (h : ∀ g ∈ gs, ∀ c ∈ g.leaves, Composed x [] c.column) (first : Nat) :
    ∀ k ∈ NumberedClause.numberFrom first (FilterGroup.clausesOf parameters gs),
      Composed x [] k.clause.column ∧ k.clause.Fits := by
  intro k hk
  obtain ⟨g, hg, hc⟩ := List.mem_flatMap.mp (NumberedClause.mem_numberFrom hk)
  obtain ⟨hf, c, hc, he⟩ := Condition.mem_clauses hc
  rw [← he]
  exact ⟨h g hg c hc, hf⟩

/-- The condition on rows is put together from the clauses of the filters of rows. -/
theorem composed_whereText (h : ∀ g ∈ p.rowFilters t, ∀ c ∈ g.leaves, Composed x [] c.column) :
    Composed x (NumberedClause.numberFrom 1 (p.rowClauses t parameters))
      (p.whereText t parameters) := by
  have hc := composed_columns parameters h 1
  rw [rowClauses, ← FilterGroup.atoms_remainders] at *
  rw [whereText_eq, Formula.atomsOf_eq_flatMap]
  exact .intercalate (by decide) (by decide) (by decide) fun f hf ↦
    f.composed_conjunct (Formula.composed_texts _ hc f hf) _

/-- The condition on groups is put together from its clauses, numbered after those of the filters of
rows. -/
theorem composed_havingText (h : ∀ g ∈ t.config.having, ∀ c ∈ g.leaves, Composed x [] c.column) :
    Composed x (NumberedClause.numberFrom (p.groupFirst t parameters) (groupClauses t parameters))
      (p.havingText t parameters) := by
  obtain ⟨-, -, hnext⟩ := compileFilters_eq parameters 1 (p.rowFilters t)
  rw [havingText, groupPart, groupClauses, hnext]
  cases hh : t.config.having with
  | none => exact .nil
  | some g =>
    have hg : FilterGroup.clausesOf parameters [g] = g.clauses parameters :=
      List.flatMap_singleton _ _
    rw [Option.toList_some, hg]
    exact g.composed_compile (h g hh) parameters (p.groupFirst t parameters)

end StatementPlan

end TabularReport
