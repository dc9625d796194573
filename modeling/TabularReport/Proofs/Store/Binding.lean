import TabularReport.Proofs.Statement.ParameterMarks
import TabularReport.Proofs.Store.Engine
import TabularReport.Store.Tables

/-!
# Binding values to the parameters of a statement

A prepared statement runs exactly when its parameters are `$1`, `$2` and so on, one for each value,
and each parameter then has the value at the place that its name tells. The statement of a template
passes this check when its author has written no parameters, has left no quotation or comment open,
and has not ended the statement.
-/

namespace TabularReport

open Placeholder

/-- How a prepared statement with values is answered. -/
structure SqlEngine.Answers {D S : Type} (e : SqlEngine D S) (d : D) (s : BoundStatement) (st : S) :
    Prop where
  /-- The values can be bound exactly when the parameters are `$1`, `$2` and so on, one for each
  value. -/
  binds : (∃ bound, bindings (e.parameters st) s.params = .ok bound) ↔
    ∀ name, name ∈ e.parameters st ↔ name ∈ placeholders 1 s.params.length
  /-- Then the statement runs, and the parameter `$k` has the `k`-th value, whatever its number. -/
  runs : ∀ bound, bindings (e.parameters st) s.params = .ok bound →
    e.query d s = e.run d st bound ∧ bound.length = (e.parameters st).length ∧
      ∀ i j : Nat, (e.parameters st)[j]? = some (placeholder (i + 1)) → bound[j]? = s.params[i]?
  /-- Otherwise nothing runs. -/
  refuses : ∀ problem, bindings (e.parameters st) s.params = .error problem →
    e.query d s = (.error problem, d) ∧
      ∃ cause, problem = .query cause ∧ cause.Refuses (e.parameters st) s.params.length
  /-- Values of a template whose expressions have no parameters, end the quotations and comments
  that they begin, and end no statement, can be bound when the parameters are the marks of the
  statement that the text begins with. -/
  accepts : ∀ (t : ReportTemplate) (request : QueryRequest) (limits : PageLimits)
    (a : AssembledQuery), (∀ text ∈ t.authored, Sql.marks text = [] ∧ Sql.isComplete text = true) →
    t.assemble request limits = .ok a → s = ⟨a.sql, a.params⟩ →
    (∀ name, name ∈ e.parameters st ↔ name ∈ Sql.marks s.sql) →
    ∃ bound, bindings (e.parameters st) s.params = .ok bound

private theorem NamedOnce.concat {names : List String} (h : NamedOnce names) {name : String}
    (hn : ∀ k, name = placeholder k → name ∉ names) : NamedOnce (names ++ [name]) := by
  intro k i j hi hj
  have hlast {i : Nat} (hi : (names ++ [name])[i]? = some (placeholder k)) :
      names[i]? = some (placeholder k) ∨ i = names.length ∧ name = placeholder k := by
    rw [List.getElem?_append] at hi
    split at hi
    · exact .inl hi
    · next hge =>
      rw [List.getElem?_singleton] at hi
      split at hi
      · exact .inr ⟨by omega, Option.some.inj hi⟩
      · cases hi
  have hnever (he : name = placeholder k) {i : Nat} : names[i]? ≠ some (placeholder k) :=
    fun hm ↦ hn k he (he ▸ List.mem_of_getElem? hm)
  rcases hlast hi with hi | ⟨rfl, hk⟩ <;> rcases hlast hj with hj | ⟨rfl, hk'⟩
  · exact h k i j hi hj
  · exact absurd hi (hnever hk')
  · exact absurd hj (hnever hk)
  · rfl

private theorem Database.namedOnce_placeholders (ls : List Sql.Lexeme) :
    NamedOnce (Database.placeholders ls) := by
  unfold Database.placeholders
  refine List.foldlRecOn (motive := NamedOnce) ls _ (fun k i j hi ↦ by simp at hi) ?_
  intro names h l _
  split
  · next n =>
    split
    · exact h
    · next hc => exact h.concat fun _ _ ↦ by simpa using hc
  · refine h.concat fun k he ↦ ?_
    have hd := congrArg String.toList he
    rw [toList_placeholder] at hd
    cases hd
  · exact h

namespace SqlEngine

variable {D S : Type}

/-- A prepared statement is answered by binding each value to the parameter with its name. -/
theorem answers_of_prepare (e : SqlEngine D S) (d : D) (s : BoundStatement) {st : S}
    (h : e.prepare d s.sql = .ok st) (hone : NamedOnce (e.parameters st)) : e.Answers d s st where
  binds := exists_bindings_iff hone
  runs := by
    intro bound hb
    obtain ⟨-, hlength, -⟩ := bindings_eq_ok hb
    exact ⟨by rw [query, h]; simp only [hb], hlength, fun _ _ hj ↦ getElem?_bindings hone hb hj⟩
  refuses := by
    intro problem hb
    exact ⟨by rw [query, h]; simp only [hb], bindings_eq_error hb⟩
  accepts := by
    intro t request limits a ha hassemble hs hmarks
    refine (exists_bindings_iff hone).mpr fun name ↦ ?_
    rw [hmarks, hs, ReportTemplate.marks_sql ha hassemble]

/-- Values go to the numbers of their placeholders, here to those of the other order. -/
example : bindings ["$2", "$1"] [.string "a", .string "b"] = .ok [.string "b", .string "a"] := by
  rfl

end SqlEngine

/-- A report on the entries that describe a store, with a hidden column that has the given
expression. -/
def entriesReport (note : String) : ReportTemplate :=
  { id := "entries"
    name := "Entries"
    dataSources := [.table "meta"]
    config :=
      { columns :=
          [{ name := "key" },
            { name := "note", expression := some note, visible := false, filterable := true }] } }

/-- A request for the entries whose note is equal to all of the given values. -/
def entriesRequest (notes : List Json) : QueryRequest :=
  { filters := some
      { nodes := notes.map fun v ↦
          .leaf { column := "note", operator := .equal, value := some v } } }

/-- The statement for entries with a note is answered, although the note has the signs of parameters
and comments in quotes. -/
theorem answers_entriesReport :
    ∃ a st, (entriesReport "'$1? -- ' || key").assemble
        (entriesRequest [.string "$1? -- version"]) {} = .ok a ∧
      Database.engine.prepare Database.fresh a.sql = .ok st ∧
      Database.engine.Answers Database.fresh ⟨a.sql, a.params⟩ st ∧
      ∃ bound, SqlEngine.bindings (Database.engine.parameters st) a.params = .ok bound := by
  have hparameters : (((entriesReport "'$1? -- ' || key").assemble
      (entriesRequest [.string "$1? -- version"]) {}).toOption.map fun a ↦
        ((Database.engine.prepare Database.fresh a.sql).toOption.map
          Database.engine.parameters, Sql.marks a.sql)) =
      some (some ["$1"], ["$1"]) := by
    decide +kernel
  obtain ⟨a, ha, hp⟩ := Except.exists_ok_of_toOption hparameters
  obtain ⟨hp, hm⟩ := Prod.mk.inj hp
  obtain ⟨st, hst, hnames⟩ := Except.exists_ok_of_toOption hp
  have hanswers := Database.engine.answers_of_prepare Database.fresh ⟨a.sql, a.params⟩ hst
    (Database.namedOnce_placeholders _)
  refine ⟨a, st, ha, hst, hanswers, ?_⟩
  exact hanswers.accepts _ _ _ a (by decide +kernel) ha rfl fun name ↦ by rw [hnames, hm]

/-- The values of conditions on a note find no placeholder when the author has left a comment or a
quotation open or has ended the statement, although there is no parameter in what the author has
written. -/
theorem refuses_unendedNotes :
    (["1 --", "'", "key;"].map fun note ↦
        ((entriesReport note).authored.map Sql.marks,
          ((entriesReport note).assemble
            (entriesRequest [.bool true, .bool true]) {}).toOption.map fun a ↦
              match Database.fresh.query ⟨a.sql, a.params⟩ with
              | .error problem => some problem
              | .ok _ => none)) =
      [([[]], some (some (.query (.noPlaceholder 1)))),
        ([[]], some (some (.query (.noPlaceholder 1)))),
        ([[]], some (some (.query (.noPlaceholder 1))))] := by
  decide +kernel

end TabularReport
