import TabularReport.Bundle
import TabularReport.Proofs.Store.Contents

/-!
# What a bundle brings into a catalog

A bundle is refused for the first of its templates that is not valid. Bringing it in puts each of
its documents under its id, so that of those with one id in a collection the last one is found
there, and leaves all else in the catalog.
-/

namespace TabularReport

/-- The last of some things that goes by an id. -/
def lastOf {α : Type} (idOf : α → String) (things : List α) (id : String) : Option α :=
  things.reverse.find? (idOf · == id)

/-- Whether a thing is the last one of its id. -/
def IsLast {α : Type} (idOf : α → String) (things : List α) (a : α) : Prop :=
  ∃ before rest, things = before ++ a :: rest ∧ ∀ b ∈ rest, idOf b ≠ idOf a

private theorem IsLast.lastOf_eq {α : Type} {idOf : α → String} {things : List α} {a : α}
    (h : IsLast idOf things a) : lastOf idOf things (idOf a) = some a := by
  obtain ⟨before, rest, rfl, hrest⟩ := h
  rw [lastOf, List.find?_eq_some_iff_append, beq_self_eq_true]
  refine ⟨rfl, rest.reverse, before.reverse, by simp, fun b hb ↦ ?_⟩
  simpa using hrest b (List.mem_reverse.mp hb)

namespace Catalog

private theorem text?_foldl_put {α : Type} (collection other : Collection) (idOf write : α → String)
    (things : List α) (c : Catalog) (id : String) :
    (things.foldl (fun c a ↦ c.put collection (idOf a) (write a)) c).text? other id =
      if other = collection then ((lastOf idOf things id).map write).or (c.text? other id)
      else c.text? other id := by
  induction things generalizing c with
  | nil => split <;> rfl
  | cons a rest ih =>
    rw [List.foldl_cons, ih, text?_put]
    by_cases ho : other = collection
    · rw [if_pos ho, if_pos ho, lastOf, lastOf, List.reverse_cons, List.find?_append]
      by_cases hid : id = idOf a
      · cases rest.reverse.find? (idOf · == id) <;> simp [ho, hid]
      · cases rest.reverse.find? (idOf · == id) <;> simp [hid, Ne.symm hid]
    · rw [if_neg ho, if_neg ho, if_neg fun h ↦ ho h.1]

private theorem records_foldl_put {α : Type} (collection : Collection) (idOf write : α → String)
    (things : List α) (c : Catalog) :
    (things.foldl (fun c a ↦ c.put collection (idOf a) (write a)) c).records = c.records := by
  induction things generalizing c with
  | nil => rfl
  | cons a rest ih => rw [List.foldl_cons, ih, records_put]

private theorem history_congr {c c' : Catalog} (h : c.records = c'.records) (templateId : String)
    (limit : Nat) : c.history templateId limit = c'.history templateId limit := by
  rw [history, history, newestFirst, newestFirst, h]

end Catalog

namespace Bundle

variable {b : Bundle} {c after : Catalog}

/-- The ids under which a bundle has documents of a collection. -/
def ids (b : Bundle) : Collection → List String
  | .templates => b.templates.map (·.id)
  | .savedQueries => b.savedQueries.map (·.id)
  | .components => b.components.map (·.id)

/-- The document that a bundle brings in under an id of a collection. -/
def document? (b : Bundle) (collection : Collection) (id : String) : Option Json :=
  match collection with
  | .templates => (lastOf (·.id) b.templates id).map (·.toJson)
  | .savedQueries => (lastOf (·.id) b.savedQueries id).map (·.toJson)
  | .components => (lastOf (·.id) b.components id).map (·.toJson)

/-- A bundle is refused for its first bad template, with the first thing that is wrong with it. -/
theorem problem?_of_first {before rest : List ReportTemplate} {bad : ReportTemplate}
    {p : ValidationError} {more : List ValidationError}
    (hsplit : b.templates = before ++ bad :: rest) (hbefore : ∀ t ∈ before, t.problems = [])
    (hbad : bad.problems = p :: more) : b.problem? = some ⟨bad.id, p⟩ := by
  rw [problem?, hsplit, List.findSome?_append, List.findSome?_eq_none_iff.mpr, Option.none_or,
    List.findSome?_cons, hbad]
  · rfl
  · intro t ht
    rw [hbefore t ht]
    rfl

/-- A bundle without bad templates is not refused. -/
theorem problem?_eq_none (h : ∀ t ∈ b.templates, t.problems = []) : b.problem? = none := by
  refine List.findSome?_eq_none_iff.mpr fun t ht ↦ ?_
  rw [h t ht]
  rfl

/-- A bundle is brought in collection by collection. -/
theorem addTo_eq (b : Bundle) (c : Catalog) :
    b.addTo c =
      b.savedQueries.foldl (fun c q ↦ c.put .savedQueries q.id q.toJson.compact)
        (b.components.foldl (fun c v ↦ c.put .components v.id v.toJson.compact)
          (b.templates.foldl (fun c t ↦ c.put .templates t.id t.toJson.compact) c)) := rfl

private theorem text?_addTo (b : Bundle) (c : Catalog) (collection : Collection) (id : String) :
    (b.addTo c).text? collection id =
      ((b.document? collection id).map Json.compact).or (c.text? collection id) := by
  simp only [addTo_eq, Catalog.text?_foldl_put]
  cases collection <;>
  · simp only [reduceCtorEq, if_true, if_false, document?, Option.map_map]
    rfl

private theorem find_addTo_iff {α : Type} {collection : Collection} {id : String} {v : Json}
    {r : Reader α} {a : α} (h : b.document? collection id = some v) :
    (b.addTo c).find collection r id = .ok (some a) ↔ r.ofText v.compact = .ok a := by
  refine Catalog.find_eq_ok_some_iff ?_
  rw [text?_addTo, h]
  rfl

private theorem records_addTo (b : Bundle) (c : Catalog) : (b.addTo c).records = c.records := by
  simp only [addTo_eq, Catalog.records_foldl_put]

private theorem document?_eq_none {collection : Collection} {id : String}
    (h : id ∉ b.ids collection) :
    b.document? collection id = none := by
  have hlast {α : Type} {idOf : α → String} {things : List α} (h : id ∉ things.map idOf) :
      lastOf idOf things id = none := by
    refine List.find?_eq_none.mpr fun a ha heq ↦ h ?_
    exact List.mem_map.mpr ⟨a, List.mem_reverse.mp ha, beq_iff_eq.mp heq⟩
  cases collection <;> simp only [document?, hlast h, Option.map_none]

/-- Whether a catalog is another one with the documents of a bundle. A document is found as it is
exactly when it reads back from its text. -/
structure BroughtInto (b : Bundle) (c after : Catalog) : Prop where
  texts : ∀ collection id, after.text? collection id =
    ((b.document? collection id).map Json.compact).or (c.text? collection id)
  template : ∀ t, IsLast (·.id) b.templates t →
    (after.template? t.id = .ok (some t) ↔ ReportTemplate.reader.ofText t.toJson.compact = .ok t)
  savedQuery : ∀ q now, IsLast (·.id) b.savedQueries q →
    (after.savedQuery? now q.id = .ok (some q) ↔
      (SavedQuery.reader now).ofText q.toJson.compact = .ok q)
  component : ∀ v, IsLast (·.id) b.components v →
    (after.component? v.id = .ok (some v) ↔ Component.reader.ofText v.toJson.compact = .ok v)
  /-- Documents under other ids, and of other collections, are as before. -/
  others : ∀ collection id, id ∉ b.ids collection → ∀ {α : Type} (r : Reader α),
    after.find collection r id = c.find collection r id
  records : after.records = c.records
  history : ∀ templateId limit, after.history templateId limit = c.history templateId limit

/-- A bundle that is brought in is in the catalog. -/
theorem broughtInto_addTo (b : Bundle) (c : Catalog) : b.BroughtInto c (b.addTo c) where
  texts := text?_addTo b c
  template t hlast := find_addTo_iff (by rw [document?, hlast.lastOf_eq, Option.map_some])
  savedQuery q now hlast := find_addTo_iff (by rw [document?, hlast.lastOf_eq, Option.map_some])
  component v hlast := find_addTo_iff (by rw [document?, hlast.lastOf_eq, Option.map_some])
  others collection id hid α r := by
    rw [Catalog.find_eq, Catalog.find_eq, text?_addTo, document?_eq_none hid]
    rfl
  records := records_addTo b c
  history := Catalog.history_congr (records_addTo b c)

end Bundle

end TabularReport
