import TabularReport.Proofs.Run.Discipline

/-!
# What a catalog holds

A look-up depends on the text under its id alone, which saving under another id or in another
collection leaves as it is. Lists that the catalog sorts keep the order of what has equal keys.
-/

namespace TabularReport

/-- Whether a list is a given one put into the order of a key, keeping the given order among what
has equal keys. -/
structure SortsBy {α κ : Type} [DecidableEq κ] (key : α → κ) (r : κ → κ → Prop)
    (given sorted : List α) : Prop where
  perm : sorted.Perm given
  ordered : sorted.Pairwise fun a b ↦ r (key a) (key b)
  stable : ∀ k, sorted.filter (key · = k) = given.filter (key · = k)

/-- Merge sort puts a list into the order of a key. -/
theorem sortsBy_mergeSort {α κ : Type} [DecidableEq κ] (key : α → κ) (r : κ → κ → Prop)
    [DecidableRel r] (trans : ∀ {a b c}, r a b → r b c → r a c) (total : ∀ a b, r a b ∨ r b a)
    (l : List α) : SortsBy key r l (l.mergeSort fun a b ↦ r (key a) (key b)) := by
  have htrans (a b c : α) (hab : decide (r (key a) (key b)) = true)
      (hbc : decide (r (key b) (key c)) = true) : decide (r (key a) (key c)) = true :=
    decide_eq_true (trans (of_decide_eq_true hab) (of_decide_eq_true hbc))
  have htotal (a b : α) :
      (decide (r (key a) (key b)) || decide (r (key b) (key a))) = true := by
    simpa using total (key a) (key b)
  have hperm := l.mergeSort_perm fun a b ↦ r (key a) (key b)
  refine ⟨hperm, ?_, fun k ↦ ?_⟩
  · exact (List.pairwise_mergeSort htrans htotal l).imp of_decide_eq_true
  · have hequal : (l.filter (key · = k)).Pairwise fun a b ↦ decide (r (key a) (key b)) = true := by
      have hkey : ∀ a ∈ l.filter (key · = k), key a = k := fun a ha ↦
        of_decide_eq_true (List.mem_filter.mp ha).2
      refine List.pairwise_of_forall_mem_list fun a ha b hb ↦ decide_eq_true ?_
      rw [hkey a ha, hkey b hb]
      exact (or_self_iff.mp (total k k))
    have hsub := (List.sublist_mergeSort htrans htotal hequal List.filter_sublist).filter
      (key · = k)
    simp only [List.filter_filter, Bool.and_self] at hsub
    exact (hsub.eq_of_length (hperm.filter _).length_eq.symm).symm

/-- In a list put into the order of a key, what has equal keys is related as it was before. -/
theorem SortsBy.pairwise {α κ : Type} [DecidableEq κ] {key : α → κ} {r : κ → κ → Prop}
    {given sorted : List α} {R : α → α → Prop} (h : SortsBy key r given sorted)
    (hR : given.Pairwise R) :
    sorted.Pairwise fun a b ↦ r (key a) (key b) ∧ (key a = key b → R a b) := by
  refine h.ordered.and (List.pairwise_iff_forall_sublist.mpr fun {a b} hab hk ↦ ?_)
  have hsame : [a, b].Sublist (sorted.filter (key · = key b)) := by
    have hf := hab.filter (key · = key b)
    rwa [List.filter_eq_self.mpr (by simp [hk])] at hf
  rw [h.stable] at hsame
  exact List.pairwise_iff_forall_sublist.mp hR (hsame.trans List.filter_sublist)

/-- Taking out what is under one key leaves what is under the others. -/
theorem find?_filter_ne {κ α : Type} [BEq κ] [LawfulBEq κ] [DecidableEq κ] {entries : List (κ × α)}
    {key other : κ} (h : other ≠ key) :
    (entries.filter fun d ↦ d.1 ≠ key).find? (·.1 == other) = entries.find? (·.1 == other) := by
  induction entries with
  | nil => rfl
  | cons d rest ih =>
    by_cases hd : d.1 = key
    · have hother : (d.1 == other) = false := beq_false_of_ne (hd ▸ h.symm)
      rw [List.filter_cons_of_neg (by simpa using hd), List.find?_cons, hother, ih]
    · rw [List.filter_cons_of_pos (by simpa using hd), List.find?_cons, List.find?_cons, ih]

namespace Catalog

/-- The text of the document that a collection holds under an id. -/
def text? (c : Catalog) (collection : Collection) (id : String) : Option String :=
  ((c.documents collection).find? (·.1 == id)).map (·.2)

/-- A text is found under the id and in the collection under which it was put; all else is found as
before. -/
theorem text?_put (c : Catalog) (collection other : Collection) (id otherId document : String) :
    (c.put collection id document).text? other otherId =
      if other = collection ∧ otherId = id then some document else c.text? other otherId := by
  have hreplaced (documents : List (String × String)) :
      (((id, document) :: documents.filter fun d ↦ d.1 ≠ id).find? (·.1 == otherId)).map (·.2) =
        if otherId = id then some document
        else (documents.find? (·.1 == otherId)).map (·.2) := by
    by_cases hid : otherId = id
    · rw [if_pos hid, List.find?_cons_of_pos (by simpa using hid.symm)]
      rfl
    · rw [if_neg hid, List.find?_cons_of_neg (by simpa using Ne.symm hid), find?_filter_ne hid]
  cases collection <;> cases other <;>
    simp only [text?, put, documents, hreplaced, true_and, reduceCtorEq, false_and, if_false]

/-- Putting a document leaves the records. -/
theorem records_put (c : Catalog) (collection : Collection) (id document : String) :
    (c.put collection id document).records = c.records := by
  cases collection <;> rfl

/-- A look-up reads the text under the id. -/
theorem find_eq {α : Type} (c : Catalog) (collection : Collection) (r : Reader α) (id : String) :
    c.find collection r id =
      match c.text? collection id with
      | none => .ok none
      | some text =>
        match r.ofText text with
        | .ok a => .ok (some a)
        | .error e => .error (.document e) := by
  rw [find, text?]
  cases (c.documents collection).find? (·.1 == id) <;> rfl

/-- A look-up finds what the text under the id is read as. -/
theorem find_eq_ok_some_iff {α : Type} {c : Catalog} {collection : Collection} {r : Reader α}
    {id text : String} {a : α} (h : c.text? collection id = some text) :
    c.find collection r id = .ok (some a) ↔ r.ofText text = .ok a := by
  rw [find_eq, h]
  dsimp only
  cases r.ofText text <;> simp

/-- What the text under an id is read as is found. -/
theorem find_of_text? {α : Type} {c : Catalog} {collection : Collection} {r : Reader α}
    {id text : String} {a : α} (h : c.text? collection id = some text)
    (hread : r.ofText text = .ok a) : c.find collection r id = .ok (some a) :=
  (find_eq_ok_some_iff h).mpr hread

/-- What a look-up finds has been read from a text. -/
theorem exists_source_of_find {α : Type} {c : Catalog} {collection : Collection}
    {r : Reader α} {id : String} {a : α} (h : c.find collection r id = .ok (some a)) :
    ∃ s, r .text s = .ok a := by
  rw [find_eq] at h
  split at h
  · cases h
  · next text _ =>
    split at h
    · next hread =>
      cases h
      simp only [Reader.ofText] at hread
      split at hread
      · cases hread
      · next hs =>
        split at hread
        · cases hread
        · cases hread
          exact ⟨_, hs⟩
    · cases h

/-- A document that reads back from its text is looked up as it was written. -/
theorem find_eq_ok {α : Type} {c : Catalog} {collection : Collection} {id : String} {r : Reader α}
    {write : α → String} {a? : Option α} (h : c.text? collection id = a?.map write)
    (hread : ∀ a ∈ a?, r.ofText (write a) = .ok a) : c.find collection r id = .ok a? := by
  rw [find_eq, h]
  cases a? with
  | none => rfl
  | some a =>
    rw [Option.map_some]
    simp only [hread a rfl]

/-- The parameters of a template that is found are sorted by their positions, those of one position
staying in order. -/
theorem sortsBy_parameters {c : Catalog} {id : String} {t? : Option ReportTemplate}
    (h : c.template? id = .ok t?) :
    ∃ sorted, c.parameters id = .ok sorted ∧
      SortsBy (·.position) (· ≤ ·) ((t?.map (·.parameters)).getD []) sorted := by
  rw [parameters, h]
  exact ⟨_, rfl, sortsBy_mergeSort ParameterDefinition.position (· ≤ ·) Nat.le_trans Nat.le_total _⟩

/-- The records of a template in the order of a listing: the newest first, and of one millisecond
the last one first. -/
def listing (log : List RunRecord) (templateId : String) : List RunRecord :=
  (log.filter (·.templateId == templateId)).reverse.mergeSort fun a b ↦
    a.executedAt.millis ≥ b.executedAt.millis

/-- A listing puts the records of a template into the order of their milliseconds, descending. -/
theorem sortsBy_listing (log : List RunRecord) (templateId : String) :
    SortsBy (·.executedAt.millis) (· ≥ ·) (log.filter (·.templateId == templateId)).reverse
      (listing log templateId) :=
  sortsBy_mergeSort (fun r : RunRecord ↦ r.executedAt.millis) (· ≥ ·)
    (fun hab hbc ↦ Int.le_trans hbc hab) (fun a b ↦ Int.le_total b a) _

private theorem newestFirst_eq {c : Catalog} {log : List RunRecord}
    (h : c.records = log.map RunRecord.stored) (templateId : String) :
    c.newestFirst templateId = (listing log templateId).map RunRecord.stored := by
  rw [newestFirst, h, listing, List.filter_map, ← List.map_reverse]
  refine (List.map_mergeSort ?_).symm
  exact fun _ _ _ _ ↦ rfl

private theorem mapM_stored {records : List RunRecord}
    (h : ∀ r ∈ records, RunRecord.reader.ofText r.toJson.compact = .ok r) :
    ((records.map RunRecord.stored).mapM fun r ↦
      (RunRecord.reader.ofText r.document).mapError StorageError.document) = .ok records := by
  induction records with
  | nil => rfl
  | cons r rest ih =>
    rw [List.forall_mem_cons] at h
    have hr : RunRecord.reader.ofText r.stored.document = .ok r := h.1
    rw [List.map_cons, List.mapM_cons, hr, ih h.2]
    rfl

/-- The history of a template is the beginning of its listing. -/
theorem history_eq_ok {c : Catalog} {log : List RunRecord}
    (h : c.records = log.map RunRecord.stored) {templateId : String} {limit : Nat}
    (hlimit : limit < Nat.pow 2 63 ∨ log.length ≤ limit)
    (hread : ∀ r ∈ log, r.templateId = templateId →
      RunRecord.reader.ofText r.toJson.compact = .ok r) :
    c.history templateId limit = .ok ((listing log templateId).take limit) := by
  have hperm := (sortsBy_listing log templateId).perm
  have hshown : (if limit < Nat.pow 2 63 then
      ((listing log templateId).map RunRecord.stored).take limit
      else (listing log templateId).map RunRecord.stored) =
      ((listing log templateId).take limit).map RunRecord.stored := by
    split
    · exact List.map_take.symm
    · next hlarge =>
      have hlength : (listing log templateId).length ≤ limit := by
        rw [hperm.length_eq, List.length_reverse]
        exact Nat.le_trans (List.length_filter_le ..) (hlimit.resolve_left hlarge)
      rw [List.take_of_length_le hlength]
  rw [history, newestFirst_eq h, hshown]
  refine mapM_stored fun r hr ↦ ?_
  have hmem := hperm.mem_iff.mp (List.mem_of_mem_take hr)
  rw [List.mem_reverse, List.mem_filter, beq_iff_eq] at hmem
  exact hread r hmem.1 hmem.2

end Catalog

end TabularReport
