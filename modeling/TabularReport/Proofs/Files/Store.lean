import TabularReport.Files.Tree
import TabularReport.Proofs.Store.Contents

/-!
# Stores in a tree of files

A store that has been opened is found again where it was, and holds what was kept in it last:
keeping a store replaces a file, so the directories that lead to it stay.
-/

namespace TabularReport.FileTree

variable {t t' opened : FileTree} {p q : Place} {names : List String} {entry : FileEntry}
  {path : String} {c after : Catalog}

private theorem get?_put_self (t : FileTree) (p : Place) (entry : FileEntry) :
    (t.put p entry).get? p = some entry := by
  rw [get?, put, List.find?_cons_of_pos (by simp)]

private theorem get?_put_of_directory (h : t.get? q = some .directory) (hne : q ≠ p) :
    (t.put p entry).get? q = some .directory := by
  have hfind : (t.put p entry).entries.find? (·.1 == q) = t.entries.find? (·.1 == q) := by
    rw [put, List.find?_cons_of_neg (by simpa using hne.symm), find?_filter_ne hne]
  unfold get? at h ⊢
  rw [hfind]
  cases hq : t.entries.find? (·.1 == q) with
  | some found =>
    rw [hq] at h
    exact h
  | none =>
    rw [hq] at h
    dsimp only at h ⊢
    split at h
    · next hwithin =>
      refine if_pos ?_
      rw [Bool.or_eq_true] at hwithin ⊢
      refine hwithin.imp_right fun habove ↦ ?_
      rw [List.any_eq_true] at habove ⊢
      obtain ⟨below, hbelow, hprefix⟩ := habove
      by_cases hp : below.1 = p
      · exact ⟨(p, entry), List.mem_cons_self .., hp ▸ hprefix⟩
      · exact ⟨below, List.mem_cons_of_mem _ (List.mem_filter.mpr ⟨hbelow, by simpa using hp⟩),
          hprefix⟩
    · cases h

/-- Whether names lead from a directory through directories only. -/
def Leads (t : FileTree) (p : Place) : List String → Prop
  | [] => True
  | name :: rest =>
    name.utf8ByteSize ≤ longestName ∧ t.get? (p.child name) = some .directory ∧
      t.Leads (p.child name) rest

private theorem Leads.makeDirectories (h : t.Leads p names) :
    t.makeDirectories p names = .ok t := by
  induction names generalizing p with
  | nil => rfl
  | cons name rest ih =>
    obtain ⟨hshort, hdirectory, hrest⟩ := h
    rw [FileTree.makeDirectories, if_neg (Nat.not_lt.mpr hshort), hdirectory]
    exact ih hrest

private theorem Leads.put (h : t.Leads p names) (hq : t.get? q ≠ some .directory) :
    (t.put q entry).Leads p names := by
  induction names generalizing p with
  | nil => trivial
  | cons name rest ih =>
    obtain ⟨hshort, hdirectory, hrest⟩ := h
    refine ⟨hshort, get?_put_of_directory hdirectory ?_, ih hrest⟩
    rintro rfl
    exact hq hdirectory

private theorem get?_of_makeDirectories (h : t.makeDirectories p names = .ok t')
    (hq : t.get? q = some .directory) : t'.get? q = some .directory := by
  induction names generalizing t p with
  | nil =>
    cases h
    exact hq
  | cons name rest ih =>
    rw [makeDirectories] at h
    split at h
    · cases h
    · split at h
      · next hnone =>
        refine ih h (get?_put_of_directory hq ?_)
        rintro rfl
        rw [hq] at hnone
        cases hnone
      · exact ih h hq
      · cases h

private theorem leads_of_makeDirectories (h : t.makeDirectories p names = .ok t') :
    t'.Leads p names := by
  induction names generalizing t p with
  | nil => trivial
  | cons name rest ih =>
    rw [makeDirectories] at h
    split at h
    · cases h
    · next hshort =>
      split at h
      · exact ⟨Nat.not_lt.mp hshort, get?_of_makeDirectories h (get?_put_self ..), ih h⟩
      · next hdirectory =>
        exact ⟨Nat.not_lt.mp hshort, get?_of_makeDirectories h hdirectory, ih h⟩
      · cases h

/-- Whether a store is where a path leads. -/
structure Stores (t : FileTree) (path : String) (c : Catalog) : Prop where
  kept : isUnkept path = false
  leads : t.Leads [] (pathNames path).dropLast
  store : t.get? (storePlace path) = some (.store c)

/-- A store where a path leads is opened as it is. -/
theorem Stores.openStore (h : t.Stores path c) : t.openStore path = (t, .ok c) := by
  rw [FileTree.openStore, h.kept, if_neg Bool.false_ne_true, h.leads.makeDirectories]
  dsimp only
  rw [h.store]

private theorem Stores.keepStore (h : t.Stores path c) (after : Catalog) :
    (t.keepStore path after).Stores path after := by
  have hplace : t.get? (storePlace path) ≠ some .directory := by
    rw [h.store]
    nofun
  rw [FileTree.keepStore, h.kept, if_neg Bool.false_ne_true]
  exact ⟨h.kept, h.leads.put hplace, get?_put_self ..⟩

private theorem stores_of_openStore (hkept : isUnkept path = false)
    (h : t.openStore path = (opened, .ok c)) : opened.Stores path c := by
  rw [openStore, hkept, if_neg Bool.false_ne_true] at h
  split at h
  · cases h
  · next made hmade =>
    have hleads := leads_of_makeDirectories hmade
    dsimp only at h
    split at h
    · next hstore =>
      cases h
      exact ⟨hkept, hleads, hstore⟩
    · next hplace =>
      split at h
      · cases h
        exact ⟨hkept, hleads.put (by rw [hplace]; nofun), get?_put_self ..⟩
      · cases h
    · cases h
    · next hplace =>
      cases h
      exact ⟨hkept, hleads.put (by rw [hplace]; nofun), get?_put_self ..⟩

/-- A store that has been opened can be opened again, and is the same. -/
theorem openStore_again (h : t.openStore path = (opened, .ok c)) :
    opened.openStore path = (opened, .ok c) := by
  cases hkept : isUnkept path with
  | false => exact (stores_of_openStore hkept h).openStore
  | true =>
    rw [openStore, hkept, if_pos rfl] at h ⊢
    cases h
    rfl

/-- A store holds what was kept in it, unless stores of its path are not kept. -/
theorem openStore_keepStore (hkept : isUnkept path = false)
    (h : t.openStore path = (opened, .ok c)) (after : Catalog) :
    (opened.keepStore path after).openStore path = (opened.keepStore path after, .ok after) :=
  ((stores_of_openStore hkept h).keepStore after).openStore

end TabularReport.FileTree
