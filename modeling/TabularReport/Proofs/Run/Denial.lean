import TabularReport.Proofs.Run.Discipline

/-!
# Denied runs

Access is checked before anything else of a request is looked at. A denied requester therefore
learns nothing of a report but that it may not be run, and leaves no trace.
-/

namespace TabularReport

namespace RunRequest

/-- A stored template that the requester may not use: it is private, and the requester is neither
its owner nor an administrator. -/
structure Denied (r : RunRequest) (e : Engine) (c : Catalog) (t : ReportTemplate) : Prop where
  stored : c.template? r.reportId = .ok (some t)
  hidden : t.isPublic = false
  stranger : t.ownerId ≠ r.requesterId
  unprivileged : r.requesterId ∉ e.admins

/-- Two requests of one requester for one report, to engines with the same administrators. All else
of the requests and of the engines may differ. -/
structure SameAsker (r : RunRequest) (e : Engine) (r' : RunRequest) (e' : Engine) : Prop where
  report : r'.reportId = r.reportId
  requester : r'.requesterId = r.requesterId
  admins : e'.admins = e.admins

variable {r r' : RunRequest} {e e' : Engine} {c c' : Catalog} {t t' : ReportTemplate}

private theorem Denied.fails (h : r.Denied e c t) :
    r.Fails e c (.authorization (.run r.requesterId t.id)) := by
  refine .denied h.stored ?_
  rintro (hp | ho | ha)
  · rw [h.hidden] at hp
    cases hp
  · exact h.stranger ho
  · exact h.unprivileged ha

private theorem Denied.of_sameAsker (h : r.Denied e c t) (hs : r.SameAsker e r' e')
    (stored : c'.template? r.reportId = .ok (some t')) (owner : t'.ownerId = t.ownerId)
    (visibility : t'.isPublic = t.isPublic) : r'.Denied e' c' t' where
  stored := by
    rw [hs.report]
    exact stored
  hidden := visibility.trans h.hidden
  stranger := by
    rw [owner, hs.requester]
    exact h.stranger
  unprivileged := by
    rw [hs.admins, hs.requester]
    exact h.unprivileged

/-- A denied run ends the same whatever is asked of the report and whatever the report holds: with
one error, without a question to storage, and with the catalog as it was. -/
theorem execute_of_denied (h : r.Denied e c t) (hs : r.SameAsker e r' e')
    (stored : c'.template? r.reportId = .ok (some t')) (id : t'.id = t.id)
    (owner : t'.ownerId = t.ownerId) (visibility : t'.isPublic = t.isPublic) :
    ∃ denial, r.execute e c = ⟨.error (.authorization denial), [], [], c⟩ ∧
      r'.execute e' c' = ⟨.error (.authorization denial), [], [], c'⟩ := by
  have h' := h.of_sameAsker hs stored owner visibility
  refine ⟨.run r.requesterId t.id, execute_of_fails h.fails, ?_⟩
  rw [execute_of_fails h'.fails, hs.requester, id]

end RunRequest

/-- A catalog with a private report on salaries, given the documents of its columns. -/
def salariesCatalog (columns : String) : Catalog :=
  { templates :=
      [("salaries",
        "\x7b\"id\":\"salaries\",\"name\":\"\",\"ownerId\":\"ada\",\"dataSources\":[]," ++
          "\"config\":\x7b\"columns\":[" ++ columns ++ "]\x7d\x7d")] }

/-- A request for the report on salaries by somebody who neither owns it nor administrates. -/
def strangeRequest (savedQueryId : Option String) (pagination : Option PageRequest) : RunRequest :=
  { reportId := "salaries", savedQueryId, pagination, requesterId := "bob" }

/-- A stranger gets one answer from a report with a column and a report without, from storage that
works and storage that fails, with and without a page and a saved query. -/
theorem execute_strangeRequest :
    let working : Engine := { admins := ["eve"], storage := fun _ ↦ .ok [] }
    let failing : Engine :=
      { admins := ["eve"], storage := fun _ ↦ .error (.query (.noPlaceholder 1)) }
    let plain := strangeRequest none none
    let paged := strangeRequest (some "all") (some ⟨2, none⟩)
    let c := salariesCatalog ""
    let c' := salariesCatalog "\x7b\"name\":\"amount\"\x7d"
    ∃ t t', plain.Denied working c t ∧ plain.SameAsker working paged failing ∧
      c'.template? plain.reportId = .ok (some t') ∧ t'.id = t.id ∧ t'.ownerId = t.ownerId ∧
      t'.isPublic = t.isPublic ∧
      ∃ denial, plain.execute working c = ⟨.error (.authorization denial), [], [], c⟩ ∧
        paged.execute failing c' = ⟨.error (.authorization denial), [], [], c'⟩ := by
  intro working failing plain paged c c'
  have hfind (columns : String) (h : columns = "" ∨ columns = "\x7b\"name\":\"amount\"\x7d") :
      ∃ t, (salariesCatalog columns).template? "salaries" = .ok (some t) ∧
        (t.id, t.ownerId, t.isPublic) = ("salaries", "ada", false) := by
    have hk : ((salariesCatalog columns).template? "salaries").toOption.join.map
        (fun t ↦ (t.id, t.ownerId, t.isPublic)) = some ("salaries", "ada", false) := by
      rcases h with rfl | rfl <;> decide +kernel
    obtain ⟨t, ht, hk⟩ := Option.map_eq_some_iff.mp hk
    exact ⟨t, Except.toOption_join_eq_some_iff.mp ht, hk⟩
  obtain ⟨t, ht, hk⟩ := hfind _ (.inl rfl)
  obtain ⟨t', ht', hk'⟩ := hfind _ (.inr rfl)
  simp only [Prod.mk.injEq] at hk hk'
  have hd : plain.Denied working c t :=
    { stored := ht
      hidden := hk.2.2
      stranger := by
        rw [hk.2.1]
        decide
      unprivileged := by decide }
  have hs : plain.SameAsker working paged failing := ⟨rfl, rfl, rfl⟩
  have hid : t'.id = t.id := hk'.1.trans hk.1.symm
  have ho : t'.ownerId = t.ownerId := hk'.2.1.trans hk.2.1.symm
  have hv : t'.isPublic = t.isPublic := hk'.2.2.trans hk.2.2.symm
  exact ⟨t, t', hd, hs, ht', hid, ho, hv, RunRequest.execute_of_denied hd hs ht' hid ho hv⟩

end TabularReport
