import TabularReport.Proofs.Parameter.Defaults
import TabularReport.Proofs.Run.Conjunction
import TabularReport.Proofs.Store.Contents
import TabularReport.Proofs.Template.Text
import TabularReport.Statement.Compilation

/-!
# What is compiled is what is run

A run reads its template from the catalog, where the parameters are sorted by their positions;
compiling takes a template as it is. Both come to the same statement, for the order of parameters
does not matter to their defaults, and what the catalog returns is the template that was saved as
long as its numbers are read back from their digits.
-/

namespace TabularReport

/-- A request of nothing but values and a page. -/
def plainRequest (reportId user : String) (values : Fields) (page : Option PageRequest) :
    RunRequest :=
  { reportId, requesterId := user, parameters := values, pagination := page }

variable {e : Engine} {c : Catalog} {values : Fields} {page : Option PageRequest} {user : String}
  {s : BoundStatement}

/-- The definitions that a run is supplied with are those of its template, sorted. -/
theorem Catalog.parameters_eq {t : ReportTemplate} (h : c.template? t.id = .ok (some t)) :
    c.parameters t.id = .ok (ParameterDefinition.inOrder t.parameters) := by
  rw [parameters, h]
  rfl

private theorem exists_compile_of_mem_queries {t : ReportTemplate}
    (ht : c.template? t.id = .ok (some t)) (hvalues : Fields.IsSorted values)
    (h : s ∈ ((plainRequest t.id user values page).execute e c).queries) :
    ∃ a, t.compile values page e.settings.pageLimits = .ok a ∧ s = a.bound := by
  obtain ⟨saved, p, hr, rfl⟩ := RunRequest.exists_readies_of_mem_queries h
  obtain ⟨hstored, -⟩ := hr.template
  cases Option.some.inj (Except.ok.inj (hstored.symm.trans ht))
  cases hr.savedQuery with
  | named hid => cases hid
  | unnamed =>
    have hstatement := hr.statement
    have hsupplied := hr.parameters
    obtain ⟨plan, hplan, -⟩ := ReportTemplate.exists_plan_of_assemble hstatement
    have hnames := ReportTemplate.nodup_parameterNames hplan.accepted
    generalize p.record.parameters = parameters at hstatement hsupplied
    cases hsupplied with
    | accepted hdefinitions =>
      cases hdefinitions.symm.trans (Catalog.parameters_eq ht)
      refine ⟨p.statement, ?_, rfl⟩
      -- The names of an accepted template differ, so its defaults may be filled in in any order.
      have hgiven : (plainRequest p.template.id user values page).given none = values :=
        hvalues.ofList_eq
      have hperm := p.template.parameters.mergeSort_perm fun a b ↦ a.position ≤ b.position
      rw [hgiven, ParameterDefinition.inOrder, ParameterDefinition.fillDefaults_perm hperm
        ((hperm.map _).nodup_iff.mpr hnames) hvalues] at hstatement
      exact hstatement

private theorem queries_plainRequest {t : ReportTemplate} (ht : c.template? t.id = .ok (some t))
    (hallowed : t.isPublic = true ∨ t.ownerId = user ∨ user ∈ e.admins)
    (hvalues : Fields.IsSorted values)
    (hcheck : ParameterDefinition.check t.parameters
      (ParameterDefinition.fillDefaults t.parameters values) = .ok ())
    {a : AssembledQuery} (ha : t.compile values page e.settings.pageLimits = .ok a) :
    ((plainRequest t.id user values page).execute e c).queries = [a.bound] := by
  have hgiven : (plainRequest t.id user values page).given none = values := hvalues.ofList_eq
  have hperm := t.parameters.mergeSort_perm fun a b ↦ a.position ≤ b.position
  obtain ⟨plan, hplan, -⟩ := ReportTemplate.exists_plan_of_assemble ha
  have hnames := ReportTemplate.nodup_parameterNames hplan.accepted
  have hfill : ParameterDefinition.fillDefaults (ParameterDefinition.inOrder t.parameters) values =
      ParameterDefinition.fillDefaults t.parameters values :=
    ParameterDefinition.fillDefaults_perm hperm ((hperm.map _).nodup_iff.mpr hnames) hvalues
  have hsupplies : (plainRequest t.id user values page).Supplies c t none
      (ParameterDefinition.fillDefaults t.parameters values) := by
    have haccepted : (plainRequest t.id user values page).Supplies c t none
        (ParameterDefinition.fillDefaults (ParameterDefinition.inOrder t.parameters)
          ((plainRequest t.id user values page).given none)) := by
      refine .accepted (Catalog.parameters_eq ht) ?_
      rw [hgiven, hfill, ParameterDefinition.check, ParameterDefinition.inOrder_inOrder]
      exact hcheck
    rwa [hgiven, hfill] at haccepted
  have hready : (plainRequest t.id user values page).Readies e c none
      ⟨t, a, (plainRequest t.id user values page).startedRecord e t none
        (ParameterDefinition.fillDefaults t.parameters values)⟩ :=
    ⟨⟨ht, hallowed⟩, .unnamed rfl, hsupplies, ha, rfl⟩
  exact RunRequest.queries_of_readies hready

/-- A run of values and a page asks storage for the statement that the saved template is compiled
to, when the numbers of the template are read back from their digits. -/
theorem compile_of_execute {t : ReportTemplate} (ht : ReportTemplate.reader.Yields t)
    (hback : t.toJson.ReadsBack) (hsaved : c.text? .templates t.id = some t.toJson.compact)
    (hvalues : Fields.IsSorted values)
    (h : s ∈ ((plainRequest t.id user values page).execute e c).queries) :
    ∃ a, t.compile values page e.settings.pageLimits = .ok a ∧ s = a.bound := by
  obtain ⟨saved, p, hr, -⟩ := RunRequest.exists_readies_of_mem_queries h
  have hstored : c.template? t.id = .ok (some p.template) := hr.template.stored
  rw [Catalog.template?, Catalog.find_eq, hsaved] at hstored
  dsimp only at hstored
  cases hread : ReportTemplate.reader.ofText t.toJson.compact with
  | error cause =>
    rw [hread] at hstored
    cases hstored
  | ok u =>
    cases ReportTemplate.eq_of_ofText ht hback hread
    refine exists_compile_of_mem_queries ?_ hvalues h
    rw [Catalog.template?, Catalog.find_eq, hsaved]
    dsimp only
    rw [hread]

/-- A public report of the doses before a day that are above an amount, with a default for each, and
with the declaration of the amount behind that of the day, but before it in position. -/
def dosesReport (least : Number) : ReportTemplate :=
  { id := "doses"
    name := "Doses"
    isPublic := true
    dataSources := [.table "doses"]
    config :=
      { columns := [{ name := "amount" }]
        filters := some
          { nodes :=
              [.leaf { column := "day", operator := .less, parameterRef := some "last" },
                .leaf
                  { column := "amount", operator := .greater, parameterRef := some "least" }] } }
    parameters :=
      [{ name := "last", kind := .number, defaultValue := some (.number (.int 9)), position := 2 },
        { name := "least", kind := .number, defaultValue := some (.number least), position := 1 }] }

private theorem numbers_dosesReport (least : Number) :
    (dosesReport least).toJson.numbers = [.int 9, .int 2, least, .int 1] := rfl

/-- The order of the parameters of doses is not that of their declarations. -/
theorem inOrder_dosesReport (least : Number) :
    ParameterDefinition.inOrder (dosesReport least).parameters =
      (dosesReport least).parameters.reverse := by
  simp [ParameterDefinition.inOrder, dosesReport, List.mergeSort]

set_option maxRecDepth 20000 in
/-- Doses above a whole amount are read from what is written for them. -/
theorem reader_wholeDoses (o : Origin) :
    ReportTemplate.reader o (dosesReport (.int 3)).toJson.source = .ok (dosesReport (.int 3)) := by
  cases o <;> rfl

private theorem check_dosesReport (least : Number) :
    ParameterDefinition.check (dosesReport least).parameters
      (ParameterDefinition.fillDefaults (dosesReport least).parameters []) = .ok () := by
  have hfill : ParameterDefinition.fillDefaults (dosesReport least).parameters [] =
      [("last", .number (.int 9)), ("least", .number least)] := by
    have horder : Text.before "least" "last" = false := by decide +kernel
    simp [ParameterDefinition.fillDefaults, ParameterDefinition.fillDefault, dosesReport,
      Fields.insert, Fields.get?, Json.absent, horder]
  rw [ParameterDefinition.check, inOrder_dosesReport, hfill]
  rfl

/-- The engine of a storage without rows. -/
def emptyStorage : Engine := { storage := fun _ ↦ .ok [] }

/-- The catalog of a report alone. -/
def catalogOf (t : ReportTemplate) : Catalog := Catalog.saveTemplate {} t

/-- A catalog of a report alone holds its text. -/
theorem text?_catalogOf (t : ReportTemplate) :
    (catalogOf t).text? .templates t.id = some t.toJson.compact := by
  rw [catalogOf, Catalog.saveTemplate, Catalog.text?_put, if_pos ⟨rfl, rfl⟩]

/-- A catalog of a report alone yields what the text of the report is read as. -/
theorem template?_catalogOf {t u : ReportTemplate}
    (h : ReportTemplate.reader.ofText t.toJson.compact = .ok u) :
    (catalogOf t).template? t.id = .ok (some u) :=
  Catalog.find_of_text? (text?_catalogOf t) h

/-- A run of doses above a whole amount asks for what is compiled for them. -/
theorem compile_of_execute_wholeDoses :
    ∃ s,
      ((plainRequest "doses" "ann" [] none).execute emptyStorage
        (catalogOf (dosesReport (.int 3)))).queries = [s] ∧
      (Json.array s.params).compact = "[9,3]" ∧
      ∃ a, (dosesReport (.int 3)).compile [] none emptyStorage.settings.pageLimits = .ok a ∧
        s = a.bound := by
  have hproper : (dosesReport (.int 3)).toJson.IsProper := by
    rw [Json.isProper_iff, numbers_dosesReport]
    simp [Number.IsProper]
  have hback : (dosesReport (.int 3)).toJson.ReadsBack := by
    refine hproper.readsBack ?_
    rw [numbers_dosesReport]
    simp
  have hyields : ReportTemplate.reader.Yields (dosesReport (.int 3)) :=
    ⟨.value, _, hproper, reader_wholeDoses .value⟩
  have hread : ReportTemplate.reader.ofText (dosesReport (.int 3)).toJson.compact =
      .ok (dosesReport (.int 3)) :=
    (ReportTemplate.preserves_reader.ofText_compact hyields hback).1 (by decide +kernel)
  have hparams : ((dosesReport (.int 3)).compile [] none emptyStorage.settings.pageLimits
      ).toOption.map (fun a ↦ (Json.array a.params).compact) = some "[9,3]" := by
    decide +kernel
  obtain ⟨a, ha, hparams⟩ := Except.exists_ok_of_toOption hparams
  have hqueries : ((plainRequest "doses" "ann" [] none).execute emptyStorage
      (catalogOf (dosesReport (.int 3)))).queries = [a.bound] :=
    queries_plainRequest (template?_catalogOf hread) (.inl rfl) .nil (check_dosesReport _) ha
  have hmem : a.bound ∈ ((plainRequest "doses" "ann" [] none).execute emptyStorage
      (catalogOf (dosesReport (.int 3)))).queries := by
    rw [hqueries]
    exact List.mem_singleton_self _
  exact ⟨a.bound, hqueries, hparams,
    compile_of_execute hyields hback (text?_catalogOf _) .nil hmem⟩

/-- An amount whose digits are read as another one. -/
def tinyAmount : Number := .float 1.0000000000000001e-24

/-- The amount that the digits of the tiny one are read as. -/
def roundedAmount : Number := .float 1e-24

private theorem reread_tinyDoses :
    (dosesReport tinyAmount).toJson.reread = (dosesReport roundedAmount).toJson := by
  have hamount : tinyAmount.readAs? = some roundedAmount := by decide +kernel
  have hone : (Number.int 1).readAs? = some (.int 1) := by decide +kernel
  have htwo : (Number.int 2).readAs? = some (.int 2) := by decide +kernel
  have hnine : (Number.int 9).readAs? = some (.int 9) := by decide +kernel
  simp [dosesReport, ReportTemplate.toJson, ReportConfig.toJson, ParameterDefinition.toJson,
    DataSource.table, DataSource.toJson, ColumnDefinition.toJson, FilterGroup.toJson,
    FilterGroup.node, FilterNode.toJson, FilterNode.listToJson, Condition.toJson,
    ValueRules.toJson, Json.entryIfSome, Json.entryIfAny, Json.ofStrings, Json.ofNat, Json.reread,
    Json.rereadItems, Json.rereadFields, hamount, hone, htwo, hnine]

set_option maxRecDepth 20000 in
/-- The text of tiny doses is read as a report of other doses. -/
theorem ofText_tinyDoses :
    ReportTemplate.reader.ofText (dosesReport tinyAmount).toJson.compact =
      .ok (dosesReport roundedAmount) := by
  have hreadable : (dosesReport tinyAmount).toJson.IsReadable := by decide +kernel
  have htext := (ReportTemplate.reader.ofText_compact hreadable).1
  rw [reread_tinyDoses] at htext
  exact (htext (by decide +kernel)).trans rfl

/-- Tiny doses that are saved are run with another amount than they are compiled with. -/
theorem rounds_tinyDoses :
    (dosesReport tinyAmount).problems = [] ∧
      ∃ s a,
        ((plainRequest "doses" "ann" [] none).execute emptyStorage
          (catalogOf (dosesReport tinyAmount))).queries = [s] ∧
        (dosesReport tinyAmount).compile [] none emptyStorage.settings.pageLimits = .ok a ∧
        (Json.array s.params).compact = "[9,1e-24]" ∧
        (Json.array a.params).compact = "[9,1.0000000000000001e-24]" ∧ s ≠ a.bound := by
  have hrun : ((dosesReport roundedAmount).compile [] none emptyStorage.settings.pageLimits
      ).toOption.map (fun a ↦ (Json.array a.params).compact) = some "[9,1e-24]" := by
    decide +kernel
  have hcompiled : ((dosesReport tinyAmount).compile [] none emptyStorage.settings.pageLimits
      ).toOption.map (fun a ↦ (Json.array a.params).compact) =
        some "[9,1.0000000000000001e-24]" := by
    decide +kernel
  obtain ⟨b, hb, hrun⟩ := Except.exists_ok_of_toOption hrun
  obtain ⟨a, ha, hcompiled⟩ := Except.exists_ok_of_toOption hcompiled
  have hstored : (catalogOf (dosesReport tinyAmount)).template? "doses" =
      .ok (some (dosesReport roundedAmount)) :=
    template?_catalogOf ofText_tinyDoses
  refine ⟨by decide +kernel, b.bound, a, ?_, ha, hrun, hcompiled, fun hsame ↦ ?_⟩
  · exact queries_plainRequest (t := dosesReport roundedAmount) hstored (.inl rfl) .nil
      (check_dosesReport _) hb
  · have hparams : b.params = a.params := congrArg BoundStatement.params hsame
    rw [hparams, hcompiled] at hrun
    exact absurd hrun (by decide)

end TabularReport
