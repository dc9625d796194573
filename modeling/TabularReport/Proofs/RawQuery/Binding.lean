import TabularReport.Proofs.RawQuery.Substitution
import TabularReport.Proofs.Store.Engine

/-!
# The values of the names of a raw query

The names of a raw query become placeholders without a loss: the query can be had back. A query
that is ready to be run has one value for each name, and the store binds each occurrence of a name,
through its placeholder, to the value that was given for that name.
-/

namespace TabularReport

open Placeholder RawQuery Text

/-- How a query with placeholders stands for a query with names: each occurrence of a name has the
placeholder of its name, there are no other placeholders, and the query can be had back. -/
structure NumberedQuery.Renders (n : NumberedQuery) (query : String) : Prop where
  names : AreFirsts n.names (namesIn query.toList)
  placeholders : numerals n.sql.toList =
    (namesIn query.toList).map fun name ↦ Nat.toDigits 10 (n.names.idxOf name + 1)
  inRange : ∀ ds ∈ numerals n.sql.toList, 1 ≤ digitsValue ds ∧ digitsValue ds ≤ n.names.length
  complete : ∀ k, 1 ≤ k → k ≤ n.names.length → Nat.toDigits 10 k ∈ numerals n.sql.toList
  restored : String.ofList (withNames n.names n.sql.toList) = query

/-- How a query that is ready to be run binds names to values: there is one value for each name,
each occurrence of a name has a placeholder at whose place the value of that name stands, and when
an engine finds these placeholders as parameters, in whatever order, the values are all bound and
each placeholder has the value at its place. -/
structure RawQuery.Prepared.Binds (p : Prepared) (query : String) (values : Fields) : Prop where
  params : List.Forall₂ (fun name v ↦ Fields.get? values name = some v ∧ v.isNull = false)
    p.names p.params
  occurrences : List.Forall₂
    (fun name ds ↦ p.params[digitsValue ds - 1]? = Fields.get? values name)
    (namesIn query.toList) (numerals p.sql.toList)
  stored : ∀ found : List String, found.Nodup →
    (∀ name, name ∈ found ↔ ∃ ds ∈ numerals p.sql.toList, name = "$" ++ String.ofList ds) →
    ∃ bound, SqlEngine.bindings found p.params = .ok bound ∧
      ∀ ds ∈ numerals p.sql.toList, ∀ j : Nat, found[j]? = some ("$" ++ String.ofList ds) →
        bound[j]? = p.params[digitsValue ds - 1]?

namespace RawQuery

private theorem valueOf_eq_ok_iff {values : Fields} {name : String} {v : Json} :
    valueOf values name = .ok v ↔ Fields.get? values name = some v ∧ v.isNull = false := by
  unfold valueOf Json.present?
  cases Fields.get? values name with
  | none => simp
  | some w =>
    cases hw : w.isNull with
    | false =>
      simp only [Option.bind_some, hw, Bool.false_eq_true, if_false, Except.ok.injEq,
        Option.some.injEq]
      exact ⟨fun h ↦ ⟨h, h ▸ hw⟩, And.left⟩
    | true =>
      simp only [Option.bind_some, hw, if_true, reduceCtorEq, Option.some.injEq, false_iff, not_and]
      rintro rfl
      simp [hw]

section

variable {query : String} {values : Fields} {parse : Sql.Parser} {p : Prepared}

private theorem prepare_eq_ok_iff :
    prepare query values parse = .ok p ↔
      hasPositional query.toList = false ∧ checkSingle (substitute query).sql parse = .ok () ∧
        (substitute query).names.mapM (valueOf values) = .ok p.params ∧
        p.sql = (substitute query).sql ∧ p.names = (substitute query).names := by
  obtain ⟨sql, params, names⟩ := p
  unfold prepare
  cases hasPositional query.toList with
  | true => simp [bind, Except.bind, throw, throwThe, MonadExceptOf.throw]
  | false =>
    simp only [Bool.false_eq_true, if_false, Except.bind_eq_ok_iff,
      Except.mapError_eq_ok_iff, pure, Except.pure, Except.ok.injEq, Prepared.mk.injEq]
    constructor
    · rintro ⟨⟨⟩, hsingle, values, hvalues, rfl, rfl, rfl⟩
      exact ⟨trivial, hsingle, hvalues, rfl, rfl⟩
    · rintro ⟨-, hsingle, hvalues, rfl, rfl⟩
      exact ⟨(), hsingle, params, hvalues, rfl, rfl, rfl⟩

end

private theorem renders_substitute {query : String} (h : hasPositional query.toList = false) :
    (substitute query).Renders query := by
  have hpieces := fallsInto_pieces query.toList
  have hn := hasPositional_eq_false_iff.mp h
  have hnames := areFirsts_learned (namesIn query.toList)
  have hsub : substitute query =
      ⟨String.ofList ((pieces query.toList).flatMap
          (·.written ((namesIn query.toList).foldl learn []))),
        (namesIn query.toList).foldl learn []⟩ := by
    rw [substitute, number_eq, hpieces.namesOf_eq]
  generalize (namesIn query.toList).foldl learn [] = names at hnames hsub
  have hplaceholders : numerals (substitute query).sql.toList =
      (namesIn query.toList).map fun name ↦ Nat.toDigits 10 (names.idxOf name + 1) := by
    rw [hsub, String.toList_ofList, hpieces.numerals_written hn, hpieces.namesOf_eq]
  have hall : (substitute query).names = names := by rw [hsub]
  refine ⟨hall ▸ hnames, hall ▸ hplaceholders, fun ds hds ↦ ?_, fun k hpos hk ↦ ?_, ?_⟩
  · rw [hplaceholders, List.mem_map] at hds
    obtain ⟨name, hname, rfl⟩ := hds
    have := List.idxOf_lt_length_of_mem ((hnames.occurs name).mpr hname)
    rw [hall, digitsValue_toDigits]
    omega
  · rw [hall] at hk
    have hlt : k - 1 < names.length := by omega
    rw [hplaceholders, List.mem_map]
    refine ⟨names[k - 1], (hnames.occurs _).mp (List.getElem_mem hlt), ?_⟩
    rw [hnames.distinct.idxOf_getElem, Nat.sub_add_cancel hpos]
  · rw [hsub, String.toList_ofList, hpieces.withNames_written hn, String.ofList_toList]
    intro name hname
    exact (hnames.occurs name).mpr (hpieces.namesOf_eq ▸ hname)

section

variable {query : String} {values : Fields} {parse : Sql.Parser} {p : Prepared}

private theorem mem_placeholders_params (h : prepare query values parse = .ok p) (name : String) :
    (∃ ds ∈ numerals p.sql.toList, name = "$" ++ String.ofList ds) ↔
      name ∈ placeholders 1 p.params.length := by
  obtain ⟨hpos, -, hvalues, hsql, -⟩ := prepare_eq_ok_iff.mp h
  have hnumbered := renders_substitute hpos
  have hlength := (Except.forall₂_of_mapM hvalues).length_eq
  rw [hsql, mem_placeholders, ← hlength]
  constructor
  · rintro ⟨ds, hds, rfl⟩
    rw [hnumbered.placeholders, List.mem_map] at hds
    obtain ⟨n, hn, rfl⟩ := hds
    exact ⟨_, List.idxOf_lt_length_of_mem ((hnumbered.names.occurs n).mpr hn),
      dollar_append_toDigits _⟩
  · rintro ⟨i, hi, rfl⟩
    exact ⟨_, hnumbered.complete (i + 1) (by omega) (by omega), (dollar_append_toDigits _).symm⟩

private theorem binds_prepare (h : prepare query values parse = .ok p) : p.Binds query values := by
  obtain ⟨hpos, -, hvalues, hsql, hall⟩ := prepare_eq_ok_iff.mp h
  have hparams : List.Forall₂ (fun name v ↦ Fields.get? values name = some v ∧ v.isNull = false)
      p.names p.params :=
    hall ▸ (Except.forall₂_of_mapM hvalues).imp fun _ _ hv ↦ valueOf_eq_ok_iff.mp hv
  have hnumbered := renders_substitute hpos
  refine ⟨hparams, ?_, fun found hnodup hfound ↦ ?_⟩
  · rw [hsql, hnumbered.placeholders, List.forall₂_map_right_iff, List.forall₂_same, ← hall]
    intro name hname
    have hmem : name ∈ p.names := hall ▸ (hnumbered.names.occurs name).mpr hname
    have hlt := List.idxOf_lt_length_of_mem hmem
    have hvalue := hparams.get hlt (hparams.length_eq ▸ hlt)
    rw [List.get_eq_getElem, List.get_eq_getElem, List.getElem_idxOf] at hvalue
    rw [digitsValue_toDigits, Nat.add_sub_cancel, hvalue.1]
    exact List.getElem?_eq_getElem _
  · have hone := NamedOnce.of_nodup hnodup
    obtain ⟨bound, hbound⟩ := (SqlEngine.exists_bindings_iff hone).mpr fun name ↦
      (hfound name).trans (mem_placeholders_params h name)
    refine ⟨bound, hbound, fun ds hds j hj ↦ ?_⟩
    rw [hsql, hnumbered.placeholders, List.mem_map] at hds
    obtain ⟨name, -, rfl⟩ := hds
    rw [dollar_append_toDigits] at hj
    rw [digitsValue_toDigits, Nat.add_sub_cancel]
    exact SqlEngine.getElem?_bindings hone hbound hj

end

/-- A query without placeholders of its own gets placeholders for its names without a loss, and
whenever a parser lets it be run each occurrence of a name has the value that is given for the name.
-/
theorem substitute_and_prepare {query : String} (h : hasPositional query.toList = false) :
    (substitute query).Renders query ∧
      ∀ parse values p, prepare query values parse = .ok p →
        p.sql = (substitute query).sql ∧ p.names = (substitute query).names ∧
          p.Binds query values :=
  ⟨renders_substitute h, fun _ _ _ hp ↦
    have hsame := (prepare_eq_ok_iff.mp hp).2.2.2
    ⟨hsame.1, hsame.2, binds_prepare hp⟩⟩

/-- A query with a name twice and a name that another one begins with. -/
def tasksQuery : String := "SELECT * FROM tasks WHERE owner = $user AND due < $us OR author = $user"

/-- Values for the names of the query. -/
def tasksValues : Fields := [("us", .ofNat 9), ("user", .string "ann")]

/-- Both occurrences of a name get one placeholder and its value, and the other name its own. -/
theorem substitute_and_prepare_tasks :
    substitute tasksQuery =
        ⟨"SELECT * FROM tasks WHERE owner = $1 AND due < $2 OR author = $1", ["user", "us"]⟩ ∧
      (substitute tasksQuery).Renders tasksQuery ∧
      ∃ p, prepare tasksQuery tasksValues = .ok p ∧ p.Binds tasksQuery tasksValues ∧
        p.params = [.string "ann", .ofNat 9] ∧
        SqlEngine.bindings ["$2", "$1"] p.params = .ok [.ofNat 9, .string "ann"] := by
  have hsub : substitute tasksQuery =
      ⟨"SELECT * FROM tasks WHERE owner = $1 AND due < $2 OR author = $1", ["user", "us"]⟩ := by
    decide +kernel
  have hown : hasPositional tasksQuery.toList = false := by decide +kernel
  have hready : ((prepare tasksQuery tasksValues).toOption.map fun p ↦ p.names) =
      some ["user", "us"] := by
    decide +kernel
  obtain ⟨hrenders, hall⟩ := substitute_and_prepare hown
  obtain ⟨p, hp, hnames⟩ := Except.exists_ok_of_toOption hready
  obtain ⟨-, -, hbinds⟩ := hall Sql.parser tasksValues p hp
  have hparams : p.params = [.string "ann", .ofNat 9] := by
    have hvalues := hbinds.params
    rw [hnames] at hvalues
    match p.params, hvalues with
    | [_, _], .cons huser (.cons hus .nil) =>
      rw [← Option.some.inj huser.1, ← Option.some.inj hus.1]
  refine ⟨hsub, hrenders, p, hp, hbinds, hparams, ?_⟩
  rw [hparams]
  rfl

end RawQuery

end TabularReport
