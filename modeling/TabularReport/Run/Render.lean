import TabularReport.Chart.OfRows
import TabularReport.RawQuery.Basic
import TabularReport.Run.Execute

/-!
# Rendering a component

A component is rendered for someone who may view it. Its rows come from a report, which that person must be
allowed to run, from a query text of its own, or from the component itself.
-/

namespace TabularReport

namespace Component

/-- The rows that a component holds itself; each must be an object. -/
def staticRows (index : Nat) : List Json → Except ReportError (List Fields)
  | [] => .ok []
  | .object fields :: rest => (staticRows (index + 1) rest).map (fields :: ·)
  | _ :: _ => .error (.visualization (.notARow index))

/-- Accept a component whose query text may be run. -/
def checkRawQuery (v : Component) (e : Engine) : Except ReportError Unit :=
  if !e.rawQuery.enabled then .error (.visualization .rawQueriesDisabled)
  else if e.rawQuery.adminOnly && !isAdmin e.admins v.ownerId then
    .error (.authorization (.rawQuery v.id))
  else .ok ()

/-- Make the query text of a component ready to be run. -/
def preparedQuery (v : Component) (e : Engine) (query : String) (values : Fields) :
    Except ReportError BoundStatement := do
  v.checkRawQuery e
  let prepared ← (RawQuery.prepare query values e.parse).mapError .validation
  return ⟨prepared.sql, prepared.params⟩

/-- The rows of a component. Values of the request go over those of the component. -/
def rows (v : Component) (e : Engine) (c : Catalog) (parameters : Fields) (user : String) :
    Outcome (List Fields) :=
  match v.dataSource.source with
  | .report id defaults | .customReport id defaults =>
    let request : RunRequest :=
      { reportId := id, parameters := Fields.overlay defaults parameters, requesterId := user }
    let outcome := request.execute e c
    ⟨outcome.result.map (·.data), outcome.queries, outcome.offered, outcome.catalog⟩
  | .rawQuery query defaults =>
    match v.preparedQuery e query (Fields.overlay defaults parameters) with
    | .error cause => .stopped c cause
    | .ok statement =>
      let (answer, left) := (e.storage statement).run c
      ⟨answer.mapError .execution, [statement], [], left⟩
  | .staticData data => ⟨staticRows 0 data, [], [], c⟩
  | .api endpoint => .stopped c (.visualization (.api endpoint))

/-- Render a component for someone. -/
def render (v : Component) (e : Engine) (c : Catalog) (parameters : Fields) (user : String) :
    Outcome ChartData :=
  if canAccess e.admins v.ownerId v.isPublic user then
    let outcome := v.rows e c parameters user
    let chart := outcome.result.bind fun rows =>
      (ChartData.ofRows v.chartType rows v.dataSource.mapping v.config).mapError fun cause =>
        .visualization (.mapping cause)
    ⟨chart, outcome.queries, outcome.offered, outcome.catalog⟩
  else .stopped c (.authorization (.view user v.id))

end Component

/-- Render the component that is kept under an id. -/
def renderStored (e : Engine) (c : Catalog) (id : String) (parameters : Fields) (user : String) :
    Outcome ChartData :=
  match c.component? id with
  | .error cause => .stopped c (.execution cause)
  | .ok none => .stopped c (.notFound .component id)
  | .ok (some v) => v.render e c parameters user

end TabularReport
