import TabularReport.Json.Printer
import TabularReport.Parameter.Validation
import TabularReport.Statement.Assembly

/-!
# Compiling a template

A template is compiled to the statement that a run of it would send to storage, with nothing but parameter
values and a page to go by.
-/

namespace TabularReport

/-- The statement that a template is compiled to: defaults fill in for parameters without a value. -/
def ReportTemplate.compile (t : ReportTemplate) (values : Fields) (page : Option PageRequest)
    (limits : PageLimits) : Except ValidationError AssembledQuery :=
  t.assemble
    { parameters := ParameterDefinition.fillDefaults t.parameters values, pagination := page } limits

/-- A compiled statement with its parameters, as it is shown. -/
def AssembledQuery.listing (q : AssembledQuery) : String :=
  q.sql ++ "\n\n-- params: " ++ (Json.array q.params).compact

end TabularReport
