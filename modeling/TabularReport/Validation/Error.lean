/-!
# Validation errors

What is wrong with a template, a request, a parameter value or a raw query. The wording is in
`ValidationError.message`.
-/

namespace TabularReport

/-- A problem found before anything is run. -/
inductive ValidationError where
  | emptyColumns (template : String)
  | noDataSource (template : String)
  | duplicateColumn (name : String)
  | duplicateParameter (name : String)
  | unknownSource (context source : String)
  | unknownParameter (column parameter : String)
  | invalidIdentifier (context identifier : String)
  | unknownColumn (column : String)
  | notSortable (column : String)
  | notFilterable (column : String)
  | requiredParameterMissing (name : String)
  | invalidParameter (name problem : String)
  | savedQueryMismatch (savedQuery template : String)
  | invalidRawQuery (problem : String)
  | missingQueryParameter (name : String)
deriving DecidableEq, Inhabited

namespace ValidationError

/-- The text of a problem. -/
def message : ValidationError → String
  | .emptyColumns template => "Template '" ++ template ++ "' declares no columns"
  | .noDataSource template => "Template '" ++ template ++ "' declares no data sources"
  | .duplicateColumn name => "Duplicate column name: '" ++ name ++ "'"
  | .duplicateParameter name => "Duplicate parameter name: '" ++ name ++ "'"
  | .unknownSource context source => context ++ " references undeclared data source '" ++ source ++ "'"
  | .unknownParameter column parameter =>
    "Condition on '" ++ column ++ "' references undeclared parameter '" ++ parameter ++ "'"
  | .invalidIdentifier context identifier =>
    "Invalid identifier in " ++ context ++ ": '" ++ identifier ++ "'"
  | .unknownColumn column => "Unknown column: '" ++ column ++ "'"
  | .notSortable column => "Column '" ++ column ++ "' is not sortable"
  | .notFilterable column => "Column '" ++ column ++ "' is not filterable"
  | .requiredParameterMissing name => "Required parameter missing: '" ++ name ++ "'"
  | .invalidParameter name problem => "Invalid value for parameter '" ++ name ++ "': " ++ problem
  | .savedQueryMismatch savedQuery template =>
    "Saved query '" ++ savedQuery ++ "' does not belong to template '" ++ template ++ "'"
  | .invalidRawQuery problem => "Invalid raw query: " ++ problem
  | .missingQueryParameter name => "Raw query references missing parameter '" ++ name ++ "'"

/-- The parameter, column or name that the problem is about, if there is one. -/
def field? : ValidationError → Option String
  | .duplicateColumn name | .duplicateParameter name | .requiredParameterMissing name
  | .invalidParameter name _ | .missingQueryParameter name => some name
  | .unknownColumn column | .notSortable column | .notFilterable column
  | .unknownParameter column _ => some column
  | .invalidIdentifier _ identifier => some identifier
  | .unknownSource _ source => some source
  | _ => none

end ValidationError

end TabularReport
