import TabularReport.History.Basic

/-!
# Listings of runs
-/

namespace TabularReport

/-- The line of a run: its time, status, number of rows, duration, user, and error. -/
def RunRecord.line (r : RunRecord) : String :=
  r.executedAt.offsetText ++ "  " ++ Text.padRight 9 r.status.spelling ++ "  " ++
    Text.padLeft 6 (toString r.rowCount) ++ " rows  " ++
    Text.padLeft 6 (toString r.executionTimeMs) ++ " ms  " ++ r.executedBy ++
    (r.errorMessage.map fun e => "  (" ++ e ++ ")").getD ""

/-- The lines of the runs of a report. -/
def RunRecord.listing (report : String) (records : List RunRecord) : String :=
  if records.isEmpty then "No executions recorded for '" ++ report ++ "'."
  else "\n".intercalate (records.map RunRecord.line)

end TabularReport
