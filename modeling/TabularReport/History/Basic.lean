import TabularReport.Calendar.Instant
import TabularReport.Template.Basic

/-!
# Saved queries and the history of runs
-/

namespace TabularReport

/-- Parameter values and filters for one template, kept under a name. -/
structure SavedQuery where
  id : String
  templateId : String
  name : String := ""
  parameters : Fields := []
  filters : Option FilterGroup := none
  ownerId : String := ""
  createdAt : Instant
deriving Inhabited

/-- What became of a run. -/
inductive RunStatus where
  | success
  | failed
  | running
  | scheduled
  | cancelled
deriving DecidableEq, Inhabited

/-- The name of a status. -/
def RunStatus.spelling : RunStatus → String
  | .success => "success"
  | .failed => "failed"
  | .running => "running"
  | .scheduled => "scheduled"
  | .cancelled => "cancelled"

/-- The record of one run of a report. -/
structure RunRecord where
  id : String
  templateId : String
  savedQueryId : Option String := none
  parameters : Fields := []
  filters : Option FilterGroup := none
  sorting : List SortSpec := []
  executedAt : Instant
  executionTimeMs : Nat
  rowCount : Nat
  status : RunStatus
  errorMessage : Option String := none
  executedBy : String
deriving Inhabited

end TabularReport
