import ToolFlow.Result.Basic
import ToolFlow.Tracking.Basic

/-!
# Results of runs

The one outcome of a run: every attempted step, whether the workflow succeeded, and what was found
out besides.

A run that failed has a reason. It also has the first step whose failure made it fail, unless it was
stopped before there was one. Whether steps failed is another matter: optional ones may have in a
run that succeeded, and the count of failed results (`failedCount`) includes these.
-/

namespace ToolFlow

/-- The outcome of a run. -/
structure WorkflowResult where
  workflow : Workflow
  steps : List StepResult := []
  success : Bool := true
  failureReason : Option String := none
  /-- The first step whose failure made the run fail. -/
  failedStep : Option Nat := none
  duration : Number := .float .zero
  dataFlow : List Edge := []
  summary : Option String := none
  tracking : Option Tracking.Bundle := none

/-- How many results are failures. -/
def failedCount (results : List StepResult) : Nat :=
  results.countP fun result => !result.success

/-- How many steps failed. -/
def WorkflowResult.stepsFailed (result : WorkflowResult) : Nat :=
  failedCount result.steps

end ToolFlow
