import ToolFlow.Workflow.Basic

/-!
# Results

What a run records of each step it attempted, and where data flowed.

A step that was attempted has one result, in which the step stands as it was declared. The arguments
it was called with are recorded beside it. A step that was refused shows its static arguments there
instead, or none when there is no such tool.

The response is null when there is none, and may be there even though the step failed. An error is
there exactly when the step failed, and the outcomes of assertions when the step declares any and
was called.
-/

namespace ToolFlow

/-- What came of one assertion. -/
structure AssertionResult where
  assertion : Assertion
  passed : Bool
  /-- The value that was checked. -/
  actual : Value := .null
  /-- Why it failed. -/
  message : Option String := none

/-- What came of one step. -/
structure StepResult where
  step : Step
  index : Nat
  success : Bool
  response : Value := .null
  error : Option String := none
  resolvedArgs : Fields := []
  /-- The outcome of each assertion; nothing when the step declares none. -/
  assertionResults : Option (List AssertionResult) := none
  duration : Number := .float .zero
  analysis : Option String := none

/-- How one argument of a step is filled from an earlier step. -/
structure Edge where
  source : Nat
  target : Nat
  sourcePath : String
  parameter : String
  sample : Value := .null

end ToolFlow
