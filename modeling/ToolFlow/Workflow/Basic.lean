import ToolFlow.Condition

/-!
# Workflows

A workflow is an ordered chain of tool calls. Each step has static arguments, mappings that fill
arguments from what earlier steps yielded, and assertions on its own result.

These are definitions as they are once they were checked, so a tool or a path is any text here. Two
fields of a step may be left open, which is not the same as being empty: a step without a mapping or
without assertions is written without them, and both have the same effect on a run. Those who run
steps use `Step.mapped` and `Step.checks`.

A mapping is a list of entries with the name of an argument and an expression. Its order is that of
the document, and each name is there once in any mapping that was read.
-/

namespace ToolFlow

/-- A check of the result of a step. -/
structure Assertion where
  path : String
  condition : Condition
  /-- What the condition compares with. -/
  value : Value := .null
  /-- What to say when the check fails. -/
  message : Option String := none

/-- One tool call of a workflow. -/
structure Step where
  tool : String
  description : String := ""
  args : Fields := []
  /-- The expression that fills each mapped argument. -/
  mapping : Option (List (String × String)) := none
  assertions : Option (List Assertion) := none
  /-- Whether the workflow can go on and succeed without the step. -/
  isOptional : Bool := false

/-- The mapped arguments of a step, none when it declares no mapping. -/
def Step.mapped (step : Step) : List (String × String) :=
  step.mapping.getD []

/-- The assertions of a step, none when it declares no list of them. -/
def Step.checks (step : Step) : List Assertion :=
  step.assertions.getD []

/-- What a workflow is expected to come to when it does not say. -/
def defaultOutcome : String := "Workflow completes successfully"

/-- A named chain of steps. -/
structure Workflow where
  id : String
  name : String
  description : String := ""
  expectedOutcome : String := defaultOutcome
  steps : List Step
  /-- Whether the workflow was discovered rather than written. -/
  discovered : Bool := false

end ToolFlow
