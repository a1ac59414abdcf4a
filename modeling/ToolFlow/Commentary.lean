import ToolFlow.Breakdown
import ToolFlow.Json.Writer
import ToolFlow.Result.Basic

/-!
# Commentary on runs

The prompts that ask for a comment on a step and for a summary of a run, and the fixed texts that
stand in when no comment is to be had.

A prompt shows values as indented JSON. This fails when an integer in it has too many digits, which
is looked for before the prompt is made (`Commentary.stepPromptIsOverlong`) and is a breakdown. A
summary prompt shows no values.

The fixed texts are made of the same facts as the prompts. That of a failed run names the first
result that is a failure by its number, optional steps included; which step made the run fail is not
among what it is given.
-/

namespace ToolFlow

/-- How a completion is asked for. -/
structure CompletionOptions where
  temperature : Number
  maxTokens : Number
  system : Option String := none

namespace Commentary

/-- How creative comments may be. -/
def temperature : Number := .float (.ofDecimal false ['3'] (-1))

/-- How the comment on a step is asked for. -/
def stepOptions : CompletionOptions := { temperature, maxTokens := .int 150 }

/-- How the summary of a run is asked for. -/
def summaryOptions : CompletionOptions := { temperature, maxTokens := .int 200 }

/-- A text, unless there is none or it is empty. -/
def nonEmpty? : Option String → Option String
  | some "" => none
  | other => other

/-- A value as prompts show it. -/
def shown (v : Value) : String :=
  Json.encodeReadable (some 2) v

/-- What a prompt shows of the outcome of a step. -/
def outcomeText (response : Value) (error : Option String) : String :=
  match nonEmpty? error with
  | some error => s!"Error: {error}"
  | none => if response.isNull then "No response" else shown response

/-- The prompt for a comment on a step. -/
def stepPrompt (workflow : Workflow) (step : Step) (index : Int) (response : Value)
    (error : Option String) : String :=
  String.intercalate "\n" [
    "Analyze this workflow step result.",
    "",
    s!"Workflow: {workflow.name}",
    s!"Step {index + 1}/{workflow.steps.length}: {step.description}",
    s!"Tool: {step.tool}",
    s!"Arguments: {shown (.object step.args)}",
    "",
    "Response:",
    outcomeText response error,
    "",
    "Provide a brief (1-2 sentence) analysis of what this step accomplished and " ++
      "any notable observations."]

/-- Whether the prompt for a comment on a step shows an integer with too many digits: in the
arguments, or in the response when that is shown. -/
def stepPromptIsOverlong (step : Step) (response : Value) (error : Option String) : Bool :=
  (Value.object step.args).isOverlong || ((nonEmpty? error).isNone && response.isOverlong)

/-- The prompt for a comment on a step, unless an integer in it cannot be written. -/
def stepPrompt? (workflow : Workflow) (step : Step) (index : Int) (response : Value)
    (error : Option String) : Except Breakdown String :=
  if stepPromptIsOverlong step response error then .error .overlongInteger
  else .ok (stepPrompt workflow step index response error)

/-- One line of a summary prompt. -/
def summaryLine (number : Nat) (result : StepResult) : String :=
  let status := if result.success then "PASS" else "FAIL"
  let detail :=
    ((nonEmpty? result.analysis).orElse fun _ => nonEmpty? result.error).getD "Completed"
  s!"{number}. [{status}] {result.step.description}: {detail}"

/-- A truth value as prompts show it. -/
def truthText (b : Bool) : String :=
  if b then "true" else "false"

/-- The prompt for a summary of a run. -/
def summaryPrompt (workflow : Workflow) (results : List StepResult) (success : Bool) : String :=
  String.intercalate "\n" [
    "Summarize this workflow execution.",
    "",
    s!"Workflow: {workflow.name}",
    s!"Description: {workflow.description}",
    s!"Expected Outcome: {workflow.expectedOutcome}",
    s!"Overall Success: {truthText success}",
    "",
    "Step Results:",
    String.intercalate "\n" (results.mapIdx fun i result => summaryLine (i + 1) result),
    "",
    "Provide a 2-3 sentence summary of what the workflow demonstrated and " ++
      "any significant findings."]

/-- What is said of a step without a comment. -/
def fallbackStep (error : Option String) : String :=
  match nonEmpty? error with
  | some error => s!"Step failed: {error}"
  | none => "Step completed."

/-- What is said of a run without a summary: how many steps it took, or the number of the first
result that is a failure. -/
def fallbackSummary (workflow : Workflow) (results : List StepResult) (success : Bool) : String :=
  if success then
    s!"Workflow \"{workflow.name}\" completed successfully with {results.length} steps."
  else
    let failedAt := match results.findIdx? fun result => !result.success with
      | some i => i + 1
      | none => results.length
    s!"Workflow \"{workflow.name}\" failed at step {failedAt}."

end Commentary

end ToolFlow
