import ToolFlow.DataFlow
import ToolFlow.Run.Attempt

/-!
# Runs

The steps of a workflow are attempted in order. A failed step ends the run unless it is optional or
the run goes on after errors; a request to stop is heeded between steps. At the end the data flow is
drawn up, the state around the run is interpreted, and a summary is asked for. A run comes to one
result, or to a breakdown that ends it.

The loop over the steps is `Environment.runFrom`, a recursion over those that are left. Between two
steps all that a run knows is its `Standing`: the results so far, the verdict, and what was captured
of the state. One step adds to it (`Standing.record`), and what holds of every standing is shown by
induction along the loop.

The verdict is decided by the first failure that counts, and later ones leave it as it is
(`Verdict.after`). A run that was stopped has no success, whatever its verdict was, and the reason
is then that it was stopped.

Durations are not modelled: how long a step or a run took is zero in every result, since the clock
is no part of the trace.

## Main definitions

* `Environment.advance`: one step, with all that is done before and after the attempt.
* `Environment.runFrom`: the steps from an index on.
* `Environment.complete`: what follows the last step.
* `Environment.execute`: a whole run.
-/

namespace ToolFlow

/-! ### The state of a run -/

/-- How a run stands: whether it has succeeded so far, why not, and which step was the first whose
failure counts. -/
structure Verdict where
  success : Bool := true
  reason : Option String := none
  failedStep : Option Nat := none

/-- What is said of a failed step without an error. -/
def stepFailedText : String := "Step failed"

/-- Whether a result is a failure that counts. -/
def StepResult.isRequiredFailure (result : StepResult) : Bool :=
  !result.success && !result.step.isOptional

namespace Verdict

/-- The verdict after one more step; the first failure that counts decides. -/
def after (verdict : Verdict) (result : StepResult) : Verdict :=
  if result.isRequiredFailure && verdict.success then
    { success := false
      reason := some (((Commentary.nonEmpty? result.error)).getD stepFailedText)
      failedStep := some result.index }
  else verdict

/-- The verdict on a run that was stopped before a step. -/
def cancelledBefore (verdict : Verdict) (index : Nat) : Verdict :=
  { verdict with
    success := false
    reason := some s!"Workflow cancelled before step {index + 1}" }

end Verdict

/-- What a run has recorded between two steps. -/
structure Standing where
  results : List StepResult := []
  verdict : Verdict := {}
  captured : Tracking.Captured := {}

namespace Standing

/-- The standing after one more step, with what is captured of the state since. -/
def record (standing : Standing) (result : StepResult) (captured : Tracking.Captured) : Standing :=
  { results := standing.results ++ [result]
    verdict := standing.verdict.after result
    captured }

/-- The standing of a run that was stopped before a step. -/
def stoppedBefore (standing : Standing) (index : Nat) : Standing :=
  { standing with verdict := standing.verdict.cancelledBefore index }

end Standing

namespace Environment

variable (env : Environment)

/-! ### Steps -/

/-- Tells the subscribers that a phase begins. -/
def announcePhase (workflow : Workflow) (phase : Progress.Phase) (current : Nat)
    (step : Option Step) (results : List StepResult) (t : Trace) : Trace :=
  env.announce (.of workflow phase current step results) t

/-- Asks for a comment on the latest result, when comments are wanted. -/
def analyze (workflow : Workflow) (earlier : List StepResult) (result : StepResult) (t : Trace) :
    Trace × Except Breakdown StepResult :=
  if !env.options.analyzeSteps then (t, .ok result)
  else
    let t := env.announcePhase workflow .analyzing result.index (some result.step)
      (earlier ++ [result]) t
    match Commentary.stepPrompt? workflow result.step result.index result.response result.error with
    | .error b => (t, .error b)
    | .ok prompt =>
      let (t, analysis) := env.comment prompt Commentary.stepOptions env.options.timeouts.analysis
        (Commentary.fallbackStep result.error) t
      (t, analysis.map fun analysis => { result with analysis })

/-- Whether a run ends after a result. -/
def endsAfter (result : StepResult) : Bool :=
  result.isRequiredFailure && !env.options.continueOnError

/-- Attempts a step and does what follows each attempt: a snapshot, and a comment on the result. -/
def advance (workflow : Workflow) (index : Nat) (step : Step) (standing : Standing) (t : Trace) :
    Trace × Except Breakdown (StepResult × Tracking.Captured) :=
  let t := env.announcePhase workflow .executing index (some step) standing.results t
  match env.attempt standing.results index step t with
  | (t, .error b) => (t, .error b)
  | (t, .ok result) =>
    let (t, captured) := env.withSession (fun s => s.afterStep index) standing.captured t
    let (t, result) := env.analyze workflow standing.results result t
    (t, result.map fun result => (result, captured))

/-- Goes through the steps from an index on. -/
def runFrom (workflow : Workflow) :
    Nat → List Step → Standing → Trace → Trace × Except Breakdown Standing
  | _, [], standing, t => (t, .ok standing)
  | index, step :: rest, standing, t =>
    if env.cancelled t then (t, .ok (standing.stoppedBefore index))
    else
      match env.advance workflow index step standing t with
      | (t, .error b) => (t, .error b)
      | (t, .ok (result, captured)) =>
        let standing := standing.record result captured
        if env.endsAfter result then (t, .ok standing)
        else runFrom workflow (index + 1) rest standing t

/-! ### Whole runs -/

/-- The state around the run interpreted, when it was tracked. -/
def finishTracking (results : List StepResult) (captured : Tracking.Captured) (t : Trace) :
    Trace × Option Tracking.Bundle :=
  match env.session? with
  | some session =>
    let (t, bundle) := session.finish results captured t
    (t, some bundle)
  | none => (t, none)

/-- Asks for a summary, when one is wanted. -/
def summarize (workflow : Workflow) (results : List StepResult) (success : Bool) (t : Trace) :
    Trace × Except Breakdown (Option String) :=
  if !env.options.generateSummary then (t, .ok none)
  else
    let t := env.announcePhase workflow .summarizing workflow.steps.length none results t
    env.comment (Commentary.summaryPrompt workflow results success) Commentary.summaryOptions
      env.options.timeouts.summary (Commentary.fallbackSummary workflow results success) t

/-- What follows the last step of a run. -/
def complete (workflow : Workflow) (standing : Standing) (t : Trace) :
    Trace × Except Breakdown WorkflowResult :=
  let results := standing.results
  let (t, captured) :=
    env.withSession (fun s => s.afterRun ((results.length : Int) - 1)) standing.captured t
  match DataFlow.edges workflow results with
  | .error b => (t, .error b)
  | .ok dataFlow =>
    let (t, tracking) := env.finishTracking results captured t
    match env.summarize workflow results standing.verdict.success t with
    | (t, .error b) => (t, .error b)
    | (t, .ok summary) =>
      let t := env.announcePhase workflow .complete workflow.steps.length none results t
      (t, .ok
        { workflow, steps := results, success := standing.verdict.success
          failureReason := standing.verdict.reason, failedStep := standing.verdict.failedStep
          dataFlow, summary, tracking })

/-- What precedes the first step of a run. -/
def start (workflow : Workflow) (t : Trace) : Trace × Standing :=
  let t := env.announcePhase workflow .starting 0 none [] t
  let (t, captured) := env.withSession Tracking.Session.beforeRun {} t
  (t, { captured })

/-- Runs a workflow. -/
def execute (workflow : Workflow) (t : Trace) : Trace × Except Breakdown WorkflowResult :=
  let (t, standing) := env.start workflow t
  match env.runFrom workflow 0 workflow.steps standing t with
  | (t, .error b) => (t, .error b)
  | (t, .ok standing) => env.complete workflow standing t

end Environment

end ToolFlow
