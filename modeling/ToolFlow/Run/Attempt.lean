import ToolFlow.Resolution
import ToolFlow.Run.Environment

/-!
# Attempts at a step

A step is refused, or its tool is called once with the resolved arguments and the outcome is judged.
A call that fails, takes too long or yields nothing leaves no response; otherwise the response is
recorded whether or not it says that the call failed. The assertions of a step that was called are
always evaluated.

A step is refused when there is no such tool, when it refers to failed steps and this matters, or
when a mapped argument has no value, in this order. The error of a step that was called is the one
of the call if it has one, and otherwise that of its assertions. A step succeeded when it has no
error.

An attempt can also break down. This is for errors that are none of the library's own, as of a
number too long to be converted, and it leaves no result.

## Main definitions

* `Refusal`, `CallFailure`: why there is no call, and why a call left no response, with the texts
  that are recorded.
* `Environment.plan`: what is to be done about a step, decided before anything is asked of the
  outside.
* `Environment.call`: the call, within the time limit for calls.
* `conclude`: the result of a step that was called.
* `Environment.attempt`: these put together.
-/

namespace ToolFlow

/-! ### Before the call -/

/-- Why the tool of a step is not called. -/
inductive Refusal where
  | unknownTool (tool : String)
  /-- The step refers to steps that failed. -/
  | failedDependencies (index : Nat) (failed : List Nat)
  /-- A mapped argument has no value. -/
  | unresolved (reason : String)

/-- The error of a refused step. -/
def Refusal.message : Refusal → String
  | unknownTool tool => s!"Tool not found: {tool}"
  | failedDependencies index failed =>
    s!"Step {index} depends on failed step {commaSeparated (failed.map toString)}"
  | unresolved reason => s!"Failed to resolve arguments: {reason}"

/-- The arguments shown for a refused step. -/
def Refusal.shownArgs (step : Step) : Refusal → Fields
  | unknownTool _ => []
  | _ => step.args

/-- The result of a refused step. -/
def Refusal.result (step : Step) (index : Nat) (refusal : Refusal) : StepResult :=
  { step, index, success := false, error := some refusal.message
    resolvedArgs := refusal.shownArgs step }

/-! ### The call -/

/-- Why a call left no response. -/
inductive CallFailure where
  /-- It took longer than the shown number of milliseconds. -/
  | timedOut (tool limit : String)
  | raised (error : String)
  | noResponse (tool : String)

/-- What is said of a failure that says nothing of itself. -/
def unknownError : String := "Unknown error"

/-- A text, or what is said instead of an empty or missing one. -/
def errorTextOr : Option String → String
  | some "" => unknownError
  | some text => text
  | none => unknownError

/-- The error of a call that left no response. -/
def CallFailure.message : CallFailure → String
  | timedOut tool limit => s!"Tool call '{tool}' timed out after {limit}ms"
  | raised error => errorTextOr (some error)
  | noResponse tool => s!"Tool '{tool}' returned no response"

/-- What a call came to. -/
def callOutcome (tool : String) (limit : TimeLimit) :
    Answer Value → Except Breakdown (Except CallFailure Value)
  | .returned .null => .ok (.error (.noResponse tool))
  | .returned response => .ok (.ok response)
  | .failed error => .ok (.error (.raised error))
  | .timedOut => limit.shortText.map fun shown => .error (.timedOut tool shown)
  | .brokenOff b => .error b

/-- The name of the logger of tool calls. -/
def callLogger : String := "chainprobe.tool_calls"

/-- The line of the log about a call that failed. -/
def failedCall (tool error : String) : Notice :=
  .warning callLogger s!"Tool call failed name={tool} error={error}"

/-- What the log says of a call. -/
def callNotices (tool : String) : Answer Value → List Notice
  | .returned _ => []
  | .failed error => [failedCall tool error]
  | .timedOut => [.warning callLogger s!"Tool call timed out name={tool}"]
  | .brokenOff _ => []

/-! ### After the call -/

/-- The error that a response itself reports. -/
def responseError (response : Value) : Except Breakdown (Option String) :=
  if Response.isError response then
    (Response.firstText response).map fun text => some (errorTextOr text)
  else .ok none

/-- The error of the invocation of a tool. -/
def invocationError : Except CallFailure Value → Except Breakdown (Option String)
  | .ok response => responseError response
  | .error failure => .ok (some failure.message)

/-- The outcomes of the assertions of a step, nothing when it declares none. -/
def assertionOutcomes (step : Step) (response : Value) :
    Except Breakdown (Option (List AssertionResult)) :=
  if step.checks.isEmpty then .ok none else (evaluateAll step.checks response).map some

/-- The error of assertions, unless all passed. -/
def assertionError? (results : List AssertionResult) : Option String :=
  let failed := results.filter fun result => !result.passed
  if failed.isEmpty then none
  else
    some ("Assertions failed: " ++
      String.intercalate "; " (failed.map fun result => result.message.getD ""))

/-- The result of a step whose tool was called. -/
def conclude (step : Step) (index : Nat) (args : Fields) (outcome : Except CallFailure Value) :
    Except Breakdown StepResult := do
  let response := outcome.toOption.getD .null
  let invocation ← invocationError outcome
  let assertionResults ← assertionOutcomes step response
  let error := invocation.orElse fun _ => assertionError? (assertionResults.getD [])
  return { step, index, success := error.isNone, response, error, resolvedArgs := args
           assertionResults }

/-! ### The attempt -/

namespace Environment

variable (env : Environment)

/-- The failed earlier steps that stand against a step, none when failed dependencies do not
matter. -/
def obstacles (results : List StepResult) (index : Nat) (step : Step) :
    Except Breakdown (List Nat) :=
  if env.options.requireSuccessfulDependencies then
    Resolution.failedDependencies results step index
  else .ok []

/-- What is to be done about a step: refuse it, or call its tool with arguments. -/
def plan (results : List StepResult) (index : Nat) (step : Step) :
    Except Breakdown (Except Refusal Fields) :=
  if !env.tools.contains step.tool then .ok (.error (.unknownTool step.tool))
  else
    match env.obstacles results index step with
    | .error b => .error b
    | .ok [] =>
      match Resolution.resolveArguments results step index with
      | .ok args => .ok (.ok args)
      | .error failure =>
        match failure.stop with
        | .fault fault => .ok (.error (.unresolved fault.message))
        | .breakdown b => .error b
    | .ok failed => .ok (.error (.failedDependencies index failed))

/-- Calls a tool, unless the time limit is none, which counts as a failed call. -/
def call (tool : String) (args : Fields) (t : Trace) :
    Trace × Except Breakdown (Except CallFailure Value) :=
  let limit := env.options.callTimeout
  match limit.problem? with
  | some b => (t ++ [.noticed (failedCall tool b.message)], .ok (.error (.raised b.message)))
  | none =>
    let answer := env.client t tool args
    (t ++ .called tool args :: (callNotices tool answer).map .noticed,
      callOutcome tool limit answer)

/-- Attempts a step, given the results of the steps before it. -/
def attempt (results : List StepResult) (index : Nat) (step : Step) (t : Trace) :
    Trace × Except Breakdown StepResult :=
  match env.plan results index step with
  | .error b => (t, .error b)
  | .ok (.error refusal) => (t, .ok (refusal.result step index))
  | .ok (.ok args) =>
    let (t, outcome) := env.call step.tool args t
    (t, outcome.bind (conclude step index args))

end Environment

end ToolFlow
