import ToolFlow.TimeLimit
import ToolFlow.Tracking.Basic

/-!
# Options of runs

How a run goes on after failures, which comments it asks for, which snapshots it takes, and how long
its parts may take. Options can be given as named values, of which every value counts as true unless
it is vacant.

A name that is not known is a breakdown (`Fields.onlyKnown`), and no value is refused. This is why a
time limit is kept as the value that was given (`TimeLimit`) and is looked at only when something is
to be timed. There are four of these limits. That of tool calls is optional, and the limit of a step
stands in for it (`RunOptions.callTimeout`).

Options of tracking and time limits are parts of the options of a run, and each of the three is made
from named values in the same way: the names first, then one value for each field, with the default
where none is given.
-/

namespace ToolFlow

/-! ### Named values -/

namespace Fields

/-- A breakdown at the first name that is not known. -/
def onlyKnown (owner : String) (known : List String) (fields : Fields) :
    Except Breakdown Fields :=
  match (names fields).find? fun name => !known.contains name with
  | some name => .error (.unknownArgument owner name)
  | none => .ok fields

/-- Whether the value of a name counts as true. -/
def flag (name : String) (default : Bool) (fields : Fields) : Bool :=
  ((fields.get? name).map fun v => !v.isVacant).getD default

/-- The time limit under a name. -/
def limit (name : String) (default : TimeLimit) (fields : Fields) : TimeLimit :=
  ((fields.get? name).map TimeLimit.mk).getD default

end Fields

/-! ### Time limits -/

/-- How long parts of a run may take. -/
structure Timeouts where
  /-- For a tool call, in place of the limit of a step. -/
  toolCall : Option TimeLimit := none
  snapshot : TimeLimit := .ofInt 30000
  analysis : TimeLimit := .ofInt 30000
  summary : TimeLimit := .ofInt 45000

namespace Timeouts

/-- The names of the limits. -/
def names : List String :=
  ["tool_call", "state_snapshot", "llm_analysis", "llm_summary"]

/-- Limits from named values; null for a tool call is no limit of its own. -/
def ofFields (fields : Fields) : Except Breakdown Timeouts := do
  let fields ← fields.onlyKnown "TimeoutConfig" names
  let default : Timeouts := {}
  return {
    toolCall := ((fields.get? "tool_call").filter fun v => !v.isNull).map TimeLimit.mk
    snapshot := fields.limit "state_snapshot" default.snapshot
    analysis := fields.limit "llm_analysis" default.analysis
    summary := fields.limit "llm_summary" default.summary }

end Timeouts

/-! ### Tracking -/

namespace Tracking.Options

/-- The names of the options of tracking. -/
def names : List String :=
  ["enabled", "probe_tools", "snapshot_before", "snapshot_after", "snapshot_after_each_step"]

/-- The texts of a list. -/
def textsOf : Value → List String
  | .list items => items.filterMap fun
    | .text s => some s
    | _ => none
  | _ => []

/-- Options of tracking from named values. -/
def ofFields (fields : Fields) : Except Breakdown Options := do
  let fields ← fields.onlyKnown "StateTrackingOptions" names
  return {
    enabled := fields.flag "enabled" false
    probeTools := textsOf ((fields.get? "probe_tools").getD .null)
    before := fields.flag "snapshot_before" true
    after := fields.flag "snapshot_after" true
    afterEachStep := fields.flag "snapshot_after_each_step" false }

end Tracking.Options

/-! ### Runs -/

/-- The options of a run. -/
structure RunOptions where
  /-- Whether later steps are attempted after a failure. -/
  continueOnError : Bool := false
  stepTimeout : TimeLimit := .ofInt 30000
  analyzeSteps : Bool := true
  generateSummary : Bool := true
  /-- Whether a step is refused outright when it refers to a failed step. -/
  requireSuccessfulDependencies : Bool := false
  tracking : Tracking.Options := {}
  timeouts : Timeouts := {}

namespace RunOptions

/-- How long a tool call may take. -/
def callTimeout (options : RunOptions) : TimeLimit :=
  options.timeouts.toolCall.getD options.stepTimeout

/-- What breakdowns call the options of runs. -/
def title : String := "ExecutorOptions"

/-- The names of the options of runs. -/
def names : List String :=
  ["continue_on_error", "step_timeout_ms", "analyze_steps", "generate_summary",
    "require_successful_dependencies", "on_progress", "state_tracking", "timeouts",
    "cancel_event"]

/-- The named values of a part, none when it is no object. -/
def partOf (name : String) (fields : Fields) : Fields :=
  match fields.get? name with
  | some (.object part) => part
  | _ => []

/-- Options from named values. -/
def ofFields (fields : Fields) : Except Breakdown RunOptions := do
  let timeouts ← Timeouts.ofFields (partOf "timeouts" fields)
  let tracking ← Tracking.Options.ofFields (partOf "state_tracking" fields)
  let fields ← fields.onlyKnown title names
  let default : RunOptions := {}
  return {
    continueOnError := fields.flag "continue_on_error" default.continueOnError
    stepTimeout := fields.limit "step_timeout_ms" default.stepTimeout
    analyzeSteps := fields.flag "analyze_steps" default.analyzeSteps
    generateSummary := fields.flag "generate_summary" default.generateSummary
    requireSuccessfulDependencies :=
      fields.flag "require_successful_dependencies" default.requireSuccessfulDependencies
    tracking
    timeouts }

/-- Why named values cannot override options, if they cannot. Two names belong to the making of
options from settings, and one to the making of options. -/
def overrideProblem? (overrides : Fields) : Option Breakdown :=
  let given := Fields.names overrides
  match given.find? ["settings", "cls"].contains with
  | some name => some (.repeatedArgument s!"{title}.from_settings" name)
  | none =>
    (given.find? fun name => !names.contains name).map fun name =>
      if name == "self" then .repeatedArgument s!"{title}.__init__" name
      else .unknownArgument title name

/-- Options as they are shown, with named values shown in place of their own. -/
def shown (options : RunOptions) (overrides : Fields) : Except Breakdown Value :=
  match overrideProblem? overrides, overrides.get? "timeouts" with
  | some b, _ => .error b
  | none, some v => .error (.noAttribute v.typeName "tool_call")
  | none, none =>
    let own (name : String) (v : Value) : String × Value := (name, (overrides.get? name).getD v)
    let limits := options.timeouts
    let toolCall := (limits.toolCall.map TimeLimit.milliseconds).getD .null
    let step := own "step_timeout_ms" options.stepTimeout.milliseconds
    .ok (.object [own "analyze_steps" (.bool options.analyzeSteps),
      own "continue_on_error" (.bool options.continueOnError),
      own "generate_summary" (.bool options.generateSummary),
      own "require_successful_dependencies" (.bool options.requireSuccessfulDependencies), step,
      ("timeouts", .list [toolCall, limits.snapshot.milliseconds, limits.analysis.milliseconds,
        limits.summary.milliseconds]),
      ("tool_call_timeout_ms", if toolCall.isNull then step.2 else toolCall)])

end RunOptions

end ToolFlow
