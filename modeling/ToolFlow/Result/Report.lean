import ToolFlow.Json.Writer
import ToolFlow.Result.Workflow
import ToolFlow.Workflow.Document

/-!
# Reports

A result as plain data and as JSON text. Definitions appear as their documents without null fields;
an absent value and an entity appear as the texts by which they are shown.

There is one definition for each kind of record, with the fields in the order in which they are
declared and under the names that reports use. Values of a run are made plain one by one
(`Value.reported`), while the values in definitions are those of documents, with other rules for
what cannot be held. An entity that has a form of its own to offer is asked for it; the attributes
of an entity are values, which cannot answer, so this is a breakdown.

How deep values are nested makes no difference here: the limit of a machine to nesting is left out.

## Main definitions

* `Value.reported`: a value of a run as a report holds it.
* `WorkflowResult.report`: the report of a run.
* `WorkflowResult.reportText`: the report as JSON, on one line or indented.
-/

namespace ToolFlow

namespace Value

mutual

/-- A value as a report holds it. -/
def reported : Value → Except Breakdown Value
  | missing => .ok (text missingText)
  | entity _ attributes =>
    match attributes.lookup "model_dump" with
    | none => .ok (text entityText)
    | some dump => .error (.notCallable dump.typeName)
  | list items => (reportedItems items).map list
  | object fields => (reportedFields fields).map object
  | v => .ok v

/-- Items as a report holds them. -/
def reportedItems : List Value → Except Breakdown (List Value)
  | [] => .ok []
  | v :: rest => do
    let v ← reported v
    let rest ← reportedItems rest
    return v :: rest

/-- Fields as a report holds them. -/
def reportedFields : List (String × Value) → Except Breakdown (List (String × Value))
  | [] => .ok []
  | (name, v) :: rest => do
    let v ← reported v
    let rest ← reportedFields rest
    return (name, v) :: rest

end

end Value

/-! ### Parts -/

/-- The report of an assertion. -/
def AssertionResult.report (result : AssertionResult) : Except Breakdown Value := do
  return .object [("assertion", ← result.assertion.document false),
    ("passed", .bool result.passed), ("actual_value", ← result.actual.reported),
    ("message", .ofText? result.message)]

/-- The reports of the assertions of a step, null when it declares no list of them. -/
def assertionsReport : Option (List AssertionResult) → Except Breakdown Value
  | none => .ok .null
  | some results => (results.mapM AssertionResult.report).map .list

/-- The report of a step. -/
def StepResult.report (result : StepResult) : Except Breakdown Value := do
  let step ← result.step.document false
  let response ← result.response.reported
  let args ← Value.reportedFields result.resolvedArgs
  let assertions ← assertionsReport result.assertionResults
  return .object [("step", step), ("step_index", .nat result.index),
    ("success", .bool result.success), ("response", response), ("error", .ofText? result.error),
    ("resolved_args", .object args), ("assertion_results", assertions),
    ("duration_ms", .number result.duration), ("analysis", .ofText? result.analysis)]

/-- The report of an edge. -/
def Edge.report (edge : Edge) : Except Breakdown Value := do
  return .object [("from_step", .nat edge.source), ("to_step", .nat edge.target),
    ("source_path", .text edge.sourcePath), ("target_param", .text edge.parameter),
    ("sample_value", ← edge.sample.reported)]

namespace Tracking

/-- How moments are written in reports. -/
def momentText (m : Moment) : String :=
  m.text "T" "+00:00"

/-- The report of a snapshot. -/
def Snapshot.report (snapshot : Snapshot) : Except Breakdown Value := do
  return .object [("timestamp", .text (momentText snapshot.moment)),
    ("after_step_index", .int snapshot.afterStep), ("data", ← snapshot.data.reported),
    ("hash", .text snapshot.hash), ("probe_tool", .ofText? snapshot.probe)]

/-- The report of a change. -/
def Change.report (change : Change) : Except Breakdown Value := do
  return .object [("type", .text change.kind.name), ("path", .text change.path),
    ("caused_by_step", .int change.causedBy), ("before", ← change.before.reported),
    ("after", ← change.after.reported)]

/-- The report of a dependency. -/
def Dependency.report (dependency : Dependency) : Value :=
  .object [("producer_step", .nat dependency.producer), ("consumer_step", .nat dependency.consumer),
    ("state_type", .text dependency.stateType), ("description", .text dependency.description),
    ("verified", .bool dependency.verified)]

/-- The report of what is known of a tool. -/
def ToolInfo.report (info : ToolInfo) : Value :=
  .object [("tool", .text info.tool), ("role", .text info.role.name),
    ("state_types", .list (info.stateTypes.map .text)), ("is_probe", .bool info.isProbe),
    ("confidence", .number info.confidence)]

/-- The report of a bundle. -/
def Bundle.report (bundle : Bundle) : Except Breakdown Value := do
  let snapshots ← bundle.snapshots.mapM Snapshot.report
  let changes ← bundle.changes.mapM Change.report
  return .object [("snapshots", .list snapshots), ("changes", .list changes),
    ("dependencies", .list (bundle.dependencies.map Dependency.report)),
    ("tool_roles", .list (bundle.roles.map ToolInfo.report)),
    ("summary", .ofText? bundle.summary)]

/-- The report of the bundle of a run, null when there is none. -/
def reportOf? : Option Bundle → Except Breakdown Value
  | none => .ok .null
  | some bundle => bundle.report

end Tracking

/-! ### Reports of runs -/

namespace WorkflowResult

/-- The report of a run. -/
def report (result : WorkflowResult) : Except Breakdown Value := do
  let workflow ← result.workflow.document false
  let steps ← result.steps.mapM StepResult.report
  let edges ← result.dataFlow.mapM Edge.report
  let tracking ← Tracking.reportOf? result.tracking
  return .object [("workflow", workflow), ("steps", .list steps), ("success", .bool result.success),
    ("failure_reason", .ofText? result.failureReason),
    ("failed_step_index", .ofNat? result.failedStep), ("duration_ms", .number result.duration),
    ("data_flow", .list edges), ("summary", .ofText? result.summary), ("state_tracking", tracking)]

/-- The report of a run as JSON, on one line or with the given indentation. -/
def reportText (indent : Option Nat) (result : WorkflowResult) : Except Breakdown String :=
  result.report >>= Json.encodeReadable? indent

end WorkflowResult

end ToolFlow
