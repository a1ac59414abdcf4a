import ToolFlow.Proofs.Json.RoundTrip
import ToolFlow.Proofs.Workflow.Document
import ToolFlow.Result.Report

/-!
# Reports and their JSON

A report can be had of every result whose definitions hold data and whose values are put together
from data, absent values and plain entities. It is data, shows the values of the result, and comes
back from its JSON (`comesBack_of_isReportable`), with whatever indentation this is written.

Each kind of record that a result holds has the same three lemmas: its report is what `shown` says
(`report_eq_ok`), that is data (`isData_shown`), and the embedded values stand in it where they
should (`shownIn_shown`). The records are taken from the inside: results of assertions and of steps,
edges, snapshots and changes, the bundle, and the run. What is wanted of a record is collected in
its `IsReportable`, so that a report of the whole asks for nothing but this.

## Main definitions

* `Value.IsEmbedded`: what results embed. These are data, the absent value, and entities that do not
  ask for a form of their own.
* `Value.shown`: a value with the absent value and entities replaced by the texts by which they are
  shown, and everything else as it is (`IsData.shown_eq_self`).
* `WorkflowResult.IsReportable`: a result that can be reported. Numbers have to be ones that
  JSON gives back (`Number.IsBrief`).
* `WorkflowResult.ShownIn`: where the values of a result stand in its report.

## Main results

* `comesBack_of_isReportable`: a report exists, is data, shows the values, and is decoded from its
  JSON.
* `comesBack_of_unansweredResult`: this for a result with an entity in a response and an absent
  value among the arguments and the samples.
-/

namespace ToolFlow

namespace Value

/-! ### Values as they are shown -/

/-- What values of a run are put together from: scalars, the absent value, and entities that are
not asked for a form of their own. -/
def IsShowable : Value → Prop
  | missing => True
  | entity _ attributes => attributes.lookup "model_dump" = none
  | v => v.IsScalar Number.IsBrief

/-- A value as results embed it. -/
abbrev IsEmbedded : Value → Prop :=
  BuiltFrom IsShowable

mutual

/-- A value with the absent value and entities replaced by the texts by which they are shown. -/
def shown : Value → Value
  | missing => text "MISSING"
  | entity _ _ => text "<obj>"
  | list items => list (shownItems items)
  | object fields => object (shownFields fields)
  | v => v

/-- Items as they are shown. -/
def shownItems : List Value → List Value
  | [] => []
  | v :: rest => shown v :: shownItems rest

/-- Fields as they are shown. -/
def shownFields : List (String × Value) → List (String × Value)
  | [] => []
  | (name, v) :: rest => (name, shown v) :: shownFields rest

end

/-- Items are shown one by one. -/
theorem shownItems_eq_map (items : List Value) : shownItems items = items.map shown := by
  induction items with
  | nil => rfl
  | cons v rest ih => rw [shownItems, ih, List.map_cons]

/-- Fields are shown one by one, under their names. -/
theorem shownFields_eq_map (fields : Fields) :
    shownFields fields = fields.map fun field ↦ (field.1, field.2.shown) := by
  induction fields with
  | nil => rfl
  | cons field rest ih => rw [shownFields, ih, List.map_cons]

/-- Items are reported as they are shown when each of them is. -/
theorem reportedItems_eq_ok {items : List Value} (h : ∀ v ∈ items, v.reported = .ok v.shown) :
    reportedItems items = .ok (shownItems items) := by
  induction items with
  | nil => rfl
  | cons v rest ih =>
    obtain ⟨hv, hrest⟩ := List.forall_mem_cons.1 h
    rw [reportedItems, hv, ih hrest]
    rfl

/-- Fields are reported as they are shown when each of them is. -/
theorem reportedFields_eq_ok {fields : Fields}
    (h : ∀ field ∈ fields, field.2.reported = .ok field.2.shown) :
    reportedFields fields = .ok (shownFields fields) := by
  induction fields with
  | nil => rfl
  | cons field rest ih =>
    obtain ⟨hfield, hrest⟩ := List.forall_mem_cons.1 h
    rw [reportedFields, hfield, ih hrest]
    rfl

variable {v : Value}

/-- A report holds embedded values as they are shown. -/
theorem IsEmbedded.reported_eq_ok (h : v.IsEmbedded) : v.reported = .ok v.shown := by
  induction h with
  | @leaf v h =>
    cases v with
    | entity id attributes =>
      have hplain : attributes.lookup "model_dump" = none := h
      rw [reported, hplain]
      rfl
    | list items => exact h.elim
    | object fields => exact h.elim
    | _ => rfl
  | list _ ih => rw [reported, reportedItems_eq_ok ih]; rfl
  | object _ _ ih => rw [reported, reportedFields_eq_ok ih]; rfl

/-- What is shown is data. -/
theorem IsEmbedded.isData_shown (h : v.IsEmbedded) : v.shown.IsData Number.IsBrief := by
  induction h with
  | @leaf v h =>
    cases v with
    | missing => exact isData_text _
    | entity id attributes => exact isData_text _
    | list items => exact h.elim
    | object fields => exact h.elim
    | _ => exact .leaf h
  | list _ ih =>
    rw [shown, shownItems_eq_map, isData_list_iff]
    exact List.forall_mem_map.2 ih
  | object hnames _ ih =>
    rw [shown, shownFields_eq_map, isData_object_iff, List.map_map]
    exact ⟨hnames, List.forall_mem_map.2 ih⟩

/-- Scalars are showable. -/
theorem IsScalar.isShowable (h : v.IsScalar Number.IsBrief) : v.IsShowable := by
  cases v with
  | missing => exact h.elim
  | entity => exact h.elim
  | _ => exact h

/-- Data can be embedded. -/
theorem IsData.isEmbedded (h : v.IsData Number.IsBrief) : v.IsEmbedded :=
  BuiltFrom.mono h fun _ ↦ IsScalar.isShowable

/-- Data are shown unchanged. -/
theorem IsData.shown_eq_self {P : Number → Prop} (h : v.IsData P) : v.shown = v := by
  induction h with
  | @leaf v h =>
    cases v with
    | missing => exact h.elim
    | entity => exact h.elim
    | list items => exact h.elim
    | object fields => exact h.elim
    | _ => rfl
  | list _ ih =>
    rw [shown, shownItems_eq_map, List.map_congr_left ih, List.map_id']
  | @object fields _ _ ih =>
    have hfields : (fields.map fun field ↦ (field.1, field.2.shown)) = fields :=
      (List.map_congr_left fun field hfield ↦ by rw [ih field hfield]).trans (List.map_id' fields)
    rw [shown, shownFields_eq_map, hfields]

end Value

/-- A number that is brief enough to be read back is finite. -/
theorem Number.IsBrief.isFinite {n : Number} (h : n.IsBrief) : n.IsFinite := by
  cases n with
  | int n => trivial
  | float x =>
    obtain rfl : x = .zero := h
    rfl

/-- A list stands in its image as each item stands in its own. -/
theorem forall₂_map {α β : Type} {R : α → β → Prop} {f : α → β} (h : ∀ a, R a (f a))
    (l : List α) : List.Forall₂ R l (l.map f) :=
  List.forall₂_map_right_iff.2 (List.forall₂_same.2 fun a _ ↦ h a)

/-! ### Assertions and steps -/

/-- A result of an assertion that can be reported. -/
structure AssertionResult.IsReportable (result : AssertionResult) : Prop where
  value : result.assertion.value.IsData Number.IsBrief
  actual : result.actual.IsEmbedded

/-- The report of the result of an assertion. -/
def AssertionResult.shown (result : AssertionResult) : Value :=
  .object [("assertion", result.assertion.written false), ("passed", .bool result.passed),
    ("actual_value", result.actual.shown), ("message", .ofText? result.message)]

/-- A result of a step that can be reported. Its index is written like any other integer. -/
structure StepResult.IsReportable (result : StepResult) : Prop where
  step : result.step.HoldsData Number.IsBrief
  mapsOnce : (result.step.mapped.map Prod.fst).Nodup
  index : (Number.int result.index).IsBrief
  response : result.response.IsEmbedded
  args : (Value.object result.resolvedArgs).IsEmbedded
  assertions : ∀ assertion ∈ result.assertionResults.getD [], assertion.IsReportable
  duration : result.duration.IsBrief

/-- The reports of the assertions of a step, null when it declares no list of them. -/
def assertionsShown : Option (List AssertionResult) → Value
  | none => .null
  | some results => .list (results.map AssertionResult.shown)

/-- The report of the result of a step. -/
def StepResult.shown (result : StepResult) : Value :=
  .object [("step", result.step.written false), ("step_index", .nat result.index),
    ("success", .bool result.success), ("response", result.response.shown),
    ("error", .ofText? result.error), ("resolved_args", (Value.object result.resolvedArgs).shown),
    ("assertion_results", assertionsShown result.assertionResults),
    ("duration_ms", .number result.duration), ("analysis", .ofText? result.analysis)]

/-- A report of the result of an assertion can be had. -/
theorem AssertionResult.report_eq_ok {result : AssertionResult} (h : result.IsReportable) :
    result.report = .ok result.shown := by
  have hvalue := h.value.mono fun _ ↦ Number.IsBrief.isFinite
  rw [report, Assertion.document_eq_ok hvalue, h.actual.reported_eq_ok]
  rfl

/-- The report of the result of an assertion is data. -/
theorem AssertionResult.isData_shown {result : AssertionResult} (h : result.IsReportable) :
    result.shown.IsData Number.IsBrief := by
  refine Value.isData_object_iff.2 ⟨by simp, ?_⟩
  simp [h.actual.isData_shown, Assertion.isData_written h.value]

/-- Reports of all assertions of a step can be had. -/
theorem assertionsReport_eq_ok {results : Option (List AssertionResult)}
    (h : ∀ result ∈ results.getD [], result.IsReportable) :
    assertionsReport results = .ok (assertionsShown results) := by
  cases results with
  | none => rfl
  | some results =>
    have hreports : results.mapM AssertionResult.report =
        .ok (results.map AssertionResult.shown) :=
      Except.mapM_eq_ok_map fun result hmem ↦ AssertionResult.report_eq_ok (h result hmem)
    rw [assertionsReport, hreports]
    rfl

/-- The reports of the assertions of a step are data. -/
theorem isData_assertionsShown {results : Option (List AssertionResult)}
    (h : ∀ result ∈ results.getD [], result.IsReportable) :
    (assertionsShown results).IsData Number.IsBrief := by
  cases results with
  | none => exact Value.isData_null
  | some results =>
    exact Value.isData_list_map_iff.2 fun result hmem ↦
      AssertionResult.isData_shown (h result hmem)

/-- A report of the result of a step can be had. -/
theorem StepResult.report_eq_ok {result : StepResult} (h : result.IsReportable) :
    result.report = .ok result.shown := by
  have hstep : result.step.HoldsData Number.IsFinite := h.step.mono fun _ ↦ Number.IsBrief.isFinite
  have hargs : Value.reportedFields result.resolvedArgs =
      .ok (Value.shownFields result.resolvedArgs) := by
    obtain ⟨fields, hfields, heq⟩ := Except.map_eq_ok_iff.1 h.args.reported_eq_ok
    rw [hfields, Value.object.inj heq]
  rw [report, Step.document_eq_ok hstep, h.response.reported_eq_ok, hargs,
    assertionsReport_eq_ok h.assertions]
  rfl

/-- The report of the result of a step is data. -/
theorem StepResult.isData_shown {result : StepResult} (h : result.IsReportable) :
    result.shown.IsData Number.IsBrief := by
  refine Value.isData_object_iff.2 ⟨by simp, ?_⟩
  simp [Value.nat, Step.isData_written h.step h.mapsOnce, h.response.isData_shown,
    h.args.isData_shown, isData_assertionsShown h.assertions, h.index, h.duration]

/-- Where the values of the result of an assertion stand in its report. -/
structure AssertionResult.ShownIn (result : AssertionResult) (report : Value) : Prop where
  assertion : report.field "assertion" = result.assertion.written false
  actual : report.field "actual_value" = result.actual.shown

/-- Where the values of the result of a step stand in its report. -/
structure StepResult.ShownIn (result : StepResult) (report : Value) : Prop where
  step : report.field "step" = result.step.written false
  response : report.field "response" = result.response.shown
  args : report.field "resolved_args" = (Value.object result.resolvedArgs).shown
  assertions : List.Forall₂ AssertionResult.ShownIn (result.assertionResults.getD [])
    (report.field "assertion_results").items

/-- The values of the result of an assertion stand where they should. -/
theorem AssertionResult.shownIn_shown (result : AssertionResult) : result.ShownIn result.shown := by
  constructor <;> simp [shown, Value.field, Value.field?, Fields.lookup_cons_eq_if]

/-- The values of the result of a step stand where they should. -/
theorem StepResult.shownIn_shown (result : StepResult) : result.ShownIn result.shown := by
  have hfields : result.shown.field "step" = result.step.written false ∧
      result.shown.field "response" = result.response.shown ∧
      result.shown.field "resolved_args" = (Value.object result.resolvedArgs).shown ∧
      result.shown.field "assertion_results" = assertionsShown result.assertionResults := by
    simp [shown, Value.field, Value.field?, Fields.lookup_cons_eq_if]
  obtain ⟨hstep, hresponse, hargs, hassertions⟩ := hfields
  refine ⟨hstep, hresponse, hargs, ?_⟩
  rw [hassertions]
  cases result.assertionResults with
  | none => exact .nil
  | some results =>
    exact forall₂_map AssertionResult.shownIn_shown results

/-! ### Edges and tracking -/

/-- An edge that can be reported. -/
structure Edge.IsReportable (edge : Edge) : Prop where
  source : (Number.int edge.source).IsBrief
  target : (Number.int edge.target).IsBrief
  sample : edge.sample.IsEmbedded

/-- The report of an edge. -/
def Edge.shown (edge : Edge) : Value :=
  .object [("from_step", .nat edge.source), ("to_step", .nat edge.target),
    ("source_path", .text edge.sourcePath), ("target_param", .text edge.parameter),
    ("sample_value", edge.sample.shown)]

/-- Where the value of an edge stands in its report. -/
structure Edge.ShownIn (edge : Edge) (report : Value) : Prop where
  sample : report.field "sample_value" = edge.sample.shown

/-- The sample of an edge stands where it should. -/
theorem Edge.shownIn_shown (edge : Edge) : edge.ShownIn edge.shown := by
  constructor
  simp [shown, Value.field, Value.field?, Fields.lookup_cons_eq_if]

/-- A report of an edge can be had. -/
theorem Edge.report_eq_ok {edge : Edge} (h : edge.IsReportable) : edge.report = .ok edge.shown := by
  rw [report, h.sample.reported_eq_ok]
  rfl

/-- The report of an edge is data. -/
theorem Edge.isData_shown {edge : Edge} (h : edge.IsReportable) :
    edge.shown.IsData Number.IsBrief := by
  refine Value.isData_object_iff.2 ⟨by simp, ?_⟩
  simp [Value.nat, h.source, h.target, h.sample.isData_shown]

namespace Tracking

/-- A snapshot that can be reported. -/
structure Snapshot.IsReportable (snapshot : Snapshot) : Prop where
  afterStep : (Number.int snapshot.afterStep).IsBrief
  data : snapshot.data.IsEmbedded

/-- A change that can be reported. -/
structure Change.IsReportable (change : Change) : Prop where
  causedBy : (Number.int change.causedBy).IsBrief
  before : change.before.IsEmbedded
  after : change.after.IsEmbedded

/-- A dependency that can be reported. -/
structure Dependency.IsReportable (dependency : Dependency) : Prop where
  producer : (Number.int dependency.producer).IsBrief
  consumer : (Number.int dependency.consumer).IsBrief

/-- What is known of the state around a run, when it can be reported. -/
structure Bundle.IsReportable (bundle : Bundle) : Prop where
  snapshots : ∀ snapshot ∈ bundle.snapshots, snapshot.IsReportable
  changes : ∀ change ∈ bundle.changes, change.IsReportable
  dependencies : ∀ dependency ∈ bundle.dependencies, dependency.IsReportable
  confidence : ∀ info ∈ bundle.roles, info.confidence.IsBrief

/-- The report of a snapshot. -/
def Snapshot.shown (snapshot : Snapshot) : Value :=
  .object [("timestamp", .text (momentText snapshot.moment)),
    ("after_step_index", .int snapshot.afterStep), ("data", snapshot.data.shown),
    ("hash", .text snapshot.hash), ("probe_tool", .ofText? snapshot.probe)]

/-- The report of a change. -/
def Change.shown (change : Change) : Value :=
  .object [("type", .text change.kind.name), ("path", .text change.path),
    ("caused_by_step", .int change.causedBy), ("before", change.before.shown),
    ("after", change.after.shown)]

/-- The report of a bundle. -/
def Bundle.shown (bundle : Bundle) : Value :=
  .object [("snapshots", .list (bundle.snapshots.map Snapshot.shown)),
    ("changes", .list (bundle.changes.map Change.shown)),
    ("dependencies", .list (bundle.dependencies.map Dependency.report)),
    ("tool_roles", .list (bundle.roles.map ToolInfo.report)),
    ("summary", .ofText? bundle.summary)]

/-- The report of the bundle of a run, null when there is none. -/
def shownOf? : Option Bundle → Value
  | none => .null
  | some bundle => bundle.shown

/-- A report of a snapshot can be had. -/
theorem Snapshot.report_eq_ok {snapshot : Snapshot} (h : snapshot.IsReportable) :
    snapshot.report = .ok snapshot.shown := by
  rw [report, h.data.reported_eq_ok]
  rfl

/-- The report of a snapshot is data. -/
theorem Snapshot.isData_shown {snapshot : Snapshot} (h : snapshot.IsReportable) :
    snapshot.shown.IsData Number.IsBrief := by
  refine Value.isData_object_iff.2 ⟨by simp, ?_⟩
  simp [Value.int, h.afterStep, h.data.isData_shown]

/-- A report of a change can be had. -/
theorem Change.report_eq_ok {change : Change} (h : change.IsReportable) :
    change.report = .ok change.shown := by
  rw [report, h.before.reported_eq_ok, h.after.reported_eq_ok]
  rfl

/-- The report of a change is data. -/
theorem Change.isData_shown {change : Change} (h : change.IsReportable) :
    change.shown.IsData Number.IsBrief := by
  refine Value.isData_object_iff.2 ⟨by simp, ?_⟩
  simp [Value.int, h.causedBy, h.before.isData_shown,
    h.after.isData_shown]

/-- The report of a dependency is data. Nothing in it is embedded, so it can always be had. -/
theorem Dependency.isData_report {dependency : Dependency} (h : dependency.IsReportable) :
    dependency.report.IsData Number.IsBrief := by
  refine Value.isData_object_iff.2 ⟨by simp, ?_⟩
  simp [Value.nat, h.producer, h.consumer]

/-- The report of what is known of a tool is data, and can always be had. -/
theorem ToolInfo.isData_report {info : ToolInfo} (h : info.confidence.IsBrief) :
    info.report.IsData Number.IsBrief := by
  refine Value.isData_object_iff.2 ⟨by simp, ?_⟩
  simp [Value.isData_list_iff, h]

/-- A report of a bundle can be had. -/
theorem Bundle.report_eq_ok {bundle : Bundle} (h : bundle.IsReportable) :
    bundle.report = .ok bundle.shown := by
  have hsnapshots : bundle.snapshots.mapM Snapshot.report =
      .ok (bundle.snapshots.map Snapshot.shown) :=
    Except.mapM_eq_ok_map fun snapshot hmem ↦ Snapshot.report_eq_ok (h.snapshots snapshot hmem)
  have hchanges : bundle.changes.mapM Change.report = .ok (bundle.changes.map Change.shown) :=
    Except.mapM_eq_ok_map fun change hmem ↦ Change.report_eq_ok (h.changes change hmem)
  rw [report, hsnapshots, hchanges]
  rfl

/-- The report of a bundle is data. -/
theorem Bundle.isData_shown {bundle : Bundle} (h : bundle.IsReportable) :
    bundle.shown.IsData Number.IsBrief := by
  refine Value.isData_object_iff.2 ⟨by simp, ?_⟩
  simp only [List.forall_mem_cons, Value.isData_list_map_iff, Value.isData_ofText?, true_and]
  exact ⟨fun snapshot hmem ↦ Snapshot.isData_shown (h.snapshots snapshot hmem),
    fun change hmem ↦ Change.isData_shown (h.changes change hmem),
    fun dependency hmem ↦ Dependency.isData_report (h.dependencies dependency hmem),
    fun info hmem ↦ ToolInfo.isData_report (h.confidence info hmem), by simp⟩

/-- Where the data of a snapshot stand in its report. -/
structure Snapshot.ShownIn (snapshot : Snapshot) (report : Value) : Prop where
  data : report.field "data" = snapshot.data.shown

/-- Where the values of a change stand in its report. -/
structure Change.ShownIn (change : Change) (report : Value) : Prop where
  before : report.field "before" = change.before.shown
  after : report.field "after" = change.after.shown

/-- Where the values of a bundle stand in its report. -/
structure Bundle.ShownIn (bundle : Bundle) (report : Value) : Prop where
  snapshots : List.Forall₂ Snapshot.ShownIn bundle.snapshots (report.field "snapshots").items
  changes : List.Forall₂ Change.ShownIn bundle.changes (report.field "changes").items

/-- The data of a snapshot stand where they should. -/
theorem Snapshot.shownIn_shown (snapshot : Snapshot) : snapshot.ShownIn snapshot.shown := by
  constructor
  simp [shown, Value.field, Value.field?, Fields.lookup_cons_eq_if]

/-- The values of a change stand where they should. -/
theorem Change.shownIn_shown (change : Change) : change.ShownIn change.shown := by
  constructor <;> simp [shown, Value.field, Value.field?, Fields.lookup_cons_eq_if]

/-- Snapshots and changes stand where they should. -/
theorem Bundle.shownIn_shown (bundle : Bundle) : bundle.ShownIn bundle.shown := by
  have hfields : bundle.shown.field "snapshots" = .list (bundle.snapshots.map Snapshot.shown) ∧
      bundle.shown.field "changes" = .list (bundle.changes.map Change.shown) := by
    simp [shown, Value.field, Value.field?, Fields.lookup_cons_eq_if]
  constructor
  · rw [hfields.1]
    exact forall₂_map Snapshot.shownIn_shown bundle.snapshots
  · rw [hfields.2]
    exact forall₂_map Change.shownIn_shown bundle.changes

/-- A report of the bundle can be had, if there is a bundle. -/
theorem reportOf?_eq_ok {bundle : Option Bundle} (h : ∀ known ∈ bundle, known.IsReportable) :
    reportOf? bundle = .ok (shownOf? bundle) := by
  cases bundle with
  | none => rfl
  | some known => exact known.report_eq_ok (h known rfl)

/-- The report of the bundle is data, or null. -/
theorem isData_shownOf? {bundle : Option Bundle} (h : ∀ known ∈ bundle, known.IsReportable) :
    (shownOf? bundle).IsData Number.IsBrief := by
  cases bundle with
  | none => exact Value.isData_null
  | some known => exact known.isData_shown (h known rfl)

end Tracking

/-! ### Runs -/

namespace WorkflowResult

/-- A result that can be reported. -/
structure IsReportable (result : WorkflowResult) : Prop where
  workflow : result.workflow.HoldsData Number.IsBrief
  mapsOnce : result.workflow.MapsOnce
  steps : ∀ step ∈ result.steps, step.IsReportable
  failedStep : ∀ index ∈ result.failedStep, (Number.int index).IsBrief
  duration : result.duration.IsBrief
  dataFlow : ∀ edge ∈ result.dataFlow, edge.IsReportable
  tracking : ∀ bundle ∈ result.tracking, bundle.IsReportable

/-- The report of a run. -/
def shown (result : WorkflowResult) : Value :=
  .object [("workflow", result.workflow.written false),
    ("steps", .list (result.steps.map StepResult.shown)), ("success", .bool result.success),
    ("failure_reason", .ofText? result.failureReason),
    ("failed_step_index", .ofNat? result.failedStep), ("duration_ms", .number result.duration),
    ("data_flow", .list (result.dataFlow.map Edge.shown)), ("summary", .ofText? result.summary),
    ("state_tracking", Tracking.shownOf? result.tracking)]

variable {result : WorkflowResult}

/-- **A report of a run can be had.** -/
theorem report_eq_ok (h : result.IsReportable) : result.report = .ok result.shown := by
  have hworkflow : result.workflow.HoldsData Number.IsFinite :=
    fun step hmem ↦ (h.workflow step hmem).mono fun _ ↦ Number.IsBrief.isFinite
  have hsteps : result.steps.mapM StepResult.report = .ok (result.steps.map StepResult.shown) :=
    Except.mapM_eq_ok_map fun step hmem ↦ StepResult.report_eq_ok (h.steps step hmem)
  have hedges : result.dataFlow.mapM Edge.report = .ok (result.dataFlow.map Edge.shown) :=
    Except.mapM_eq_ok_map fun edge hmem ↦ Edge.report_eq_ok (h.dataFlow edge hmem)
  rw [report, Workflow.document_eq_ok hworkflow, hsteps, hedges,
    Tracking.reportOf?_eq_ok h.tracking]
  rfl

/-- **The report of a run is data.** -/
theorem isData_shown (h : result.IsReportable) : result.shown.IsData Number.IsBrief := by
  have hsteps : (Value.list (result.steps.map StepResult.shown)).IsData Number.IsBrief :=
    Value.isData_list_map_iff.2 fun step hmem ↦ StepResult.isData_shown (h.steps step hmem)
  have hedges : (Value.list (result.dataFlow.map Edge.shown)).IsData Number.IsBrief :=
    Value.isData_list_map_iff.2 fun edge hmem ↦ Edge.isData_shown (h.dataFlow edge hmem)
  refine Value.isData_object_iff.2 ⟨by simp, ?_⟩
  simp [Value.isData_ofNat? h.failedStep, h.duration, hsteps, hedges,
    Tracking.isData_shownOf? h.tracking, Workflow.isData_written h.workflow h.mapsOnce]

/-- Where the values of a result stand in its report. -/
structure ShownIn (result : WorkflowResult) (report : Value) : Prop where
  workflow : report.field "workflow" = result.workflow.written false
  steps : List.Forall₂ StepResult.ShownIn result.steps (report.field "steps").items
  dataFlow : List.Forall₂ Edge.ShownIn result.dataFlow (report.field "data_flow").items
  tracking : ∀ bundle ∈ result.tracking, bundle.ShownIn (report.field "state_tracking")

/-- **The values of a run stand where they should.** -/
theorem shownIn_shown (result : WorkflowResult) : result.ShownIn result.shown := by
  have hfields : result.shown.field "workflow" = result.workflow.written false ∧
      result.shown.field "steps" = .list (result.steps.map StepResult.shown) ∧
      result.shown.field "data_flow" = .list (result.dataFlow.map Edge.shown) ∧
      result.shown.field "state_tracking" = Tracking.shownOf? result.tracking := by
    simp [shown, Value.field, Value.field?, Fields.lookup_cons_eq_if]
  obtain ⟨hworkflow, hsteps, hedges, htracking⟩ := hfields
  refine ⟨hworkflow, ?_, ?_, fun bundle hbundle ↦ ?_⟩
  · rw [hsteps]
    exact forall₂_map StepResult.shownIn_shown result.steps
  · rw [hedges]
    exact forall₂_map Edge.shownIn_shown result.dataFlow
  · rw [htracking, hbundle]
    exact bundle.shownIn_shown

/-- A result that can be reported has a report, which is data, shows the values of the result and is
what its JSON is decoded to, with whatever indentation this is written. -/
theorem comesBack_of_isReportable (h : result.IsReportable) :
    ∃ report, result.report = .ok report ∧ report.IsData Number.IsBrief ∧
      result.ShownIn report ∧ (∀ v : Value, v.IsData Number.IsBrief → v.shown = v) ∧
      ∀ indent, ∃ text, result.reportText indent = .ok text ∧ Json.decode? text = some report := by
  refine ⟨result.shown, report_eq_ok h, isData_shown h, shownIn_shown result,
    fun v hv ↦ hv.shown_eq_self, fun indent ↦ ?_⟩
  rw [reportText, report_eq_ok h]
  exact Json.exists_encodeReadable?_eq_ok (isData_shown h) indent

/-! ### A result that is no data -/

/-- A step with a null argument. -/
def findStep : Step where
  tool := "find"
  args := [("city", .text "Zürich"), ("limit", .null)]

/-- The result of a run whose only step was given an absent value and answered with an entity. -/
def unansweredResult : WorkflowResult where
  workflow := { id := "w", name := "W", steps := [findStep] }
  steps := [
    { step := findStep
      index := 0
      success := true
      response := .object [("hits", .list [.entity 1 [("id", .text "h")], .bool true])]
      resolvedArgs := [("city", .text "Zürich"), ("limit", .missing)] }]
  dataFlow := [
    { source := 0, target := 0, sourcePath := "data.x", parameter := "limit", sample := .missing }]

/-- The result can be reported. -/
theorem isReportable_unansweredResult : unansweredResult.IsReportable := by
  have hzero : (Number.int 0).IsBrief := Nat.pow_pos (by decide)
  have hstep : findStep.HoldsData Number.IsBrief :=
    { args := by simp [findStep, Value.isData_object_iff]
      values := by simp [findStep, Step.checks] }
  have hmissing : Value.missing.IsEmbedded := .leaf trivial
  have hhits : (Value.list [.entity 1 [("id", .text "h")], .bool true]).IsEmbedded :=
    .list (List.forall_mem_cons.2 ⟨.leaf rfl, by simp [Value.IsData.isEmbedded]⟩)
  have hargs : (Value.object [("city", .text "Zürich"), ("limit", .missing)]).IsEmbedded :=
    .object (by decide) (by simp [hmissing, Value.IsData.isEmbedded])
  constructor
  · simpa [Workflow.HoldsData, unansweredResult] using hstep
  · simp [Workflow.MapsOnce, unansweredResult, findStep, Step.mapped]
  · simp only [unansweredResult, List.forall_mem_singleton]
    exact
      { step := hstep
        mapsOnce := List.nodup_nil
        index := hzero
        response := .object (by decide) (by simpa using hhits)
        args := hargs
        assertions := by simp
        duration := rfl }
  · simp [unansweredResult]
  · rfl
  · simp only [unansweredResult, List.forall_mem_singleton]
    exact ⟨hzero, hzero, hmissing⟩
  · simp [unansweredResult]

/-- The report of the run shows the absent value and the entity by their texts. -/
theorem comesBack_of_unansweredResult : unansweredResult.IsReportable ∧
    ∃ report, unansweredResult.report = .ok report ∧ report.IsData Number.IsBrief ∧
      unansweredResult.ShownIn report ∧ (∀ v : Value, v.IsData Number.IsBrief → v.shown = v) ∧
      ∀ indent, ∃ text, unansweredResult.reportText indent = .ok text ∧
        Json.decode? text = some report :=
  ⟨isReportable_unansweredResult, comesBack_of_isReportable isReportable_unansweredResult⟩

end WorkflowResult

end ToolFlow
