import ToolFlow.Run.Trace
import ToolFlow.TimeLimit

/-!
# Tracking sessions

The questions that a run puts to a tracker: which tools to probe with, snapshots before the run,
after its steps and after it, the changes between them, and at the end what it all means. Whatever
the tracker fails at is noted in the log and passed over.

A session has three moments at which it may ask for a snapshot, each of them an option, and one end.
A snapshot that is taken is compared with an earlier one and then kept (`Session.keep`): before the
run with none, after a step with the latest, and after the run with the first, unless changes were
looked for after each step. Where a snapshot is not taken the session goes on as if the moment had
passed by.

At the end the tracker is asked four questions, and each answer has something to stand in for it.
Dependencies that were found are shown to the tracker once more when there are snapshots and changes
to verify them with; if it fails at that, they stay as they were found.

## Main definitions

* `Tracker`: the answers of a tracker, each a function of the trace.
* `Session.request`: asking for a snapshot, within its time limit.
* `Session.beforeRun`, `Session.afterStep`, `Session.afterRun`: the moments.
* `Session.finish`: the end.
-/

namespace ToolFlow.Tracking

/-- What captures and interprets the state. -/
structure Tracker where
  setProbes : Trace → List String → Except String Unit
  takeSnapshot : Trace → Int → Answer (Option Snapshot)
  compare : Trace → Snapshot → Snapshot → Int → Except String (List Change)
  toolInfo : Trace → Except String (List ToolInfo)
  infer : Trace → List StepResult → Except String (List Dependency)
  verify : Trace → List Dependency → Captured → Except String (List Dependency)
  summarize : Trace → Bundle → Except String (Option String)

/-- A tracker with what a run wants of it. -/
structure Session where
  tracker : Tracker
  options : Options
  /-- How long a snapshot may take. -/
  timeout : TimeLimit

/-- The name of the logger of this module. -/
def logger : String := "chainprobe.execution.state"

/-- The line of the log about something that the tracker failed at. -/
def failure (message : String) : Trace.Entry :=
  .noticed (.warning logger message)

namespace Session

variable (session : Session)

/-! ### Questions -/

/-- The line of the log about a snapshot that failed. -/
def snapshotFailure (afterStep : Int) (error : String) : Trace.Entry :=
  failure s!"State snapshot after step {afterStep} failed: {error}"

/-- What the log says of a snapshot that was not taken. A limit without an end has no digits, and
the line that was to show them is lost. -/
def snapshotFailures (afterStep : Int) : Answer (Option Snapshot) → Trace
  | .returned _ => []
  | .failed error => [snapshotFailure afterStep error]
  | .timedOut =>
    (session.timeout.wholeText?.map fun shown =>
      failure s!"State snapshot after step {afterStep} timed out after {shown}ms").toList
  | .brokenOff _ => []

/-- Asks for a snapshot, unless the time limit is none. -/
def request (afterStep : Int) (t : Trace) : Trace × Option Snapshot :=
  match session.timeout.problem? with
  | some b => (t ++ [snapshotFailure afterStep b.message], none)
  | none =>
    let answer := session.tracker.takeSnapshot t afterStep
    let t := t ++ .tracked (.takeSnapshot afterStep) :: session.snapshotFailures afterStep answer
    match answer with
    | .returned snapshot => (t, snapshot)
    | _ => (t, none)

/-- Asks for the changes between two snapshots and adds them to those found before. -/
def compare (before after : Snapshot) (step : Int) (captured : Captured) (t : Trace) :
    Trace × Captured :=
  let answer := session.tracker.compare t before after step
  let t := t ++ [.tracked (.compare before.afterStep after.afterStep step)]
  match answer with
  | .ok changes => (t, { captured with changes := captured.changes ++ changes })
  | .error error => (t ++ [failure s!"State comparison for step {step} failed: {error}"], captured)

/-- Keeps a snapshot, after the changes since the given one are found. -/
def keep (earlier : Option Snapshot) (snapshot : Snapshot) (step : Int) (captured : Captured)
    (t : Trace) : Trace × Captured :=
  let (t, captured) := match earlier with
    | some before => session.compare before snapshot step captured t
    | none => (t, captured)
  (t, { captured with snapshots := captured.snapshots ++ [snapshot] })

/-! ### Moments of a run -/

/-- Names the tools to probe with, when there are any. -/
def chooseProbes (t : Trace) : Trace :=
  if session.options.probeTools.isEmpty then t
  else
    let answer := session.tracker.setProbes t session.options.probeTools
    let t := t ++ [.tracked (.setProbes session.options.probeTools)]
    match answer with
    | .ok () => t
    | .error error => t ++ [failure s!"Configuring probe tools failed: {error}"]

/-- Before the first step. -/
def beforeRun (captured : Captured) (t : Trace) : Trace × Captured :=
  let t := session.chooseProbes t
  if !session.options.before then (t, captured)
  else
    match session.request (-1) t with
    | (t, none) => (t, captured)
    | (t, some snapshot) => session.keep none snapshot (-1) captured t

/-- After a step: what changed since the latest snapshot. -/
def afterStep (index : Int) (captured : Captured) (t : Trace) : Trace × Captured :=
  if !session.options.afterEachStep then (t, captured)
  else
    match session.request index t with
    | (t, none) => (t, captured)
    | (t, some snapshot) => session.keep captured.snapshots.getLast? snapshot index captured t

/-- After the last step: what changed since the first snapshot, unless that was looked for after
each step. -/
def afterRun (last : Int) (captured : Captured) (t : Trace) : Trace × Captured :=
  if !session.options.after then (t, captured)
  else
    match session.request last t with
    | (t, none) => (t, captured)
    | (t, some snapshot) =>
      let earlier := if session.options.afterEachStep then none else captured.snapshots.head?
      session.keep earlier snapshot last captured t

/-! ### The end of a run -/

/-- The parts that the tools play, none when the tracker fails to tell. -/
def roles (t : Trace) : Trace × List ToolInfo :=
  let answer := session.tracker.toolInfo t
  let t := t ++ [.tracked .toolInfo]
  match answer with
  | .ok roles => (t, roles)
  | .error error => (t ++ [failure s!"Tool role classification failed: {error}"], [])

/-- The line of the log about dependencies that were not found or not verified. -/
def inferenceFailure (error : String) : Trace.Entry :=
  failure s!"State dependency inference failed: {error}"

/-- The dependencies between steps, verified when there is something to verify them with. -/
def dependencies (results : List StepResult) (captured : Captured) (t : Trace) :
    Trace × List Dependency :=
  let answer := session.tracker.infer t results
  let t := t ++ [.tracked (.infer results.length)]
  match answer with
  | .error error => (t ++ [inferenceFailure error], [])
  | .ok inferred =>
    if captured.snapshots.isEmpty || captured.changes.isEmpty then (t, inferred)
    else
      let answer := session.tracker.verify t inferred captured
      let t := t ++ [.tracked (.verify inferred.length captured.snapshots.length
        captured.changes.length)]
      match answer with
      | .ok verified => (t, verified)
      | .error error => (t ++ [inferenceFailure error], inferred)

/-- The summary that stands in when the tracker fails to write one. -/
def fallbackSummary (captured : Captured) : String :=
  s!"Captured {captured.snapshots.length} state snapshots and " ++
    s!"detected {captured.changes.length} state changes."

/-- The bundle with a summary. -/
def withSummary (bundle : Bundle) (t : Trace) : Trace × Bundle :=
  let answer := session.tracker.summarize t bundle
  let t := t ++ [.tracked (.summarize bundle.dependencies.length bundle.roles.length)]
  match answer with
  | .ok summary => (t, { bundle with summary })
  | .error error =>
    (t ++ [failure s!"State summary generation failed: {error}"],
      { bundle with summary := some (fallbackSummary bundle.toCaptured) })

/-- All that was found out, put together. -/
def finish (results : List StepResult) (captured : Captured) (t : Trace) : Trace × Bundle :=
  let (t, roles) := session.roles t
  let (t, dependencies) := session.dependencies results captured t
  session.withSummary { toCaptured := captured, dependencies, roles } t

end Session

end ToolFlow.Tracking
