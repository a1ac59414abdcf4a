import ToolFlow.Tracking.Session
import ToolFlow.Value.Equality

/-!
# A scripted tracker

A tracker over a store of named values. It can be told to fail at questions, and to fail, to take
too long or to find nothing at single snapshots.

A snapshot is the store as it is at that moment, and two snapshots are compared name by name. The
store may be one that the tools of a script change (`Rehearsal.storeAt`), and then the tracker finds
what a run has done to it.
-/

namespace ToolFlow.Rehearsal

/-- Where a scripted tracker does not do its work. -/
structure TrackerScript where
  /-- The questions at which it fails. -/
  fails : List String := []
  failsAt : List Int := []
  hangsAt : List Int := []
  findsNothingAt : List Int := []

/-- When all scripted snapshots are taken. -/
def snapshotMoment : Moment :=
  { date := { year := 2024, month := 1, day := 2 }, hour := 3, minute := 4, second := 5
    microsecond := 0, offset := some 0 }

open Tracking

/-- The kind of change between the values of a name before and after, if there is one. -/
def changeKind? : Option Value → Option Value → Option ChangeKind
  | none, none => none
  | none, some _ => some .created
  | some _, none => some .deleted
  | some a, some b => if a.looselyEquals b then none else some .modified

/-- The change of one name between two stores. -/
def change? (before after : Fields) (step : Int) (name : String) : Option Change :=
  let was := Fields.get? name before
  let is := Fields.get? name after
  (changeKind? was is).map fun kind =>
    { kind, path := name, causedBy := step, before := was.getD .null, after := is.getD .null }

/-- The fields of a snapshot. -/
def snapshotFields (snapshot : Snapshot) : Fields :=
  match snapshot.data with
  | .object fields => fields
  | _ => []

/-- The names of two stores, once each, in the order of their characters. -/
def allNames (before after : Fields) : List String :=
  ((Fields.names before ++ Fields.names after).eraseDups).mergeSort fun a b => !(b < a)

/-- The changes between two snapshots, by name. -/
def changes (before after : Snapshot) (step : Int) : List Change :=
  let was := snapshotFields before
  let is := snapshotFields after
  (allNames was is).filterMap (change? was is step)

/-- The dependencies of each result on the one before it. -/
def chain (results : List StepResult) : List Dependency :=
  (List.range (results.length - 1)).map fun i =>
    { producer := i, consumer := i + 1, stateType := "item" }

namespace TrackerScript

variable (script : TrackerScript)

/-- The answer to a question at which the tracker may fail. -/
def unlessFailing {α : Type} (question : String) (a : α) : Except String α :=
  if script.fails.contains question then .error s!"{question} failed" else .ok a

/-- The answer to the request of a snapshot. -/
def snapshot (store : Fields) (afterStep : Int) : Answer (Option Snapshot) :=
  if script.fails.contains "take_snapshot" then .failed "take_snapshot failed"
  else if script.failsAt.contains afterStep then .failed s!"snapshot {afterStep} failed"
  else if script.hangsAt.contains afterStep then .timedOut
  else if script.findsNothingAt.contains afterStep then .returned none
  else
    .returned (some
      { moment := snapshotMoment, afterStep, data := .object store
        hash := toString store.length, probe := some "list_items" })

/-- The tracker of a script over a store that may change as time goes by. -/
def tracker (store : Trace → Fields) : Tracker where
  setProbes _ _ := script.unlessFailing "set_probe_tools" ()
  takeSnapshot t afterStep := script.snapshot (store t) afterStep
  compare _ before after step :=
    script.unlessFailing "compare_snapshots" (changes before after step)
  toolInfo _ :=
    script.unlessFailing "get_all_tool_info"
      [{ tool := "create_item", role := .writer
         confidence := .float (.ofDecimal false ['9'] (-1)) }]
  infer _ results := script.unlessFailing "infer_dependencies" (chain results)
  verify _ dependencies _ :=
    script.unlessFailing "verify_dependencies" (dependencies.map fun dependency =>
      { dependency with description := "checked", verified := true })
  summarize _ bundle :=
    script.unlessFailing "generate_summary" (some s!"{bundle.changes.length} changes")

end TrackerScript

end ToolFlow.Rehearsal
