import Mathlib.Data.List.Basic
import Mathlib.Data.List.Induction
import ToolFlow.Proofs.Run.Calls
import ToolFlow.Proofs.Tracking.Requests

/-!
# The snapshots of a run

When the state around a run is tracked, the moments at which snapshots are asked for are fixed by
the options and the number of recorded steps (`snapshots_of_execute`): before the first step, after
each step, and after the last one. The request after a step stands behind the call of that step, if
it made one, and before the calls of later steps; probes are named before all requests. The bundle
of the run holds the snapshots with which the tracker answered, in the order of the requests.

None of this depends on what the tracker does, or on what becomes of a step: a step that fails, or
whose tool is never called, is followed by its request like any other. Only a time limit that is no
number of seconds keeps a run from asking (`snapshotRequests_of_hurried_errand`).

A run is one `Passage` from its start to its end; the step lemma is `passage_advance`.
-/

namespace ToolFlow.Environment

variable {env : Environment} {workflow : Workflow} {session : Tracking.Session} {t₀ t t' : Trace}

open Tracking (Passage passage_of_growsBy)

/-! ### The landmarks of steps -/

/-- A call as it stands in a trace. -/
def callEntry (call : String × Fields) : Trace.Entry :=
  .called call.1 call.2

variable (env) in
/-- The call that a recorded step made, if it made one. -/
def madeCall? (earlier : List StepResult) (index : ℕ) (result : StepResult) :
    Option (String × Fields) :=
  if env.canCall then env.callOf? earlier index result else none

variable (env session) in
/-- The landmarks of recorded steps: of each its call, if it made one, and then the request of a
snapshot, if one is wanted after each step. -/
def stepLandmarks (results : List StepResult) : Trace :=
  results.zipIdx.flatMap fun (result, i) ↦
    ((env.madeCall? (results.take i) i result).map callEntry).toList ++ session.afterEach i

/-- One more result adds the landmarks of one more step. -/
theorem stepLandmarks_append_singleton (results : List StepResult) (result : StepResult) :
    stepLandmarks env session (results ++ [result]) = stepLandmarks env session results ++
      (((env.madeCall? results results.length result).map callEntry).toList ++
        session.afterEach results.length) := by
  have hbefore : results.zipIdx.flatMap (fun (r, i) ↦
      ((env.madeCall? ((results ++ [result]).take i) i r).map callEntry).toList ++
        session.afterEach i) = stepLandmarks env session results := by
    refine List.flatMap_congr fun ⟨r, i⟩ hmem ↦ ?_
    have hi : i < results.length := by
      have := List.snd_lt_of_mem_zipIdx hmem
      simpa using this
    -- the results before an earlier one are the same in the longer list
    show ((env.madeCall? ((results ++ [result]).take i) i r).map callEntry).toList ++ _ = _
    rw [List.take_append_of_le_length (Nat.le_of_lt hi)]
  rw [stepLandmarks, List.zipIdx_append, List.flatMap_append, hbefore]
  simp

/-- The requests among the landmarks of steps. -/
theorem snapshotRequests_stepLandmarks (results : List StepResult) :
    (stepLandmarks env session results).snapshotRequests =
      if session.options.afterEachStep && session.canAsk then
        (List.range results.length).map fun i : ℕ ↦ (i : Int)
      else [] := by
  induction results using List.reverseRecOn with
  | nil => simp [stepLandmarks, Trace.snapshotRequests]
  | append_singleton results result ih =>
    have hcall : Trace.snapshotRequests
        ((env.madeCall? results results.length result).map callEntry).toList = [] := by
      cases env.madeCall? results results.length result <;> rfl
    rw [stepLandmarks_append_singleton, Trace.snapshotRequests_append, ih,
      Trace.snapshotRequests_append, hcall, session.snapshotRequests_afterEach, List.length_append,
      List.length_singleton, List.range_succ, List.map_append, List.nil_append]
    cases session.options.afterEachStep <;> cases session.canAsk <;> simp

/-! ### The passage of a run -/

/-- Where the state is tracked, a moment of a run is one of the session. -/
theorem withSession_eq (hactive : env.session? = some session)
    (act : Tracking.Session → Tracking.Captured → Trace → Trace × Tracking.Captured)
    (captured : Tracking.Captured) (t : Trace) :
    env.withSession act captured t = act session captured t := by
  rw [withSession, hactive]

/-- Announcing a phase passes no landmark. -/
theorem passage_announcePhase (phase : Progress.Phase) (current : ℕ) (step : Option Step)
    (results : List StepResult) (captured : Tracking.Captured) (t : Trace) :
    Passage session.tracker (t, captured)
      (env.announcePhase workflow phase current step results t, captured) [] :=
  passage_of_growsBy captured (env.announce_growsBy _ t)
    fun _ ↦ Trace.Entry.IsReport.not_isLandmark

/-- Asking for a comment passes no landmark. -/
theorem passage_comment (prompt : String) (options : CompletionOptions) (limit : TimeLimit)
    (fallback : String) (captured : Tracking.Captured) (t : Trace) :
    Passage session.tracker (t, captured)
      ((env.comment prompt options limit fallback t).1, captured) [] :=
  passage_of_growsBy captured (env.comment_growsBy prompt options limit fallback t)
    fun _ ↦ Trace.Entry.IsQuestion.not_isLandmark

/-- **The start of a run passes the opening of its session**: probes, and the first request. -/
theorem passage_start (hactive : env.session? = some session) :
    Passage session.tracker (t₀, {}) ((env.start workflow t₀).1, (env.start workflow t₀).2.captured)
      session.opening := by
  have hannounced : Passage session.tracker (t₀, {})
      (env.announcePhase workflow .starting 0 none [] t₀, {}) [] :=
    passage_announcePhase ..
  dsimp only [start]
  rw [withSession_eq hactive]
  exact hannounced.trans (session.passage_beforeRun {} _)

/-- Beside calls an attempt leaves lines of the log, which are no landmarks. -/
theorem landmarks_of_isCall {entries : Trace} (h : ∀ entry ∈ entries, entry.IsCall) :
    entries.landmarks = entries.calls.map callEntry := by
  induction entries with
  | nil => rfl
  | cons entry rest ih =>
    obtain ⟨hentry, hrest⟩ := List.forall_mem_cons.1 h
    have hsame := ih hrest
    cases entry with
    | called tool args => exact congrArg (Trace.Entry.called tool args :: ·) hsame
    | noticed notice => exact hsame
    | _ => exact hentry.elim

/-- **An attempt leaves its call as the only landmark.** -/
theorem passage_attempt (results : List StepResult) (index : ℕ) (step : Step)
    (captured : Tracking.Captured) (t : Trace) :
    Passage session.tracker (t, captured) ((env.attempt results index step t).1, captured)
      ((env.callFor? results index step).map callEntry).toList := by
  obtain ⟨added, htrace, hadded⟩ := env.attempt_growsBy results index step t
  have hcalls : Trace.calls added = (env.callFor? results index step).toList := by
    have hall := env.calls_attempt results index step t
    rw [htrace, Trace.calls_append] at hall
    exact List.append_cancel_left hall
  have hlandmarks := landmarks_of_isCall hadded
  have hrequests : added.snapshotRequests = [] := by
    rw [← Trace.snapshotRequests_landmarks, hlandmarks, hcalls]
    cases env.callFor? results index step <;> rfl
  refine ⟨added, htrace, ?_, by simp [Tracking.Tracker.given_eq_nil hrequests]⟩
  rw [hlandmarks, hcalls, Option.toList_map]

/-- Commenting on a step passes no landmark. -/
theorem passage_analyze (earlier : List StepResult) (result : StepResult)
    (captured : Tracking.Captured) (t : Trace) :
    Passage session.tracker (t, captured) ((env.analyze workflow earlier result t).1, captured)
      [] := by
  dsimp only [analyze]
  split
  · exact .refl _
  · split
    · exact passage_announcePhase ..
    · exact (passage_announcePhase ..).trans (passage_comment ..)

/-- Nor does summing up the run. -/
theorem passage_summarize (results : List StepResult) (success : Bool)
    (captured : Tracking.Captured) (t : Trace) :
    Passage session.tracker (t, captured) ((env.summarize workflow results success t).1, captured)
      [] := by
  dsimp only [summarize]
  split
  · exact .refl _
  · exact (passage_announcePhase ..).trans (passage_comment ..)

/-- **The step lemma**: a step that comes to a result leaves its call, if it made one, and then the
request of a snapshot. -/
theorem passage_advance (hactive : env.session? = some session) {i : ℕ} {step : Step}
    {standing : Standing} {result : StepResult} {captured : Tracking.Captured}
    (h : env.advance workflow i step standing t = (t', .ok (result, captured))) :
    Passage session.tracker (t, standing.captured) (t', captured)
      (((env.madeCall? standing.results i result).map callEntry).toList ++
        session.afterEach i) := by
  rw [madeCall?, ← callFor?_eq_of_advance h]
  obtain ⟨t₁, t₂, attempted, hattempt, hsession, hanalyze⟩ := advance_eq_ok h
  have hcall : Passage session.tracker (t, standing.captured) (t₁, standing.captured)
      ((env.callFor? standing.results i step).map callEntry).toList := by
    obtain rfl := congrArg Prod.fst hattempt
    exact (passage_announcePhase ..).trans (env.passage_attempt ..)
  have hsnapshot : Passage session.tracker (t₁, standing.captured) (t₂, captured)
      (session.afterEach i) := by
    rw [withSession_eq hactive] at hsession
    exact hsession ▸ session.passage_afterStep i standing.captured t₁
  have hcomment : Passage session.tracker (t₂, captured) (t', captured) [] := by
    obtain rfl := congrArg Prod.fst hanalyze
    exact env.passage_analyze ..
  simpa using (hcall.trans hsnapshot).trans hcomment

/-- **Where the attempts end the landmarks are those of the start and of the steps on record.** -/
theorem passage_of_ends (hactive : env.session? = some session) {standing : Standing}
    (h : Ends env workflow t₀ standing t) :
    Passage session.tracker (t₀, {}) (t, standing.captured)
      (session.opening ++ stepLandmarks env session standing.results) := by
  refine h.of_kept (motive := fun results captured t ↦ Passage session.tracker (t₀, {})
    (t, captured) (session.opening ++ stepLandmarks env session results)) ?_ ?_
  · show Passage _ _ _ (session.opening ++ [])
    rw [List.append_nil]
    exact passage_start hactive
  · intro standing t t' step result captured hpassage _ hadvance
    rw [stepLandmarks_append_singleton, ← List.append_assoc]
    exact hpassage.trans (passage_advance hactive hadvance)

/-- The bundle of a run is made of what was captured after its last step. -/
theorem toCaptured_of_complete (hactive : env.session? = some session) {standing : Standing}
    {result : WorkflowResult} (h : env.complete workflow standing t = (t', .ok result)) :
    ∃ bundle, result.tracking = some bundle ∧ bundle.toCaptured =
      (session.afterRun ((standing.results.length : Int) - 1) standing.captured t).2 := by
  obtain ⟨t₁, t₂, t₃, captured, hsession, hfinish, -, rfl⟩ := conclusion_of_complete h
  rw [withSession_eq hactive] at hsession
  simp only [finishTracking, hactive, Prod.mk.injEq] at hfinish
  refine ⟨_, hfinish.2.symm, ?_⟩
  rw [session.toCaptured_finish, hsession]

/-- The conclusion of a run leaves the last request. -/
theorem passage_complete (hactive : env.session? = some session) {standing : Standing}
    {result : WorkflowResult} (h : env.complete workflow standing t = (t', .ok result)) :
    ∃ bundle, result.tracking = some bundle ∧
      Passage session.tracker (t, standing.captured) (t', bundle.toCaptured)
        (session.closing ((standing.results.length : Int) - 1)) := by
  obtain ⟨bundle, hbundle, hcaptured⟩ := toCaptured_of_complete hactive h
  obtain ⟨t₁, t₂, t₃, captured, hsession, hfinish, hsummary, rfl⟩ := conclusion_of_complete h
  rw [withSession_eq hactive] at hsession
  rw [hsession] at hcaptured
  have hsnapshot : Passage session.tracker (t, standing.captured) (t₁, captured)
      (session.closing ((standing.results.length : Int) - 1)) :=
    hsession ▸ session.passage_afterRun _ standing.captured t
  have hreviewed : Passage session.tracker (t₁, captured) (t₂, captured) [] := by
    have hgrows := env.finishTracking_growsBy standing.results captured t₁
    rw [hfinish] at hgrows
    exact passage_of_growsBy captured hgrows fun _ ↦ Trace.Entry.IsReview.not_isLandmark
  have hsummed : Passage session.tracker (t₂, captured) (t₃, captured) [] := by
    obtain rfl := congrArg Prod.fst hsummary
    exact env.passage_summarize ..
  refine ⟨bundle, hbundle, ?_⟩
  rw [hcaptured]
  simpa using ((hsnapshot.trans hreviewed).trans hsummed).trans
    (passage_announcePhase .complete workflow.steps.length none standing.results captured t₃)

/-! ### The snapshots of a run -/

variable (env session t₀) in
/-- When a run asks for snapshots, and which it reports. -/
structure SnapshotProtocol (added : Trace) (results : List StepResult)
    (bundle : Tracking.Bundle) : Prop where
  /-- Snapshots are asked for before the run, after its steps in their order, and after the run. -/
  requests_eq : added.snapshotRequests =
    if session.canAsk then
      (if session.options.before then [-1] else []) ++
      (if session.options.afterEachStep then (List.range results.length).map fun i : ℕ ↦ (i : Int)
        else []) ++
      (if session.options.after then [(results.length : Int) - 1] else [])
    else []
  /-- Probes are named first. The request after a step comes after its call, if it made one, and
  before the calls of later steps. -/
  landmarks_eq : added.landmarks =
    session.opening ++ stepLandmarks env session results ++
      session.closing ((results.length : Int) - 1)
  /-- What is reported is what the tracker gave in answer, in the order of the requests. -/
  snapshots_eq : bundle.snapshots = session.tracker.given t₀ added

/-- **A run asks for snapshots when its options say so, whatever the tracker does and whatever
becomes of its steps**, and reports those that it is given. It asks for none when the time limit is
no number of seconds. -/
theorem snapshots_of_execute {result : WorkflowResult} (hactive : env.session? = some session)
    (h : env.execute workflow t₀ = (t', .ok result)) :
    ∃ added bundle, t' = t₀ ++ added ∧ result.tracking = some bundle ∧
      SnapshotProtocol env session t₀ added result.steps bundle := by
  obtain ⟨standing, t, hends, hcomplete⟩ := ends_of_execute h
  obtain ⟨-, hsteps, -⟩ := complete_eq_ok hcomplete
  obtain ⟨bundle, htracking, hconclusion⟩ := passage_complete hactive hcomplete
  obtain ⟨added, htrace, hlandmarks, hsnapshots⟩ :=
    (passage_of_ends hactive hends).trans hconclusion
  rw [← hsteps] at hlandmarks
  refine ⟨added, bundle, htrace, htracking, ?_, hlandmarks, hsnapshots⟩
  rw [← Trace.snapshotRequests_landmarks, hlandmarks, Trace.snapshotRequests_append,
    Trace.snapshotRequests_append, snapshotRequests_stepLandmarks,
    session.snapshotRequests_opening, session.snapshotRequests_closing]
  cases session.canAsk <;> simp

/-! ### The snapshots of an errand -/

/-- The errand is tracked by one who fails at a snapshot after its second step and finds nothing
after the third. -/
def trackedErrandPlan : Rehearsal.Plan :=
  { errandPlan with
    tracker := some { failsAt := [1], findsNothingAt := [2] }
    options := { tracking := { enabled := true, probeTools := ["list"], afterEachStep := true } } }

/-- Six snapshots are asked for, and four of them are given. -/
theorem snapshots_of_errand : ∃ session, trackedErrandPlan.environment.session? = some session ∧
    ∃ t' result, trackedErrandPlan.environment.execute errand [] = (t', .ok result) ∧
      result.steps.length = 4 ∧ ∃ (added : Trace) (bundle : Tracking.Bundle),
        t' = [] ++ added ∧ result.tracking = some bundle ∧
        added.snapshotRequests = [-1, 0, 1, 2, 3, 3] ∧
        bundle.snapshots.map (·.afterStep) = [-1, 0, 3, 3] ∧
        SnapshotProtocol trackedErrandPlan.environment session [] added result.steps bundle := by
  obtain ⟨session, hactive⟩ :
    ∃ session, trackedErrandPlan.environment.session? = some session := ⟨_, rfl⟩
  have hresult : ((trackedErrandPlan.environment.execute errand []).2.toOption.map fun result ↦
      (result.steps.length, result.tracking.map fun bundle ↦ bundle.snapshots.map (·.afterStep))) =
        some (4, some [-1, 0, 3, 3]) := by
    decide +kernel
  have hrequests : (trackedErrandPlan.environment.execute errand []).1.snapshotRequests =
      [-1, 0, 1, 2, 3, 3] := by
    decide +kernel
  obtain ⟨t', result, h, hshown⟩ := Except.exists_eq_ok_of_shows hresult
  obtain ⟨hlength, hsnapshots⟩ := Prod.mk.inj hshown
  obtain ⟨added, bundle, htrace, hbundle, hprotocol⟩ := snapshots_of_execute hactive h
  rw [hbundle] at hsnapshots
  rw [h, htrace] at hrequests
  exact ⟨session, hactive, t', result, h, hlength, added, bundle, htrace, hbundle, hrequests,
    Option.some.inj hsnapshots, hprotocol⟩

/-! ### A limit that is none -/

/-- The errand, tracked, with more milliseconds for a snapshot than make a number of seconds. -/
def hurriedTrackingPlan : Rehearsal.Plan :=
  { errandPlan with
    tracker := some {}
    options :=
      { tracking := { enabled := true }, timeouts := { snapshot := ⟨.nat (10 ^ 400)⟩ } } }

/-- **Such a run asks for no snapshot**, though one before it and one after it are wanted. -/
theorem snapshotRequests_of_hurried_errand : ¬∀ t' result,
    hurriedTrackingPlan.environment.execute errand [] = (t', .ok result) →
      t'.snapshotRequests = [-1, (result.steps.length : Int) - 1] := by
  have hreturns : ((hurriedTrackingPlan.environment.execute errand []).2.toOption.map
      fun result ↦ result.steps.length) = some 4 := by
    decide +kernel
  have hrequests : (hurriedTrackingPlan.environment.execute errand []).1.snapshotRequests = [] := by
    decide +kernel
  obtain ⟨t', result, h, -⟩ := Except.exists_eq_ok_of_shows hreturns
  intro hall
  rw [h] at hrequests
  simp [hall t' result h] at hrequests

end ToolFlow.Environment
