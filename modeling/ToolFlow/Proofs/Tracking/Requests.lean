import Mathlib.Data.List.Basic
import ToolFlow.Proofs.Run.SideChannels

/-!
# What a session asks for and what it keeps

A session asks its tracker to name probes and to take snapshots, at moments that only its options
decide, and keeps the snapshots that it is given. `Passage` says both at once: from one moment to
another the trace grew by entries of which the landmarks are known, and the snapshots kept are those
with which the tracker answered meanwhile (`Tracker.given`). Each moment of a session is such a
passage (`passage_beforeRun`, `passage_afterStep`, `passage_afterRun`), and so is everything in
between, with landmarks of its own; passages compose (`Passage.trans`).

Whatever the tracker does, fails at or takes too long for, the landmarks are the same. That a
snapshot is not taken shows in the answers only. The one thing besides the options that decides
about requests is the time limit: where it is no number of seconds, no request can be made, and none
is on the trace (`canAsk`).

## Main definitions

* `Trace.landmarks`: the calls of tools, the choice of probes and the requests of snapshots, in
  their order.
* `Session.opening`, `Session.afterEach`, `Session.closing`: the landmarks of the three moments, of
  which only requests are left when the rest is not looked at (`snapshotRequests_opening` and its
  companions).

## Main results

* `exists_request`: a request leaves one landmark, whatever comes of it.
* `passage_of_request`: a moment at which a snapshot is asked for, and kept if there is one. The
  three moments are cases of it.
* `toCaptured_finish`: the end of a session adds nothing to what was captured.
-/

namespace ToolFlow

namespace Trace

/-! ### Landmarks -/

/-- Whether an entry is one that the moments of snapshots are told by: the call of a tool, the
choice of probes, or the request of a snapshot. -/
def Entry.isLandmark : Entry → Bool
  | called _ _ => true
  | tracked (.setProbes _) => true
  | tracked (.takeSnapshot _) => true
  | _ => false

/-- The landmarks of a trace. -/
def landmarks (t : Trace) : Trace :=
  t.filter Entry.isLandmark

/-- The step after which an entry requests a snapshot. -/
def Entry.snapshotRequest? : Entry → Option Int
  | tracked (.takeSnapshot afterStep) => some afterStep
  | _ => none

/-- The steps after which snapshots are requested. -/
def snapshotRequests (t : Trace) : List Int :=
  t.filterMap Entry.snapshotRequest?

/-- The landmarks of two traces are those of the first, then those of the second. -/
@[simp] theorem landmarks_append (s t : Trace) : landmarks (s ++ t) = landmarks s ++ landmarks t :=
  List.filter_append ..

/-- The same for the requests of snapshots. -/
@[simp] theorem snapshotRequests_append (s t : Trace) :
    snapshotRequests (s ++ t) = snapshotRequests s ++ snapshotRequests t :=
  List.filterMap_append

/-- Requests of snapshots are among the landmarks. -/
theorem snapshotRequests_landmarks (t : Trace) :
    snapshotRequests (landmarks t) = snapshotRequests t := by
  rw [snapshotRequests, landmarks, List.filterMap_filter]
  refine List.filterMap_congr fun entry _ ↦ ?_
  split
  · rfl
  · next h =>
    cases entry with
    | tracked request => cases request <;> first | rfl | exact absurd rfl h
    | _ => rfl

/-- A trace of entries of which none is a landmark has none. -/
theorem landmarks_eq_nil {sort : Entry → Prop} {t : Trace} (h : ∀ entry ∈ t, sort entry)
    (hsort : ∀ entry, sort entry → entry.isLandmark = false) : landmarks t = [] :=
  List.filter_eq_nil_iff.2 fun entry hmem ↦ by simp [hsort entry (h entry hmem)]

/-- What listeners are told is no landmark. -/
theorem Entry.IsReport.not_isLandmark {entry : Entry} (h : entry.IsReport) :
    entry.isLandmark = false := by
  cases entry <;> first | rfl | exact h.elim

/-- What a commentator is asked is no landmark. -/
theorem Entry.IsQuestion.not_isLandmark {entry : Entry} (h : entry.IsQuestion) :
    entry.isLandmark = false := by
  cases entry <;> first | rfl | exact h.elim

/-- Comparisons and the questions at the end are no landmarks. -/
theorem Entry.IsReview.not_isLandmark {entry : Entry} (h : entry.IsReview) :
    entry.isLandmark = false := by
  cases entry with
  | tracked request => cases request <;> first | rfl | exact h.elim
  | _ => first | rfl | exact h.elim

end Trace

namespace Tracking

/-! ### Answers -/

/-- The snapshot of an answer, if it is one. -/
def snapshotOf? : Answer (Option Snapshot) → Option Snapshot
  | .returned snapshot => snapshot
  | _ => none

/-- The snapshot that a tracker gives at an entry, when the trace so far is given. -/
def Tracker.givenAt? (tracker : Tracker) (t : Trace) (entry : Trace.Entry) : Option Snapshot :=
  entry.snapshotRequest?.bind fun afterStep ↦ snapshotOf? (tracker.takeSnapshot t afterStep)

/-- The snapshots that a tracker gives as a trace is continued, in the order of its requests. -/
def Tracker.given (tracker : Tracker) : Trace → Trace → List Snapshot
  | _, [] => []
  | t, entry :: rest => (tracker.givenAt? t entry).toList ++ tracker.given (t ++ [entry]) rest

variable {tracker : Tracker}

/-- What is given along two traces is given along the first, and then along the second, which begins
where the first ended. -/
theorem Tracker.given_append (t added later : Trace) :
    tracker.given t (added ++ later) =
      tracker.given t added ++ tracker.given (t ++ added) later := by
  induction added generalizing t with
  | nil => simp [Tracker.given]
  | cons entry rest ih =>
    rw [List.cons_append, Tracker.given, Tracker.given, ih, List.append_assoc, List.append_assoc,
      List.singleton_append]

/-- Where no snapshot is requested, none is given. -/
theorem Tracker.given_eq_nil {t added : Trace} (h : added.snapshotRequests = []) :
    tracker.given t added = [] := by
  induction added generalizing t with
  | nil => rfl
  | cons entry rest ih =>
    rcases hentry : entry.snapshotRequest? with _ | afterStep
    · have hrest : Trace.snapshotRequests rest = [] := by
        simpa [Trace.snapshotRequests, hentry] using h
      rw [Tracker.given, ih hrest, Tracker.givenAt?, hentry]
      rfl
    · simp [Trace.snapshotRequests, hentry] at h

/-- Where there are no landmarks, no snapshot is given. -/
theorem Tracker.given_eq_nil_of_landmarks {t added : Trace} (h : added.landmarks = []) :
    tracker.given t added = [] :=
  Tracker.given_eq_nil (by rw [← Trace.snapshotRequests_landmarks, h]; rfl)

/-! ### Passages -/

variable (tracker) in
/-- From one moment to another, each a trace with what was captured until then: the trace grew by
entries with these landmarks, and the snapshots that were added are those given meanwhile. -/
def Passage (moment later : Trace × Captured) (landmarks : Trace) : Prop :=
  ∃ added, later.1 = moment.1 ++ added ∧ Trace.landmarks added = landmarks ∧
    later.2.snapshots = moment.2.snapshots ++ tracker.given moment.1 added

variable {moment later latest : Trace × Captured} {landmarks landmarks' : Trace}

/-- Nothing passes in no time. -/
theorem Passage.refl (moment : Trace × Captured) : Passage tracker moment moment [] :=
  ⟨[], by simp, rfl, by simp [Tracker.given]⟩

/-- Passages compose, and so do their landmarks. -/
theorem Passage.trans (h : Passage tracker moment later landmarks)
    (h' : Passage tracker later latest landmarks') :
    Passage tracker moment latest (landmarks ++ landmarks') := by
  obtain ⟨added, htrace, hlandmarks, hsnapshots⟩ := h
  obtain ⟨added', htrace', hlandmarks', hsnapshots'⟩ := h'
  refine ⟨added ++ added', ?_, ?_, ?_⟩
  · rw [htrace', htrace, List.append_assoc]
  · rw [Trace.landmarks_append, hlandmarks, hlandmarks']
  · rw [hsnapshots', hsnapshots, htrace, Tracker.given_append, List.append_assoc]

/-- Entries of another sort pass nothing. -/
theorem passage_of_growsBy {sort : Trace.Entry → Prop} {t t' : Trace} (captured : Captured)
    (h : Trace.GrowsBy sort t t') (hsort : ∀ entry, sort entry → entry.isLandmark = false) :
    Passage tracker (t, captured) (t', captured) [] := by
  obtain ⟨added, rfl, hadded⟩ := h
  have hlandmarks := Trace.landmarks_eq_nil hadded hsort
  exact ⟨added, rfl, hlandmarks, by simp [Tracker.given_eq_nil_of_landmarks hlandmarks]⟩

namespace Session

variable (session : Session)

/-! ### The landmarks of a session -/

/-- Whether snapshots can be asked for at all: their time limit is a number of seconds. -/
def canAsk : Bool :=
  session.timeout.problem?.isNone

/-- The request of a snapshot, where one can be made. -/
def asked (afterStep : Int) : Trace :=
  if session.canAsk then [.tracked (.takeSnapshot afterStep)] else []

/-- The landmarks before the first step: probes are named, and the state is captured. -/
def opening : Trace :=
  (if session.options.probeTools.isEmpty then []
    else [.tracked (.setProbes session.options.probeTools)]) ++
  if session.options.before then session.asked (-1) else []

/-- The landmarks after a step. -/
def afterEach (index : Int) : Trace :=
  if session.options.afterEachStep then session.asked index else []

/-- The landmarks after the last step. -/
def closing (last : Int) : Trace :=
  if session.options.after then session.asked last else []

/-- A request is one request, where it can be made. -/
theorem snapshotRequests_asked (afterStep : Int) :
    (session.asked afterStep).snapshotRequests = if session.canAsk then [afterStep] else [] := by
  unfold asked
  split <;> rfl

/-- Before the run one snapshot is asked for, as the state before the first step. -/
theorem snapshotRequests_opening :
    session.opening.snapshotRequests =
      if session.options.before && session.canAsk then [-1] else [] := by
  have hprobes : Trace.snapshotRequests (if session.options.probeTools.isEmpty then []
      else [.tracked (.setProbes session.options.probeTools)]) = [] := by
    split <;> rfl
  rw [opening, Trace.snapshotRequests_append, hprobes]
  cases session.options.before
  · rfl
  · simp [snapshotRequests_asked]

/-- After a step one snapshot is asked for, as the state after it. -/
theorem snapshotRequests_afterEach (index : Int) :
    (session.afterEach index).snapshotRequests =
      if session.options.afterEachStep && session.canAsk then [index] else [] := by
  unfold afterEach
  cases session.options.afterEachStep
  · rfl
  · simp [snapshotRequests_asked]

/-- After the run one snapshot is asked for, as the state after the last step. -/
theorem snapshotRequests_closing (last : Int) :
    (session.closing last).snapshotRequests =
      if session.options.after && session.canAsk then [last] else [] := by
  unfold closing
  cases session.options.after
  · rfl
  · simp [snapshotRequests_asked]

/-! ### The moments of a session -/

/-- **A request leaves its landmark**, and what comes of it is what the tracker gives. -/
theorem exists_request (afterStep : Int) (t : Trace) :
    ∃ added, (session.request afterStep t).1 = t ++ added ∧
      added.landmarks = session.asked afterStep ∧
      session.tracker.given t added = (session.request afterStep t).2.toList := by
  rcases hproblem : session.timeout.problem? with _ | b
  · have hnone : Trace.landmarks (session.snapshotFailures afterStep
        (session.tracker.takeSnapshot t afterStep)) = [] := by
      refine Trace.landmarks_eq_nil (session.isReview_snapshotFailures _ _) fun _ ↦
        Trace.Entry.IsReview.not_isLandmark
    have hrequest : session.request afterStep t =
        (t ++ .tracked (.takeSnapshot afterStep) :: session.snapshotFailures afterStep
          (session.tracker.takeSnapshot t afterStep),
        snapshotOf? (session.tracker.takeSnapshot t afterStep)) := by
      simp only [request, hproblem]
      cases session.tracker.takeSnapshot t afterStep <;> rfl
    rw [hrequest]
    refine ⟨_, rfl, ?_, ?_⟩
    · rw [← List.singleton_append, Trace.landmarks_append, hnone]
      simp [asked, canAsk, hproblem, Trace.landmarks, Trace.Entry.isLandmark]
    · rw [Tracker.given, Tracker.given_eq_nil_of_landmarks hnone, List.append_nil]
      rfl
  · have hrequest : session.request afterStep t =
        (t ++ [snapshotFailure afterStep b.message], none) := by
      simp only [request, hproblem]
    have hasked : session.asked afterStep = [] := by simp [asked, canAsk, hproblem]
    rw [hrequest, hasked]
    exact ⟨_, rfl, rfl, rfl⟩

/-- A snapshot that is kept is the latest one. -/
theorem snapshots_keep (earlier : Option Snapshot) (snapshot : Snapshot) (step : Int)
    (captured : Captured) (t : Trace) :
    (session.keep earlier snapshot step captured t).2.snapshots =
      captured.snapshots ++ [snapshot] := by
  cases earlier with
  | none => rfl
  | some before =>
    dsimp only [keep, compare]
    split <;> rfl

/-- **A moment at which a snapshot is asked for**, and kept if there is one. -/
theorem passage_of_request {afterStep : Int} {captured : Captured} {t : Trace}
    (hnone : ∀ t', session.request afterStep t = (t', none) → later = (t', captured))
    (hsome : ∀ t' snapshot, session.request afterStep t = (t', some snapshot) →
      ∃ earlier step, later = session.keep earlier snapshot step captured t') :
    Passage session.tracker (t, captured) later (session.asked afterStep) := by
  obtain ⟨added, htrace, hlandmarks, hgiven⟩ := session.exists_request afterStep t
  rcases hrequest : session.request afterStep t with ⟨t', _ | snapshot⟩
  · rw [hrequest] at htrace hgiven
    rw [hnone t' hrequest]
    exact ⟨added, htrace, hlandmarks, by simp [hgiven]⟩
  · rw [hrequest] at htrace hgiven
    obtain rfl : t' = t ++ added := htrace
    obtain ⟨earlier, step, rfl⟩ := hsome _ snapshot hrequest
    -- the comparison with the earlier snapshot comes after the request
    obtain ⟨compared, hkeep, hcompared⟩ :=
      session.keep_growsBy earlier snapshot step captured (t ++ added)
    have hquiet : Trace.landmarks compared = [] :=
      Trace.landmarks_eq_nil hcompared fun _ ↦ Trace.Entry.IsReview.not_isLandmark
    refine ⟨added ++ compared, ?_, ?_, ?_⟩
    · rw [hkeep, List.append_assoc]
    · rw [Trace.landmarks_append, hlandmarks, hquiet, List.append_nil]
    · rw [session.snapshots_keep, Tracker.given_append, hgiven,
        Tracker.given_eq_nil_of_landmarks hquiet]
      simp

/-- The choice of probes is a landmark, whether or not the tracker takes it. -/
theorem passage_chooseProbes (captured : Captured) (t : Trace) :
    Passage session.tracker (t, captured) (session.chooseProbes t, captured)
      (if session.options.probeTools.isEmpty then []
        else [.tracked (.setProbes session.options.probeTools)]) := by
  dsimp only [chooseProbes]
  split
  · exact .refl _
  · have hchosen : Passage session.tracker (t, captured)
        (t ++ [.tracked (.setProbes session.options.probeTools)], captured)
        [.tracked (.setProbes session.options.probeTools)] :=
      ⟨_, rfl, rfl, by simp [Tracker.given, Tracker.givenAt?, Trace.Entry.snapshotRequest?]⟩
    split
    · exact hchosen
    · next error _ =>
      have hnoticed : Trace.GrowsBy Trace.Entry.IsReview
          (t ++ [.tracked (.setProbes session.options.probeTools)])
          (t ++ [.tracked (.setProbes session.options.probeTools)] ++
            [failure s!"Configuring probe tools failed: {error}"]) :=
        Trace.growsBy_append (List.forall_mem_singleton.2 trivial)
      exact hchosen.trans (passage_of_growsBy captured hnoticed fun _ ↦
        Trace.Entry.IsReview.not_isLandmark)

/-- **The moment before the run.** -/
theorem passage_beforeRun (captured : Captured) (t : Trace) :
    Passage session.tracker (t, captured) (session.beforeRun captured t) session.opening := by
  refine (session.passage_chooseProbes captured t).trans ?_
  dsimp only [beforeRun]
  cases hbefore : session.options.before with
  | false => exact .refl _
  | true =>
    refine session.passage_of_request (fun t' hnone ↦ ?_) fun t' snapshot hsome ↦ ?_
    · rw [hnone]
      rfl
    · rw [hsome]
      exact ⟨none, -1, rfl⟩

/-- **The moment after a step.** -/
theorem passage_afterStep (index : Int) (captured : Captured) (t : Trace) :
    Passage session.tracker (t, captured) (session.afterStep index captured t)
      (session.afterEach index) := by
  unfold afterStep afterEach
  cases hafter : session.options.afterEachStep with
  | false => exact .refl _
  | true =>
    refine session.passage_of_request (fun t' hnone ↦ ?_) fun t' snapshot hsome ↦ ?_
    · rw [hnone]
      rfl
    · rw [hsome]
      exact ⟨captured.snapshots.getLast?, index, rfl⟩

/-- **The moment after the run**, where the snapshot may be compared with the first one. This makes
no difference to what is kept. -/
theorem passage_afterRun (last : Int) (captured : Captured) (t : Trace) :
    Passage session.tracker (t, captured) (session.afterRun last captured t)
      (session.closing last) := by
  unfold afterRun closing
  cases hafter : session.options.after with
  | false => exact .refl _
  | true =>
    refine session.passage_of_request (fun t' hnone ↦ ?_) fun t' snapshot hsome ↦ ?_
    · rw [hnone]
      rfl
    · rw [hsome]
      exact ⟨_, last, rfl⟩

/-- What is made of the state at the end leaves what was captured. -/
theorem toCaptured_finish (results : List StepResult) (captured : Captured) (t : Trace) :
    (session.finish results captured t).2.toCaptured = captured := by
  dsimp only [finish, withSummary]
  split <;> rfl

end Session

end Tracking

end ToolFlow
