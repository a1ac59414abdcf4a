import Mathlib.Data.List.Basic
import ToolFlow.Run.Execute

/-!
# What side channels leave on the trace

Beside its tool calls a run talks to subscribers, a tracker and a commentator. Each of them only
continues the trace, and only by entries of its own sort (`announce_growsBy`, the lemmas on
sessions, `comment_growsBy`): whatever it answers, raises or fails at, it leaves no entry that
belongs to another channel. So none of them makes a tool call, and the log of calls is the same
before and after (`calls_announcePhase`, `calls_withSession_afterStep`, …).

The sorts are predicates on entries and not a field of them, since they overlap: the questions about
snapshots that were taken (`Entry.IsReview`) are among those of tracking, and are told apart because
they are asked after the requests of a run. A channel that is described by its sort need not be
looked into again. Whoever selects some entries of a trace, the calls, the events of a subscriber or
the requests for snapshots, finds the same selection before and after an entry sort that has none of
them (`GrowsBy.filterMap_eq`).

There is one lemma for each function of a channel, each by the cases of the function. The lemmas on
the log of calls that follow are tagged for `simp`, so that in a proof about calls the channels drop
out by themselves.
-/

namespace ToolFlow

namespace Trace

/-! ### Sorts of entries -/

/-- What telling subscribers leaves on the trace. -/
def Entry.IsReport : Entry → Prop
  | told _ _ => True
  | noticed _ => True
  | _ => False

/-- What asking a tracker leaves on the trace. -/
def Entry.IsTracking : Entry → Prop
  | tracked _ => True
  | noticed _ => True
  | _ => False

/-- What asking a tracker about snapshots that it took leaves on the trace. -/
def Entry.IsReview : Entry → Prop
  | tracked (.setProbes _) => False
  | tracked (.takeSnapshot _) => False
  | tracked _ => True
  | noticed _ => True
  | _ => False

/-- What asking for a comment leaves on the trace. -/
def Entry.IsQuestion : Entry → Prop
  | asked _ _ => True
  | _ => False

/-- What calling a tool leaves on the trace. -/
def Entry.IsCall : Entry → Prop
  | called _ _ => True
  | noticed _ => True
  | _ => False

/-- Questions about snapshots are a part of tracking. -/
theorem Entry.IsReview.isTracking {entry : Entry} (h : entry.IsReview) : entry.IsTracking := by
  cases entry <;> trivial

/-- Telling a subscriber is no call. -/
theorem Entry.IsReport.call?_eq_none {entry : Entry} (h : entry.IsReport) :
    entry.call? = none := by
  cases entry <;> first | rfl | exact h.elim

/-- Asking a tracker is no call. -/
theorem Entry.IsTracking.call?_eq_none {entry : Entry} (h : entry.IsTracking) :
    entry.call? = none := by
  cases entry <;> first | rfl | exact h.elim

/-- Asking for a comment is no call. -/
theorem Entry.IsQuestion.call?_eq_none {entry : Entry} (h : entry.IsQuestion) :
    entry.call? = none := by
  cases entry <;> first | rfl | exact h.elim

/-! ### Growth -/

/-- A trace is continued by entries of one sort only. -/
def GrowsBy (sort : Entry → Prop) (t t' : Trace) : Prop :=
  ∃ added, t' = t ++ added ∧ ∀ entry ∈ added, sort entry

variable {sort : Entry → Prop} {t t' t'' : Trace}

theorem GrowsBy.refl (t : Trace) : GrowsBy sort t t :=
  ⟨[], (List.append_nil t).symm, by simp⟩

theorem growsBy_append {added : Trace} (h : ∀ entry ∈ added, sort entry) :
    GrowsBy sort t (t ++ added) :=
  ⟨added, rfl, h⟩

/-- Growth goes on. -/
theorem GrowsBy.trans (h : GrowsBy sort t t') (h' : GrowsBy sort t' t'') :
    GrowsBy sort t t'' := by
  obtain ⟨added, rfl, hadded⟩ := h
  obtain ⟨added', rfl, hadded'⟩ := h'
  rw [List.append_assoc]
  refine growsBy_append fun entry hmem ↦ ?_
  rcases List.mem_append.1 hmem with hmem | hmem
  · exact hadded entry hmem
  · exact hadded' entry hmem

/-- A sort may be replaced by a wider one. -/
theorem GrowsBy.mono {sort' : Entry → Prop} (h : GrowsBy sort t t')
    (hsort : ∀ entry, sort entry → sort' entry) : GrowsBy sort' t t' := by
  obtain ⟨added, rfl, hadded⟩ := h
  exact growsBy_append fun entry hmem ↦ hsort entry (hadded entry hmem)

theorem GrowsBy.isPrefix (h : GrowsBy sort t t') : t <+: t' := by
  obtain ⟨added, rfl, -⟩ := h
  exact List.prefix_append ..

/-- What no entry of a sort shows is not changed by growth of that sort. -/
theorem GrowsBy.filterMap_eq {α : Type} {f : Entry → Option α} (h : GrowsBy sort t t')
    (hf : ∀ entry, sort entry → f entry = none) : t'.filterMap f = t.filterMap f := by
  obtain ⟨added, rfl, hadded⟩ := h
  have hnone : added.filterMap f = [] :=
    List.filterMap_eq_nil_iff.2 fun entry hmem ↦ hf entry (hadded entry hmem)
  rw [List.filterMap_append, hnone, List.append_nil]

end Trace

open Trace (GrowsBy growsBy_append)

/-! ### The tracker -/

namespace Tracking.Session

variable (session : Session)

/-- What goes wrong with a snapshot is put on the log. -/
theorem isReview_snapshotFailures (afterStep : Int) (answer : Answer (Option Snapshot)) :
    ∀ entry ∈ session.snapshotFailures afterStep answer, entry.IsReview := by
  intro entry hmem
  cases answer with
  | returned _ => simp [snapshotFailures] at hmem
  | failed error =>
    rw [snapshotFailures, List.mem_singleton] at hmem
    exact hmem ▸ trivial
  | timedOut =>
    rw [snapshotFailures, Option.mem_toList, Option.map_eq_some_iff] at hmem
    obtain ⟨shown, -, rfl⟩ := hmem
    trivial
  | brokenOff _ => simp [snapshotFailures] at hmem

/-- **A request for a snapshot leaves nothing but itself and what goes wrong with it.** -/
theorem request_growsBy (afterStep : Int) (t : Trace) :
    GrowsBy Trace.Entry.IsTracking t (session.request afterStep t).1 := by
  have hasked : ∀ entry ∈ Trace.Entry.tracked (.takeSnapshot afterStep) ::
      session.snapshotFailures afterStep (session.tracker.takeSnapshot t afterStep),
      entry.IsTracking :=
    List.forall_mem_cons.2 ⟨trivial, fun entry hmem ↦
      (session.isReview_snapshotFailures _ _ entry hmem).isTracking⟩
  unfold request
  split
  · exact growsBy_append (List.forall_mem_singleton.2 trivial)
  · dsimp only
    split <;> exact growsBy_append hasked

theorem compare_growsBy (before after : Snapshot) (step : Int) (captured : Captured) (t : Trace) :
    GrowsBy Trace.Entry.IsReview t (session.compare before after step captured t).1 := by
  dsimp only [compare]
  split
  · exact growsBy_append (List.forall_mem_singleton.2 trivial)
  · exact (growsBy_append (List.forall_mem_singleton.2 trivial)).trans
      (growsBy_append (List.forall_mem_singleton.2 trivial))

/-- A snapshot that is kept is compared with the one before, if there is one. -/
theorem keep_growsBy (earlier : Option Snapshot) (snapshot : Snapshot) (step : Int)
    (captured : Captured) (t : Trace) :
    GrowsBy Trace.Entry.IsReview t (session.keep earlier snapshot step captured t).1 := by
  cases earlier with
  | none => exact .refl t
  | some before => exact session.compare_growsBy before snapshot step captured t

/-- Probes are named once, or not at all. -/
theorem chooseProbes_growsBy (t : Trace) :
    GrowsBy Trace.Entry.IsTracking t (session.chooseProbes t) := by
  unfold chooseProbes
  split
  · exact .refl t
  · dsimp only
    split
    · exact growsBy_append (List.forall_mem_singleton.2 trivial)
    · exact (growsBy_append (List.forall_mem_singleton.2 trivial)).trans
        (growsBy_append (List.forall_mem_singleton.2 trivial))

theorem beforeRun_growsBy (captured : Captured) (t : Trace) :
    GrowsBy Trace.Entry.IsTracking t (session.beforeRun captured t).1 := by
  have hrequest := session.request_growsBy (-1) (session.chooseProbes t)
  dsimp only [beforeRun]
  split
  · exact session.chooseProbes_growsBy t
  · refine (session.chooseProbes_growsBy t).trans ?_
    split
    · next t₁ heq => simpa only [heq] using hrequest
    · next t₁ snapshot heq =>
      rw [heq] at hrequest
      exact hrequest.trans ((session.keep_growsBy _ _ _ _ _).mono fun _ ↦
        Trace.Entry.IsReview.isTracking)

/-- After a step a snapshot is requested, kept and compared, as far as the options ask for it. -/
theorem afterStep_growsBy (index : Int) (captured : Captured) (t : Trace) :
    GrowsBy Trace.Entry.IsTracking t (session.afterStep index captured t).1 := by
  have hrequest := session.request_growsBy index t
  unfold afterStep
  split
  · exact .refl t
  · split
    · next t₁ heq => simpa only [heq] using hrequest
    · next t₁ snapshot heq =>
      rw [heq] at hrequest
      exact hrequest.trans ((session.keep_growsBy _ _ _ _ _).mono fun _ ↦
        Trace.Entry.IsReview.isTracking)

theorem afterRun_growsBy (last : Int) (captured : Captured) (t : Trace) :
    GrowsBy Trace.Entry.IsTracking t (session.afterRun last captured t).1 := by
  have hrequest := session.request_growsBy last t
  unfold afterRun
  split
  · exact .refl t
  · split
    · next t₁ heq => simpa only [heq] using hrequest
    · next t₁ snapshot heq =>
      rw [heq] at hrequest
      exact hrequest.trans ((session.keep_growsBy _ _ _ _ _).mono fun _ ↦
        Trace.Entry.IsReview.isTracking)

theorem roles_growsBy (t : Trace) :
    GrowsBy Trace.Entry.IsReview t (session.roles t).1 := by
  dsimp only [roles]
  split
  · exact growsBy_append (List.forall_mem_singleton.2 trivial)
  · exact (growsBy_append (List.forall_mem_singleton.2 trivial)).trans
      (growsBy_append (List.forall_mem_singleton.2 trivial))

theorem dependencies_growsBy (results : List StepResult) (captured : Captured) (t : Trace) :
    GrowsBy Trace.Entry.IsReview t (session.dependencies results captured t).1 := by
  have hinfer : GrowsBy Trace.Entry.IsReview t (t ++ [.tracked (.infer results.length)]) :=
    growsBy_append (List.forall_mem_singleton.2 trivial)
  dsimp only [dependencies]
  split
  · exact hinfer.trans (growsBy_append (List.forall_mem_singleton.2 trivial))
  · split
    · exact hinfer
    · refine hinfer.trans ?_
      split
      · exact growsBy_append (List.forall_mem_singleton.2 trivial)
      · exact (growsBy_append (List.forall_mem_singleton.2 trivial)).trans
          (growsBy_append (List.forall_mem_singleton.2 trivial))

theorem withSummary_growsBy (bundle : Bundle) (t : Trace) :
    GrowsBy Trace.Entry.IsReview t (session.withSummary bundle t).1 := by
  dsimp only [withSummary]
  split
  · exact growsBy_append (List.forall_mem_singleton.2 trivial)
  · exact (growsBy_append (List.forall_mem_singleton.2 trivial)).trans
      (growsBy_append (List.forall_mem_singleton.2 trivial))

/-- The conclusion of tracking asks about snapshots and requests none. -/
theorem finish_growsBy (results : List StepResult) (captured : Captured) (t : Trace) :
    GrowsBy Trace.Entry.IsReview t (session.finish results captured t).1 :=
  ((session.roles_growsBy t).trans (session.dependencies_growsBy results captured _)).trans
    (session.withSummary_growsBy _ _)

end Tracking.Session

/-! ### The channels of a run -/

namespace Environment

variable (env : Environment)

/-- A subscriber who fails leaves a line of the log besides. -/
theorem tell_growsBy (event : Progress.Event) (t : Trace) (subscriber : Subscriber) :
    GrowsBy Trace.Entry.IsReport t (tell event t subscriber) := by
  dsimp only [tell]
  split
  · exact (growsBy_append (List.forall_mem_singleton.2 trivial)).trans
      (growsBy_append (List.forall_mem_singleton.2 trivial))
  · exact growsBy_append (List.forall_mem_singleton.2 trivial)

/-- **An announcement leaves nothing but what its subscribers are told**, however many there are. -/
theorem announce_growsBy (event : Progress.Event) (t : Trace) :
    GrowsBy Trace.Entry.IsReport t (env.announce event t) := by
  -- the subscribers are those at the start, while the trace grows from one to the next
  suffices h : ∀ (subscribers : List Subscriber) (t : Trace),
      GrowsBy Trace.Entry.IsReport t (subscribers.foldl (tell event) t) from
    h (env.subscribers t) t
  intro subscribers
  induction subscribers with
  | nil => exact fun t ↦ .refl t
  | cons subscriber rest ih =>
    exact fun t ↦ (tell_growsBy event t subscriber).trans (ih (tell event t subscriber))

/-- **A request for a comment leaves itself, and a line of the log where it fails.** -/
theorem comment_growsBy (prompt : String) (options : CompletionOptions) (limit : TimeLimit)
    (fallback : String) (t : Trace) :
    GrowsBy Trace.Entry.IsQuestion t (env.comment prompt options limit fallback t).1 := by
  unfold comment
  split
  · exact .refl t
  · exact .refl t
  · exact growsBy_append (List.forall_mem_singleton.2 trivial)

/-- Where nothing is tracked nothing is left, and else what the session leaves. -/
theorem withSession_growsBy
    {act : Tracking.Session → Tracking.Captured → Trace → Trace × Tracking.Captured}
    (hact : ∀ session captured t, GrowsBy Trace.Entry.IsTracking t (act session captured t).1)
    (captured : Tracking.Captured) (t : Trace) :
    GrowsBy Trace.Entry.IsTracking t (env.withSession act captured t).1 := by
  unfold withSession
  split
  · exact hact _ captured t
  · exact .refl t

theorem finishTracking_growsBy (results : List StepResult) (captured : Tracking.Captured)
    (t : Trace) :
    GrowsBy Trace.Entry.IsReview t (env.finishTracking results captured t).1 := by
  unfold finishTracking
  split
  · next session _ => exact session.finish_growsBy results captured t
  · exact .refl t

/-! ### No side channel calls a tool -/

@[simp] theorem calls_announcePhase (workflow : Workflow) (phase : Progress.Phase) (current : ℕ)
    (step : Option Step) (results : List StepResult) (t : Trace) :
    (env.announcePhase workflow phase current step results t).calls = t.calls :=
  (env.announce_growsBy _ t).filterMap_eq fun _ ↦ Trace.Entry.IsReport.call?_eq_none

@[simp] theorem calls_comment (prompt : String) (options : CompletionOptions) (limit : TimeLimit)
    (fallback : String) (t : Trace) :
    (env.comment prompt options limit fallback t).1.calls = t.calls :=
  (env.comment_growsBy prompt options limit fallback t).filterMap_eq
    fun _ ↦ Trace.Entry.IsQuestion.call?_eq_none

@[simp] theorem calls_withSession_beforeRun (captured : Tracking.Captured) (t : Trace) :
    (env.withSession Tracking.Session.beforeRun captured t).1.calls = t.calls :=
  (env.withSession_growsBy (fun session ↦ session.beforeRun_growsBy) captured t).filterMap_eq
    fun _ ↦ Trace.Entry.IsTracking.call?_eq_none

@[simp] theorem calls_withSession_afterStep (index : Int) (captured : Tracking.Captured)
    (t : Trace) :
    (env.withSession (fun s ↦ s.afterStep index) captured t).1.calls = t.calls :=
  (env.withSession_growsBy (fun session ↦ session.afterStep_growsBy index) captured
    t).filterMap_eq fun _ ↦ Trace.Entry.IsTracking.call?_eq_none

@[simp] theorem calls_withSession_afterRun (last : Int) (captured : Tracking.Captured)
    (t : Trace) :
    (env.withSession (fun s ↦ s.afterRun last) captured t).1.calls = t.calls :=
  (env.withSession_growsBy (fun session ↦ session.afterRun_growsBy last) captured
    t).filterMap_eq fun _ ↦ Trace.Entry.IsTracking.call?_eq_none

@[simp] theorem calls_finishTracking (results : List StepResult) (captured : Tracking.Captured)
    (t : Trace) : (env.finishTracking results captured t).1.calls = t.calls :=
  (env.finishTracking_growsBy results captured t).filterMap_eq
    fun _ h ↦ h.isTracking.call?_eq_none

@[simp] theorem calls_start (workflow : Workflow) (t : Trace) :
    (env.start workflow t).1.calls = t.calls := by
  show (env.withSession Tracking.Session.beforeRun {} _).1.calls = t.calls
  rw [calls_withSession_beforeRun, calls_announcePhase]

/-- Commenting on a step makes no call. -/
theorem calls_analyze (workflow : Workflow) (earlier : List StepResult) (result : StepResult)
    (t : Trace) : (env.analyze workflow earlier result t).1.calls = t.calls := by
  dsimp only [analyze]
  split
  · rfl
  · split
    · exact env.calls_announcePhase ..
    · exact (env.calls_comment ..).trans (env.calls_announcePhase ..)

/-- Nor does summing up the run. -/
theorem calls_of_summarize {workflow : Workflow} {results : List StepResult} {success : Bool}
    {t t' : Trace} {summary : Except Breakdown (Option String)}
    (h : env.summarize workflow results success t = (t', summary)) : t'.calls = t.calls := by
  dsimp only [summarize] at h
  split at h
  · rw [(Prod.mk.inj h).1]
  · calc t'.calls = (env.comment _ _ _ _ _).1.calls := by rw [h]
      _ = t.calls := by rw [calls_comment, calls_announcePhase]

/-- **After the last attempt no tool is called.** -/
theorem calls_complete (workflow : Workflow) (standing : Standing) (t : Trace) :
    (env.complete workflow standing t).1.calls = t.calls := by
  dsimp only [complete]
  split
  · exact env.calls_withSession_afterRun ..
  · split
    · next heq => rw [calls_of_summarize env heq, calls_finishTracking, calls_withSession_afterRun]
    · next heq =>
      rw [calls_announcePhase, calls_of_summarize env heq, calls_finishTracking,
        calls_withSession_afterRun]

variable {env} in
/-- So the calls of a run are those made until then. -/
theorem calls_eq_of_complete {workflow : Workflow} {standing : Standing} {t t' : Trace}
    {outcome : Except Breakdown WorkflowResult}
    (h : env.complete workflow standing t = (t', outcome)) : t'.calls = t.calls := by
  rw [← calls_complete env workflow standing t, h]

end Environment

end ToolFlow
