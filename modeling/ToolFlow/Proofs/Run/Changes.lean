import ToolFlow.Proofs.Run.Snapshots
import ToolFlow.Proofs.Tracking.Changes

/-!
# The changes of a run

A run takes its session through the moment before it, one moment after each recorded step, and the
moment after it, and through no others (`stepped_of_ends`). So what is known of a session holds of a
run, whatever becomes of its steps: unless it compares after each step and takes a last snapshot
besides, its bundle accounts for everything (`accounts_of_execute`).

All about snapshots and their comparison is settled in the theory of sessions, which knows nothing
of runs. What is left is to see that a run is one: that the session is asked at the boundaries of
the run and nowhere else, with the index of the step that was recorded last, and that nothing in
between touches what it has captured. A result is drawn up from what the session has by then, before
the summary is asked for, so that it is the session's account and no later one.
-/

namespace ToolFlow.Environment

variable {env : Environment} {workflow : Workflow} {session : Tracking.Session} {t₀ t : Trace}

/-- **Where the attempts end the session was at one moment for each step on record.** -/
theorem stepped_of_ends (hactive : env.session? = some session) {standing : Standing}
    (h : Ends env workflow t₀ standing t) :
    session.Stepped standing.results.length standing.captured := by
  refine h.of_kept (motive := fun results captured _ ↦ session.Stepped results.length captured)
    ?_ ?_
  · dsimp only [start]
    rw [withSession_eq hactive]
    exact .start _
  · intro standing t t' step result captured hstepped _ hadvance
    obtain ⟨t₁, t₂, attempted, -, hsession, -⟩ := advance_eq_ok hadvance
    rw [withSession_eq hactive] at hsession
    obtain rfl := congrArg Prod.snd hsession
    rw [List.length_append, List.length_singleton]
    exact hstepped.next t₁

variable {α : Type*} {held : String → Tracking.Snapshot → α}

/-- **What becomes of the state from the first snapshot of a run to its last is reported**, unless
snapshots after each step are followed by one after the run. -/
theorem accounts_of_execute {t' : Trace} {result : WorkflowResult}
    (hactive : env.session? = some session) (hreports : session.tracker.ReportsAll held)
    (hoptions : session.options.afterEachStep = false ∨ session.options.after = false)
    (h : env.execute workflow t₀ = (t', .ok result)) :
    ∃ bundle, result.tracking = some bundle ∧ ∀ name, bundle.toCaptured.Accounts held name := by
  obtain ⟨standing, t, hends, hcomplete⟩ := ends_of_execute h
  obtain ⟨bundle, hbundle, hcaptured⟩ := toCaptured_of_complete hactive hcomplete
  refine ⟨bundle, hbundle, fun name ↦ ?_⟩
  have hbefore : standing.captured.Accounts held name :=
    (stepped_of_ends hactive hends).accounts hreports
  rw [hcaptured]
  exact Tracking.Session.accounts_afterRun hreports hbefore hoptions _ _

end ToolFlow.Environment
