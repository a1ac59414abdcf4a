import Mathlib.Data.List.Basic
import ToolFlow.Proofs.Run.Calls

/-!
# Records and logs only grow

What is on record at a boundary is on record at the end, in its place, and so it is with the calls
made until then (`extends_of_ends`). A run that comes to an end does not break down on the way: a
step that it starts comes to a result, and that is on record (`record_of_ends`).

Both are about a boundary and an end of one run, where `Reaches` and `Ends` alone speak of one
moment. They are obtained from the loop as it goes on from the boundary, which is the one place
besides the theory of boundaries where the recursion of the loop is followed.
-/

namespace ToolFlow.Environment

variable {env : Environment} {workflow : Workflow} {t₀ : Trace}

/-- Results are only added. -/
theorem results_prefix_of_runFrom {steps : List Step} :
    ∀ {i : ℕ} {standing standing' : Standing} {t t' : Trace},
      env.runFrom workflow i steps standing t = (t', .ok standing') →
      standing.results <+: standing'.results := by
  induction steps with
  | nil =>
    intro i standing standing' t t' h
    obtain ⟨-, rfl⟩ := Except.pair_ok_inj h
    exact List.prefix_rfl
  | cons step rest ih =>
    intro i standing standing' t t' h
    rw [runFrom] at h
    split at h
    · obtain ⟨-, rfl⟩ := Except.pair_ok_inj h
      exact List.prefix_rfl
    · split at h
      · simp at h
      · next t₁ result captured hadv =>
        have hadded : standing.results <+: (standing.record result captured).results :=
          List.prefix_append ..
        split at h
        · obtain ⟨-, rfl⟩ := Except.pair_ok_inj h
          exact hadded
        · exact hadded.trans (ih h)

/-- Calls are only added, whatever comes of a run. -/
theorem calls_prefix_runFrom {steps : List Step} :
    ∀ {i : ℕ} {standing : Standing} {t : Trace},
      t.calls <+: (env.runFrom workflow i steps standing t).1.calls := by
  induction steps with
  | nil => exact List.prefix_rfl
  | cons step rest ih =>
    intro i standing t
    have hadded : t.calls <+: (env.advance workflow i step standing t).1.calls := by
      rw [calls_advance]
      exact List.prefix_append ..
    rw [runFrom]
    split
    · exact List.prefix_rfl
    · split
      · next hadv => simpa only [hadv] using hadded
      · next hadv =>
        rw [hadv] at hadded
        dsimp only
        split
        · exact hadded
        · exact hadded.trans ih

/-- **What is on record and in the log at a boundary is there at the end.** -/
theorem extends_of_ends {i : ℕ} {standing standing' : Standing} {t t' : Trace}
    (hends : Ends env workflow t₀ standing' t') (hreach : Reaches env workflow t₀ i standing t) :
    standing.results <+: standing'.results ∧ t.calls <+: t'.calls := by
  have hrun := (runFrom_eq_of_reaches hreach).symm.trans (runFrom_eq_of_ends hends)
  refine ⟨results_prefix_of_runFrom hrun, ?_⟩
  calc t.calls <+: (env.runFrom workflow i (workflow.steps.drop i) standing t).1.calls :=
        calls_prefix_runFrom
    _ = t'.calls := by rw [hrun]

/-- Whether or not the run comes to an end, the calls made until a boundary are the first ones. -/
theorem calls_prefix_execute {i : ℕ} {standing : Standing} {t : Trace}
    (hreach : Reaches env workflow t₀ i standing t) :
    t.calls <+: (env.execute workflow t₀).1.calls := by
  have hloop : (env.execute workflow t₀).1.calls =
      (env.runFrom workflow i (workflow.steps.drop i) standing t).1.calls := by
    rw [← runFrom_eq_of_reaches hreach]
    dsimp only [execute]
    split
    · next hrun => rw [hrun]
    · next hrun => rw [hrun, calls_complete]
  rw [hloop]
  exact calls_prefix_runFrom

/-- **A step that is started before the end comes to a result**, and it is on record at the end. -/
theorem record_of_ends {i : ℕ} {standing standing' : Standing} {t t' : Trace} {step : Step}
    (hends : Ends env workflow t₀ standing' t') (hreach : Reaches env workflow t₀ i standing t)
    (hstep : workflow.steps[i]? = some step) (hgoes : env.cancelled t = false) :
    ∃ t₁ result captured, env.advance workflow i step standing t = (t₁, .ok (result, captured)) ∧
      (standing.record result captured).results <+: standing'.results ∧
      t₁.calls <+: t'.calls := by
  have hrun := (runFrom_eq_of_reaches hreach).symm.trans (runFrom_eq_of_ends hends)
  rw [drop_eq_cons_of_getElem? hstep, runFrom, if_neg (by simp [hgoes])] at hrun
  rcases hadv : env.advance workflow i step standing t with ⟨t₁, b | ⟨result, captured⟩⟩
  · simp [hadv] at hrun
  · refine ⟨t₁, result, captured, rfl, ?_⟩
    by_cases hending : env.endsAfter result = true
    · obtain ⟨rfl, rfl⟩ := hends.unique (.failed hreach hstep hgoes hadv hending)
      exact ⟨List.prefix_rfl, List.prefix_rfl⟩
    · exact extends_of_ends hends (.next hreach hstep hgoes hadv (by simpa using hending))

end ToolFlow.Environment
