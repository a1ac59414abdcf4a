import Mathlib.Data.List.Basic
import ToolFlow.Proofs.Run.Outcome

/-!
# Why a run failed

A run that comes to a result gives a reason exactly when it did not succeed. When nobody asked it to
stop, the reason is the error of the step that it names as failed. A request to stop replaces the
reason, but the failed step is still named (`account_of_execute`): so in a run that goes on after
errors the two can be about different events (`reason_of_halted`).

The reason is that of `Verdict.of`, hence the error of the first failure that counts; it is never
the text for a failure without an error, since a step that failed has one.

The two parts of the account are kept by different variables of the loop. A failure that counts sets
both of them, once. A request to stop sets the reason and leaves the failed step as it was. So the
account is exact about either part, and what is lost in between is their being about one event. For
a run without failures that is asked to stop no step is named at all.
-/

namespace ToolFlow

/-! ### The reason that results call for -/

/-- A verdict gives a reason exactly when it is not a success. -/
theorem Verdict.success_of_iff_reason (results : List StepResult) :
    (Verdict.of results).success = true ↔ (Verdict.of results).reason = none := by
  rw [Verdict.of]
  split <;> simp

/-- A failed step has an error with a text, and this is the reason it gives. -/
theorem StepResult.Sound.nonEmpty?_error {step : Step} {index : ℕ} {result : StepResult}
    (h : result.Sound step index) (hfail : result.success = false) :
    some ((Commentary.nonEmpty? result.error).getD stepFailedText) = result.error := by
  rcases herror : result.error with _ | error
  · exact absurd (h.success_iff.2 herror) (by simp [hfail])
  · have hne : error ≠ "" := fun hempty ↦ h.error_ne (hempty ▸ herror)
    simp [Commentary.nonEmpty?, hne]

/-- **The verdict gives the error of the step that it names.** -/
theorem Verdict.reason_of {results : List StepResult}
    (hsound : ∀ {i : ℕ} {r : StepResult}, results[i]? = some r → ∃ step, r.Sound step i) {k : ℕ}
    (hk : (Verdict.of results).failedStep = some k) :
    ∃ r, results[k]? = some r ∧ r.isRequiredFailure = true ∧
      (Verdict.of results).reason = r.error := by
  rcases hfind : results.find? StepResult.isRequiredFailure with _ | first
  · rw [Verdict.of, hfind] at hk
    simp at hk
  · obtain ⟨hfail, i, hi, rfl, -⟩ := List.find?_eq_some_iff_getElem.1 hfind
    obtain ⟨step, hr⟩ := hsound (List.getElem?_eq_getElem hi)
    rw [Verdict.of, hfind] at hk ⊢
    obtain rfl : i = k := hr.index_eq.symm.trans (Option.some.inj hk)
    exact ⟨_, List.getElem?_eq_getElem hi, hfail,
      hr.nonEmpty?_error (StepResult.isRequiredFailure_iff.1 hfail).1⟩

namespace Environment

variable {env : Environment} {workflow : Workflow} {t₀ : Trace}

/-! ### The account of a run -/

variable (env workflow t₀) in
/-- What the result of a run says of its failure. -/
structure Account (result : WorkflowResult) : Prop where
  /-- There is a reason exactly when the run did not succeed. -/
  success_iff : result.success = true ↔ result.failureReason = none
  /-- A run that was stopped says before which step. -/
  stopped : StoppedBefore env workflow t₀ result.steps.length →
    result.failureReason = some s!"Workflow cancelled before step {result.steps.length + 1}"
  /-- Any other run gives the error of the step that it names. -/
  failed : ¬StoppedBefore env workflow t₀ result.steps.length →
    ∀ k, result.failedStep = some k → ∃ r, result.steps[k]? = some r ∧ r.success = false ∧
      r.step.isOptional = false ∧ result.failureReason = r.error

/-- **A run says why it failed**: that it was stopped, if it was, and else the error of the step
that it names. -/
theorem account_of_execute {t' : Trace} {result : WorkflowResult}
    (h : env.execute workflow t₀ = (t', .ok result)) : Account env workflow t₀ result := by
  obtain ⟨standing, t, hends, hcomplete⟩ := ends_of_execute h
  obtain ⟨-, hsteps, hsuccess, hreason, hfailed⟩ := complete_eq_ok hcomplete
  have hsound : ∀ {i : ℕ} {r : StepResult}, standing.results[i]? = some r →
      ∃ step, r.Sound step i := fun hi ↦ by
    obtain ⟨step, -, hr⟩ := (exists_sound_of_ends hends).2 hi
    exact ⟨step, hr⟩
  rcases verdict_of_ends hends with ⟨hnot, hverdict⟩ | ⟨hstop, hverdict⟩
  · constructor
    · rw [hsuccess, hreason, hverdict, Verdict.success_of_iff_reason]
    · rw [hsteps]
      exact fun hstop ↦ absurd hstop hnot
    · rw [hfailed, hreason, hsteps, hverdict]
      intro _ k hk
      obtain ⟨r, hr, hfail, hr_reason⟩ := Verdict.reason_of hsound hk
      obtain ⟨hr_success, hr_optional⟩ := StepResult.isRequiredFailure_iff.1 hfail
      exact ⟨r, hr, hr_success, hr_optional, hr_reason⟩
  · constructor
    · rw [hsuccess, hreason, hverdict]
      simp [Verdict.cancelledBefore]
    · rw [hreason, hsteps, hverdict]
      exact fun _ ↦ rfl
    · rw [hsteps]
      exact fun hnot ↦ absurd hstop hnot

/-- The errand ends with its fourth step, and the reason is what this step says. -/
theorem account_of_errand : ∃ t' result,
    errandPlan.environment.execute errand [] = (t', .ok result) ∧ result.failedStep = some 3 ∧
      result.failureReason = some ("Failed to resolve arguments: Cannot reference step 4 " ++
        "from step 3 (can only reference earlier steps)") ∧
      Account errandPlan.environment errand [] result := by
  have hrun : ((errandPlan.environment.execute errand []).2.toOption.map fun result ↦
      (result.failedStep, result.failureReason)) =
        some (some 3, some ("Failed to resolve arguments: Cannot reference step 4 " ++
          "from step 3 (can only reference earlier steps)")) := by
    decide +kernel
  obtain ⟨t', result, h, hshown⟩ := Except.exists_eq_ok_of_shows hrun
  obtain ⟨hfailed, hreason⟩ := Prod.mk.inj hshown
  exact ⟨t', result, h, hfailed, hreason, account_of_execute h⟩

/-! ### A run that fails and is stopped -/

/-- Two steps of which the first fails. -/
def halted : Workflow where
  id := "wf"
  name := "WF"
  steps := [{ tool := "fail", description := "Call fail" },
    { tool := "ping", description := "Call ping" }]

/-- The tool that fails asks the run to stop, and the run goes on after errors. -/
def haltedPlan : Rehearsal.Plan where
  script := [
    ("fail", [{ cancels := true, deed := .raises (.of "RuntimeError" [.text "boom"]) }]),
    ("ping", [{ deed := .speaks "pong" (.bool false) }])]
  tools := ["fail", "ping"]
  options := { continueOnError := true, analyzeSteps := false, generateSummary := false }

/-- **The reason need not be that of the step that is named**: the run fails with its first step,
which says `boom`, and is stopped before the second. -/
theorem reason_of_halted : ¬∀ t' result,
    haltedPlan.environment.execute halted [] = (t', .ok result) →
      ∀ k, result.failedStep = some k →
        ∃ r, result.steps[k]? = some r ∧ result.failureReason = r.error := by
  have hrun : ((haltedPlan.environment.execute halted []).2.toOption.map fun result ↦
      (result.failedStep, result.failureReason, result.steps.map (·.error))) =
        some (some 0, some "Workflow cancelled before step 2", [some "boom"]) := by
    decide +kernel
  intro hall
  obtain ⟨t', result, h, hshown⟩ := Except.exists_eq_ok_of_shows hrun
  obtain ⟨hfailed, hrest⟩ := Prod.mk.inj hshown
  obtain ⟨hreason, herrors⟩ := Prod.mk.inj hrest
  obtain ⟨r, hr, hr_reason⟩ := hall t' result h 0 hfailed
  have herror : some r.error = some (some "boom") := by
    rw [← Option.map_some, ← hr, ← List.getElem?_map, herrors]
    rfl
  rw [hreason, Option.some.inj herror] at hr_reason
  simp at hr_reason

end Environment

end ToolFlow
