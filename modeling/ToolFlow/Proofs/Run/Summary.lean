import Mathlib.Data.List.Basic
import ToolFlow.Proofs.Run.Outcome
import ToolFlow.Proofs.Text.Digits

/-!
# The summary of a run that nobody comments on

When a summary is wanted and none is to be had, a fixed text stands in for it. Of a run that fails
this text names a step, the first one on record that failed (`summary_of_execute_iff`). That is the
step whose failure counts exactly when every step before it succeeded: a failure of an optional
step, which the run tolerates, is named in its place (`summary_of_errand`).

The step that a run names as failed comes from the verdict, which passes over optional steps; the
text comes from a search of its own through the results, which does not.

Nobody summarizes a run when there is no one to ask, or no time to ask in, or whoever is asked has
nothing to say at any moment (`HasNoSummaries`). The condition is about the surroundings, so that
the text is known for every workflow that is run among them.

Steps are counted from one in the text and from zero in the result. That the two can be compared at
all takes that the text of a number determines the number (`Commentary.failedAt_inj`).
-/

namespace ToolFlow

/-! ### The text that stands in -/

/-- Such texts are the same only when they give the same number. -/
theorem Commentary.failedAt_inj {name : String} {i j : ℕ} :
    s!"Workflow \"{name}\" failed at step {i}." = s!"Workflow \"{name}\" failed at step {j}." ↔
      i = j := by
  refine ⟨fun h ↦ ?_, fun h ↦ h ▸ rfl⟩
  exact Text.toString_inj.1 ((String.append_right_inj _).1 ((String.append_left_inj _).1 h))

/-- The text for a run that failed gives the number of the first step that failed. -/
theorem Commentary.fallbackSummary_of_findIdx? {workflow : Workflow} {results : List StepResult}
    {j : ℕ} (h : results.findIdx? (fun result ↦ !result.success) = some j) :
    fallbackSummary workflow results false =
      s!"Workflow \"{workflow.name}\" failed at step {j + 1}." := by
  simp [fallbackSummary, h]

namespace Environment

variable {env : Environment} {workflow : Workflow} {t₀ : Trace}

variable (env) in
/-- Nobody summarizes runs: there is no one to ask, or no time to ask in, or whoever is asked for a
summary fails or takes too long. -/
def HasNoSummaries : Prop :=
  ∀ commentator, env.commentator = some commentator →
    env.options.timeouts.summary.problem? = none →
    ∀ t prompt text, commentator t prompt Commentary.summaryOptions ≠ .returned text

/-- What comes of asking for a summary then is the text that stands in. -/
theorem HasNoSummaries.eq_fallback (hnone : env.HasNoSummaries) {prompt fallback : String}
    {t t' : Trace} {summary : Option String}
    (h : env.comment prompt Commentary.summaryOptions env.options.timeouts.summary fallback t =
      (t', .ok summary)) : summary = some fallback := by
  unfold comment at h
  split at h
  · exact (Except.pair_ok_inj h).2.symm
  · exact (Except.pair_ok_inj h).2.symm
  · next commentator hcommentator hproblem =>
    have hanswer := hnone commentator hcommentator hproblem t prompt
    obtain ⟨-, h⟩ := Prod.mk.inj h
    cases answer : commentator t prompt Commentary.summaryOptions with
    | returned text => exact absurd answer (hanswer text)
    | failed error =>
      rw [answer] at h
      exact (Except.ok.inj h).symm
    | timedOut =>
      rw [answer] at h
      obtain ⟨-, -, h⟩ := Except.map_eq_ok_iff.1 h
      exact h.symm
    | brokenOff b =>
      rw [answer] at h
      simp [commentOf] at h

/-- So a run that wants a summary has this text. -/
theorem HasNoSummaries.summary_of_complete (hnone : env.HasNoSummaries)
    (hwanted : env.options.generateSummary = true) {standing : Standing} {t t' : Trace}
    {result : WorkflowResult} (h : env.complete workflow standing t = (t', .ok result)) :
    result.summary =
      some (Commentary.fallbackSummary workflow standing.results standing.verdict.success) := by
  obtain ⟨t₁, t₂, t₃, captured, -, -, hsummary, -⟩ := conclusion_of_complete h
  unfold summarize at hsummary
  rw [if_neg (by simp [hwanted])] at hsummary
  exact hnone.eq_fallback hsummary

/-! ### The step that is named -/

/-- A run that names a failed step has not succeeded. -/
theorem not_success_of_failedStep {standing : Standing} {t : Trace} {k : ℕ}
    (h : Ends env workflow t₀ standing t) (hk : standing.verdict.failedStep = some k) :
    standing.verdict.success = false := by
  by_contra hsuccess
  obtain ⟨-, hall⟩ := (success_of_ends_iff h).1 (by simpa using hsuccess)
  rw [failedStep_of_ends h, failedStep_of_eq_none_iff.2 hall] at hk
  simp at hk

/-- The first failure among results that hold one. -/
theorem exists_findIdx?_of_failure {results : List StepResult} {k : ℕ} {r : StepResult}
    (hr : results[k]? = some r) (hfail : r.success = false) :
    ∃ j ≤ k, results.findIdx? (fun result ↦ !result.success) = some j ∧
      (∃ first, results[j]? = some first ∧ first.success = false) ∧
      ∀ i < j, ∀ earlier, results[i]? = some earlier → earlier.success = true := by
  obtain ⟨hk, rfl⟩ := List.getElem?_eq_some_iff.1 hr
  rcases hfind : results.findIdx? (fun result ↦ !result.success) with _ | j
  · have hnone := List.findIdx?_eq_none_iff.1 hfind _ (List.getElem_mem hk)
    simp [hfail] at hnone
  · obtain ⟨hj, hfirst, hbefore⟩ := List.findIdx?_eq_some_iff_getElem.1 hfind
    refine ⟨j, ?_, hfind, ⟨_, List.getElem?_eq_getElem hj, by simpa using hfirst⟩, ?_⟩
    · by_contra hlt
      exact hbefore k (by omega) (by simp [hfail])
    · intro i hi earlier hearlier
      obtain ⟨-, rfl⟩ := List.getElem?_eq_some_iff.1 hearlier
      simpa using hbefore i hi

/-- **The summary that stands in names the first step that failed.** It is the step that the run
names as failed exactly when every step before that one succeeded. -/
theorem summary_of_execute_iff {t' : Trace} {result : WorkflowResult} {k : ℕ}
    (hwanted : env.options.generateSummary = true) (hnone : env.HasNoSummaries)
    (h : env.execute workflow t₀ = (t', .ok result)) (hk : result.failedStep = some k) :
    (∃ j ≤ k, result.summary = some s!"Workflow \"{workflow.name}\" failed at step {j + 1}." ∧
      (∃ r, result.steps[j]? = some r ∧ r.success = false) ∧
      ∀ i < j, ∀ r, result.steps[i]? = some r → r.success = true) ∧
    (result.summary = some s!"Workflow \"{workflow.name}\" failed at step {k + 1}." ↔
      ∀ i < k, ∀ r, result.steps[i]? = some r → r.success = true) := by
  obtain ⟨standing, t, hends, hcomplete⟩ := ends_of_execute h
  obtain ⟨-, hsteps, -, -, hfailed⟩ := complete_eq_ok hcomplete
  rw [hfailed] at hk
  have hsummary := hnone.summary_of_complete hwanted hcomplete
  rw [not_success_of_failedStep hends hk] at hsummary
  -- the failure that counts is one of those among which the text takes the first
  rw [failedStep_of_ends hends, failedStep_of_iff (index_eq_of_ends hends)] at hk
  obtain ⟨⟨r, hr, hcounts⟩, -⟩ := hk
  obtain ⟨j, hjk, hfind, hfirst, hbefore⟩ :=
    exists_findIdx?_of_failure hr (StepResult.isRequiredFailure_iff.1 hcounts).1
  rw [Commentary.fallbackSummary_of_findIdx? hfind] at hsummary
  rw [hsteps, hsummary, Option.some.injEq, Commentary.failedAt_inj, Nat.add_right_cancel_iff]
  refine ⟨⟨j, hjk, rfl, hfirst, hbefore⟩, fun hj ↦ hj ▸ hbefore, fun hall ↦ ?_⟩
  obtain ⟨first, hat, hfail⟩ := hfirst
  by_contra hne
  have hsuccess := hall j (by omega) first hat
  simp [hfail] at hsuccess

/-! ### An errand that nobody comments on -/

/-- The errand names its fourth step as failed, and its summary does not: its second step failed
before, which was optional. -/
theorem summary_of_errand : errandPlan.environment.HasNoSummaries ∧ ∃ t' result,
    errandPlan.environment.execute errand [] = (t', .ok result) ∧ result.failedStep = some 3 ∧
      result.summary ≠ some s!"Workflow \"{errand.name}\" failed at step {3 + 1}." := by
  have hnone : errandPlan.environment.HasNoSummaries := by
    intro commentator hcommentator
    simp [Rehearsal.Plan.environment, errandPlan] at hcommentator
  have hrun : ((errandPlan.environment.execute errand []).2.toOption.map fun result ↦
      (result.failedStep, result.steps[1]?.map (·.success))) = some (some 3, some false) := by
    decide +kernel
  obtain ⟨t', result, h, hshown⟩ := Except.exists_eq_ok_of_shows hrun
  obtain ⟨hfailed, hsecond⟩ := Prod.mk.inj hshown
  obtain ⟨r, hr, hfail⟩ := Option.map_eq_some_iff.1 hsecond
  refine ⟨hnone, t', result, h, hfailed, fun hsummary ↦ ?_⟩
  have hall := (summary_of_execute_iff rfl hnone h hfailed).2.1 hsummary
  simp [hall 1 (by decide) r hr] at hfail

/-- **The summary need not name the step that failed the run**: the errand fails with its fourth
step, and its summary speaks of the second. -/
theorem summary_misnames_step_of_errand : ¬∀ t' result,
    errandPlan.environment.execute errand [] = (t', .ok result) → ∀ k, result.failedStep = some k →
      result.summary = some s!"Workflow \"{errand.name}\" failed at step {k + 1}." := by
  have hrun : ((errandPlan.environment.execute errand []).2.toOption.map fun result ↦
      (result.failedStep, result.summary)) =
        some (some 3, some "Workflow \"Errand\" failed at step 2.") := by
    decide +kernel
  obtain ⟨t', result, h, hshown⟩ := Except.exists_eq_ok_of_shows hrun
  obtain ⟨hfailed, hsummary⟩ := Prod.mk.inj hshown
  intro hall
  have hnamed := hall t' result h 3 hfailed
  rw [hsummary] at hnamed
  revert hnamed
  decide

end Environment

end ToolFlow
