import Mathlib.Data.List.Basic
import ToolFlow.Proofs.Run.Independence

/-!
# Runs that are strict about failed dependencies

Whether a step is refused outright when it refers to a failed step makes a difference to what is
said of it, and to nothing else (`sameButForWords_of_execute`). Such a step would have been refused
anyway: its arguments cannot be resolved, for a value can only be taken from a step that succeeded.

* `isCallable_iff_resolves`: a step is callable when its tool is there and its arguments can be
  resolved, in strict runs as in others.
* `shownArgs_of_plan`: what is shown of the arguments of a refused step does not depend on why it is
  refused.

So two runs of which one is strict follow one another, as far as a view without words shows
(`AlikeButDependencies.follows_wordless`). Failures are made out without words: the verdicts agree
but for the reason.

Nothing is asked of the comments and of progress in the two runs. The hypothesis is that the tools
answer alike to the same calls after the same calls, which excludes a tool that looks at the log or
at the clock, and that requests to stop depend on the calls alone. It also has to be known of both
runs that they come to a result: a strict run never asks for the arguments of a step that it
refuses, and so may come to a result where the other one breaks down.
-/

namespace ToolFlow

/-! ### Results without words -/

/-- A result without its error, its comment and its duration. -/
def StepResult.wordless (result : StepResult) : StepResult :=
  { result with error := none, duration := .float .zero, analysis := none }

/-- **Which step failed first is made out without words.** -/
theorem Verdict.failedStep_of_map_wordless (results : List StepResult) :
    (Verdict.of (results.map StepResult.wordless)).failedStep =
      (Verdict.of results).failedStep := by
  rw [Verdict.of, Verdict.of, find?_isRequiredFailure_map StepResult.wordless fun _ ↦ rfl]
  cases results.find? StepResult.isRequiredFailure <;> rfl

namespace Environment

variable {env env₁ env₂ : Environment} {workflow : Workflow} {results : List StepResult} {i : ℕ}
  {step : Step}

/-! ### Plans -/

/-- **A step is callable when its tool is there and its arguments can be resolved**, whether or not
failed dependencies matter. -/
theorem isCallable_iff_resolves :
    env.isCallable results i step = true ↔ step.tool ∈ env.tools ∧
      ∃ args, Resolution.resolveArguments results step i = .ok args := by
  rw [isCallable_iff]
  constructor
  · rintro ⟨hknown, -, hargs⟩
    exact ⟨hknown, hargs⟩
  · rintro ⟨hknown, args, hargs⟩
    exact ⟨hknown, fun _ ↦ Resolution.failedDependencies_eq_nil hargs, args, hargs⟩

/-- What is shown of the arguments of a refused step is a matter of whether its tool is there. -/
theorem shownArgs_of_plan {refusal : Refusal}
    (h : env.plan results i step = .ok (.error refusal)) :
    refusal.shownArgs step = if env.tools.contains step.tool then step.args else [] := by
  unfold plan at h
  split at h
  · next hunknown =>
    obtain rfl := Except.error.inj (Except.ok.inj h)
    simp_all [Refusal.shownArgs]
  · next hknown =>
    rw [if_pos (by simpa using hknown)]
    -- the tool is there: a failed dependency or an argument without value stands against the call
    split at h
    · simp at h
    · split at h
      · simp at h
      · split at h
        · obtain rfl := Except.error.inj (Except.ok.inj h)
          rfl
        · simp at h
    · obtain rfl := Except.error.inj (Except.ok.inj h)
      rfl

/-! ### Surroundings that are alike but for strictness -/

/-- The tools, the requests to stop and whether later steps are attempted after a failure are the
same. Whether steps that refer to failed ones are refused outright need not be. -/
structure AlikeButDependencies (env₁ env₂ : Environment) : Prop extends SameTools env₁ env₂ where
  continueOnError_eq : env₁.options.continueOnError = env₂.options.continueOnError
  cancelled_eq : ∀ {t₁ t₂ : Trace}, t₁.calls = t₂.calls → env₁.cancelled t₁ = env₂.cancelled t₂

/-- Neither of the two runs is singled out as the strict one. -/
theorem AlikeButDependencies.symm (h : AlikeButDependencies env₁ env₂) :
    AlikeButDependencies env₂ env₁ where
  tools_eq := h.tools_eq.symm
  callTimeout_eq := h.callTimeout_eq.symm
  client_eq hcalls tool args := (h.client_eq hcalls.symm tool args).symm
  continueOnError_eq := h.continueOnError_eq.symm
  cancelled_eq hcalls := (h.cancelled_eq hcalls.symm).symm

/-- **The same calls are planned in strict runs as in others.** -/
theorem SameTools.plan_eq_ok_ok_iff (h : SameTools env₁ env₂) {results₁ results₂ : List StepResult}
    (hseen : results₁.map Resolution.seen = results₂.map Resolution.seen) {args : Fields} :
    env₁.plan results₁ i step = .ok (.ok args) ↔ env₂.plan results₂ i step = .ok (.ok args) := by
  rw [Environment.plan_eq_ok_ok_iff, Environment.plan_eq_ok_ok_iff, isCallable_iff_resolves,
    isCallable_iff_resolves, h.tools_eq, Resolution.resolveArguments_congr hseen]

/-- **Runs of which one is strict follow one another but for words.** -/
theorem AlikeButDependencies.follows_wordless (h : AlikeButDependencies env₁ env₂) :
    Follows StepResult.wordless env₁ env₂ where
  view_comment _ _ := rfl
  attempt := by
    intro results₁ results₂ i step t₁ t₂ t₁' t₂' r₁ r₂ hview hcalls h₁ h₂
    have hplan : ∀ {args},
        env₁.plan results₁ i step = .ok (.ok args) ↔ env₂.plan results₂ i step = .ok (.ok args) :=
      h.plan_eq_ok_ok_iff (map_eq_of_map_view hview fun _ ↦ rfl)
    -- the step is refused in both runs or called in both
    rcases attempt_eq_ok h₁ with ⟨refusal₁, hrefused₁, rfl, rfl⟩ | ⟨args, -, hcalled₁, -, -⟩
    · rcases attempt_eq_ok h₂ with ⟨refusal₂, hrefused₂, rfl, rfl⟩ | ⟨args, -, hcalled₂, -, -⟩
      · refine ⟨?_, hcalls⟩
        have hshown : refusal₁.shownArgs step = refusal₂.shownArgs step := by
          rw [shownArgs_of_plan hrefused₁, shownArgs_of_plan hrefused₂, h.tools_eq]
        simp only [Refusal.result, StepResult.wordless, hshown]
      · simp [hplan.2 hcalled₂] at hrefused₁
    · obtain ⟨hresult, hlog⟩ := h.attempt_congr hcalls (hcalled₁.trans (hplan.1 hcalled₁).symm)
      rw [h₁, h₂] at hresult hlog
      exact ⟨congrArg StepResult.wordless (Except.ok.inj hresult), hlog⟩
  goes hcalls hgoes := h.cancelled_eq hcalls ▸ hgoes
  goesOn := by
    intro r₁ r₂ hview hgoesOn
    have hfailure : r₁.isRequiredFailure = r₂.isRequiredFailure := by
      show r₁.wordless.isRequiredFailure = r₂.wordless.isRequiredFailure
      rw [hview]
    rwa [endsAfter, ← hfailure, ← h.continueOnError_eq]

/-! ### Whole runs -/

/-- Two runs that made the same calls and came to the same, but for errors and what is derived from
them: reasons, comments, summaries, what was tracked. -/
structure SameButForWords (t₁ t₂ : Trace) (result₁ result₂ : WorkflowResult) : Prop where
  calls_eq : t₁.calls = t₂.calls
  success_eq : result₁.success = result₂.success
  failedStep_eq : result₁.failedStep = result₂.failedStep
  dataFlow_eq : result₁.dataFlow = result₂.dataFlow
  steps_eq : result₁.steps.map StepResult.wordless = result₂.steps.map StepResult.wordless

/-- **Strictness about failed dependencies changes words only.** -/
theorem sameButForWords_of_execute (h : AlikeButDependencies env₁ env₂) {t₁ t₂ t₁' t₂' : Trace}
    {result₁ result₂ : WorkflowResult} (hcalls : t₁.calls = t₂.calls)
    (h₁ : env₁.execute workflow t₁ = (t₁', .ok result₁))
    (h₂ : env₂.execute workflow t₂ = (t₂', .ok result₂)) :
    SameButForWords t₁' t₂' result₁ result₂ := by
  obtain ⟨standing₁, t₁₁, hends₁, hcomplete₁⟩ := ends_of_execute h₁
  obtain ⟨standing₂, t₂₁, hends₂, hcomplete₂⟩ := ends_of_execute h₂
  obtain ⟨hflow₁, hsteps₁, hsuccess₁, -, hfailed₁⟩ := complete_eq_ok hcomplete₁
  obtain ⟨hflow₂, hsteps₂, hsuccess₂, -, hfailed₂⟩ := complete_eq_ok hcomplete₂
  have hfollows := h.follows_wordless
  have hfollows' := h.symm.follows_wordless
  obtain ⟨hview, hlog⟩ := hfollows.eq_of_ends hfollows' hcalls hends₁ hends₂
  have hlength : standing₁.results.length = standing₂.results.length := by
    simpa using congrArg List.length hview
  constructor
  · calc t₁'.calls = t₁₁.calls := calls_eq_of_complete hcomplete₁
      _ = t₂₁.calls := hlog
      _ = t₂'.calls := (calls_eq_of_complete hcomplete₂).symm
  · have hstopped : StoppedBefore env₁ workflow t₁ standing₁.results.length ↔
        StoppedBefore env₂ workflow t₂ standing₂.results.length := by
      rw [hlength]
      exact ⟨hfollows.stoppedBefore hcalls h.cancelled_eq hends₂,
        hfollows'.stoppedBefore hcalls.symm h.symm.cancelled_eq hends₁⟩
    have hfailures : (∀ r ∈ standing₁.results, r.isRequiredFailure = false) ↔
        ∀ r ∈ standing₂.results, r.isRequiredFailure = false := by
      rw [← failedStep_of_eq_none_iff, ← failedStep_of_eq_none_iff,
        ← Verdict.failedStep_of_map_wordless, hview, Verdict.failedStep_of_map_wordless]
    rw [hsuccess₁, hsuccess₂, Bool.eq_iff_iff, success_of_ends_iff hends₁,
      success_of_ends_iff hends₂, hstopped, hfailures]
  · rw [hfailed₁, hfailed₂, failedStep_of_ends hends₁, failedStep_of_ends hends₂,
      ← Verdict.failedStep_of_map_wordless, hview, Verdict.failedStep_of_map_wordless]
  · have hseen : standing₁.results.map Resolution.seen = standing₂.results.map Resolution.seen :=
      map_eq_of_map_view hview fun _ ↦ rfl
    rw [edges_congr hseen, hflow₂] at hflow₁
    exact (Except.ok.inj hflow₁).symm
  · rw [hsteps₁, hview, hsteps₂]

/-! ### A strict errand -/

/-- An item is created and another cannot be deleted. Then the deleted item is to be shown, which is
not required, and the created one. -/
def followUp : Workflow where
  id := "followUp"
  name := "Follow up"
  steps := [
    { tool := "create", description := "Create an item" },
    { tool := "delete", description := "Delete another", isOptional := true },
    { tool := "show", mapping := some [("id", "$steps[1].result.id")], isOptional := true },
    { tool := "show", mapping := some [("id", "$steps[0].result.id")] }]

/-- The tools of the errand under the rule that failed dependencies matter. -/
def strictPlan : Rehearsal.Plan :=
  { errandPlan with options := { requireSuccessfulDependencies := true } }

/-- The rule makes a difference to what is said of the third step. -/
theorem sameButForWords_of_followUps : ∃ t₁ t₂ result₁ result₂,
    strictPlan.environment.execute followUp [] = (t₁, .ok result₁) ∧
      errandPlan.environment.execute followUp [] = (t₂, .ok result₂) ∧
      result₁.steps.map (·.error) = [none, some "Permission denied",
        some "Step 2 depends on failed step 1", none] ∧
      result₂.steps.map (·.error) = [none, some "Permission denied",
        some "Failed to resolve arguments: Step 1 failed or has no response", none] ∧
      SameButForWords t₁ t₂ result₁ result₂ := by
  have htools : SameTools strictPlan.environment errandPlan.environment :=
    sameTools_of_rehearsals rfl rfl rfl
  have halike : AlikeButDependencies strictPlan.environment errandPlan.environment :=
    { htools with
      continueOnError_eq := rfl
      cancelled_eq := by
        intro t₁ t₂ h
        show Rehearsal.cancelled errandPlan.script .never t₁ =
          Rehearsal.cancelled errandPlan.script .never t₂
        rw [Rehearsal.cancelled, h, Rehearsal.cancelled]
        rfl }
  have hstrict : ((strictPlan.environment.execute followUp []).2.toOption.map fun result ↦
      result.steps.map (·.error)) = some [none, some "Permission denied",
        some "Step 2 depends on failed step 1", none] := by
    decide +kernel
  have hlenient : ((errandPlan.environment.execute followUp []).2.toOption.map fun result ↦
      result.steps.map (·.error)) = some [none, some "Permission denied",
        some "Failed to resolve arguments: Step 1 failed or has no response", none] := by
    decide +kernel
  obtain ⟨t₁, result₁, h₁, herrors₁⟩ := Except.exists_eq_ok_of_shows hstrict
  obtain ⟨t₂, result₂, h₂, herrors₂⟩ := Except.exists_eq_ok_of_shows hlenient
  exact ⟨t₁, t₂, result₁, result₂, h₁, h₂, herrors₁, herrors₂,
    sameButForWords_of_execute halike rfl h₁ h₂⟩

end Environment

end ToolFlow
