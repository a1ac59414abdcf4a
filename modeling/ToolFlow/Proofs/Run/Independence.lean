import Mathlib.Data.List.Basic
import ToolFlow.Proofs.Run.Following

/-!
# Runs among different side channels

Commentary, progress and tracking have no influence on a run (`sameRun_of_execute`). Two runs of one
workflow are followed side by side, among tools that answer alike and under the same rules, whatever
their other collaborators do. The relation between them is that they have made the same calls, that
their verdicts are equal, and that their results are equal but for comments and durations
(`Standing.Agree`). One step preserves it (`agree_of_advance`), so the loop does
(`agree_of_runFrom`).

The parts of the argument ask for no more than they need, for use with runs under different rules: a
call depends on the tools alone (`SameTools`), and an attempt on the tools and on its plan. Runs
among the same tools follow one another but for comments, as far as the rules of the second let it
(`SameTools.follows_bare`).

The tools are functions of the trace, so they could answer differently to a call after other events
of progress. `SameTools` rules this out: it asks for the same answer whenever the calls made before
are the same. It is not asked that the traces be the same, and they are not, since the side channels
leave their entries there. This is also why the calls are part of the relation. Rehearsals are of
this kind (`sameTools_of_rehearsals`).
-/

namespace ToolFlow

/-! ### Results but for comments -/

/-- A result without its comment and its duration. -/
def StepResult.bare (result : StepResult) : StepResult :=
  { result with duration := .float .zero, analysis := none }

/-- Resolution does not see comments. -/
theorem map_seen_of_map_bare {results₁ results₂ : List StepResult}
    (h : results₁.map StepResult.bare = results₂.map StepResult.bare) :
    results₁.map Resolution.seen = results₂.map Resolution.seen :=
  map_eq_of_map_view h fun _ ↦ rfl

/-- A failure counts or not, whatever was commented on it. -/
theorem isRequiredFailure_of_bare {r₁ r₂ : StepResult} (h : r₁.bare = r₂.bare) :
    r₁.isRequiredFailure = r₂.isRequiredFailure := by
  show r₁.bare.isRequiredFailure = r₂.bare.isRequiredFailure
  rw [h]

/-- Nor do comments enter into the verdict. -/
theorem after_of_bare {r₁ r₂ : StepResult} (h : r₁.bare = r₂.bare) (verdict : Verdict) :
    verdict.after r₁ = verdict.after r₂ := by
  show verdict.after r₁.bare = verdict.after r₂.bare
  rw [h]

/-- **The data flow depends on what resolution sees of results.** -/
theorem edges_congr {results₁ results₂ : List StepResult}
    (h : results₁.map Resolution.seen = results₂.map Resolution.seen) (workflow : Workflow) :
    DataFlow.edges workflow results₁ = DataFlow.edges workflow results₂ := by
  have hedge : ∀ index, DataFlow.edge? results₁ index = DataFlow.edge? results₂ index :=
    fun index ↦ funext fun entry ↦ by
      simp only [DataFlow.edge?, DataFlow.sample, Resolution.resolveReference_congr h]
  suffices hfrom : ∀ (steps : List Step) (index : ℕ),
      DataFlow.edgesFrom results₁ index steps = DataFlow.edgesFrom results₂ index steps from
    hfrom workflow.steps 0
  intro steps
  induction steps with
  | nil => exact fun _ ↦ rfl
  | cons step rest ih =>
    intro index
    have hinto :
        DataFlow.edgesInto results₁ index step = DataFlow.edgesInto results₂ index step := by
      simp only [DataFlow.edgesInto, hedge]
    simp only [DataFlow.edgesFrom, hinto, ih]

/-- Two standings that differ in comments, durations and what was captured at most. -/
structure Standing.Agree (standing₁ standing₂ : Standing) : Prop where
  results_eq : standing₁.results.map StepResult.bare = standing₂.results.map StepResult.bare
  verdict_eq : standing₁.verdict = standing₂.verdict

/-- Results that agree are recorded alike. -/
theorem Standing.Agree.record {standing₁ standing₂ : Standing} (h : standing₁.Agree standing₂)
    {r₁ r₂ : StepResult} (hr : r₁.bare = r₂.bare) (captured₁ captured₂ : Tracking.Captured) :
    (standing₁.record r₁ captured₁).Agree (standing₂.record r₂ captured₂) where
  results_eq := by simp [Standing.record, h.results_eq, hr]
  verdict_eq := by
    show standing₁.verdict.after r₁ = standing₂.verdict.after r₂
    rw [h.verdict_eq, after_of_bare hr]

namespace Environment

variable {env₁ env₂ : Environment} {workflow : Workflow}

/-! ### Surroundings that are alike -/

/-- The same tools are there, and they answer alike to calls that follow on the same calls. -/
structure SameTools (env₁ env₂ : Environment) : Prop where
  tools_eq : env₁.tools = env₂.tools
  callTimeout_eq : env₁.options.callTimeout = env₂.options.callTimeout
  client_eq : ∀ {t₁ t₂ : Trace}, t₁.calls = t₂.calls →
    ∀ tool args, env₁.client t₁ tool args = env₂.client t₂ tool args

/-- The tools are the same, the rules of the run are, and so are the requests to stop, which follow
on tool calls alone. -/
structure Alike (env₁ env₂ : Environment) : Prop extends SameTools env₁ env₂ where
  continueOnError_eq : env₁.options.continueOnError = env₂.options.continueOnError
  requireSuccessfulDependencies_eq :
    env₁.options.requireSuccessfulDependencies = env₂.options.requireSuccessfulDependencies
  cancelled_eq : ∀ {t₁ t₂ : Trace}, t₁.calls = t₂.calls → env₁.cancelled t₁ = env₂.cancelled t₂

/-- Rehearsals of one script with the same tools under the same time limit are such. -/
theorem sameTools_of_rehearsals {plan₁ plan₂ : Rehearsal.Plan}
    (hscript : plan₁.script = plan₂.script) (htools : plan₁.tools = plan₂.tools)
    (hlimit : plan₁.options.callTimeout = plan₂.options.callTimeout) :
    SameTools plan₁.environment plan₂.environment where
  tools_eq := htools
  callTimeout_eq := hlimit
  client_eq := by
    intro t₁ t₂ hcalls tool args
    show plan₁.script.client t₁ tool args = plan₂.script.client t₂ tool args
    rw [hscript, Rehearsal.Script.client, hcalls, Rehearsal.Script.client]

/-! ### One step -/

/-- **A call comes to the same among the same tools**, and is logged alike. -/
theorem SameTools.call_congr (h : SameTools env₁ env₂) {t₁ t₂ : Trace}
    (hcalls : t₁.calls = t₂.calls) (tool : String) (args : Fields) :
    (env₁.call tool args t₁).2 = (env₂.call tool args t₂).2 ∧
      (env₁.call tool args t₁).1.calls = (env₂.call tool args t₂).1.calls := by
  constructor
  · simp only [call, h.callTimeout_eq, h.client_eq hcalls]
    split <;> rfl
  · rw [calls_call, calls_call, hcalls, canCall, canCall, h.callTimeout_eq]

/-- **So does an attempt with the same plan.** -/
theorem SameTools.attempt_congr (h : SameTools env₁ env₂) {t₁ t₂ : Trace}
    (hcalls : t₁.calls = t₂.calls) {results₁ results₂ : List StepResult} {i : ℕ} {step : Step}
    (hplan : env₁.plan results₁ i step = env₂.plan results₂ i step) :
    (env₁.attempt results₁ i step t₁).2 = (env₂.attempt results₂ i step t₂).2 ∧
      (env₁.attempt results₁ i step t₁).1.calls = (env₂.attempt results₂ i step t₂).1.calls := by
  unfold attempt
  rw [hplan]
  split
  · exact ⟨rfl, hcalls⟩
  · exact ⟨rfl, hcalls⟩
  · next args _ =>
    obtain ⟨houtcome, hlog⟩ := h.call_congr hcalls step.tool args
    exact ⟨by simp only [houtcome], hlog⟩

/-- Plans are the same after results that look alike, under the same rule for dependencies. -/
theorem SameTools.plan_congr (h : SameTools env₁ env₂)
    (hrules : env₁.options.requireSuccessfulDependencies =
      env₂.options.requireSuccessfulDependencies)
    {results₁ results₂ : List StepResult}
    (hseen : results₁.map Resolution.seen = results₂.map Resolution.seen) (i : ℕ) (step : Step) :
    env₁.plan results₁ i step = env₂.plan results₂ i step := by
  simp only [plan, obstacles, h.tools_eq, hrules, Resolution.failedDependencies_congr hseen,
    Resolution.resolveArguments_congr hseen]

/-- **Runs among the same tools follow one another but for comments**, as long as the second is
neither stopped nor ended where the first is not. -/
theorem SameTools.follows_bare (h : SameTools env₁ env₂)
    (hrules : env₁.options.requireSuccessfulDependencies =
      env₂.options.requireSuccessfulDependencies)
    (hgoes : ∀ {t₁ t₂ : Trace}, t₁.calls = t₂.calls →
      env₁.cancelled t₁ = false → env₂.cancelled t₂ = false)
    (hcontinue : env₁.options.continueOnError = true → env₂.options.continueOnError = true) :
    Follows StepResult.bare env₁ env₂ where
  view_comment _ _ := rfl
  attempt := by
    intro results₁ results₂ i step t₁ t₂ t₁' t₂' r₁ r₂ hview hcalls h₁ h₂
    -- comments are not seen by resolution, so both attempts have the same plan
    have hplan := h.plan_congr hrules (map_seen_of_map_bare hview) i step
    obtain ⟨hresult, hlog⟩ := h.attempt_congr hcalls hplan
    rw [h₁, h₂] at hresult hlog
    exact ⟨congrArg StepResult.bare (Except.ok.inj hresult), hlog⟩
  goes := hgoes
  goesOn := by
    intro r₁ r₂ hview hgoesOn
    rw [endsAfter, isRequiredFailure_of_bare hview, Bool.and_eq_false_iff] at hgoesOn
    rw [endsAfter, Bool.and_eq_false_iff]
    exact hgoesOn.imp_right fun hgoesOn ↦ by simpa using hcontinue (by simpa using hgoesOn)

/-- **The step lemma**: a step keeps the runs in agreement. -/
theorem agree_of_advance (h : Alike env₁ env₂) {i : ℕ} {step : Step}
    {standing₁ standing₂ : Standing} {t₁ t₂ t₁' t₂' : Trace} {r₁ r₂ : StepResult}
    {captured₁ captured₂ : Tracking.Captured}
    (hagree : standing₁.Agree standing₂) (hcalls : t₁.calls = t₂.calls)
    (h₁ : env₁.advance workflow i step standing₁ t₁ = (t₁', .ok (r₁, captured₁)))
    (h₂ : env₂.advance workflow i step standing₂ t₂ = (t₂', .ok (r₂, captured₂))) :
    r₁.bare = r₂.bare ∧ t₁'.calls = t₂'.calls := by
  have hfollows : Follows StepResult.bare env₁ env₂ :=
    h.follows_bare h.requireSuccessfulDependencies_eq
      (fun hcalls hgoes ↦ h.cancelled_eq hcalls ▸ hgoes) (fun hon ↦ h.continueOnError_eq ▸ hon)
  exact hfollows.advance hagree.results_eq hcalls h₁ h₂

/-! ### The loop -/

/-- **Two runs that agree at a boundary agree where their attempts end**, by induction on the steps
that are left. -/
theorem agree_of_runFrom (h : Alike env₁ env₂) {steps : List Step} :
    ∀ {i : ℕ} {standing₁ standing₂ standing₁' standing₂' : Standing} {t₁ t₂ t₁' t₂' : Trace},
      standing₁.Agree standing₂ → t₁.calls = t₂.calls →
      env₁.runFrom workflow i steps standing₁ t₁ = (t₁', .ok standing₁') →
      env₂.runFrom workflow i steps standing₂ t₂ = (t₂', .ok standing₂') →
      standing₁'.Agree standing₂' ∧ t₁'.calls = t₂'.calls := by
  induction steps with
  | nil =>
    intro i standing₁ standing₂ standing₁' standing₂' t₁ t₂ t₁' t₂' hagree hcalls h₁ h₂
    obtain ⟨rfl, rfl⟩ := Except.pair_ok_inj h₁
    obtain ⟨rfl, rfl⟩ := Except.pair_ok_inj h₂
    exact ⟨hagree, hcalls⟩
  | cons step rest ih =>
    intro i standing₁ standing₂ standing₁' standing₂' t₁ t₂ t₁' t₂' hagree hcalls h₁ h₂
    rw [runFrom] at h₁ h₂
    rw [h.cancelled_eq hcalls] at h₁
    by_cases hasked : env₂.cancelled t₂ = true
    · -- both runs see the request to stop
      rw [if_pos hasked] at h₁ h₂
      obtain ⟨rfl, rfl⟩ := Except.pair_ok_inj h₁
      obtain ⟨rfl, rfl⟩ := Except.pair_ok_inj h₂
      refine ⟨⟨hagree.results_eq, ?_⟩, hcalls⟩
      show standing₁.verdict.cancelledBefore i = standing₂.verdict.cancelledBefore i
      rw [hagree.verdict_eq]
    · rw [if_neg hasked] at h₁ h₂
      split at h₁
      · simp at h₁
      · next t₁₁ r₁ captured₁ hadvance₁ =>
        split at h₂
        · simp at h₂
        · next t₂₁ r₂ captured₂ hadvance₂ =>
          obtain ⟨hbare, hcalls'⟩ := agree_of_advance h hagree hcalls hadvance₁ hadvance₂
          have hagree' := hagree.record hbare captured₁ captured₂
          have hends : env₁.endsAfter r₁ = env₂.endsAfter r₂ := by
            rw [endsAfter, endsAfter, isRequiredFailure_of_bare hbare, h.continueOnError_eq]
          rw [hends] at h₁
          by_cases hending : env₂.endsAfter r₂ = true
          · -- both runs end here
            rw [if_pos hending] at h₁ h₂
            obtain ⟨rfl, rfl⟩ := Except.pair_ok_inj h₁
            obtain ⟨rfl, rfl⟩ := Except.pair_ok_inj h₂
            exact ⟨hagree', hcalls'⟩
          · rw [if_neg hending] at h₁ h₂
            exact ih hagree' hcalls' h₁ h₂

/-! ### Whole runs -/

/-- Two runs that made the same calls and came to the same, but for comments, durations, summaries
and what was tracked. -/
structure SameRun (t₁ t₂ : Trace) (result₁ result₂ : WorkflowResult) : Prop where
  calls_eq : t₁.calls = t₂.calls
  success_eq : result₁.success = result₂.success
  failureReason_eq : result₁.failureReason = result₂.failureReason
  failedStep_eq : result₁.failedStep = result₂.failedStep
  dataFlow_eq : result₁.dataFlow = result₂.dataFlow
  steps_eq : result₁.steps.map StepResult.bare = result₂.steps.map StepResult.bare

/-- **Commentary, progress and tracking have no influence on a run.** -/
theorem sameRun_of_execute (h : Alike env₁ env₂) {t₁ t₂ t₁' t₂' : Trace}
    {result₁ result₂ : WorkflowResult} (hcalls : t₁.calls = t₂.calls)
    (h₁ : env₁.execute workflow t₁ = (t₁', .ok result₁))
    (h₂ : env₂.execute workflow t₂ = (t₂', .ok result₂)) :
    SameRun t₁' t₂' result₁ result₂ := by
  dsimp only [execute] at h₁ h₂
  split at h₁
  · simp at h₁
  · next t₁₁ standing₁ hrun₁ =>
    split at h₂
    · simp at h₂
    · next t₂₁ standing₂ hrun₂ =>
      have hstart : (env₁.start workflow t₁).2.Agree (env₂.start workflow t₂).2 := ⟨rfl, rfl⟩
      obtain ⟨hagree, hlog⟩ := agree_of_runFrom h hstart (by simpa using hcalls) hrun₁ hrun₂
      obtain ⟨hflow₁, hsteps₁, hsuccess₁, hreason₁, hfailed₁⟩ := complete_eq_ok h₁
      obtain ⟨hflow₂, hsteps₂, hsuccess₂, hreason₂, hfailed₂⟩ := complete_eq_ok h₂
      constructor
      · calc t₁'.calls = t₁₁.calls := by rw [← calls_complete env₁ workflow standing₁ t₁₁, h₁]
          _ = t₂₁.calls := hlog
          _ = t₂'.calls := by rw [← calls_complete env₂ workflow standing₂ t₂₁, h₂]
      · rw [hsuccess₁, hagree.verdict_eq, hsuccess₂]
      · rw [hreason₁, hagree.verdict_eq, hreason₂]
      · rw [hfailed₁, hagree.verdict_eq, hfailed₂]
      · rw [edges_congr (map_seen_of_map_bare hagree.results_eq), hflow₂] at hflow₁
        exact (Except.ok.inj hflow₁).symm
      · rw [hsteps₁, hagree.results_eq, hsteps₂]

/-! ### A run among failing side channels -/

/-- The errand with nobody around. -/
def lonelyPlan : Rehearsal.Plan :=
  { errandPlan with
    options := { analyzeSteps := false, generateSummary := false }
    audience := .nobody }

/-- The errand among collaborators of whom each fails at what it is asked. -/
def crowdedPlan : Rehearsal.Plan :=
  { errandPlan with
    options := { tracking := { enabled := true, afterEachStep := true } }
    replies := some [.hangs, .raises (.of "RuntimeError" [.text "No quota"])]
    tracker := some { fails := ["set_probe_tools", "take_snapshot", "infer_dependencies"] }
    audience := .brokenFirst }

/-- They make no difference to the errand. -/
theorem sameRun_of_errands : ∃ t₁ t₂ result₁ result₂,
    lonelyPlan.environment.execute errand [] = (t₁, .ok result₁) ∧
      crowdedPlan.environment.execute errand [] = (t₂, .ok result₂) ∧
      t₁.length < t₂.length ∧ SameRun t₁ t₂ result₁ result₂ := by
  have halike : Alike lonelyPlan.environment crowdedPlan.environment :=
    { tools_eq := rfl
      callTimeout_eq := rfl
      client_eq := by
        intro t₁ t₂ h tool args
        show errandPlan.script.client t₁ tool args = errandPlan.script.client t₂ tool args
        rw [Rehearsal.Script.client, h, Rehearsal.Script.client]
      continueOnError_eq := rfl
      requireSuccessfulDependencies_eq := rfl
      cancelled_eq := by
        intro t₁ t₂ h
        show Rehearsal.cancelled errandPlan.script .never t₁ =
          Rehearsal.cancelled errandPlan.script .never t₂
        rw [Rehearsal.cancelled, h, Rehearsal.cancelled]
        rfl }
  have hlonely : ((lonelyPlan.environment.execute errand []).2.toOption.map fun result ↦
      result.steps.length) = some 4 := by
    decide +kernel
  have hcrowded : ((crowdedPlan.environment.execute errand []).2.toOption.map fun result ↦
      result.steps.length) = some 4 := by
    decide +kernel
  have hlength : (lonelyPlan.environment.execute errand []).1.length <
      (crowdedPlan.environment.execute errand []).1.length := by
    decide +kernel
  obtain ⟨t₁, result₁, h₁, -⟩ := Except.exists_eq_ok_of_shows hlonely
  obtain ⟨t₂, result₂, h₂, -⟩ := Except.exists_eq_ok_of_shows hcrowded
  rw [h₁, h₂] at hlength
  exact ⟨t₁, t₂, result₁, result₂, h₁, h₂, hlength, sameRun_of_execute halike rfl h₁ h₂⟩

end Environment

end ToolFlow
