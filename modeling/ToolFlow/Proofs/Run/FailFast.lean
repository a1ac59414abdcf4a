import Mathlib.Data.List.Basic
import ToolFlow.Proofs.DataFlow
import ToolFlow.Proofs.Run.Independence

/-!
# Runs that go on after errors

A run that ends with its first failure is where a run that goes on after errors begins
(`beginning_of_execute`). The longer run follows the shorter one, so it records and calls first what
the shorter one records and calls. It comes to the same verdict, because the first failure decides:
when the shorter run is really shorter, it ends with one (`same_or_failed_of_ends`), and nothing
that is recorded later changes the verdict (`Verdict.of_longer`).

The data flow has the same edges in both runs. Those into steps up to the failed one show the same
values, since references point back and the steps before the failed one are on record in both.

Later edges may well differ: the longer run has values for them where the shorter has none. This is
the only way in which the data flows differ, and `Edge.SameUpTo` says so. Comments are left out of
the comparison, and with them the summary and the durations; an analysis in one of the runs may be
worded in any way, since no later step depends on it (`StepResult.bare`).
-/

namespace ToolFlow

/-! ### Verdicts and bare results -/

/-- A verdict does not depend on comments. -/
theorem Verdict.of_map_bare (results : List StepResult) :
    Verdict.of (results.map StepResult.bare) = Verdict.of results := by
  rw [Verdict.of, Verdict.of, find?_isRequiredFailure_map StepResult.bare fun _ ↦ rfl]
  cases results.find? StepResult.isRequiredFailure <;> rfl

/-- What a step sees of the shorter of two records, it sees of the longer one. -/
theorem map_seen_take_of_shorter {results₁ results₂ : List StepResult}
    (h : results₁.map StepResult.bare <+: results₂.map StepResult.bare) {i : ℕ}
    (hi : i ≤ results₁.length) :
    (results₁.take i).map Resolution.seen = (results₂.take i).map Resolution.seen := by
  have htake : (results₁.take i).map StepResult.bare = (results₂.take i).map StepResult.bare := by
    rw [List.map_take, List.map_take, List.prefix_iff_eq_take.1 h, List.take_take, List.length_map,
      Nat.min_eq_left hi]
  exact map_seen_of_map_bare htake

/-! ### Edges up to a step -/

/-- Two edges that are the same but for their samples, and have the same samples unless their target
comes after a failed step. -/
structure Edge.SameUpTo (failedStep : Option ℕ) (edge₁ edge₂ : Edge) : Prop where
  source_eq : edge₁.source = edge₂.source
  target_eq : edge₁.target = edge₂.target
  sourcePath_eq : edge₁.sourcePath = edge₂.sourcePath
  parameter_eq : edge₁.parameter = edge₂.parameter
  sample_eq : (∀ k, failedStep = some k → edge₁.target ≤ k) → edge₁.sample = edge₂.sample

namespace Environment

variable {env₁ env₂ : Environment} {workflow : Workflow} {t₀₁ t₀₂ : Trace}

/-! ### A run that ends sooner -/

/-- Of two runs among the same tools that nobody asks to stop, the first ends with a failure that
counts, and the second goes on. -/
structure EndsSooner (env₁ env₂ : Environment) : Prop extends SameTools env₁ env₂ where
  requireSuccessfulDependencies_eq :
    env₁.options.requireSuccessfulDependencies = env₂.options.requireSuccessfulDependencies
  ends : env₁.options.continueOnError = false
  goesOn : env₂.options.continueOnError = true
  unasked₁ : ∀ t, env₁.cancelled t = false
  unasked₂ : ∀ t, env₂.cancelled t = false

/-- The run that goes on follows the one that ends sooner, and need not be followed by it. -/
theorem EndsSooner.follows (h : EndsSooner env₁ env₂) : Follows StepResult.bare env₁ env₂ :=
  h.follows_bare h.requireSuccessfulDependencies_eq (fun _ _ ↦ h.unasked₂ _) fun _ ↦ h.goesOn

section Records

variable {standing₁ standing₂ : Standing} {t₁ t₂ : Trace}

/-- **Both runs record the same, or the first comes upon a failure that counts.** -/
theorem EndsSooner.same_or_failed_of_ends (h : EndsSooner env₁ env₂)
    (hends₁ : Ends env₁ workflow t₀₁ standing₁ t₁) (hends₂ : Ends env₂ workflow t₀₂ standing₂ t₂)
    (hbegins : standing₁.results.map StepResult.bare <+: standing₂.results.map StepResult.bare) :
    standing₁.results.map StepResult.bare = standing₂.results.map StepResult.bare ∨
      ∃ r ∈ standing₁.results, r.isRequiredFailure = true := by
  by_cases hearly : standing₁.results.length < workflow.steps.length
  · right
    rcases early_of_ends hends₁ hearly with ⟨-, _, t, -, hasked⟩ | ⟨r, hlast, hending⟩
    · simp [h.unasked₁ t] at hasked
    · rw [endsAfter, Bool.and_eq_true] at hending
      exact ⟨r, List.mem_of_getLast? hlast, hending.1⟩
  · left
    have hlength₂ := (exists_sound_of_ends hends₂).1
    refine hbegins.eq_of_length_le ?_
    rw [List.length_map, List.length_map]
    omega

variable (hbegins : standing₁.results.map StepResult.bare <+: standing₂.results.map StepResult.bare)
  (hcases : standing₁.results.map StepResult.bare = standing₂.results.map StepResult.bare ∨
    ∃ r ∈ standing₁.results, r.isRequiredFailure = true)

include hbegins hcases

/-- So the records call for the same verdict. -/
theorem verdict_of_eq_of_same_or_failed :
    Verdict.of standing₁.results = Verdict.of standing₂.results := by
  rw [← Verdict.of_map_bare standing₁.results, ← Verdict.of_map_bare standing₂.results]
  rcases hcases with hsame | ⟨r, hmem, hfail⟩
  · rw [hsame]
  · exact (Verdict.of_longer hbegins ⟨r.bare, List.mem_map_of_mem hmem, hfail⟩).symm

/-- And a step that does not come after the failed one sees the same in both. -/
theorem map_seen_take_of_same_or_failed
    (hindex : ∀ (i : ℕ) (r : StepResult), standing₁.results[i]? = some r → r.index = i) {i : ℕ}
    (hi : ∀ k, (Verdict.of standing₁.results).failedStep = some k → i ≤ k) :
    (standing₁.results.take i).map Resolution.seen =
      (standing₂.results.take i).map Resolution.seen := by
  rcases hcases with hsame | ⟨r, hmem, hfail⟩
  · rw [List.map_take, List.map_take, map_seen_of_map_bare hsame]
  · rcases hfailed : (Verdict.of standing₁.results).failedStep with _ | k
    · exact absurd hfail (by simp [failedStep_of_eq_none_iff.1 hfailed r hmem])
    · obtain ⟨⟨first, hfirst, -⟩, -⟩ := (failedStep_of_iff hindex k).1 hfailed
      have hk : k < standing₁.results.length := (List.getElem?_eq_some_iff.1 hfirst).1
      have hik : i ≤ k := hi k hfailed
      exact map_seen_take_of_shorter hbegins (Nat.le_of_lt (Nat.lt_of_le_of_lt hik hk))

end Records

/-! ### Whole runs -/

/-- The first of two runs is where the second begins, and it comes to the same verdict. -/
structure Beginning (t₁ t₂ : Trace) (result₁ result₂ : WorkflowResult) : Prop where
  steps_begin : result₁.steps.map StepResult.bare <+: result₂.steps.map StepResult.bare
  calls_begin : t₁.calls <+: t₂.calls
  success_eq : result₁.success = result₂.success
  failureReason_eq : result₁.failureReason = result₂.failureReason
  failedStep_eq : result₁.failedStep = result₂.failedStep
  /-- The edges are the same, and show the same up to the failed step. -/
  dataFlow_same : List.Forall₂ (Edge.SameUpTo result₁.failedStep) result₁.dataFlow result₂.dataFlow

/-- **A run that ends with its first failure is where a run that goes on begins.** -/
theorem beginning_of_execute (h : EndsSooner env₁ env₂) {t₁ t₂ t₁' t₂' : Trace}
    {result₁ result₂ : WorkflowResult} (hcalls : t₁.calls = t₂.calls)
    (h₁ : env₁.execute workflow t₁ = (t₁', .ok result₁))
    (h₂ : env₂.execute workflow t₂ = (t₂', .ok result₂)) :
    Beginning t₁' t₂' result₁ result₂ := by
  obtain ⟨standing₁, t₁₁, hends₁, hcomplete₁⟩ := ends_of_execute h₁
  obtain ⟨standing₂, t₂₁, hends₂, hcomplete₂⟩ := ends_of_execute h₂
  obtain ⟨hflow₁, hsteps₁, hsuccess₁, hreason₁, hfailed₁⟩ := complete_eq_ok hcomplete₁
  obtain ⟨hflow₂, hsteps₂, hsuccess₂, hreason₂, hfailed₂⟩ := complete_eq_ok hcomplete₂
  obtain ⟨hbegins, hlog⟩ := h.follows.prefix_of_ends hcalls hends₁ hends₂
  have hcases := h.same_or_failed_of_ends hends₁ hends₂ hbegins
  have hverdict₁ := verdict_of_ends_of_unasked h.unasked₁ hends₁
  have hverdict : standing₁.verdict = standing₂.verdict := by
    rw [hverdict₁, verdict_of_ends_of_unasked h.unasked₂ hends₂,
      verdict_of_eq_of_same_or_failed hbegins hcases]
  constructor
  · rw [hsteps₁, hsteps₂]
    exact hbegins
  · calc t₁'.calls = t₁₁.calls := calls_eq_of_complete hcomplete₁
      _ <+: t₂₁.calls := hlog
      _ = t₂'.calls := (calls_eq_of_complete hcomplete₂).symm
  · rw [hsuccess₁, hverdict, hsuccess₂]
  · rw [hreason₁, hverdict, hreason₂]
  · rw [hfailed₁, hverdict, hfailed₂]
  · refine DataFlow.forall₂_edges hflow₁ hflow₂ fun edge expression ↦ ⟨rfl, rfl, rfl, rfl, ?_⟩
    -- up to the failed step, later results do not matter, and earlier ones are seen alike
    intro htarget
    rw [hfailed₁, hverdict₁] at htarget
    have hseen := map_seen_take_of_same_or_failed hbegins hcases (index_eq_of_ends hends₁) htarget
    have hresolve : Resolution.resolve standing₁.results expression edge.target =
        Resolution.resolve standing₂.results expression edge.target := by
      rw [← Resolution.resolve_take (index_eq_of_ends hends₁),
        ← Resolution.resolve_take (index_eq_of_ends hends₂), Resolution.resolve_congr hseen]
    exact congrArg DataFlow.shown hresolve

/-! ### A run with a setback -/

/-- An item cannot be deleted. After that another one is to be created and shown. -/
def setback : Workflow where
  id := "setback"
  name := "Setback"
  steps := [
    { tool := "create", description := "Create an item" },
    { tool := "delete", description := "Delete another" },
    { tool := "create", description := "Create a further item" },
    { tool := "show", mapping := some [("id", "$steps[2].result.id")] }]

/-- The tools of the errand in a run that goes on after errors. -/
def persistentPlan : Rehearsal.Plan :=
  { errandPlan with options := { continueOnError := true } }

/-- The run that goes on shows the further item, the other one has none to show. -/
theorem beginning_of_setbacks : ∃ t₁ t₂ result₁ result₂,
    errandPlan.environment.undisturbed.execute setback [] = (t₁, .ok result₁) ∧
      persistentPlan.environment.undisturbed.execute setback [] = (t₂, .ok result₂) ∧
      (result₁.steps.length, result₁.dataFlow.map (·.sample.display)) = (2, ["None"]) ∧
      (result₂.steps.length, result₂.dataFlow.map (·.sample.display)) = (4, ["7"]) ∧
      Beginning t₁ t₂ result₁ result₂ := by
  have htools : SameTools errandPlan.environment persistentPlan.environment :=
    sameTools_of_rehearsals rfl rfl rfl
  have hsooner : EndsSooner errandPlan.environment.undisturbed
      persistentPlan.environment.undisturbed :=
    { tools_eq := htools.tools_eq
      callTimeout_eq := htools.callTimeout_eq
      client_eq := htools.client_eq
      requireSuccessfulDependencies_eq := rfl
      ends := rfl
      goesOn := rfl
      unasked₁ := fun _ ↦ rfl
      unasked₂ := fun _ ↦ rfl }
  have hfirst : ((errandPlan.environment.undisturbed.execute setback []).2.toOption.map fun result ↦
      (result.steps.length, result.dataFlow.map (·.sample.display))) = some (2, ["None"]) := by
    decide +kernel
  have hsecond :
      ((persistentPlan.environment.undisturbed.execute setback []).2.toOption.map fun result ↦
        (result.steps.length, result.dataFlow.map (·.sample.display))) = some (4, ["7"]) := by
    decide +kernel
  obtain ⟨t₁, result₁, h₁, hshown₁⟩ := Except.exists_eq_ok_of_shows hfirst
  obtain ⟨t₂, result₂, h₂, hshown₂⟩ := Except.exists_eq_ok_of_shows hsecond
  exact ⟨t₁, t₂, result₁, result₂, h₁, h₂, hshown₁, hshown₂,
    beginning_of_execute hsooner rfl h₁ h₂⟩

end Environment

end ToolFlow
