import Mathlib.Data.List.Basic
import ToolFlow.Proofs.Run.Record
import ToolFlow.Rehearsal.Performance

/-!
# The outcome of a run

A run that comes to a result says of itself exactly what happened: which steps it attempted, which
of them failed, why it ended before the last step if it did, and whether it succeeded
(`outcome_of_execute`).

The three variables of the loop are no part of the statement. That they describe one failure, the
first that counts, rests on `Verdict.of` and on the record at the boundaries; that a run ends early
for two reasons only rests on the three cases of `Ends`.

## Failures that count

An optional step that fails does not make the run fail, does not end it, and is not named as the
failed step. All three go back to `StepResult.isRequiredFailure`, which is spelled out in the
statement, so that it can be read without knowing the loop. A run that goes on after errors may have
several failures that count. The first of them is named, and its error is the reason.

## Requests to stop

Whether a run was asked to stop is not on record, so `StoppedBefore` speaks of the boundary at which
the request was seen. A run may be asked to stop and succeed: when the request comes during the last
step there is no boundary left at which it could be seen. The surroundings without any request are
`undisturbed`, which later modules compare with.
-/

namespace ToolFlow.Environment

variable {env : Environment} {workflow : Workflow} {t₀ : Trace}

variable (env workflow t₀) in
/-- The run was asked to stop, and saw it at the boundary before the step of an index. -/
def StoppedBefore (i : ℕ) : Prop :=
  i < workflow.steps.length ∧
    ∃ standing t, Reaches env workflow t₀ i standing t ∧ env.cancelled t = true

/-- The same surroundings, with nobody who asks a run to stop. -/
def undisturbed (env : Environment) : Environment :=
  { env with cancelled := fun _ ↦ false }

variable (env workflow t₀) in
/-- What the result of a run says of the run. -/
structure Outcome (result : WorkflowResult) : Prop where
  /-- The recorded steps are the first ones of the workflow, each under its own index. -/
  steps_are : result.steps.length ≤ workflow.steps.length ∧
    ∀ (i : ℕ) (r : StepResult), result.steps[i]? = some r →
      r.index = i ∧ workflow.steps[i]? = some r.step
  /-- A step succeeded exactly when it has no error, and a failed one has an error with a text. -/
  errors_are : ∀ r ∈ result.steps, (r.success = true ↔ r.error = none) ∧
    (r.success = false → ∃ error, r.error = some error ∧ error ≠ "")
  /-- Only the last step can be a failure that ends the run. -/
  tolerated : ∀ r ∈ result.steps.dropLast,
    r.success = true ∨ r.step.isOptional = true ∨ env.options.continueOnError = true
  /-- A run ends early when it sees the request to stop or its last step ends it. -/
  early : result.steps.length < workflow.steps.length →
    StoppedBefore env workflow t₀ result.steps.length ∨
      ∃ r, result.steps.getLast? = some r ∧ r.success = false ∧ r.step.isOptional = false ∧
        env.options.continueOnError = false
  /-- It succeeded exactly when it was not stopped and every step that has to succeed did. -/
  success_iff : result.success = true ↔
    ¬StoppedBefore env workflow t₀ result.steps.length ∧
      ∀ r ∈ result.steps, r.step.isOptional = false → r.success = true
  /-- The failed step it names is the first one that failed and had to succeed. -/
  failedStep_iff : ∀ k, result.failedStep = some k ↔
    (∃ r, result.steps[k]? = some r ∧ r.success = false ∧ r.step.isOptional = false) ∧
      ∀ j < k, ∀ r, result.steps[j]? = some r → r.success = true ∨ r.step.isOptional = true
  /-- It names none when there is none. -/
  failedStep_eq_none_iff : result.failedStep = none ↔
    ∀ r ∈ result.steps, r.success = true ∨ r.step.isOptional = true

/-! ### The failed step -/

/-- The verdict on results under their own indices names the first failure that counts. -/
theorem failedStep_of_iff {results : List StepResult}
    (hindex : ∀ (i : ℕ) (r : StepResult), results[i]? = some r → r.index = i) (k : ℕ) :
    (Verdict.of results).failedStep = some k ↔
      (∃ r, results[k]? = some r ∧ r.isRequiredFailure = true) ∧
        ∀ j < k, ∀ r, results[j]? = some r → r.isRequiredFailure = false := by
  rcases hfind : results.find? StepResult.isRequiredFailure with _ | first
  · rw [Verdict.of, hfind]
    simp only [reduceCtorEq, false_iff, not_and]
    rintro ⟨r, hr, hfail⟩
    exact absurd hfail (List.find?_eq_none.1 hfind r (List.mem_of_getElem? hr))
  · obtain ⟨hfail, i, hi, rfl, hbefore⟩ := List.find?_eq_some_iff_getElem.1 hfind
    have hat : results[i]? = some results[i] := List.getElem?_eq_getElem hi
    have hbefore' : ∀ j < i, ∀ r, results[j]? = some r → r.isRequiredFailure = false := by
      intro j hj r hr
      obtain ⟨hlt, rfl⟩ := List.getElem?_eq_some_iff.1 hr
      simpa using hbefore j hj
    rw [Verdict.of, hfind]
    simp only [Option.some.injEq, hindex i _ hat]
    constructor
    · rintro rfl
      exact ⟨⟨_, hat, hfail⟩, hbefore'⟩
    · rintro ⟨⟨r, hr, hfail'⟩, hleast⟩
      -- neither index can be below the other: both are first
      rcases Nat.lt_trichotomy i k with hlt | heq | hgt
      · exact absurd hfail (by simp [hleast i hlt _ hat])
      · exact heq
      · exact absurd hfail' (by simp [hbefore' k hgt r hr])

/-- No step is named as failed exactly when no failure counts. -/
theorem failedStep_of_eq_none_iff {results : List StepResult} :
    (Verdict.of results).failedStep = none ↔ ∀ r ∈ results, r.isRequiredFailure = false := by
  rw [← Verdict.success_of_iff, Verdict.of]
  split <;> simp

/-! ### The end of the attempts -/

/-- **The verdict at the end** is the one that the results on record call for, unless the run was
asked to stop before the next step. -/
theorem verdict_of_ends {standing : Standing} {t : Trace} (h : Ends env workflow t₀ standing t) :
    (¬StoppedBefore env workflow t₀ standing.results.length ∧
        standing.verdict = Verdict.of standing.results) ∨
      StoppedBefore env workflow t₀ standing.results.length ∧
        standing.verdict =
          (Verdict.of standing.results).cancelledBefore standing.results.length := by
  cases h with
  | exhausted last =>
    have hrec := recorded_of_reaches last
    refine Or.inl ⟨fun hstop ↦ ?_, hrec.verdict_eq⟩
    have hlen := hrec.length_eq
    exact absurd hstop.1 (by omega)
  | @stopped i before t last left asked =>
    have hrec := recorded_of_reaches last
    have hlen : (before.stoppedBefore i).results.length = i := hrec.length_eq
    rw [hlen]
    refine Or.inr ⟨⟨left, before, t, last, asked⟩, ?_⟩
    show before.verdict.cancelledBefore i = (Verdict.of before.results).cancelledBefore i
    rw [hrec.verdict_eq]
  | @failed i before t t' step result captured last step_eq _ advanced ending =>
    have hrec := (recorded_of_reaches last).record step_eq (sound_of_advance advanced) captured
    refine Or.inl ⟨?_, hrec.verdict_eq⟩
    rw [hrec.length_eq]
    -- a run that goes on after step `i` would not have ended with it
    rintro ⟨-, standing', t'', hreach, -⟩
    cases hreach with
    | next before' step_eq' _ advanced' goesOn =>
      obtain ⟨rfl, rfl⟩ := last.unique before'
      obtain rfl := Option.some.inj (step_eq.symm.trans step_eq')
      obtain ⟨-, hrecorded⟩ := Except.pair_ok_inj (advanced.symm.trans advanced')
      rw [(Prod.mk.inj hrecorded).1, goesOn] at ending
      simp at ending

/-- When nobody asks the run to stop, it is that of the results. -/
theorem verdict_of_ends_of_unasked {standing : Standing} {t : Trace}
    (hunasked : ∀ t, env.cancelled t = false) (h : Ends env workflow t₀ standing t) :
    standing.verdict = Verdict.of standing.results := by
  rcases verdict_of_ends h with ⟨-, hverdict⟩ | ⟨⟨-, _, t', -, hasked⟩, -⟩
  · exact hverdict
  · simp [hunasked t'] at hasked

/-- A request to stop changes neither the record nor which step is named as failed. -/
theorem failedStep_of_ends {standing : Standing} {t : Trace}
    (h : Ends env workflow t₀ standing t) :
    standing.verdict.failedStep = (Verdict.of standing.results).failedStep := by
  rcases verdict_of_ends h with ⟨-, hverdict⟩ | ⟨-, hverdict⟩
  · rw [hverdict]
  · rw [hverdict, Verdict.cancelledBefore]

/-- Only the last step on record can have ended the run. -/
theorem goesOn_of_ends {standing : Standing} {t : Trace} (h : Ends env workflow t₀ standing t) :
    ∀ r ∈ standing.results.dropLast, env.endsAfter r = false := by
  cases h with
  | exhausted last => exact fun r hr ↦ goesOn_of_reaches last r (List.dropLast_subset _ hr)
  | stopped last _ _ => exact fun r hr ↦ goesOn_of_reaches last r (List.dropLast_subset _ hr)
  | failed last _ _ _ _ =>
    intro r hr
    rw [Standing.record, List.dropLast_concat] at hr
    exact goesOn_of_reaches last r hr

/-- **A run ends early for one of two reasons.** -/
theorem early_of_ends {standing : Standing} {t : Trace} (h : Ends env workflow t₀ standing t)
    (hlt : standing.results.length < workflow.steps.length) :
    StoppedBefore env workflow t₀ standing.results.length ∨
      ∃ r, standing.results.getLast? = some r ∧ env.endsAfter r = true := by
  cases h with
  | exhausted last =>
    have hlen := (recorded_of_reaches last).length_eq
    omega
  | @stopped i before t last left asked =>
    have hlen : (before.stoppedBefore i).results.length = i := (recorded_of_reaches last).length_eq
    rw [hlen]
    exact Or.inl ⟨left, before, t, last, asked⟩
  | failed last _ _ _ ending =>
    exact Or.inr ⟨_, List.getLast?_concat, ending⟩

/-- **A run succeeds exactly when nothing stopped it and nothing that counts failed.** -/
theorem success_of_ends_iff {standing : Standing} {t : Trace}
    (h : Ends env workflow t₀ standing t) :
    standing.verdict.success = true ↔
      ¬StoppedBefore env workflow t₀ standing.results.length ∧
        ∀ r ∈ standing.results, r.isRequiredFailure = false := by
  rcases verdict_of_ends h with ⟨hnot, hverdict⟩ | ⟨hstop, hverdict⟩
  · rw [hverdict, Verdict.success_of_iff]
    exact ⟨fun hall ↦ ⟨hnot, hall⟩, fun hboth ↦ hboth.2⟩
  · rw [hverdict, Verdict.cancelledBefore]
    simp [hstop]

/-! ### The outcome -/

/-- **What a run says of itself is what happened.** -/
theorem outcome_of_execute {t' : Trace} {result : WorkflowResult}
    (h : env.execute workflow t₀ = (t', .ok result)) : Outcome env workflow t₀ result := by
  obtain ⟨standing, t, hends, hcomplete⟩ := ends_of_execute h
  obtain ⟨-, hsteps, hsuccess, -, hfailed⟩ := complete_eq_ok hcomplete
  obtain ⟨hlength, hsound⟩ := exists_sound_of_ends hends
  constructor
  · rw [hsteps]
    refine ⟨hlength, fun i r hr ↦ ?_⟩
    obtain ⟨step, hstep, hr⟩ := hsound hr
    exact ⟨hr.index_eq, hr.step_eq ▸ hstep⟩
  · rw [hsteps]
    intro r hmem
    obtain ⟨i, hi⟩ := List.getElem?_of_mem hmem
    obtain ⟨step, -, hr⟩ := hsound hi
    refine ⟨hr.success_iff, fun hfail ↦ ?_⟩
    rcases herror : r.error with _ | error
    · exact absurd (hr.success_iff.2 herror) (by simp [hfail])
    · exact ⟨error, rfl, fun hempty ↦ hr.error_ne (hempty ▸ herror)⟩
  · rw [hsteps]
    intro r hmem
    have hgoesOn := goesOn_of_ends hends r hmem
    simp only [endsAfter, Bool.and_eq_false_iff, StepResult.isRequiredFailure_eq_false_iff,
      Bool.not_eq_false'] at hgoesOn
    exact or_assoc.1 hgoesOn
  · rw [hsteps]
    intro hlt
    rcases early_of_ends hends hlt with hstop | ⟨r, hlast, hending⟩
    · exact Or.inl hstop
    · simp only [endsAfter, Bool.and_eq_true, StepResult.isRequiredFailure_iff,
        Bool.not_eq_true'] at hending
      exact Or.inr ⟨r, hlast, hending.1.1, hending.1.2, hending.2⟩
  · rw [hsuccess, hsteps, success_of_ends_iff hends]
    refine and_congr_right fun _ ↦ forall₂_congr fun r _ ↦ ?_
    rw [StepResult.isRequiredFailure_eq_false_iff]
    cases r.step.isOptional <;> simp
  · intro k
    rw [hfailed, hsteps, failedStep_of_ends hends, failedStep_of_iff (index_eq_of_ends hends)]
    simp only [StepResult.isRequiredFailure_iff, StepResult.isRequiredFailure_eq_false_iff]
  · rw [hfailed, hsteps, failedStep_of_ends hends, failedStep_of_eq_none_iff]
    simp only [StepResult.isRequiredFailure_eq_false_iff]

/-! ### A run that fails -/

/-- An item is created, a second one cannot be deleted, which does not matter, and the first one is
shown. Then the run asks for a value of a step that is still to come. -/
def errand : Workflow where
  id := "errand"
  name := "Errand"
  steps := [
    { tool := "create", description := "Create an item" },
    { tool := "delete", description := "Delete another", isOptional := true },
    { tool := "show", args := [("verbose", .bool true)]
      mapping := some [("id", "$steps[0].result.id")] },
    { tool := "show", mapping := some [("id", "$steps[4].result.id")] },
    { tool := "create", description := "Create a further item" }]

/-- Tools for the errand: creation answers with a name, deletion is refused, and showing an item
repeats what is asked. -/
def errandPlan : Rehearsal.Plan where
  script := [
    ("create", [{ deed := .speaks "\x7b\"id\": 7\x7d" (.bool false) }]),
    ("delete", [{ deed := .speaks "Permission denied" (.bool true) }]),
    ("show", [{ deed := .echoes }])]
  tools := ["create", "delete", "show"]
  options := {}

/-- The errand ends with its fourth step, and its outcome says so. -/
theorem outcome_of_errand : ∃ t' result,
    errandPlan.environment.execute errand [] = (t', .ok result) ∧ result.steps.length = 4 ∧
      result.failedStep = some 3 ∧ Outcome errandPlan.environment errand [] result := by
  have hrun : ((errandPlan.environment.execute errand []).2.toOption.map fun result ↦
      (result.steps.length, result.failedStep)) = some (4, some 3) := by
    decide +kernel
  obtain ⟨t', result, h, hshown⟩ := Except.exists_eq_ok_of_shows hrun
  obtain ⟨hlength, hfailed⟩ := Prod.mk.inj hshown
  exact ⟨t', result, h, hlength, hfailed, outcome_of_execute h⟩

end ToolFlow.Environment
