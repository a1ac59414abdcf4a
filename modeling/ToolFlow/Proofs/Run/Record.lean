import Mathlib.Data.List.Basic
import ToolFlow.Proofs.Run.Boundary

/-!
# What a run has on record

The invariant of the boundaries of a run. Before step `i` exactly the steps `0, …, i - 1` are on
record, each under its own index and with a sound result, and the verdict is the one that these
results call for (`recorded_of_reaches`). None of them is a failure that ends the run
(`goesOn_of_reaches`). Whatever else the steps of a run keep (`KeptBySteps`) is so at each boundary
and where the attempts end (`Reaches.of_kept`, `Ends.of_kept`).

The verdict is kept by the loop in three variables that change step by step. `Verdict.of` says what
they amount to: the verdict of the first result that is a failure that counts.

The invariant is stated once, as `Recorded`, and its one step is `Recorded.record`. Whoever follows
a run for a purpose of their own uses `KeptBySteps` instead of the induction: they say what holds at
the start, and that a step keeps it, and may rely on the results before the step. Among what is
followed in this way are the log of calls, the events of progress and the landmarks of tracking.
-/

namespace ToolFlow

/-! ### The verdict that results call for -/

/-- The verdict on results: that of the first failure that counts, if there is one. -/
def Verdict.of (results : List StepResult) : Verdict :=
  match results.find? StepResult.isRequiredFailure with
  | none => {}
  | some result =>
    { success := false
      reason := some ((Commentary.nonEmpty? result.error).getD stepFailedText)
      failedStep := some result.index }

/-- **One more result changes the verdict as the loop does.** -/
theorem Verdict.of_append_singleton (results : List StepResult) (result : StepResult) :
    Verdict.of (results ++ [result]) = (Verdict.of results).after result := by
  rcases hfind : results.find? StepResult.isRequiredFailure with _ | first
  · -- no failure so far: the new result decides
    rw [Verdict.of, Verdict.of, List.find?_append, hfind, Option.none_or, List.find?_singleton]
    by_cases hfail : result.isRequiredFailure <;> simp [Verdict.after, hfail]
  · -- the first failure stays the first
    rw [Verdict.of, Verdict.of, List.find?_append, hfind, Option.some_or]
    simp [Verdict.after]

/-- Results after a failure that counts make no difference. -/
theorem Verdict.of_longer {results results' : List StepResult} (h : results <+: results')
    (hfail : ∃ r ∈ results, r.isRequiredFailure = true) :
    Verdict.of results' = Verdict.of results := by
  obtain ⟨later, rfl⟩ := h
  obtain ⟨r, hmem, hr⟩ := hfail
  rcases hfind : results.find? StepResult.isRequiredFailure with _ | first
  · exact absurd hr (List.find?_eq_none.1 hfind r hmem)
  · rw [Verdict.of, Verdict.of, List.find?_append, hfind, Option.some_or]

/-- A failure counts when its step is not optional. -/
theorem StepResult.isRequiredFailure_iff {result : StepResult} :
    result.isRequiredFailure = true ↔ result.success = false ∧ result.step.isOptional = false := by
  simp [StepResult.isRequiredFailure]

/-- What is no failure that counts succeeded, or was optional. -/
theorem StepResult.isRequiredFailure_eq_false_iff {result : StepResult} :
    result.isRequiredFailure = false ↔ result.success = true ∨ result.step.isOptional = true := by
  cases hsuccess : result.success <;> simp [StepResult.isRequiredFailure, hsuccess]

/-- **The verdict is a success exactly when no failure counts.** -/
theorem Verdict.success_of_iff {results : List StepResult} :
    (Verdict.of results).success = true ↔ ∀ r ∈ results, r.isRequiredFailure = false := by
  rcases hfind : results.find? StepResult.isRequiredFailure with _ | first
  · rw [Verdict.of, hfind]
    simpa using hfind
  · rw [Verdict.of, hfind]
    have hmem := List.mem_of_find?_eq_some hfind
    have hfail := List.find?_some hfind
    simp only [Bool.false_eq_true, false_iff, not_forall]
    exact ⟨first, hmem, by simpa using hfail⟩

namespace Environment

variable {env : Environment} {workflow : Workflow} {t₀ : Trace}

/-! ### Records -/

variable (workflow) in
/-- Exactly the first `i` steps are on record, in order, with the verdict they call for. -/
structure Recorded (i : ℕ) (standing : Standing) : Prop where
  length_eq : standing.results.length = i
  sound : ∀ {j : ℕ} {result : StepResult}, standing.results[j]? = some result →
    ∃ step, workflow.steps[j]? = some step ∧ result.Sound step j
  verdict_eq : standing.verdict = Verdict.of standing.results

/-- **The step lemma**: one more sound result keeps the record in order. -/
theorem Recorded.record {i : ℕ} {standing : Standing} {step : Step} {result : StepResult}
    (h : Recorded workflow i standing) (hstep : workflow.steps[i]? = some step)
    (hsound : result.Sound step i) (captured : Tracking.Captured) :
    Recorded workflow (i + 1) (standing.record result captured) where
  length_eq := by simp [Standing.record, h.length_eq]
  sound := by
    intro j result' hj
    rw [Standing.record, List.getElem?_append, h.length_eq] at hj
    -- an earlier result, or the new one at its own index
    split at hj
    · exact h.sound hj
    · obtain ⟨hlt, rfl⟩ := List.getElem?_eq_some_iff.1 hj
      have hji : j = i := by
        simp only [List.length_singleton] at hlt
        omega
      subst hji
      exact ⟨step, hstep, by simpa using hsound⟩
  verdict_eq := by
    rw [Standing.record, Verdict.of_append_singleton, h.verdict_eq]

/-- **At every boundary exactly the earlier steps are on record.** -/
theorem recorded_of_reaches {i : ℕ} {standing : Standing} {t : Trace}
    (h : Reaches env workflow t₀ i standing t) : Recorded workflow i standing := by
  induction h with
  | start => exact ⟨rfl, by simp [start], rfl⟩
  | next _ step_eq _ advanced _ ih => exact ih.record step_eq (sound_of_advance advanced) _

section Invariant

variable {motive : List StepResult → Tracking.Captured → Trace → Prop}

variable (env workflow motive) in
/-- Each step that comes to a result keeps what was so before it. This may speak of the results on
record, of what is captured of the state and of the trace. -/
def KeptBySteps : Prop :=
  ∀ {standing : Standing} {t t' : Trace} {step : Step} {result : StepResult}
    {captured : Tracking.Captured}, motive standing.results standing.captured t →
    workflow.steps[standing.results.length]? = some step →
    env.advance workflow standing.results.length step standing t = (t', .ok (result, captured)) →
    motive (standing.results ++ [result]) captured t'

/-- **What holds at the start of a run and is kept by its steps holds at every boundary.** -/
theorem Reaches.of_kept
    (hstart : motive [] (env.start workflow t₀).2.captured (env.start workflow t₀).1)
    (hkept : KeptBySteps env workflow motive)
    {i : ℕ} {standing : Standing} {t : Trace} (h : Reaches env workflow t₀ i standing t) :
    motive standing.results standing.captured t := by
  induction h with
  | start => exact hstart
  | next before step_eq _ advanced _ ih =>
    obtain rfl := (recorded_of_reaches before).length_eq
    exact hkept ih step_eq advanced

/-- It holds where the attempts end as well. -/
theorem Ends.of_kept
    (hstart : motive [] (env.start workflow t₀).2.captured (env.start workflow t₀).1)
    (hkept : KeptBySteps env workflow motive)
    {standing : Standing} {t : Trace} (h : Ends env workflow t₀ standing t) :
    motive standing.results standing.captured t := by
  cases h with
  | exhausted last => exact last.of_kept hstart hkept
  | @stopped _ before _ last _ _ =>
    show motive before.results before.captured t
    exact last.of_kept hstart hkept
  | failed last step_eq _ advanced _ =>
    obtain rfl := (recorded_of_reaches last).length_eq
    exact hkept (last.of_kept hstart hkept) step_eq advanced

end Invariant

/-- Every result on record stands under its own index. -/
theorem Recorded.index_eq {i : ℕ} {standing : Standing} (h : Recorded workflow i standing) (j : ℕ)
    (r : StepResult) (hj : standing.results[j]? = some r) : r.index = j := by
  obtain ⟨step, -, hr⟩ := h.sound hj
  exact hr.index_eq

/-- No result before a boundary ended the run. -/
theorem goesOn_of_reaches {i : ℕ} {standing : Standing} {t : Trace}
    (h : Reaches env workflow t₀ i standing t) :
    ∀ result ∈ standing.results, env.endsAfter result = false := by
  induction h with
  | start => simp [start]
  | next _ _ _ _ goesOn ih =>
    intro result hmem
    rcases List.mem_append.1 hmem with hmem | hmem
    · exact ih result hmem
    · exact List.mem_singleton.1 hmem ▸ goesOn

/-- Where the attempts end, the steps on record are again the first ones. -/
theorem exists_sound_of_ends {standing : Standing} {t : Trace}
    (h : Ends env workflow t₀ standing t) :
    standing.results.length ≤ workflow.steps.length ∧
      ∀ {j : ℕ} {result : StepResult}, standing.results[j]? = some result →
        ∃ step, workflow.steps[j]? = some step ∧ result.Sound step j := by
  cases h with
  | exhausted last =>
    have hrec := recorded_of_reaches last
    exact ⟨Nat.le_of_eq hrec.length_eq, hrec.sound⟩
  | @stopped i before t last left _ =>
    have hrec := recorded_of_reaches last
    refine ⟨?_, hrec.sound⟩
    show before.results.length ≤ workflow.steps.length
    rw [hrec.length_eq]
    exact Nat.le_of_lt left
  | failed last step_eq _ advanced _ =>
    have hrec := (recorded_of_reaches last).record step_eq (sound_of_advance advanced) ‹_›
    refine ⟨?_, hrec.sound⟩
    rw [hrec.length_eq]
    exact (List.getElem?_eq_some_iff.1 step_eq).1

/-- Each result stands under its own index. -/
theorem index_eq_of_ends {standing : Standing} {t : Trace} (h : Ends env workflow t₀ standing t)
    (j : ℕ) (r : StepResult) (hj : standing.results[j]? = some r) : r.index = j := by
  obtain ⟨step, -, hr⟩ := (exists_sound_of_ends h).2 hj
  exact hr.index_eq

end Environment

end ToolFlow
