import Mathlib.Data.List.Basic
import ToolFlow.Proofs.Run.Growth

/-!
# Runs that are asked to stop

A request to stop cuts a run off between two steps, and does nothing else (`cutOff_of_execute`). The
run is compared with the one in undisturbed surroundings, where nobody makes the request. The two
have the same start, steps and conclusion: the request is looked at between two steps only. So they
stand before the same steps, down to the traces, until the first step that the undisturbed run
starts late, after the request was made (`Reaches.undisturbed`, `reaches_of_undisturbed`).

The moment of the request can be any: before the run, while anyone is told of progress, during a
call. All that is asked of it is that the request stands (`RequestStands`), as it does in every
rehearsal.

The comparison needs no relation between different traces. Up to the cut the two runs are equal in
everything, so the undisturbed run can be followed in the very terms of the other, and `StartsLate`
names the one step at which they part. Either the undisturbed run comes to no such step, and the
request changes nothing, or it does, and the other run ends its attempts at the boundary before it
with what is on record by then (`undisturbed_or_late_of_ends`).

A step in progress is finished. It is attempted, recorded and commented on, and only then is the
request seen (`exists_ends_of_asked`).
-/

namespace ToolFlow.Environment

variable {env : Environment} {workflow : Workflow} {t₀ : Trace}

variable (env) in
/-- A request to stop is not taken back. -/
def RequestStands : Prop :=
  ∀ ⦃t t' : Trace⦄, t <+: t' → env.cancelled t = true → env.cancelled t' = true

/-! ### Undisturbed surroundings -/

/-- **In undisturbed surroundings the run stands before the same steps**, and before others. -/
theorem Reaches.undisturbed {i : ℕ} {standing : Standing} {t : Trace}
    (h : Reaches env workflow t₀ i standing t) :
    Reaches env.undisturbed workflow t₀ i standing t := by
  induction h with
  | start => exact .start
  | next _ step_eq _ advanced goesOn ih => exact .next ih step_eq rfl advanced goesOn

variable (env workflow t₀) in
/-- In undisturbed surroundings the run starts the step of an index after the request was made. -/
def StartsLate (i : ℕ) : Prop :=
  i < workflow.steps.length ∧
    ∃ standing t, Reaches env.undisturbed workflow t₀ i standing t ∧ env.cancelled t = true

/-- **Before the first late step the run is undisturbed.** -/
theorem reaches_of_undisturbed {i : ℕ} {standing : Standing} {t : Trace}
    (h : Reaches env.undisturbed workflow t₀ i standing t)
    (hearlier : ∀ j < i, ¬StartsLate env workflow t₀ j) : Reaches env workflow t₀ i standing t := by
  induction h with
  | start => exact .start
  | @next i before t _ _ _ _ hbefore step_eq _ advanced goesOn ih =>
    have hreach : Reaches env workflow t₀ i before t :=
      ih fun j hj ↦ hearlier j (Nat.lt_succ_of_lt hj)
    have hgoes : env.cancelled t = false := by
      have hlt : i < workflow.steps.length := (List.getElem?_eq_some_iff.1 step_eq).1
      have hnot := hearlier i (Nat.lt_succ_self i)
      by_contra hasked
      exact hnot ⟨hlt, before, t, hbefore, by simpa using hasked⟩
    exact .next hreach step_eq hgoes advanced goesOn

/-- The attempts of the run end as in undisturbed surroundings, or before a late step. -/
theorem undisturbed_or_late_of_ends {standing : Standing} {t : Trace}
    (h : Ends env workflow t₀ standing t) :
    Ends env.undisturbed workflow t₀ standing t ∨
      ∃ i before, StartsLate env workflow t₀ i ∧
        Reaches env.undisturbed workflow t₀ i before t ∧ standing.results = before.results := by
  cases h with
  | exhausted last => exact .inl (.exhausted last.undisturbed)
  | @stopped i before _ last left asked =>
    exact .inr ⟨i, before, ⟨left, before, t, last.undisturbed, asked⟩, last.undisturbed, rfl⟩
  | failed last step_eq _ advanced ending =>
    exact .inl (.failed last.undisturbed step_eq rfl advanced ending)

/-! ### The step in progress -/

/-- **A step during which the request is made is the last one**, and comes to its result. -/
theorem exists_ends_of_asked {i : ℕ} {step : Step} {standing : Standing} {t t₁ : Trace}
    {r : StepResult} {captured : Tracking.Captured} (hreach : Reaches env workflow t₀ i standing t)
    (hstep : workflow.steps[i]? = some step) (hgoes : env.cancelled t = false)
    (hadv : env.advance workflow i step standing t = (t₁, .ok (r, captured)))
    (hasked : env.cancelled t₁ = true) :
    ∃ last, Ends env workflow t₀ last t₁ ∧ last.results = standing.results ++ [r] := by
  have hlt : i < workflow.steps.length := (List.getElem?_eq_some_iff.1 hstep).1
  by_cases hending : env.endsAfter r = true
  · exact ⟨_, .failed hreach hstep hgoes hadv hending, rfl⟩
  · have hnext : Reaches env workflow t₀ (i + 1) (standing.record r captured) t₁ :=
      .next hreach hstep hgoes hadv (by simpa using hending)
    rcases Nat.lt_or_ge (i + 1) workflow.steps.length with hleft | hdone
    · exact ⟨_, .stopped hnext hleft hasked, rfl⟩
    · have hall : i + 1 = workflow.steps.length := by omega
      exact ⟨_, .exhausted (hall ▸ hnext), rfl⟩

/-! ### The cut -/

variable (env workflow t₀) in
/-- What a request to stop does to a run that comes to a result. -/
structure CutOff (t' : Trace) (result : WorkflowResult) : Prop where
  /-- The calls are the first ones of the undisturbed run, even if that breaks down. -/
  calls_begin : t'.calls <+: (env.undisturbed.execute workflow t₀).1.calls
  /-- The recorded steps are the first ones of the undisturbed run. -/
  steps_begin : ∀ u whole, env.undisturbed.execute workflow t₀ = (u, .ok whole) →
    result.steps <+: whole.steps
  /-- A step that is in progress at the moment of the request is completed and recorded, and right
  after it the run is concluded. -/
  finished : ∀ {i standing t step moment}, Reaches env workflow t₀ i standing t →
    workflow.steps[i]? = some step → env.cancelled t = false →
    moment <+: (env.advance workflow i step standing t).1 → env.cancelled moment = true →
    ∃ t₁ r captured, env.advance workflow i step standing t = (t₁, .ok (r, captured)) ∧
      result.steps = standing.results ++ [r] ∧
      ∃ last, env.complete workflow last t₁ = (t', .ok result)
  /-- When the undisturbed run starts a step late, the run is stopped before the first such step. -/
  stopped : ∀ m, StartsLate env workflow t₀ m → (∀ j < m, ¬StartsLate env workflow t₀ j) →
    result.steps.length = m ∧ result.success = false ∧
      result.failureReason = some s!"Workflow cancelled before step {m + 1}"
  /-- When it starts none late, the request makes no difference. -/
  untouched : (∀ m, ¬StartsLate env workflow t₀ m) →
    env.undisturbed.execute workflow t₀ = (t', .ok result)

/-- **A request to stop cuts a run off, and does nothing else.** -/
theorem cutOff_of_execute {t' : Trace} {result : WorkflowResult} (hstands : env.RequestStands)
    (h : env.execute workflow t₀ = (t', .ok result)) : CutOff env workflow t₀ t' result := by
  obtain ⟨standing, t, hends, hcomplete⟩ := ends_of_execute h
  obtain ⟨-, hsteps, hsuccess, hreason, -⟩ := complete_eq_ok hcomplete
  -- the conclusion of a run does not look at the request
  have hsame : Ends env.undisturbed workflow t₀ standing t →
      env.undisturbed.execute workflow t₀ = (t', .ok result) := fun hundisturbed ↦
    (execute_eq_of_ends hundisturbed).trans hcomplete
  constructor
  · rcases undisturbed_or_late_of_ends hends with hundisturbed | ⟨i, before, -, hreach, -⟩
    · calc t'.calls <+: t'.calls := List.prefix_rfl
        _ = (env.undisturbed.execute workflow t₀).1.calls := by rw [hsame hundisturbed]
    · rw [calls_eq_of_complete hcomplete]
      exact calls_prefix_execute hreach
  · intro u whole hwhole
    rcases undisturbed_or_late_of_ends hends with hundisturbed | ⟨i, before, -, hreach, hbefore⟩
    · obtain ⟨-, rfl⟩ := Except.pair_ok_inj ((hsame hundisturbed).symm.trans hwhole)
      exact List.prefix_rfl
    · obtain ⟨standing', u', hends', hcomplete'⟩ := ends_of_execute hwhole
      obtain ⟨-, hsteps', -⟩ := complete_eq_ok hcomplete'
      rw [hsteps, hsteps', hbefore]
      exact (extends_of_ends hends' hreach).1
  · intro i before t₁ step moment hreach hstep hgoes hmoment hasked
    obtain ⟨t₂, r, captured, hadv, -, -⟩ := record_of_ends hends hreach hstep hgoes
    rw [hadv] at hmoment
    obtain ⟨last, hlast, hresults⟩ :=
      exists_ends_of_asked hreach hstep hgoes hadv (hstands hmoment hasked)
    obtain ⟨rfl, rfl⟩ := hends.unique hlast
    exact ⟨_, r, captured, hadv, by rw [hsteps, hresults], _, hcomplete⟩
  · rintro m ⟨hlt, before, t₁, hlate, hasked⟩ hfirst
    have hreach : Reaches env workflow t₀ m before t₁ := reaches_of_undisturbed hlate hfirst
    obtain ⟨rfl, rfl⟩ := hends.unique (.stopped hreach hlt hasked)
    refine ⟨?_, hsuccess, hreason⟩
    rw [hsteps]
    exact (recorded_of_reaches hreach).length_eq
  · intro hnone
    rcases undisturbed_or_late_of_ends hends with hundisturbed | ⟨i, _, hlate, -, -⟩
    · exact hsame hundisturbed
    · exact absurd hlate (hnone i)

/-! ### Requests in rehearsals -/

/-- What calls did is not undone by further calls. -/
theorem mem_performed_of_isPrefix {script : Rehearsal.Script}
    {calls calls' : List (String × Fields)} (h : calls <+: calls') {behaviour : Rehearsal.Behaviour}
    (hmem : behaviour ∈ script.performed calls) : behaviour ∈ script.performed calls' := by
  obtain ⟨later, rfl⟩ := h
  rw [Rehearsal.Script.performed, List.mem_mapIdx] at hmem ⊢
  obtain ⟨i, hi, rfl⟩ := hmem
  refine ⟨i, by rw [List.length_append]; omega, ?_⟩
  rw [List.getElem_append_left hi, List.take_append_of_le_length (Nat.le_of_lt hi)]

/-- **In a rehearsal a request to stop stands**, whoever made it. -/
theorem requestStands_of_rehearsal (plan : Rehearsal.Plan) : plan.environment.RequestStands := by
  intro t t' h hasked
  have hcases : plan.stopping.made t = true ∨
      (plan.script.performed t.calls).any Rehearsal.Behaviour.cancels = true :=
    Bool.or_eq_true_iff.1 hasked
  refine Bool.or_eq_true_iff.2 (hcases.imp ?_ ?_)
  · intro hmade
    cases hstopping : plan.stopping with
    | never => simp [hstopping, Rehearsal.Stopping.made] at hmade
    | before => rfl
    | onEvent phase index =>
      rw [hstopping, Rehearsal.Stopping.made, List.any_eq_true] at hmade
      rw [Rehearsal.Stopping.made, List.any_eq_true]
      obtain ⟨event, hmem, hevent⟩ := hmade
      exact ⟨event, (h.filterMap _).subset hmem, hevent⟩
  · intro hperformed
    rw [List.any_eq_true] at hperformed ⊢
    obtain ⟨behaviour, hmem, hcancels⟩ := hperformed
    exact ⟨behaviour, mem_performed_of_isPrefix (h.filterMap _) hmem, hcancels⟩

/-! ### An errand that is cut off -/

/-- The errand is asked to stop when its second step is announced. -/
def haltedErrandPlan : Rehearsal.Plan :=
  { errandPlan with stopping := .onEvent .executing 1 }

/-- The second step is completed, and the errand is stopped before the third. -/
theorem cutOff_of_errand : haltedErrandPlan.environment.RequestStands ∧ ∃ t' result,
    haltedErrandPlan.environment.execute errand [] = (t', .ok result) ∧
      result.steps.map (·.error) = [none, some "Permission denied"] ∧
      result.failureReason = some "Workflow cancelled before step 3" ∧
      CutOff haltedErrandPlan.environment errand [] t' result := by
  have hstands := requestStands_of_rehearsal haltedErrandPlan
  have hrun : ((haltedErrandPlan.environment.execute errand []).2.toOption.map fun result ↦
      (result.steps.map (·.error), result.failureReason)) =
        some ([none, some "Permission denied"], some "Workflow cancelled before step 3") := by
    decide +kernel
  obtain ⟨t', result, h, hshown⟩ := Except.exists_eq_ok_of_shows hrun
  obtain ⟨herrors, hreason⟩ := Prod.mk.inj hshown
  exact ⟨hstands, t', result, h, herrors, hreason, cutOff_of_execute hstands h⟩

end ToolFlow.Environment
