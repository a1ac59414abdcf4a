import ToolFlow.Proofs.Arguments
import ToolFlow.Proofs.DataFlow
import ToolFlow.Proofs.Run.Growth

/-!
# The samples of a data flow

The samples at the edges of a data flow are drawn up after the run, from all results; arguments are
resolved in the middle of it, from the results until then. They agree nevertheless
(`flowAgrees_of_execute`): references only point back, results stand under their own indices, and so
no later result changes what a step saw (`Resolution.resolve_take`).

That the tool of a step was called is read off the log of the run. In a run that comes to a result
such a step is on record (`exists_recorded_of_called`), since results are only ever added.

Steps that were not called are in the data flow as well. A step that was refused has no arguments to
agree with, but its edges may show values for those of its expressions that have one. A step that
was never attempted has edges in the same way. What its expressions would have come to is then known
from the results at the end, which are all that there ever will be.
-/

namespace ToolFlow.Environment

variable {env : Environment} {workflow : Workflow} {t₀ : Trace}

/-! ### Steps whose tool was called -/

variable (env workflow t₀) in
/-- The run that starts at `t₀` comes to the step of an index, is not asked to stop before it, and
calls its tool. -/
def Called (i : ℕ) : Prop :=
  ∃ standing t step, Reaches env workflow t₀ i standing t ∧ workflow.steps[i]? = some step ∧
    env.cancelled t = false ∧ (env.advance workflow i step standing t).1.calls ≠ t.calls

/-- **A step whose tool was called is on record**, was callable, and everything before it is on
record as it was then. -/
theorem exists_recorded_of_called {standing' : Standing} {t' : Trace} {i : ℕ}
    (hends : Ends env workflow t₀ standing' t') (hcalled : Called env workflow t₀ i) :
    ∃ step r, workflow.steps[i]? = some step ∧ standing'.results[i]? = some r ∧ r.step = step ∧
      env.isCallable (standing'.results.take i) i step = true := by
  obtain ⟨standing, t, step, hreach, hstep, hgoes, hcalls⟩ := hcalled
  have hlength := (recorded_of_reaches hreach).length_eq
  obtain ⟨t₁, result, captured, hadv, ⟨later, hlater⟩, -⟩ :=
    record_of_ends hends hreach hstep hgoes
  have hresults : standing'.results = standing.results ++ result :: later := by
    rw [← hlater, Standing.record, List.append_assoc, List.singleton_append]
  have htake : standing'.results.take i = standing.results := by
    rw [hresults, ← hlength, List.take_left]
  have hget : standing'.results[i]? = some result := by
    rw [hresults, ← hlength, List.getElem?_append_right (Nat.le_refl _), Nat.sub_self]
    rfl
  refine ⟨step, result, hstep, hget, (sound_of_advance hadv).step_eq, ?_⟩
  rw [htake]
  -- only a callable step makes the log longer
  rw [calls_advance] at hcalls
  by_contra hnot
  exact hcalls (by simp [callFor?, hnot])

/-! ### Samples and arguments -/

variable (env workflow t₀) in
/-- The data flow of a run agrees with what was sent, and shows what could be seen. -/
structure FlowAgrees (result : WorkflowResult) : Prop where
  /-- For each mapped argument of a step whose tool was called there is one edge. It shows the
  value that was sent, or null, when none was there. -/
  sent : ∀ i, Called env workflow t₀ i →
    ∃ step r, workflow.steps[i]? = some step ∧ result.steps[i]? = some r ∧
      ∀ entry ∈ step.mapped, ∃ edge v,
        result.dataFlow.filter (fun edge ↦ edge.slot = (i, entry.1)) = [edge] ∧
        Resolution.resolve (result.steps.take i) entry.2 i = .ok v ∧
        (v.isMissing = false → r.resolvedArgs.get? entry.1 = some v ∧ edge.sample = v) ∧
        (v.isMissing = true → edge.sample = .null)
  /-- Every edge belongs to a mapped argument, and shows what its reference comes to in view of all
  results. -/
  shown : ∀ edge ∈ result.dataFlow, ∃ step entry ref,
    workflow.steps[edge.target]? = some step ∧ entry ∈ step.mapped ∧ edge.parameter = entry.1 ∧
    Path.Reference.parse entry.2 = .ok ref ∧ edge.source = ref.step ∧
    edge.sample = DataFlow.shown (Resolution.resolve result.steps entry.2 edge.target)

/-- **The data flow of a run agrees with what was sent.** -/
theorem flowAgrees_of_execute {t' : Trace} {result : WorkflowResult} (honce : workflow.MapsOnce)
    (h : env.execute workflow t₀ = (t', .ok result)) : FlowAgrees env workflow t₀ result := by
  obtain ⟨standing, t, hends, hcomplete⟩ := ends_of_execute h
  obtain ⟨hflow, hsteps, -⟩ := complete_eq_ok hcomplete
  have hindex := index_eq_of_ends hends
  constructor
  · intro i hcalled
    obtain ⟨step, r, hstep, hr, hsame, hcallable⟩ := exists_recorded_of_called hends hcalled
    have hargs : Resolution.resolveArguments (standing.results.take i) step i =
        .ok r.resolvedArgs := by
      rw [← hsame] at hcallable ⊢
      exact (logged_of_ends hends).args_eq i r hr hcallable
    refine ⟨step, r, hstep, hsteps ▸ hr, fun entry hentry ↦ ?_⟩
    obtain ⟨v, hv⟩ := Resolution.exists_resolveArguments_eq_ok_iff.1 ⟨_, hargs⟩ entry hentry
    obtain ⟨ref, hparse, -⟩ := Resolution.resolve_eq_ok_iff.1 hv
    obtain ⟨edge, honly, hsample⟩ :=
      DataFlow.exists_filter_edges_eq honce hflow hstep hentry hparse
    -- what was seen then is what is seen at the end
    rw [← Resolution.resolve_take hindex, hv] at hsample
    refine ⟨edge, v, honly, by rw [hsteps]; exact hv, fun hpresent ↦ ⟨?_, ?_⟩, fun hmissing ↦ ?_⟩
    · have hnodup := honce step (List.mem_of_getElem? hstep)
      rw [Resolution.get?_of_resolveArguments hargs hnodup hentry hv, if_neg (by simp [hpresent])]
    · simp [hsample, DataFlow.shown, hpresent]
    · simp [hsample, DataFlow.shown, hmissing]
  · rw [hsteps]
    exact fun edge ↦ DataFlow.exists_of_mem_edges hflow

/-- The errand sends the number of the item that it shows; the step that refers to a later one is
not sent anything. -/
theorem flowAgrees_of_errand : errand.MapsOnce ∧ ∃ t' result,
    errandPlan.environment.execute errand [] = (t', .ok result) ∧
      (result.dataFlow.map fun edge ↦ (edge.slot, edge.sample.display)) =
        [((2, "id"), "7"), ((3, "id"), "None")] ∧
      FlowAgrees errandPlan.environment errand [] result := by
  have honce : errand.MapsOnce := by
    unfold Workflow.MapsOnce
    decide
  have hrun : ((errandPlan.environment.execute errand []).2.toOption.map fun result ↦
      result.dataFlow.map fun edge ↦ (edge.slot, edge.sample.display)) =
        some [((2, "id"), "7"), ((3, "id"), "None")] := by
    decide +kernel
  obtain ⟨t', result, h, hsamples⟩ := Except.exists_eq_ok_of_shows hrun
  exact ⟨honce, t', result, h, hsamples, flowAgrees_of_execute honce h⟩

end ToolFlow.Environment
