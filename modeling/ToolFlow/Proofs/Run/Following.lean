import Mathlib.Data.List.Basic
import ToolFlow.Proofs.Run.Growth

/-!
# Runs that follow one another

Two runs of one workflow side by side, in surroundings that need not be the same. `Follows view`
says what the second has to share with the first for going wherever the first goes, as far as the
logs of calls and a view of results show: what a single attempt comes to, and that it is neither
asked to stop nor ended by a failure where the first is not. No more than the attempts and the two
tests of the loop enter into it, and the relation need not hold the other way round.

* `Follows.exists_reaches`: the second run stands before every step before which the first stands,
  with results of the same view and the same calls. This is by induction on the boundaries of the
  first run; the second is only known not to break down.
* `Follows.prefix_of_ends`: so what the first run has recorded and called at its end is what the
  second recorded and called first. When they follow one another, they recorded and called the
  same.
-/

namespace ToolFlow

/-- What a view of results keeps is equal when the views are. -/
theorem map_eq_of_map_view {β : Type} {view : StepResult → StepResult} {f : StepResult → β}
    {results₁ results₂ : List StepResult} (h : results₁.map view = results₂.map view)
    (hkeeps : ∀ r, f (view r) = f r) : results₁.map f = results₂.map f := by
  have hmap : ∀ results : List StepResult, (results.map view).map f = results.map f :=
    fun results ↦ by
      rw [List.map_map]
      exact List.map_congr_left fun r _ ↦ hkeeps r
  rw [← hmap results₁, h, hmap]

/-- The first failure that counts is found in a view that keeps which results are such. -/
theorem find?_isRequiredFailure_map (view : StepResult → StepResult)
    (hkeeps : ∀ r, (view r).isRequiredFailure = r.isRequiredFailure) (results : List StepResult) :
    (results.map view).find? StepResult.isRequiredFailure =
      (results.find? StepResult.isRequiredFailure).map view := by
  have hsame : StepResult.isRequiredFailure ∘ view = StepResult.isRequiredFailure := funext hkeeps
  rw [List.find?_map, hsame]

/-- Results of one view added to records of one view. -/
theorem Standing.map_results_record {α : Type} {view : StepResult → α}
    {standing₁ standing₂ : Standing} {r₁ r₂ : StepResult}
    (hresults : standing₁.results.map view = standing₂.results.map view) (hr : view r₁ = view r₂)
    (captured₁ captured₂ : Tracking.Captured) :
    (standing₁.record r₁ captured₁).results.map view =
      (standing₂.record r₂ captured₂).results.map view := by
  simp [Standing.record, hresults, hr]

namespace Environment

variable {env env₁ env₂ : Environment} {workflow : Workflow} {t₀₁ t₀₂ : Trace}

/-! ### One step -/

/-- The calls of a step are those of its attempt. -/
theorem exists_attempt_of_advance_calls {i : ℕ} {step : Step} {standing : Standing} {t t' : Trace}
    {result : StepResult} {captured : Tracking.Captured}
    (h : env.advance workflow i step standing t = (t', .ok (result, captured))) :
    ∃ t₁ attempted analysis,
      env.attempt standing.results i step
        (env.announcePhase workflow .executing i (some step) standing.results t) =
          (t₁, .ok attempted) ∧
      result = { attempted with analysis } ∧ t'.calls = t₁.calls := by
  obtain ⟨t₁, t₂, attempted, hattempt, hsession, hanalyze⟩ := advance_eq_ok h
  obtain ⟨analysis, rfl⟩ := analyze_eq_ok hanalyze
  refine ⟨t₁, attempted, analysis, hattempt, rfl, ?_⟩
  calc t'.calls = (env.analyze workflow standing.results attempted t₂).1.calls := by rw [hanalyze]
    _ = t₂.calls := env.calls_analyze ..
    _ = (env.withSession (fun s ↦ s.afterStep i) standing.captured t₁).1.calls := by rw [hsession]
    _ = t₁.calls := env.calls_withSession_afterStep ..

/-- What the second of two runs shares with the first, so as to follow it. -/
structure Follows {α : Type} (view : StepResult → α) (env₁ env₂ : Environment) : Prop where
  /-- Comments are no part of the view. -/
  view_comment : ∀ (result : StepResult) (analysis : Option String),
    view { result with analysis } = view result
  /-- Attempts after the same calls and results of one view come to results of one view. -/
  attempt : ∀ {results₁ results₂ : List StepResult} {i : ℕ} {step : Step}
    {t₁ t₂ t₁' t₂' : Trace} {r₁ r₂ : StepResult},
    results₁.map view = results₂.map view → t₁.calls = t₂.calls →
    env₁.attempt results₁ i step t₁ = (t₁', .ok r₁) →
    env₂.attempt results₂ i step t₂ = (t₂', .ok r₂) → view r₁ = view r₂ ∧ t₁'.calls = t₂'.calls
  /-- The second run is not asked to stop where the first is not. -/
  goes : ∀ {t₁ t₂ : Trace}, t₁.calls = t₂.calls →
    env₁.cancelled t₁ = false → env₂.cancelled t₂ = false
  /-- It does not end with a result with which the first does not. -/
  goesOn : ∀ {r₁ r₂ : StepResult}, view r₁ = view r₂ →
    env₁.endsAfter r₁ = false → env₂.endsAfter r₂ = false

namespace Follows

variable {α : Type} {view : StepResult → α}

/-- **The step lemma**: a step of both runs keeps them together. -/
theorem advance (h : Follows view env₁ env₂) {i : ℕ} {step : Step} {standing₁ standing₂ : Standing}
    {t₁ t₂ t₁' t₂' : Trace} {r₁ r₂ : StepResult} {captured₁ captured₂ : Tracking.Captured}
    (hview : standing₁.results.map view = standing₂.results.map view)
    (hcalls : t₁.calls = t₂.calls)
    (h₁ : env₁.advance workflow i step standing₁ t₁ = (t₁', .ok (r₁, captured₁)))
    (h₂ : env₂.advance workflow i step standing₂ t₂ = (t₂', .ok (r₂, captured₂))) :
    view r₁ = view r₂ ∧ t₁'.calls = t₂'.calls := by
  obtain ⟨_, attempted₁, analysis₁, hattempt₁, rfl, hcalls₁⟩ := exists_attempt_of_advance_calls h₁
  obtain ⟨_, attempted₂, analysis₂, hattempt₂, rfl, hcalls₂⟩ := exists_attempt_of_advance_calls h₂
  have hannounced :
      (env₁.announcePhase workflow .executing i (some step) standing₁.results t₁).calls =
        (env₂.announcePhase workflow .executing i (some step) standing₂.results t₂).calls := by
    simpa using hcalls
  obtain ⟨hresult, hlog⟩ := h.attempt hview hannounced hattempt₁ hattempt₂
  rw [h.view_comment attempted₁ analysis₁, h.view_comment attempted₂ analysis₂, hcalls₁, hcalls₂]
  exact ⟨hresult, hlog⟩

/-! ### Whole runs -/

/-- **The second run stands before every step before which the first stands**, unless it breaks
down. -/
theorem exists_reaches (h : Follows view env₁ env₂) (hstart : t₀₁.calls = t₀₂.calls)
    {standing₂' : Standing} {t₂' : Trace} (hends : Ends env₂ workflow t₀₂ standing₂' t₂') {i : ℕ}
    {standing₁ : Standing} {t₁ : Trace} (hreach : Reaches env₁ workflow t₀₁ i standing₁ t₁) :
    ∃ standing₂ t₂, Reaches env₂ workflow t₀₂ i standing₂ t₂ ∧
      standing₁.results.map view = standing₂.results.map view ∧ t₁.calls = t₂.calls := by
  induction hreach with
  | start => exact ⟨_, _, .start, rfl, by simpa using hstart⟩
  | next _ step_eq goes advanced goesOn ih =>
    obtain ⟨standing₂, t₂, hreach₂, hview, hcalls⟩ := ih
    have hgoes := h.goes hcalls goes
    obtain ⟨t₂', r₂, captured₂, hadv₂, -⟩ := record_of_ends hends hreach₂ step_eq hgoes
    obtain ⟨hresult, hlog⟩ := h.advance hview hcalls advanced hadv₂
    exact ⟨_, _, .next hreach₂ step_eq hgoes hadv₂ (h.goesOn hresult goesOn),
      Standing.map_results_record hview hresult .., hlog⟩

/-- **The second run records and calls first what the first records and calls.** -/
theorem prefix_of_ends (h : Follows view env₁ env₂) (hstart : t₀₁.calls = t₀₂.calls)
    {standing₁ standing₂ : Standing} {t₁ t₂ : Trace} (h₁ : Ends env₁ workflow t₀₁ standing₁ t₁)
    (h₂ : Ends env₂ workflow t₀₂ standing₂ t₂) :
    standing₁.results.map view <+: standing₂.results.map view ∧ t₁.calls <+: t₂.calls := by
  -- before a boundary of the first run all is the same, and later the second only adds to it
  have hreached : ∀ {i : ℕ} {before : Standing} {t : Trace},
      Reaches env₁ workflow t₀₁ i before t →
      before.results.map view <+: standing₂.results.map view ∧ t.calls <+: t₂.calls := by
    intro i before t hreach
    obtain ⟨before₂, t', hreach₂, hview, hcalls⟩ := h.exists_reaches hstart h₂ hreach
    rw [hview, hcalls]
    exact (extends_of_ends h₂ hreach₂).imp_left fun hresults ↦ hresults.map view
  cases h₁ with
  | exhausted last => exact hreached last
  | @stopped i before _ last _ _ =>
    show before.results.map view <+: standing₂.results.map view ∧ _
    exact hreached last
  | failed last step_eq goes advanced _ =>
    obtain ⟨before₂, t', hreach₂, hview, hcalls⟩ := h.exists_reaches hstart h₂ last
    obtain ⟨t₂', r₂, captured₂, hadv₂, hrecorded, hlogged⟩ :=
      record_of_ends h₂ hreach₂ step_eq (h.goes hcalls goes)
    obtain ⟨hresult, hlog⟩ := h.advance hview hcalls advanced hadv₂
    rw [Standing.map_results_record hview hresult _ captured₂, hlog]
    exact ⟨hrecorded.map view, hlogged⟩

/-- Runs that follow one another record and call the same. -/
theorem eq_of_ends (h : Follows view env₁ env₂) (h' : Follows view env₂ env₁)
    (hstart : t₀₁.calls = t₀₂.calls) {standing₁ standing₂ : Standing} {t₁ t₂ : Trace}
    (h₁ : Ends env₁ workflow t₀₁ standing₁ t₁) (h₂ : Ends env₂ workflow t₀₂ standing₂ t₂) :
    standing₁.results.map view = standing₂.results.map view ∧ t₁.calls = t₂.calls := by
  obtain ⟨hresults, hcalls⟩ := h.prefix_of_ends hstart h₁ h₂
  obtain ⟨hresults', hcalls'⟩ := h'.prefix_of_ends hstart.symm h₂ h₁
  exact ⟨hresults.eq_of_length_le hresults'.length_le, hcalls.eq_of_length_le hcalls'.length_le⟩

/-- When the first of two runs that are asked to stop alike sees the request, so does the second. -/
theorem stoppedBefore (h : Follows view env₁ env₂) (hstart : t₀₁.calls = t₀₂.calls)
    (hasked : ∀ {t₁ t₂ : Trace}, t₁.calls = t₂.calls → env₁.cancelled t₁ = env₂.cancelled t₂)
    {standing₂ : Standing} {t₂ : Trace} (hends : Ends env₂ workflow t₀₂ standing₂ t₂) {i : ℕ}
    (hstopped : StoppedBefore env₁ workflow t₀₁ i) : StoppedBefore env₂ workflow t₀₂ i := by
  obtain ⟨hlt, standing, t, hreach, hcancelled⟩ := hstopped
  obtain ⟨standing', t', hreach', -, hcalls⟩ := h.exists_reaches hstart hends hreach
  exact ⟨hlt, standing', t', hreach', hasked hcalls ▸ hcancelled⟩

end Follows

end Environment

end ToolFlow
