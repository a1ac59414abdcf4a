import Mathlib.Data.List.Basic
import ToolFlow.Proofs.Run.Attempt
import ToolFlow.Run.Execute

/-!
# The boundaries of a run

A run is followed from boundary to boundary. `Reaches env workflow t₀ i standing t` says that a run
started at the trace `t₀` stands before its step `i`, with what it has recorded and what has
happened until then: every earlier step was attempted, and none of them ended the run. `Ends` says
where the attempts stop, and for which of three reasons.

* `runFrom_eq_of_reaches`: from every boundary that it reaches, a run goes on as if it started
  there. So a boundary cannot be reached in two ways, and a breakdown after it breaks down the run.
* `ends_of_execute`: a run that comes to a result ended its attempts somewhere, and the result is
  drawn up from what was recorded there.

What holds at every boundary is proved by induction on `Reaches`, and what holds of results is read
off `Ends`; no other module goes through the loop itself.

The loop is a recursion over the steps that are left, while what has to be said of a run is about
the steps before. `Reaches` turns it round: it grows by one step at the end, so that its induction
has the record so far in its hypothesis. It is a relation and not a function because a boundary need
not exist, and because everything that depends on it, the trace above all, comes out of the run. It
is a function in effect (`Reaches.unique`, `Ends.unique`).
-/

namespace ToolFlow.Environment

variable {env : Environment} {workflow : Workflow} {t₀ : Trace}

/-! ### One step -/

/-- A comment changes nothing else in a result. -/
theorem analyze_eq_ok {earlier : List StepResult} {result result' : StepResult} {t t' : Trace}
    (h : env.analyze workflow earlier result t = (t', .ok result')) :
    ∃ analysis, result' = { result with analysis } := by
  unfold analyze at h
  split at h
  · obtain ⟨-, h⟩ := Prod.mk.inj h
    exact ⟨result.analysis, (Except.ok.inj h).symm⟩
  · split at h
    · simp at h
    · obtain ⟨-, h⟩ := Prod.mk.inj h
      obtain ⟨analysis, -, rfl⟩ := Except.map_eq_ok_iff.1 h
      exact ⟨analysis, rfl⟩

/-- **One step in its parts**: the attempt, the snapshot after it, and the comment on its result. -/
theorem advance_eq_ok {i : ℕ} {step : Step} {standing : Standing} {t t' : Trace}
    {result : StepResult} {captured : Tracking.Captured}
    (h : env.advance workflow i step standing t = (t', .ok (result, captured))) :
    ∃ t₁ t₂ attempted,
      env.attempt standing.results i step
        (env.announcePhase workflow .executing i (some step) standing.results t) =
          (t₁, .ok attempted) ∧
      env.withSession (fun s ↦ s.afterStep i) standing.captured t₁ = (t₂, captured) ∧
      env.analyze workflow standing.results attempted t₂ = (t', .ok result) := by
  dsimp only [advance] at h
  split at h
  · simp at h
  · next t₁ attempted hattempt =>
    obtain ⟨ht, h⟩ := Prod.mk.inj h
    obtain ⟨result', hresult, hpair⟩ := Except.map_eq_ok_iff.1 h
    obtain ⟨rfl, rfl⟩ := Prod.mk.inj hpair
    exact ⟨t₁, _, attempted, hattempt, rfl, Prod.ext ht hresult⟩

/-- What is recorded of a step is what its attempt came to, with a comment. -/
theorem exists_attempt_of_advance {i : ℕ} {step : Step} {standing : Standing} {t t' : Trace}
    {result : StepResult} {captured : Tracking.Captured}
    (h : env.advance workflow i step standing t = (t', .ok (result, captured))) :
    ∃ t₁ attempted analysis,
      env.attempt standing.results i step
        (env.announcePhase workflow .executing i (some step) standing.results t) =
          (t₁, .ok attempted) ∧
      result = { attempted with analysis } := by
  obtain ⟨t₁, t₂, attempted, hattempt, -, hanalyze⟩ := advance_eq_ok h
  obtain ⟨analysis, rfl⟩ := analyze_eq_ok hanalyze
  exact ⟨t₁, attempted, analysis, hattempt, rfl⟩

/-- The result that a step is recorded with is sound; a comment changes nothing about that. -/
theorem sound_of_advance {i : ℕ} {step : Step} {standing : Standing} {t t' : Trace}
    {result : StepResult} {captured : Tracking.Captured}
    (h : env.advance workflow i step standing t = (t', .ok (result, captured))) :
    result.Sound step i := by
  obtain ⟨t₁, attempted, analysis, hattempt, rfl⟩ := exists_attempt_of_advance h
  obtain ⟨hstep, hindex, hsuccess, herror⟩ := sound_of_attempt hattempt
  exact ⟨hstep, hindex, hsuccess, herror⟩

/-! ### Boundaries -/

variable (env workflow t₀) in
/-- The run that starts at `t₀` stands before the step of an index: every earlier step was
attempted, was not preceded by a request to stop, and did not end the run. -/
inductive Reaches : ℕ → Standing → Trace → Prop
  | start : Reaches 0 (env.start workflow t₀).2 (env.start workflow t₀).1
  | next {i : ℕ} {standing : Standing} {t t' : Trace} {step : Step} {result : StepResult}
      {captured : Tracking.Captured} (before : Reaches i standing t)
      (step_eq : workflow.steps[i]? = some step) (goes : env.cancelled t = false)
      (advanced : env.advance workflow i step standing t = (t', .ok (result, captured)))
      (goesOn : env.endsAfter result = false) :
      Reaches (i + 1) (standing.record result captured) t'

variable (env workflow t₀) in
/-- Where the attempts of the run that starts at `t₀` end: no step is left, or the run was asked to
stop before one, or one ended the run. -/
inductive Ends : Standing → Trace → Prop
  | exhausted {standing : Standing} {t : Trace}
      (last : Reaches env workflow t₀ workflow.steps.length standing t) : Ends standing t
  | stopped {i : ℕ} {standing : Standing} {t : Trace}
      (last : Reaches env workflow t₀ i standing t) (left : i < workflow.steps.length)
      (asked : env.cancelled t = true) : Ends (standing.stoppedBefore i) t
  | failed {i : ℕ} {standing : Standing} {t t' : Trace} {step : Step} {result : StepResult}
      {captured : Tracking.Captured} (last : Reaches env workflow t₀ i standing t)
      (step_eq : workflow.steps[i]? = some step) (goes : env.cancelled t = false)
      (advanced : env.advance workflow i step standing t = (t', .ok (result, captured)))
      (ending : env.endsAfter result = true) : Ends (standing.record result captured) t'

/-- A run only reaches the boundaries of its workflow. -/
theorem Reaches.le_length {i : ℕ} {standing : Standing} {t : Trace}
    (h : Reaches env workflow t₀ i standing t) : i ≤ workflow.steps.length := by
  cases h with
  | start => exact Nat.zero_le _
  | next _ step_eq _ _ _ => exact (List.getElem?_eq_some_iff.1 step_eq).1

/-- The steps from an index on start with the step of that index. -/
theorem drop_eq_cons_of_getElem? {i : ℕ} {step : Step} (h : workflow.steps[i]? = some step) :
    workflow.steps.drop i = step :: workflow.steps.drop (i + 1) := by
  obtain ⟨hi, rfl⟩ := List.getElem?_eq_some_iff.1 h
  exact List.drop_eq_getElem_cons hi

/-- The first of the steps from an index on is the step of that index. -/
theorem getElem?_eq_of_drop_eq_cons {i : ℕ} {step : Step} {rest : List Step}
    (h : workflow.steps.drop i = step :: rest) :
    workflow.steps[i]? = some step ∧ workflow.steps.drop (i + 1) = rest := by
  constructor
  · rw [← List.head?_drop, h, List.head?_cons]
  · rw [← List.tail_drop, h, List.tail_cons]

/-- **From every boundary that it reaches, a run goes on as if it started there.** -/
theorem runFrom_eq_of_reaches {i : ℕ} {standing : Standing} {t : Trace}
    (h : Reaches env workflow t₀ i standing t) :
    env.runFrom workflow 0 workflow.steps (env.start workflow t₀).2 (env.start workflow t₀).1 =
      env.runFrom workflow i (workflow.steps.drop i) standing t := by
  induction h with
  | start => rw [List.drop_zero]
  | @next i standing t t' step result captured _ step_eq goes advanced goesOn ih =>
    rw [ih, drop_eq_cons_of_getElem? step_eq, runFrom]
    simp [goes, advanced, goesOn]

/-- Where the attempts end, the loop comes to what was recorded. -/
theorem runFrom_eq_of_ends {standing : Standing} {t : Trace} (h : Ends env workflow t₀ standing t) :
    env.runFrom workflow 0 workflow.steps (env.start workflow t₀).2 (env.start workflow t₀).1 =
      (t, .ok standing) := by
  cases h with
  | exhausted last => rw [runFrom_eq_of_reaches last, List.drop_length, runFrom]
  | stopped last left asked =>
    rw [runFrom_eq_of_reaches last, List.drop_eq_getElem_cons left, runFrom, if_pos asked]
  | failed last step_eq goes advanced ending =>
    rw [runFrom_eq_of_reaches last, drop_eq_cons_of_getElem? step_eq, runFrom]
    simp [goes, advanced, ending]

/-- A loop that comes to a standing has ended its attempts there. -/
theorem ends_of_runFrom {steps : List Step} :
    ∀ {i : ℕ} {standing standing' : Standing} {t t' : Trace},
      Reaches env workflow t₀ i standing t → workflow.steps.drop i = steps →
      env.runFrom workflow i steps standing t = (t', .ok standing') →
      Ends env workflow t₀ standing' t' := by
  induction steps with
  | nil =>
    intro i standing standing' t t' hreach hdrop h
    have hi : i = workflow.steps.length :=
      Nat.le_antisymm hreach.le_length (List.drop_eq_nil_iff.1 hdrop)
    obtain ⟨rfl, rfl⟩ := Except.pair_ok_inj h
    exact .exhausted (hi ▸ hreach)
  | cons step rest ih =>
    intro i standing standing' t t' hreach hdrop h
    obtain ⟨hstep, hrest⟩ := getElem?_eq_of_drop_eq_cons hdrop
    -- a request, a breakdown or a failure stops the loop here; else the next boundary is reached
    rw [runFrom] at h
    split at h
    · next hasked =>
      obtain ⟨rfl, rfl⟩ := Except.pair_ok_inj h
      exact .stopped hreach (List.getElem?_eq_some_iff.1 hstep).1 hasked
    · next hgoes =>
      have hgoes : env.cancelled t = false := by simpa using hgoes
      split at h
      · simp at h
      · next t₁ result captured hadv =>
        split at h
        · next hending =>
          obtain ⟨rfl, rfl⟩ := Except.pair_ok_inj h
          exact .failed hreach hstep hgoes hadv hending
        · next hgoesOn =>
          exact ih (.next hreach hstep hgoes hadv (by simpa using hgoesOn)) hrest h

/-- **A boundary is reached in one way only.** -/
theorem Reaches.unique {i : ℕ} {standing standing' : Standing} {t t' : Trace}
    (h : Reaches env workflow t₀ i standing t) (h' : Reaches env workflow t₀ i standing' t') :
    standing = standing' ∧ t = t' := by
  induction h generalizing standing' t' with
  | start =>
    cases h' with
    | start => exact ⟨rfl, rfl⟩
  | next _ step_eq _ advanced _ ih =>
    cases h' with
    | next before' step_eq' _ advanced' _ =>
      obtain ⟨rfl, rfl⟩ := ih before'
      obtain rfl := Option.some.inj (step_eq.symm.trans step_eq')
      obtain ⟨rfl, hrecorded⟩ := Except.pair_ok_inj (advanced.symm.trans advanced')
      obtain ⟨rfl, rfl⟩ := Prod.mk.inj hrecorded
      exact ⟨rfl, rfl⟩

/-- So the attempts end in one way only. -/
theorem Ends.unique {standing standing' : Standing} {t t' : Trace}
    (h : Ends env workflow t₀ standing t) (h' : Ends env workflow t₀ standing' t') :
    standing = standing' ∧ t = t' :=
  (Except.pair_ok_inj ((runFrom_eq_of_ends h).symm.trans (runFrom_eq_of_ends h'))).symm

/-! ### The result -/

/-- The result of a run is drawn up from what was recorded at its end. -/
theorem complete_eq_ok {standing : Standing} {t t' : Trace} {result : WorkflowResult}
    (h : env.complete workflow standing t = (t', .ok result)) :
    DataFlow.edges workflow standing.results = .ok result.dataFlow ∧
      result.steps = standing.results ∧ result.success = standing.verdict.success ∧
      result.failureReason = standing.verdict.reason ∧
      result.failedStep = standing.verdict.failedStep := by
  dsimp only [complete] at h
  split at h
  · simp at h
  · next dataFlow hflow =>
    split at h
    · simp at h
    · obtain ⟨-, h⟩ := Prod.mk.inj h
      obtain rfl := Except.ok.inj h
      exact ⟨hflow, rfl, rfl, rfl, rfl⟩

/-- **The conclusion of a run in its parts**: the last snapshot, what is made of the state that was
tracked, the summary, and the announcement that all is done. -/
theorem conclusion_of_complete {standing : Standing} {t t' : Trace} {result : WorkflowResult}
    (h : env.complete workflow standing t = (t', .ok result)) :
    ∃ t₁ t₂ t₃ captured,
      env.withSession (fun s ↦ s.afterRun ((standing.results.length : Int) - 1))
        standing.captured t = (t₁, captured) ∧
      env.finishTracking standing.results captured t₁ = (t₂, result.tracking) ∧
      env.summarize workflow standing.results standing.verdict.success t₂ =
        (t₃, .ok result.summary) ∧
      t' = env.announcePhase workflow .complete workflow.steps.length none standing.results t₃ := by
  dsimp only [complete] at h
  split at h
  · simp at h
  · split at h
    · simp at h
    · next t₃ summary hsummary =>
      obtain ⟨rfl, rfl⟩ := Except.pair_ok_inj h
      exact ⟨_, _, t₃, _, rfl, rfl, hsummary, rfl⟩

/-- What a run comes to is what is drawn up where its attempts end. -/
theorem execute_eq_of_ends {standing : Standing} {t : Trace}
    (h : Ends env workflow t₀ standing t) :
    env.execute workflow t₀ = env.complete workflow standing t := by
  dsimp only [execute]
  rw [runFrom_eq_of_ends h]

/-- **A run that comes to a result ended its attempts somewhere**, and the result is drawn up from
what was recorded there. -/
theorem ends_of_execute {t' : Trace} {result : WorkflowResult}
    (h : env.execute workflow t₀ = (t', .ok result)) :
    ∃ standing t, Ends env workflow t₀ standing t ∧
      env.complete workflow standing t = (t', .ok result) := by
  dsimp only [execute] at h
  split at h
  · simp at h
  · next t standing hrun =>
    exact ⟨standing, t, ends_of_runFrom .start (List.drop_zero ..) hrun, h⟩

end ToolFlow.Environment
