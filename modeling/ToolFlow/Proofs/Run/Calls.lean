import Mathlib.Data.List.Basic
import ToolFlow.Proofs.Resolution
import ToolFlow.Proofs.Run.Outcome
import ToolFlow.Proofs.Run.SideChannels

/-!
# The tool calls of a run

The log of tool calls of a run can be read off its results (`calls_of_execute`): one call for each
recorded step that was to be called, in the order of the steps, with the arguments on record.
Whether a step is to be called is decided before the call and from the results of the steps before
it alone (`isCallable`).

The step lemma `calls_advance` holds of every attempt, whatever comes of it; `logged_of_reaches`
carries it along a run. The side channels make no calls of their own (`SideChannels`), and that
results stand under their own indices (`Record`) makes a step find those it refers to.

Two things are easily taken for one another. A step is *callable* when its tool is there, no failed
step stands against it and its arguments can be resolved. A call is *made* when besides the time
limit is a number of seconds (`canCall`), which is a matter of the options and not of the step. With
a limit that is none, a step is judged as one whose call failed, has resolved arguments on record
and has made no call (`calls_of_hurried_errand`). So the log is that of the callable steps under a
limit, and empty without one.

The calls that are not made are as much part of the statement as the others: a step that cannot be
called leaves no trace in the log, and no step is called twice.
-/

namespace ToolFlow.Environment

variable {env : Environment} {workflow : Workflow} {t₀ : Trace}

/-! ### Callable steps -/

variable (env) in
/-- Whether the tool of a step is to be called, given the results of the steps before it: the tool
is there, no step that it refers to has failed where that matters, and its arguments can be
resolved. -/
def isCallable (earlier : List StepResult) (index : ℕ) (step : Step) : Bool :=
  env.tools.contains step.tool &&
    (!env.options.requireSuccessfulDependencies ||
      (Resolution.failedDependencies earlier step index).toOption == some []) &&
    (Resolution.resolveArguments earlier step index).isOk

/-- **A step is callable exactly when** its tool is there, no failed step stands against it where
that matters, and its arguments can be resolved. -/
theorem isCallable_iff {earlier : List StepResult} {index : ℕ} {step : Step} :
    env.isCallable earlier index step = true ↔ step.tool ∈ env.tools ∧
      (env.options.requireSuccessfulDependencies = true →
        Resolution.failedDependencies earlier step index = .ok []) ∧
      ∃ args, Resolution.resolveArguments earlier step index = .ok args := by
  have hclear : (Resolution.failedDependencies earlier step index).toOption = some [] ↔
      Resolution.failedDependencies earlier step index = .ok [] := by
    cases Resolution.failedDependencies earlier step index <;> simp [Except.toOption]
  have hargs : (Resolution.resolveArguments earlier step index).isOk = true ↔
      ∃ args, Resolution.resolveArguments earlier step index = .ok args := by
    cases Resolution.resolveArguments earlier step index <;> simp [Except.isOk, Except.toBool]
  rw [isCallable, Bool.and_eq_true, Bool.and_eq_true, hargs, and_assoc]
  refine and_congr (by simp) (and_congr_left fun _ ↦ ?_)
  rw [← hclear]
  cases env.options.requireSuccessfulDependencies <;> simp

/-- **A tool is called exactly when** its step is callable, and then with its resolved arguments. -/
theorem plan_eq_ok_ok_iff {earlier : List StepResult} {index : ℕ} {step : Step} {args : Fields} :
    env.plan earlier index step = .ok (.ok args) ↔ env.isCallable earlier index step = true ∧
      Resolution.resolveArguments earlier step index = .ok args := by
  have hclear : env.obstacles earlier index step = .ok [] ↔
      (env.options.requireSuccessfulDependencies = true →
        Resolution.failedDependencies earlier step index = .ok []) := by
    unfold obstacles
    split <;> simp_all
  rw [isCallable_iff, ← hclear]
  unfold plan
  split
  · next hunknown =>
    have hunknown : step.tool ∉ env.tools := by simpa using hunknown
    simp [hunknown]
  · next hknown =>
    have hknown : step.tool ∈ env.tools := by simpa using hknown
    split
    · next hobstacles => simp [hobstacles]
    · next hobstacles =>
      split
      · next hargs => simp [hknown, hobstacles, hargs]
      · next failure hargs => split <;> simp [hargs]
    · next failed hne hobstacles =>
      have hne : failed ≠ [] := hne
      simp [hobstacles, hne]

variable (env) in
/-- Whether calls can be made at all: the time limit of calls is a number of seconds. -/
def canCall : Bool :=
  env.options.callTimeout.problem?.isNone

variable (env) in
/-- The call that an attempt at a step makes, if it makes one. -/
def callFor? (earlier : List StepResult) (index : ℕ) (step : Step) : Option (String × Fields) :=
  if env.canCall && env.isCallable earlier index step then
    (Resolution.resolveArguments earlier step index).toOption.map fun args ↦ (step.tool, args)
  else none

/-- A step that is refused calls nothing. -/
theorem callFor?_eq_none {earlier : List StepResult} {index : ℕ} {step : Step}
    (h : ∀ args, env.plan earlier index step ≠ .ok (.ok args)) :
    env.callFor? earlier index step = none := by
  have hnot : ¬env.isCallable earlier index step = true := by
    intro hcallable
    obtain ⟨-, -, args, hargs⟩ := isCallable_iff.1 hcallable
    exact h args (plan_eq_ok_ok_iff.2 ⟨hcallable, hargs⟩)
  simp [callFor?, hnot]

/-- A step that goes ahead calls its tool, if calls can be made at all. -/
theorem callFor?_eq_of_plan {earlier : List StepResult} {index : ℕ} {step : Step} {args : Fields}
    (h : env.plan earlier index step = .ok (.ok args)) :
    env.callFor? earlier index step = if env.canCall then some (step.tool, args) else none := by
  obtain ⟨hcallable, hargs⟩ := plan_eq_ok_ok_iff.1 h
  simp [callFor?, hcallable, hargs, Except.toOption]

/-! ### One attempt -/

/-- A call is on the log once, with its arguments, and nothing else that it leaves is a call. -/
theorem calls_call (tool : String) (args : Fields) (t : Trace) :
    (env.call tool args t).1.calls = t.calls ++ if env.canCall then [(tool, args)] else [] := by
  have hnotices : ∀ notices : List Notice, Trace.calls (notices.map .noticed) = [] := fun notices ↦
    List.filterMap_eq_nil_iff.2 (List.forall_mem_map.2 fun _ _ ↦ rfl)
  rcases h : env.options.callTimeout.problem? with _ | b
  · calc (env.call tool args t).1.calls
        = t.calls ++ (tool, args) ::
            Trace.calls ((callNotices tool (env.client t tool args)).map .noticed) := by
          rw [call_of_limit h, Trace.calls_append]
          rfl
      _ = _ := by simp [hnotices, canCall, h]
  · rw [call_of_problem h, Trace.calls_append]
    simp [canCall, h, Trace.calls, Trace.Entry.call?]

/-- **An attempt calls the tool of a callable step once, and no other.** -/
theorem calls_attempt (results : List StepResult) (index : ℕ) (step : Step) (t : Trace) :
    (env.attempt results index step t).1.calls =
      t.calls ++ (env.callFor? results index step).toList := by
  rcases hplan : env.plan results index step with b | refusal | args
  · have hnone : env.callFor? results index step = none :=
      callFor?_eq_none fun args h ↦ by simp [h] at hplan
    simp [attempt, hplan, hnone]
  · have hnone : env.callFor? results index step = none :=
      callFor?_eq_none fun args h ↦ by simp [h] at hplan
    simp [attempt, hplan, hnone]
  · simp only [attempt, hplan, calls_call, callFor?_eq_of_plan hplan]
    cases env.canCall <;> rfl

/-- **What a tool is called with is what the arguments of its step come to**, and it is what is
recorded of them. -/
theorem calls_of_attempt {results : List StepResult} {index : ℕ} {step : Step} {t t' : Trace}
    {result : StepResult} (h : env.attempt results index step t = (t', .ok result)) :
    t'.calls = t.calls ∨
      Resolution.resolveArguments results step index = .ok result.resolvedArgs ∧
        t'.calls = t.calls ++ [(step.tool, result.resolvedArgs)] := by
  rcases attempt_eq_ok h with ⟨_, -, rfl, -⟩ | ⟨args, outcome, hplan, hcall, hresult⟩
  · exact Or.inl rfl
  · have hcalls := env.calls_call step.tool args t
    rw [hcall] at hcalls
    rw [resolvedArgs_of_conclude hresult, hcalls]
    cases env.canCall with
    | false => exact Or.inl (List.append_nil _)
    | true => exact Or.inr ⟨(plan_eq_ok_ok_iff.1 hplan).2, rfl⟩

/-- Beside its call, an attempt leaves nothing but lines of the log. -/
theorem attempt_growsBy (results : List StepResult) (index : ℕ) (step : Step) (t : Trace) :
    Trace.GrowsBy Trace.Entry.IsCall t (env.attempt results index step t).1 := by
  have hcall : ∀ tool args, Trace.GrowsBy Trace.Entry.IsCall t (env.call tool args t).1 := by
    intro tool args
    rcases h : env.options.callTimeout.problem? with _ | b
    · rw [call_of_limit h]
      exact Trace.growsBy_append (List.forall_mem_cons.2
        ⟨trivial, List.forall_mem_map.2 fun _ _ ↦ trivial⟩)
    · rw [call_of_problem h]
      exact Trace.growsBy_append (List.forall_mem_singleton.2 trivial)
  unfold attempt
  split
  · exact .refl t
  · exact .refl t
  · exact hcall _ _

/-- All that is done about a step makes the calls of the attempt, whatever comes of it. -/
theorem calls_advance (workflow : Workflow) (i : ℕ) (step : Step) (standing : Standing)
    (t : Trace) :
    (env.advance workflow i step standing t).1.calls =
      t.calls ++ (env.callFor? standing.results i step).toList := by
  have hattempt := env.calls_attempt standing.results i step
    (env.announcePhase workflow .executing i (some step) standing.results t)
  rw [calls_announcePhase] at hattempt
  rw [← hattempt]
  dsimp only [advance]
  split
  · next heq => rw [heq]
  · next heq => rw [heq, calls_analyze, calls_withSession_afterStep]

/-- A recorded step that was callable has its resolved arguments on record. -/
theorem resolveArguments_of_advance {i : ℕ} {step : Step} {standing : Standing} {t t' : Trace}
    {result : StepResult} {captured : Tracking.Captured}
    (h : env.advance workflow i step standing t = (t', .ok (result, captured)))
    (hcallable : env.isCallable standing.results i step = true) :
    Resolution.resolveArguments standing.results step i = .ok result.resolvedArgs := by
  obtain ⟨t₁, attempted, analysis, hattempt, rfl⟩ := exists_attempt_of_advance h
  obtain ⟨-, -, args, hargs⟩ := isCallable_iff.1 hcallable
  have hplan : env.plan standing.results i step = .ok (.ok args) :=
    plan_eq_ok_ok_iff.2 ⟨hcallable, hargs⟩
  rcases attempt_eq_ok hattempt with ⟨_, hrefused, -, -⟩ | ⟨args', outcome, hplan', -, hresult⟩
  · simp [hplan] at hrefused
  · obtain rfl : args = args' := by simpa [hplan] using hplan'
    rw [hargs, resolvedArgs_of_conclude hresult]

/-! ### The log of a record -/

variable (env) in
/-- The call that a recorded step stands for, given the results before it. -/
def callOf? (earlier : List StepResult) (index : ℕ) (result : StepResult) :
    Option (String × Fields) :=
  if env.isCallable earlier index result.step then some (result.step.tool, result.resolvedArgs)
  else none

variable (env) in
/-- The calls that recorded steps stand for, in the order of the steps. -/
def callsOf (results : List StepResult) : List (String × Fields) :=
  results.zipIdx.filterMap fun (result, i) ↦ env.callOf? (results.take i) i result

/-- The call that an attempt makes is the one that its result stands for. -/
theorem callFor?_eq_of_advance {i : ℕ} {step : Step} {standing : Standing} {t t' : Trace}
    {result : StepResult} {captured : Tracking.Captured}
    (h : env.advance workflow i step standing t = (t', .ok (result, captured))) :
    env.callFor? standing.results i step =
      if env.canCall then env.callOf? standing.results i result else none := by
  have hstep : result.step = step := (sound_of_advance h).step_eq
  by_cases hcallable : env.isCallable standing.results i step = true
  · simp [callFor?, callOf?, hstep, hcallable, Except.toOption,
      resolveArguments_of_advance h hcallable]
  · simp [callFor?, callOf?, hstep, hcallable]

/-- One more result stands for at most one more call. -/
theorem callsOf_append_singleton (results : List StepResult) (result : StepResult) :
    env.callsOf (results ++ [result]) =
      env.callsOf results ++ (env.callOf? results results.length result).toList := by
  have hbefore : results.zipIdx.filterMap
      (fun (r, i) ↦ env.callOf? ((results ++ [result]).take i) i r) = env.callsOf results := by
    refine List.filterMap_congr fun ⟨r, i⟩ hmem ↦ ?_
    have hi : i < results.length := by
      have := List.snd_lt_of_mem_zipIdx hmem
      simpa using this
    -- the results before an earlier one are the same in the longer list
    show env.callOf? ((results ++ [result]).take i) i r = env.callOf? (results.take i) i r
    rw [List.take_append_of_le_length (Nat.le_of_lt hi)]
  rw [callsOf, List.zipIdx_append, List.filterMap_append, hbefore]
  cases h : env.callOf? results results.length result <;> simp [h]

variable (env t₀) in
/-- The log of calls since `t₀` is that of the results on record, and a callable step has the
arguments on record that the results before it resolve to. -/
structure Logged (results : List StepResult) (t : Trace) : Prop where
  log_eq : t.calls = t₀.calls ++ if env.canCall then env.callsOf results else []
  args_eq : ∀ (i : ℕ) (r : StepResult), results[i]? = some r →
    env.isCallable (results.take i) i r.step = true →
    Resolution.resolveArguments (results.take i) r.step i = .ok r.resolvedArgs

/-- **The step lemma**: one more attempt keeps the log that of the results. -/
theorem Logged.record {i : ℕ} {step : Step} {standing : Standing} {t t' : Trace}
    {result : StepResult} {captured : Tracking.Captured}
    (h : Logged env t₀ standing.results t) (hlength : standing.results.length = i)
    (hadvance : env.advance workflow i step standing t = (t', .ok (result, captured))) :
    Logged env t₀ (standing.record result captured).results t' where
  log_eq := by
    have hcalls : t'.calls = t.calls ++ (env.callFor? standing.results i step).toList := by
      rw [← calls_advance workflow, hadvance]
    rw [hcalls, h.log_eq, callFor?_eq_of_advance hadvance, Standing.record,
      callsOf_append_singleton, hlength]
    cases env.canCall <;> simp
  args_eq := by
    intro j r hj hcallable
    rw [Standing.record] at hj hcallable ⊢
    rw [List.getElem?_append] at hj
    -- an earlier result keeps those before it; before the new one stand all others
    split at hj
    · next hlt =>
      rw [List.take_append_of_le_length (Nat.le_of_lt hlt)] at hcallable ⊢
      exact h.args_eq j r hj hcallable
    · next hge =>
      obtain ⟨hlt, hr⟩ := List.getElem?_eq_some_iff.1 hj
      obtain rfl : j = standing.results.length := by
        simp only [List.length_singleton] at hlt
        omega
      obtain rfl : result = r := by simpa using hr
      have hstep : result.step = step := (sound_of_advance hadvance).step_eq
      rw [List.take_left, hstep, hlength] at hcallable ⊢
      exact resolveArguments_of_advance hadvance hcallable

/-- At the start nothing is on record, and nothing was called. -/
theorem logged_start : Logged env t₀ [] (env.start workflow t₀).1 :=
  ⟨by simp [callsOf], by simp⟩

/-- **At every boundary the log is that of the results on record.** -/
theorem logged_of_reaches {i : ℕ} {standing : Standing} {t : Trace}
    (h : Reaches env workflow t₀ i standing t) : Logged env t₀ standing.results t :=
  h.of_kept (motive := fun results _ t ↦ Logged env t₀ results t) logged_start
    fun hlogged _ hadvance ↦ hlogged.record rfl hadvance

theorem logged_of_ends {standing : Standing} {t : Trace} (h : Ends env workflow t₀ standing t) :
    Logged env t₀ standing.results t :=
  h.of_kept (motive := fun results _ t ↦ Logged env t₀ results t) logged_start
    fun hlogged _ hadvance ↦ hlogged.record rfl hadvance

/-! ### The references of callable steps -/

/-- **A callable step refers only to earlier steps that succeeded.** -/
theorem exists_reference_of_isCallable {results : List StepResult}
    (hindex : ∀ (j : ℕ) (r : StepResult), results[j]? = some r → r.index = j) {i : ℕ}
    {step : Step} (h : env.isCallable (results.take i) i step = true) :
    ∀ entry ∈ step.mapped, ∃ ref r, Path.Reference.parse entry.2 = .ok ref ∧ ref.step < i ∧
      results[ref.step]? = some r ∧ r.success = true := by
  intro entry hentry
  obtain ⟨-, -, hargs⟩ := isCallable_iff.1 h
  -- arguments that are resolved have every reference resolved, and only usable ones can be
  obtain ⟨v, hv⟩ := Resolution.exists_resolveArguments_eq_ok_iff.1 hargs entry hentry
  obtain ⟨ref, hparse, hvalue⟩ := Resolution.resolve_eq_ok_iff.1 hv
  obtain ⟨hlt, r, hr, hsuccess, -⟩ := Resolution.resolveReference_eq_ok_iff.1 hvalue
  have hlt : ref.step < i := by omega
  rw [Resolution.resultFor?_eq_getElem? (Resolution.index_eq_of_take hindex), List.getElem?_take,
    if_pos hlt] at hr
  exact ⟨ref, r, hparse, hlt, hr, hsuccess⟩

/-- **No earlier step is ever said not to have been executed.** -/
theorem resolve_ne_notExecuted_of_reaches {i : ℕ} {standing : Standing} {t : Trace}
    (h : Reaches env workflow t₀ i standing t) (expression : String) (n : ℕ) :
    Resolution.resolve standing.results expression i ≠ .error (.notExecuted n) := by
  intro hnot
  have hrec := recorded_of_reaches h
  obtain ⟨hlt, hnone⟩ := Resolution.resolve_eq_notExecuted hnot
  rw [Resolution.resultFor?_eq_getElem? hrec.index_eq, List.getElem?_eq_none_iff,
    hrec.length_eq] at hnone
  omega

/-! ### The log of a run -/

variable (env t₀) in
/-- The log of calls of a run that comes to a result. -/
structure CallLog (result : WorkflowResult) (t' : Trace) : Prop
    extends Logged env t₀ result.steps t' where
  /-- A callable step names a tool that is there, and refers only to earlier steps that
  succeeded. -/
  callable : ∀ (i : ℕ) (r : StepResult), result.steps[i]? = some r →
    env.isCallable (result.steps.take i) i r.step = true →
    r.step.tool ∈ env.tools ∧ ∀ entry ∈ r.step.mapped, ∃ ref earlier,
      Path.Reference.parse entry.2 = .ok ref ∧ ref.step < i ∧
      result.steps[ref.step]? = some earlier ∧ earlier.success = true

/-- **The calls of a run are those of its callable steps.** The log of a run that comes to a result
is that of its recorded steps, unless the time limit of calls is none. In any run, the log is that
of the steps on record at every boundary, the next step makes its call exactly if it is callable,
and it never finds an earlier step not executed. -/
theorem calls_of_execute (env : Environment) (workflow : Workflow) (t₀ : Trace) :
    (∀ t' result, env.execute workflow t₀ = (t', .ok result) → CallLog env t₀ result t') ∧
      ∀ i standing t, Reaches env workflow t₀ i standing t →
        Logged env t₀ standing.results t ∧
        (∀ step, (env.advance workflow i step standing t).1.calls =
          t.calls ++ (env.callFor? standing.results i step).toList) ∧
        ∀ expression n,
          Resolution.resolve standing.results expression i ≠ .error (.notExecuted n) := by
  constructor
  · intro t' result h
    obtain ⟨standing, t, hends, hcomplete⟩ := ends_of_execute h
    obtain ⟨-, hsteps, -⟩ := complete_eq_ok hcomplete
    have hlogged := logged_of_ends hends
    have hcalls : t'.calls = t.calls := by
      rw [← calls_complete env workflow standing t, hcomplete]
    constructor
    · exact ⟨by rw [hcalls, hsteps, hlogged.log_eq], by rw [hsteps]; exact hlogged.args_eq⟩
    · rw [hsteps]
      intro i r _ hcallable
      exact ⟨(isCallable_iff.1 hcallable).1,
        exists_reference_of_isCallable (index_eq_of_ends hends) hcallable⟩
  · intro i standing t h
    exact ⟨logged_of_reaches h, fun step ↦ calls_advance workflow i step standing t,
      resolve_ne_notExecuted_of_reaches h⟩

/-- The errand calls the tools of its first three steps; the fourth refers to a later one. -/
theorem calls_of_errand : ∃ t' result,
    errandPlan.environment.execute errand [] = (t', .ok result) ∧
      t'.calls.map Prod.fst = ["create", "delete", "show"] ∧
      CallLog errandPlan.environment [] result t' := by
  have hreturns : ((errandPlan.environment.execute errand []).2.toOption.map fun result ↦
      result.steps.length) = some 4 := by
    decide +kernel
  have hcalls : (errandPlan.environment.execute errand []).1.calls.map Prod.fst =
      ["create", "delete", "show"] := by
    decide +kernel
  obtain ⟨t', result, h, -⟩ := Except.exists_eq_ok_of_shows hreturns
  rw [h] at hcalls
  exact ⟨t', result, h, hcalls, (calls_of_execute _ _ _).1 t' result h⟩

/-! ### A limit that is none -/

/-- The errand under a limit of more milliseconds than make a number of seconds. -/
def hurriedPlan : Rehearsal.Plan :=
  { errandPlan with options := { timeouts := { toolCall := some ⟨.nat (10 ^ 400)⟩ } } }

/-- The hurried errand comes to a result, its first step is callable, and no tool is called. -/
theorem calls_of_hurried_errand : ¬∀ t' result,
    hurriedPlan.environment.execute errand [] = (t', .ok result) →
      t'.calls = Trace.calls [] ++ hurriedPlan.environment.callsOf result.steps := by
  have hresult : ((hurriedPlan.environment.execute errand []).2.toOption.map fun result ↦
      (hurriedPlan.environment.callsOf result.steps).length) = some 1 := by
    decide +kernel
  have hcalls : (hurriedPlan.environment.execute errand []).1.calls.length = 0 := by
    decide +kernel
  obtain ⟨t', result, h, hlength⟩ := Except.exists_eq_ok_of_shows hresult
  intro hall
  rw [h, hall t' result h, List.length_append, hlength] at hcalls
  omega

end ToolFlow.Environment
