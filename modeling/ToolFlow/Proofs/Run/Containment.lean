import Mathlib.Data.List.Basic
import ToolFlow.Proofs.DataFlow
import ToolFlow.Proofs.Evaluation
import ToolFlow.Proofs.Run.Calls

/-!
# When a run comes to a result

A run is meant to come to a result whatever its collaborators do. It does so exactly under
conditions that can be read off the data it meets (`exists_execute_eq_ok_iff`):

* no mapped expression holds a number of too many digits;
* no step asks for the result of a response that cannot be read, and neither its own response nor
  its assertions need a text that cannot be read;
* the prompt for a comment can be written;
* no collaborator fails with an error that has no text, and a limit that is exceeded can be shown.

Each function of the run has one lemma that says when it comes to something, in the order in which a
step goes through them; the loop is followed from boundary to boundary in both directions. Among
surroundings that are tame once and for all, every run comes to a result (`Tame.exists_result`). A
response with a bad content shows that others do not.

The conditions are exact, and so they have to be stated of the moments that the run reaches: what a
tool would have answered to a call that is never made does not matter. `Contained` is therefore a
statement over the boundaries of the run. The price is that it cannot be checked in advance. `Tame`
is a sufficient condition that can, since it is about the surroundings and the workflow only.
-/

namespace ToolFlow

/-! ### Answers -/

/-- An answer of which something can be said: it did not fail with an error without text, and if it
took too long, the limit can be shown. -/
def Answer.Accountable {α : Type} (limit : TimeLimit) : Answer α → Prop
  | returned _ => True
  | failed _ => True
  | timedOut => ∃ shown, limit.shortText = .ok shown
  | brokenOff _ => False

/-- A call comes to something exactly when its answer can be accounted for. -/
theorem exists_callOutcome_eq_ok_iff {tool : String} {limit : TimeLimit} {answer : Answer Value} :
    (∃ outcome, callOutcome tool limit answer = .ok outcome) ↔ answer.Accountable limit := by
  cases answer with
  | returned response => cases response <;> simp [callOutcome, Answer.Accountable]
  | failed error => simp [callOutcome, Answer.Accountable]
  | timedOut =>
    rcases h : limit.shortText with b | shown <;>
      simp [callOutcome, Answer.Accountable, h, Except.map]
  | brokenOff b => simp [callOutcome, Answer.Accountable]

/-! ### Judgement -/

/-- What it takes to judge the response to a step: its text when it says that the call failed, and
whatever the assertions need. -/
structure Step.Judges (step : Step) (response : Value) : Prop where
  error : Response.isError response = true → Response.Legible response
  checks : ∀ check ∈ step.checks, check.Checkable response

/-- Without a response there is nothing to judge. -/
theorem Step.judges_null (step : Step) : step.Judges .null where
  error := by simp [Response.isError_eq_true_iff, Value.field?]
  checks := fun _ _ ↦ ⟨by simp [Value.isNull], by simp [Value.isNull]⟩

/-- **The error of an invocation is found unless** the response reports one and cannot be read. -/
theorem exists_invocationError_eq_ok_iff {outcome : Except CallFailure Value} :
    (∃ error, invocationError outcome = .ok error) ↔
      ∀ response, outcome = .ok response → Response.isError response = true →
        Response.Legible response := by
  rcases outcome with failure | response
  · simp [invocationError]
  · simp only [invocationError, responseError, Except.ok.injEq, forall_eq',
      ← Response.exists_firstText_eq_ok_iff]
    cases Response.isError response with
    | false => simp
    | true => simp [Except.map_eq_ok_iff]

/-- The assertions of a step are evaluated exactly when each of them can be. -/
theorem exists_assertionOutcomes_eq_ok_iff {step : Step} {response : Value} :
    (∃ checked, assertionOutcomes step response = .ok checked) ↔
      ∀ check ∈ step.checks, check.Checkable response := by
  rw [← exists_evaluateAll_eq_ok_iff]
  unfold assertionOutcomes
  split
  · next hempty =>
    have hnil : step.checks = [] := by simpa using hempty
    simp [hnil, evaluateAll, pure, Except.pure]
  · simp [Except.map_eq_ok_iff]

/-- **The outcome of a call is judged exactly when** its response can be. -/
theorem exists_conclude_eq_ok_iff {step : Step} {index : ℕ} {args : Fields}
    {outcome : Except CallFailure Value} :
    (∃ result, conclude step index args outcome = .ok result) ↔
      ∀ response, outcome = .ok response → step.Judges response := by
  constructor
  · rintro ⟨result, h⟩ response rfl
    obtain ⟨invocation, checked, hinvocation, hchecked, -⟩ := conclude_eq_ok h
    exact ⟨exists_invocationError_eq_ok_iff.1 ⟨_, hinvocation⟩ response rfl,
      exists_assertionOutcomes_eq_ok_iff.1 ⟨_, hchecked⟩⟩
  · intro h
    have hchecks : ∀ check ∈ step.checks, check.Checkable (outcome.toOption.getD .null) := by
      cases outcome with
      | error failure => exact step.judges_null.checks
      | ok response => exact (h response rfl).checks
    obtain ⟨invocation, hinvocation⟩ : ∃ invocation, invocationError outcome = .ok invocation :=
      exists_invocationError_eq_ok_iff.2 fun response heq ↦ (h response heq).error
    obtain ⟨checked, hchecked⟩ := exists_assertionOutcomes_eq_ok_iff.2 hchecks
    exact ⟨_, Except.bind_eq_ok_iff.2 ⟨invocation, hinvocation,
      Except.bind_eq_ok_iff.2 ⟨checked, hchecked, rfl⟩⟩⟩

namespace Environment

variable {env : Environment} {workflow : Workflow} {t₀ : Trace}

/-! ### Attempts -/

variable (env) in
/-- What it takes for an attempt at a step to come to something. -/
structure CanAttempt (results : List StepResult) (index : ℕ) (step : Step) (t : Trace) : Prop where
  /-- When arguments are resolved, none asks for the text of a response that cannot be read. -/
  resolves : step.tool ∈ env.tools → env.obstacles results index step = .ok [] →
    ¬Resolution.Stumbles results step index
  /-- When the tool is called, its answer can be accounted for and judged. -/
  judges : ∀ args, env.callFor? results index step = some (step.tool, args) →
    (env.client t step.tool args).Accountable env.options.callTimeout ∧
      ∀ response, env.client t step.tool args = .returned response → step.Judges response

/-- What is to be done about a step is found unless the resolution of its arguments stumbles, which
it has no occasion to when the step is refused before. -/
theorem exists_plan_eq_ok_iff {results : List StepResult} {index : ℕ} {step : Step}
    (hshort : ∀ entry ∈ step.mapped, ¬Path.HasOverlongNumber entry.2.toList) :
    (∃ decision, env.plan results index step = .ok decision) ↔
      (step.tool ∈ env.tools → env.obstacles results index step = .ok [] →
        ¬Resolution.Stumbles results step index) := by
  have hobstacles : ∃ failed, env.obstacles results index step = .ok failed := by
    unfold obstacles
    split
    · exact Resolution.exists_failedDependencies_eq_ok_iff.2 hshort
    · exact ⟨[], rfl⟩
  obtain ⟨failed, hfailed⟩ := hobstacles
  by_cases htool : step.tool ∈ env.tools
  · rcases failed with _ | ⟨n, failed⟩
    · rw [← Resolution.resolveArguments_breaks_iff hshort]
      rcases hargs : Resolution.resolveArguments results step index with failure | args
      · rcases hstop : failure.stop with fault | b
        · refine iff_of_true ⟨.error (.unresolved fault.message), ?_⟩ (by simp [hstop])
          simp [plan, hfailed, htool, hargs, hstop]
        · refine iff_of_false (by simp [plan, hfailed, htool, hargs, hstop]) fun h ↦ ?_
          exact h htool hfailed ⟨failure, b, rfl, hstop⟩
      · refine iff_of_true ⟨.ok args, ?_⟩ (by simp)
        simp [plan, hfailed, htool, hargs]
    · refine iff_of_true ⟨.error (.failedDependencies index (n :: failed)), ?_⟩ ?_
      · simp [plan, hfailed, htool]
      · simp [hfailed]
  · refine iff_of_true ⟨.error (.unknownTool step.tool), ?_⟩ fun h ↦ absurd h htool
    simp [plan, htool]

/-- **A call and its judgement come to something exactly when** the answer can be accounted for and
judged, if there is one. -/
theorem exists_call_bind_conclude_eq_ok_iff {tool : String} {args : Fields} {t : Trace}
    {step : Step} {index : ℕ} :
    (∃ result, (env.call tool args t).2.bind (conclude step index args) = .ok result) ↔
      (env.canCall = true → (env.client t tool args).Accountable env.options.callTimeout ∧
        ∀ response, env.client t tool args = .returned response → step.Judges response) := by
  rcases hproblem : env.options.callTimeout.problem? with _ | b
  · have hcan : env.canCall = true := by simp [canCall, hproblem]
    rw [call_of_limit hproblem, forall_prop_of_true hcan]
    constructor
    · rintro ⟨result, h⟩
      obtain ⟨outcome, houtcome, hresult⟩ := Except.bind_eq_ok_iff.1 h
      refine ⟨exists_callOutcome_eq_ok_iff.1 ⟨outcome, houtcome⟩, fun response hanswer ↦ ?_⟩
      cases hnull : response.isNull with
      | true =>
        cases response <;> simp [Value.isNull] at hnull
        exact step.judges_null
      | false =>
        have hok : Except.ok outcome = Except.ok (Except.ok response) :=
          houtcome.symm.trans (callOutcome_eq_ok_ok_iff.2 ⟨hanswer, hnull⟩)
        exact exists_conclude_eq_ok_iff.1 ⟨result, hresult⟩ response (Except.ok.inj hok)
    · rintro ⟨haccountable, hjudges⟩
      obtain ⟨outcome, houtcome⟩ := exists_callOutcome_eq_ok_iff.2 haccountable
      obtain ⟨result, hresult⟩ : ∃ result, conclude step index args outcome = .ok result := by
        refine exists_conclude_eq_ok_iff.2 fun response hok ↦ ?_
        rw [hok] at houtcome
        exact hjudges response (callOutcome_eq_ok_ok_iff.1 houtcome).1
      exact ⟨result, Except.bind_eq_ok_iff.2 ⟨outcome, houtcome, hresult⟩⟩
  · -- the tool is not even called
    have hcan : ¬env.canCall = true := by simp [canCall, hproblem]
    rw [call_of_problem hproblem]
    refine iff_of_true ?_ fun h ↦ absurd h hcan
    exact exists_conclude_eq_ok_iff.2 (by simp)

/-- **An attempt comes to something exactly when** arguments can be resolved and the answer judged,
so far as it comes to that. -/
theorem exists_attempt_eq_ok_iff {results : List StepResult} {index : ℕ} {step : Step} {t : Trace}
    (hshort : ∀ entry ∈ step.mapped, ¬Path.HasOverlongNumber entry.2.toList) :
    (∃ result, (env.attempt results index step t).2 = .ok result) ↔
      env.CanAttempt results index step t := by
  have hplanned : (∃ decision, env.plan results index step = .ok decision) ↔ _ :=
    exists_plan_eq_ok_iff hshort
  -- the plan is a breakdown, a refusal that comes to something at once, or a call
  rcases hplan : env.plan results index step with b | refusal | args
  · refine iff_of_false (by simp [attempt, hplan]) fun h ↦ ?_
    obtain ⟨decision, hdecision⟩ := hplanned.2 h.resolves
    simp [hplan] at hdecision
  · have hnone : env.callFor? results index step = none :=
      callFor?_eq_none fun args h ↦ by simp [h] at hplan
    refine iff_of_true (by simp [attempt, hplan]) ⟨hplanned.1 ⟨_, hplan⟩, fun args h ↦ ?_⟩
    simp [hnone] at h
  · have hcall : ∀ args', env.callFor? results index step = some (step.tool, args') ↔
        env.canCall = true ∧ args = args' := by
      intro args'
      rw [callFor?_eq_of_plan hplan]
      cases env.canCall <;> simp
    have hattempt : (env.attempt results index step t).2 =
        (env.call step.tool args t).2.bind (conclude step index args) := by
      simp only [attempt, hplan]
    rw [hattempt, exists_call_bind_conclude_eq_ok_iff]
    constructor
    · intro h
      refine ⟨hplanned.1 ⟨_, hplan⟩, fun args' hargs' ↦ ?_⟩
      obtain ⟨hcan, rfl⟩ := (hcall args').1 hargs'
      exact h hcan
    · intro h hcan
      exact h.judges args ((hcall args).2 ⟨hcan, rfl⟩)

/-! ### Comments -/

variable (env) in
/-- What it takes for a request for a comment to come to something: the answer can be accounted for,
if there is anyone to ask and time for it. -/
def CanComment (prompt : String) (options : CompletionOptions) (limit : TimeLimit) (t : Trace) :
    Prop :=
  ∀ commentator, env.commentator = some commentator → limit.problem? = none →
    (commentator t prompt options).Accountable limit

/-- An answer to a request for a comment is a comment, or a text stands in, if it can be accounted
for. -/
theorem exists_commentOf_eq_ok_iff {limit : TimeLimit} {fallback : String}
    {answer : Answer (Option String)} :
    (∃ text, commentOf limit fallback answer = .ok text) ↔ answer.Accountable limit := by
  cases answer with
  | returned text => simp [commentOf, Answer.Accountable]
  | failed error => simp [commentOf, Answer.Accountable]
  | timedOut => simp [commentOf, Answer.Accountable, Except.map_eq_ok_iff]
  | brokenOff b => simp [commentOf, Answer.Accountable]

/-- So a request comes to something when there is nobody to ask, or the answer can be accounted for.
-/
theorem exists_comment_eq_ok_iff {prompt : String} {options : CompletionOptions}
    {limit : TimeLimit} {fallback : String} {t : Trace} :
    (∃ text, (env.comment prompt options limit fallback t).2 = .ok text) ↔
      env.CanComment prompt options limit t := by
  unfold comment CanComment
  split
  · next hnobody => simp [hnobody]
  · next hproblem _ => simp [hproblem]
  · next commentator hcommentator hproblem =>
    simp [hcommentator, hproblem, exists_commentOf_eq_ok_iff]

variable (env) in
/-- What it takes to comment on a result: the prompt can be written, and the request comes to
something. -/
structure CanAnalyze (workflow : Workflow) (earlier : List StepResult) (result : StepResult)
    (t : Trace) : Prop where
  writes : Commentary.stepPromptIsOverlong result.step result.response result.error = false
  comments : env.CanComment
    (Commentary.stepPrompt workflow result.step result.index result.response result.error)
    Commentary.stepOptions env.options.timeouts.analysis
    (env.announcePhase workflow .analyzing result.index (some result.step) (earlier ++ [result]) t)

/-- A result is commented on unless a comment is wanted and cannot be had. -/
theorem exists_analyze_eq_ok_iff {earlier : List StepResult} {result : StepResult} {t : Trace} :
    (∃ commented, (env.analyze workflow earlier result t).2 = .ok commented) ↔
      (env.options.analyzeSteps = true → env.CanAnalyze workflow earlier result t) := by
  cases hwanted : env.options.analyzeSteps with
  | false => simp [analyze, hwanted]
  | true =>
    cases hlong : Commentary.stepPromptIsOverlong result.step result.response result.error with
    | true =>
      have herror : (env.analyze workflow earlier result t).2 = .error .overlongInteger := by
        simp [analyze, hwanted, Commentary.stepPrompt?, hlong]
      refine iff_of_false (by simp [herror]) fun h ↦ ?_
      exact absurd (h rfl).writes (by simp [hlong])
    | false =>
      simp only [analyze, hwanted, Commentary.stepPrompt?, hlong, Bool.not_true, Bool.false_eq_true,
        if_false, Except.map_eq_ok_iff]
      constructor
      · rintro ⟨commented, text, htext, -⟩ -
        exact ⟨hlong, exists_comment_eq_ok_iff.1 ⟨text, htext⟩⟩
      · intro h
        obtain ⟨text, htext⟩ := exists_comment_eq_ok_iff.2 (h trivial).comments
        exact ⟨_, text, htext, rfl⟩

/-! ### Steps -/

variable (env) in
/-- What it takes for a run to get past a step. -/
structure CanAdvance (workflow : Workflow) (index : ℕ) (step : Step) (standing : Standing)
    (t : Trace) : Prop where
  attempts : env.CanAttempt standing.results index step
    (env.announcePhase workflow .executing index (some step) standing.results t)
  analyzes : env.options.analyzeSteps = true → ∀ t' result,
    env.attempt standing.results index step
      (env.announcePhase workflow .executing index (some step) standing.results t) =
        (t', .ok result) →
    env.CanAnalyze workflow standing.results result
      (env.withSession (fun s ↦ s.afterStep index) standing.captured t').1

/-- **A run gets past a step exactly when** the attempt comes to something and the result can be
commented on, if it is to be. -/
theorem exists_advance_eq_ok_iff {index : ℕ} {step : Step} {standing : Standing} {t : Trace}
    (hshort : ∀ entry ∈ step.mapped, ¬Path.HasOverlongNumber entry.2.toList) :
    (∃ recorded, (env.advance workflow index step standing t).2 = .ok recorded) ↔
      env.CanAdvance workflow index step standing t := by
  constructor
  · rintro ⟨⟨result, captured⟩, h⟩
    obtain ⟨t₁, t₂, attempted, hattempt, hsession, hanalyze⟩ := advance_eq_ok (Prod.ext rfl h)
    refine ⟨(exists_attempt_eq_ok_iff hshort).1 ⟨attempted, by rw [hattempt]⟩, ?_⟩
    intro hwanted t₁' attempted' hattempt'
    obtain ⟨rfl, rfl⟩ := Except.pair_ok_inj (hattempt.symm.trans hattempt')
    rw [hsession]
    exact exists_analyze_eq_ok_iff.1 ⟨result, by rw [hanalyze]⟩ hwanted
  · rintro ⟨hattempts, hanalyzes⟩
    obtain ⟨attempted, hok⟩ := (exists_attempt_eq_ok_iff hshort).2 hattempts
    rcases hattempt : env.attempt standing.results index step
        (env.announcePhase workflow .executing index (some step) standing.results t)
      with ⟨t₁, outcome⟩
    obtain rfl : outcome = .ok attempted := by simpa [hattempt] using hok
    obtain ⟨result, hresult⟩ := exists_analyze_eq_ok_iff.2 fun hwanted ↦
      hanalyzes hwanted t₁ attempted hattempt
    refine ⟨(result, (env.withSession (fun s ↦ s.afterStep index) standing.captured t₁).2), ?_⟩
    simp only [advance, hattempt, hresult]
    rfl

/-! ### The end of a run -/

variable (env) in
/-- The moment at which a summary is asked for. -/
def summaryMoment (workflow : Workflow) (standing : Standing) (t : Trace) : Trace :=
  let (t, captured) := env.withSession
    (fun s ↦ s.afterRun ((standing.results.length : Int) - 1)) standing.captured t
  env.announcePhase workflow .summarizing workflow.steps.length none standing.results
    (env.finishTracking standing.results captured t).1

variable (env) in
/-- What it takes for a summary to come to something, when one is wanted. -/
def CanSummarize (workflow : Workflow) (standing : Standing) (t : Trace) : Prop :=
  env.options.generateSummary = true →
    env.CanComment
      (Commentary.summaryPrompt workflow standing.results standing.verdict.success)
      Commentary.summaryOptions env.options.timeouts.summary
      (env.summaryMoment workflow standing t)

/-- **A result is drawn up exactly when** the data flow and a summary are to be had. -/
theorem exists_complete_eq_ok_iff {standing : Standing} {t : Trace} :
    (∃ result, (env.complete workflow standing t).2 = .ok result) ↔
      (∀ step ∈ workflow.steps, ∀ entry ∈ step.mapped,
        ¬Path.HasOverlongNumber entry.2.toList) ∧ env.CanSummarize workflow standing t := by
  have hsummary : ∀ t, (∃ summary, (env.summarize workflow standing.results
      standing.verdict.success t).2 = .ok summary) ↔ (env.options.generateSummary = true →
        env.CanComment
          (Commentary.summaryPrompt workflow standing.results standing.verdict.success)
          Commentary.summaryOptions env.options.timeouts.summary
          (env.announcePhase workflow .summarizing workflow.steps.length none standing.results
            t)) := by
    intro t
    cases hwanted : env.options.generateSummary with
    | false => simp [summarize, hwanted]
    | true => simp [summarize, hwanted, exists_comment_eq_ok_iff]
  have hedges : (∃ edges, DataFlow.edges workflow standing.results = .ok edges) ↔ _ :=
    DataFlow.exists_edges_eq_ok_iff
  rw [← hedges, CanSummarize, summaryMoment, ← hsummary]
  dsimp only [complete]
  split
  · next b hflow => simp [hflow]
  · next edges hflow =>
    split
    · next b hnone => simp [hnone]
    · next summary hsome => simp [hflow, hsome]

/-! ### Whole runs -/

variable (env workflow t₀) in
/-- What it takes for a run to come to a result: all it meets can be accounted for. -/
structure Contained : Prop where
  mappings : ∀ step ∈ workflow.steps, ∀ entry ∈ step.mapped,
    ¬Path.HasOverlongNumber entry.2.toList
  steps : ∀ i standing t step, Reaches env workflow t₀ i standing t →
    workflow.steps[i]? = some step → env.cancelled t = false →
    env.CanAdvance workflow i step standing t
  summary : ∀ standing t, Ends env workflow t₀ standing t → env.CanSummarize workflow standing t

/-- A loop that gets past each step it comes to does not break down. -/
theorem exists_runFrom_eq_ok (h : Contained env workflow t₀) {steps : List Step} :
    ∀ {i : ℕ} {standing : Standing} {t : Trace}, Reaches env workflow t₀ i standing t →
      workflow.steps.drop i = steps →
      ∃ standing', (env.runFrom workflow i steps standing t).2 = .ok standing' := by
  induction steps with
  | nil => exact fun _ _ ↦ ⟨_, rfl⟩
  | cons step rest ih =>
    intro i standing t hreach hdrop
    obtain ⟨hstep, hrest⟩ := getElem?_eq_of_drop_eq_cons hdrop
    rw [runFrom]
    by_cases hasked : env.cancelled t = true
    · exact ⟨standing.stoppedBefore i, by rw [if_pos hasked]⟩
    · have hgoes : env.cancelled t = false := by simpa using hasked
      have hshort := h.mappings step (List.mem_of_getElem? hstep)
      obtain ⟨⟨result, captured⟩, hrecorded⟩ :=
        (exists_advance_eq_ok_iff hshort).2 (h.steps i standing t step hreach hstep hgoes)
      rcases hadvance : env.advance workflow i step standing t with ⟨t', outcome⟩
      obtain rfl : outcome = .ok (result, captured) := by simpa [hadvance] using hrecorded
      by_cases hending : env.endsAfter result = true
      · exact ⟨standing.record result captured, by simp [hgoes, hending]⟩
      · have hgoesOn : env.endsAfter result = false := by simpa using hending
        obtain ⟨standing', hrest'⟩ := ih (.next hreach hstep hgoes hadvance hgoesOn) hrest
        exact ⟨standing', by simpa [hgoes, hgoesOn] using hrest'⟩

/-- A run that comes to a result got past every step it came to. -/
theorem contained_of_execute {result : WorkflowResult}
    (h : (env.execute workflow t₀).2 = .ok result) : Contained env workflow t₀ := by
  obtain ⟨standing, t, hends, hcomplete⟩ := ends_of_execute (Prod.ext rfl h)
  have hloop := runFrom_eq_of_ends hends
  obtain ⟨hmappings, hsummary⟩ := exists_complete_eq_ok_iff.1 ⟨result, by rw [hcomplete]⟩
  refine ⟨hmappings, ?_, ?_⟩
  -- from each boundary the run went on, and it ended in one place only
  · intro i standing' t' step hreach hstep hgoes
    have hshort := hmappings step (List.mem_of_getElem? hstep)
    refine (exists_advance_eq_ok_iff hshort).1 ?_
    rw [runFrom_eq_of_reaches hreach, drop_eq_cons_of_getElem? hstep, runFrom] at hloop
    rcases hadvance : env.advance workflow i step standing' t' with ⟨t'', b | recorded⟩
    · -- a breakdown here would break down the run
      simp [hgoes, hadvance] at hloop
    · exact ⟨recorded, rfl⟩
  · intro standing' t' hends'
    obtain ⟨rfl, rfl⟩ := Except.pair_ok_inj (hloop.symm.trans (runFrom_eq_of_ends hends'))
    exact hsummary

/-- A run that gets past every step it comes to comes to a result. -/
theorem Contained.exists_result (h : Contained env workflow t₀) :
    ∃ result, (env.execute workflow t₀).2 = .ok result := by
  obtain ⟨standing, hok⟩ := exists_runFrom_eq_ok h .start (List.drop_zero ..)
  rcases hloop : env.runFrom workflow 0 workflow.steps (env.start workflow t₀).2
    (env.start workflow t₀).1 with ⟨t, outcome⟩
  obtain rfl : outcome = .ok standing := by simpa [hloop] using hok
  have hends := ends_of_runFrom .start (List.drop_zero ..) hloop
  obtain ⟨result, hresult⟩ := exists_complete_eq_ok_iff.2 ⟨h.mappings, h.summary standing t hends⟩
  exact ⟨result, by simp [execute, hloop, hresult]⟩

/-- **A run comes to a result exactly when** all it meets can be accounted for. -/
theorem exists_execute_eq_ok_iff :
    (∃ result, (env.execute workflow t₀).2 = .ok result) ↔ Contained env workflow t₀ := by
  constructor
  · rintro ⟨result, h⟩
    exact contained_of_execute h
  · exact Contained.exists_result

/-! ### Tame surroundings -/

variable (env workflow) in
/-- Surroundings that never answer in a way that escapes, for a workflow that holds no overlong
number. -/
structure Tame : Prop where
  mappings : ∀ step ∈ workflow.steps, ∀ entry ∈ step.mapped,
    ¬Path.HasOverlongNumber entry.2.toList
  paths : ∀ step ∈ workflow.steps, ∀ check ∈ step.checks,
    ¬Path.HasOverlongNumber check.path.toList
  args : ∀ step ∈ workflow.steps, (Value.object step.args).isOverlong = false
  answers : ∀ t tool args, (env.client t tool args).Accountable env.options.callTimeout
  responses : ∀ t tool args response, env.client t tool args = .returned response →
    Response.Legible response ∧ response.isOverlong = false
  comments : ∀ commentator, env.commentator = some commentator → ∀ t prompt options,
    (commentator t prompt options).Accountable env.options.timeouts.analysis ∧
      (commentator t prompt options).Accountable env.options.timeouts.summary

/-- What a tame tool leaves on record can be read. -/
theorem Tame.legible_of_attempt (h : Tame env workflow) {results : List StepResult} {index : ℕ}
    {step : Step} {t t' : Trace} {result : StepResult}
    (hattempt : env.attempt results index step t = (t', .ok result)) :
    Response.Legible result.response ∧ result.response.isOverlong = false := by
  rcases response_of_attempt hattempt with hnull | ⟨tool, args, hreturned⟩
  · rw [hnull]
    exact ⟨rfl, rfl⟩
  · exact h.responses t tool args _ hreturned

/-- **In tame surroundings every response on record can be read**, by induction on the boundaries.
-/
theorem Tame.legible_of_reaches (h : Tame env workflow) {i : ℕ} {standing : Standing} {t : Trace}
    (hreach : Reaches env workflow t₀ i standing t) :
    ∀ r ∈ standing.results, Response.Legible r.response := by
  induction hreach with
  | start => simp [start]
  | next _ _ _ advanced _ ih =>
    intro r hmem
    rcases List.mem_append.1 hmem with hmem | hmem
    · exact ih r hmem
    · obtain rfl := List.mem_singleton.1 hmem
      obtain ⟨t₁, attempted, analysis, hattempt, rfl⟩ := exists_attempt_of_advance advanced
      exact (h.legible_of_attempt hattempt).1

/-- **Among tame surroundings every run comes to a result.** -/
theorem Tame.exists_result (h : Tame env workflow) (t₀ : Trace) :
    ∃ result, (env.execute workflow t₀).2 = .ok result := by
  refine Contained.exists_result ⟨h.mappings, ?_, ?_⟩
  · intro i standing t step hreach hstep _
    have hmem := List.mem_of_getElem? hstep
    constructor
    · refine ⟨fun _ _ ↦ ?_, fun args _ ↦ ⟨h.answers _ _ _, fun response hreturned ↦ ?_⟩⟩
      · rintro ⟨before, entry, after, -, -, ref, result, hasks⟩
        exact hasks.illegible
          (h.legible_of_reaches hreach result (List.mem_of_find?_eq_some hasks.resultFor_eq))
      · have hlegible := (h.responses _ _ _ _ hreturned).1
        exact ⟨fun _ ↦ hlegible, fun check hcheck ↦
          ⟨fun _ ↦ h.paths step hmem check hcheck, fun _ _ ↦ hlegible⟩⟩
    · intro _ t' result hattempt
      refine ⟨?_, fun commentator hcommentator _ ↦ (h.comments commentator hcommentator _ _ _).1⟩
      have hstep : result.step = step := (sound_of_attempt hattempt).step_eq
      simp [Commentary.stepPromptIsOverlong, hstep, h.args step hmem,
        (h.legible_of_attempt hattempt).2]
  · intro standing t _ _ commentator hcommentator _
    exact (h.comments commentator hcommentator _ _ _).2

/-! ### A response that escapes -/

/-- A tool is called once. -/
def ping : Workflow where
  id := "ping"
  name := "Ping"
  steps := [{ tool := "ping" }]

/-- The tool says that the call failed, and has a number for its content. -/
def numberPlan : Rehearsal.Plan where
  script := [
    ("ping", [{ deed := .returns (.object [("content", .nat 5), ("isError", .bool true)]) }])]
  tools := ["ping"]
  options := { generateSummary := false }

/-- The content of the response has no items to go through, and the run comes to no result. -/
theorem ping_comes_to_nothing :
    ¬∃ result, (numberPlan.environment.execute ping []).2 = .ok result := by
  have hnone : (numberPlan.environment.execute ping []).2.toOption.isSome = false := by
    decide +kernel
  rintro ⟨result, h⟩
  simp [h, Except.toOption] at hnone

end Environment

end ToolFlow
