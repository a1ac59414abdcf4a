import Mathlib.Data.List.Basic
import ToolFlow.Proofs.Except
import ToolFlow.Run.Attempt

/-!
# What an attempt at a step leaves behind

Every way in which an attempt can end is read off here once, for the theory of whole runs to cite:

* `attempt_eq_ok` takes a completed attempt apart: the step was refused and nothing happened, or its
  arguments were resolved, its tool was called, and the outcome was judged;
* `sound_of_attempt` says that the result is of the step and index that were attempted, that it
  succeeded exactly when it has no error, and that no error is empty.

Whether a tool is really called is a matter of the time limit (`call_of_problem`, `call_of_limit`):
a limit that is no number of seconds is found out before the call.

An attempt may also come to no result at all, when something escapes that is no fault. That is not
looked into here: the lemmas have a completed attempt for their hypothesis, and when there is one is
settled where runs are shown to come to results. So the equations are all of the form `… = .ok …`,
and an inversion never has to name a breakdown.

That no error is empty looks like a detail. The success of a step is the absence of an error, and an
error is shown, logged and handed on as a text. An empty one would be taken for none by whoever asks
whether there is something in it, as the summary of a run does.
-/

namespace ToolFlow

/-! ### Errors are never empty -/

/-- A text that starts with something is not empty. -/
private theorem append_ne_empty {s : String} (t : String) (h : s ≠ "") : s ++ t ≠ "" :=
  fun e ↦ h (String.append_eq_empty_iff.1 e).1

/-- An error without a text is given one. -/
theorem errorTextOr_ne_empty (text : Option String) : errorTextOr text ≠ "" := by
  unfold errorTextOr
  split
  · decide
  · intro h
    simp_all
  · decide

/-- A refusal has something to say. -/
theorem Refusal.message_ne_empty (refusal : Refusal) : refusal.message ≠ "" := by
  cases refusal with
  | unknownTool tool => exact append_ne_empty _ (by decide)
  | failedDependencies index failed =>
    exact append_ne_empty _ (append_ne_empty _ (append_ne_empty _ (by decide)))
  | unresolved reason => exact append_ne_empty _ (by decide)

/-- So has a call that failed, even where the error that was raised had not. -/
theorem CallFailure.message_ne_empty (failure : CallFailure) : failure.message ≠ "" := by
  cases failure with
  | timedOut tool limit =>
    exact append_ne_empty _ (append_ne_empty _ (append_ne_empty _ (append_ne_empty _ (by decide))))
  | raised error => exact errorTextOr_ne_empty _
  | noResponse tool => exact append_ne_empty _ (append_ne_empty _ (by decide))

/-- The errors of assertions start with what they are. -/
theorem ne_empty_of_assertionError? {results : List AssertionResult} {error : String}
    (h : assertionError? results = some error) : error ≠ "" := by
  simp only [assertionError?, Option.ite_none_left_eq_some, Option.some.injEq] at h
  rw [← h.2]
  simp

/-- **No error of an invocation is empty**, be it of the call or reported by the response. -/
theorem ne_empty_of_invocationError {outcome : Except CallFailure Value} {error : String}
    (h : invocationError outcome = .ok (some error)) : error ≠ "" := by
  cases outcome with
  | error failure =>
    have herror : failure.message = error := by simpa [invocationError] using h
    exact herror ▸ failure.message_ne_empty
  | ok response =>
    simp only [invocationError, responseError] at h
    split at h
    · obtain ⟨text, -, htext⟩ := Except.map_eq_ok_iff.1 h
      exact Option.some.inj htext ▸ errorTextOr_ne_empty text
    · simp at h

/-! ### Sound results -/

/-- A result that says what it should of the step and index that were attempted: it succeeded
exactly when it has no error, and no error is empty. -/
structure StepResult.Sound (step : Step) (index : ℕ) (result : StepResult) : Prop where
  step_eq : result.step = step
  index_eq : result.index = index
  success_iff : result.success = true ↔ result.error = none
  error_ne : result.error ≠ some ""

/-- A refused step failed, and says why. -/
theorem Refusal.sound_result (step : Step) (index : ℕ) (refusal : Refusal) :
    (refusal.result step index).Sound step index where
  step_eq := rfl
  index_eq := rfl
  success_iff := by simp [Refusal.result]
  error_ne := by
    intro h
    exact refusal.message_ne_empty (Option.some.inj h)

/-- The judgement of a call in its parts. -/
theorem conclude_eq_ok {step : Step} {index : ℕ} {args : Fields}
    {outcome : Except CallFailure Value} {result : StepResult}
    (h : conclude step index args outcome = .ok result) :
    ∃ invocation checked, invocationError outcome = .ok invocation ∧
      assertionOutcomes step (outcome.toOption.getD .null) = .ok checked ∧
      result =
        { step, index, resolvedArgs := args, response := outcome.toOption.getD .null
          error := invocation.orElse fun _ ↦ assertionError? (checked.getD [])
          success := (invocation.orElse fun _ ↦ assertionError? (checked.getD [])).isNone
          assertionResults := checked } := by
  obtain ⟨invocation, hinv, h⟩ := Except.bind_eq_ok_iff.1 h
  obtain ⟨checked, hchk, h⟩ := Except.bind_eq_ok_iff.1 h
  exact ⟨invocation, checked, hinv, hchk, (Except.ok.inj h).symm⟩

/-- A step whose call was judged failed exactly when it has an error. -/
theorem sound_of_conclude {step : Step} {index : ℕ} {args : Fields}
    {outcome : Except CallFailure Value} {result : StepResult}
    (h : conclude step index args outcome = .ok result) : result.Sound step index := by
  obtain ⟨invocation, checked, hinv, -, rfl⟩ := conclude_eq_ok h
  refine ⟨rfl, rfl, Option.isNone_iff_eq_none, ?_⟩
  intro herror
  cases invocation with
  | some error => exact ne_empty_of_invocationError hinv (Option.some.inj herror)
  | none => exact ne_empty_of_assertionError? herror rfl

/-- The arguments that were sent are those on record. -/
theorem resolvedArgs_of_conclude {step : Step} {index : ℕ} {args : Fields}
    {outcome : Except CallFailure Value} {result : StepResult}
    (h : conclude step index args outcome = .ok result) : result.resolvedArgs = args := by
  obtain ⟨_, _, -, -, rfl⟩ := conclude_eq_ok h
  rfl

/-- A call leaves a response exactly when the tool returned one. -/
theorem callOutcome_eq_ok_ok_iff {tool : String} {limit : TimeLimit} {answer : Answer Value}
    {response : Value} :
    callOutcome tool limit answer = .ok (.ok response) ↔
      answer = .returned response ∧ response.isNull = false := by
  cases answer with
  | returned r =>
    cases r <;> simp [callOutcome] <;> rintro rfl <;> simp [Value.isNull]
  | failed error => simp [callOutcome]
  | timedOut => rcases h : limit.shortText with b | shown <;> simp [callOutcome, h, Except.map]
  | brokenOff b => simp [callOutcome]

namespace Environment

variable {env : Environment}

/-! ### The call -/

/-- A time limit that is no number of seconds makes the call fail before the tool is reached. -/
theorem call_of_problem {b : Breakdown} (h : env.options.callTimeout.problem? = some b)
    (tool : String) (args : Fields) (t : Trace) :
    env.call tool args t =
      (t ++ [.noticed (failedCall tool b.message)], .ok (.error (.raised b.message))) := by
  simp [call, h]

/-- Otherwise the tool is called once, and the call is on record. -/
theorem call_of_limit (h : env.options.callTimeout.problem? = none) (tool : String)
    (args : Fields) (t : Trace) :
    env.call tool args t =
      (t ++ .called tool args :: (callNotices tool (env.client t tool args)).map .noticed,
        callOutcome tool env.options.callTimeout (env.client t tool args)) := by
  simp [call, h]

/-! ### The attempt -/

/-- **A completed attempt in its parts**: a refusal that touches nothing, or a call with the
resolved arguments and the judgement of what it came to. -/
theorem attempt_eq_ok {results : List StepResult} {index : ℕ} {step : Step} {t t' : Trace}
    {result : StepResult} (h : env.attempt results index step t = (t', .ok result)) :
    (∃ refusal, env.plan results index step = .ok (.error refusal) ∧ t' = t ∧
      result = refusal.result step index) ∨
    ∃ args outcome, env.plan results index step = .ok (.ok args) ∧
      env.call step.tool args t = (t', .ok outcome) ∧
      conclude step index args outcome = .ok result := by
  unfold attempt at h
  split at h
  · simp at h
  · next refusal hplan =>
    simp only [Prod.mk.injEq, Except.ok.injEq] at h
    exact Or.inl ⟨refusal, hplan, h.1.symm, h.2.symm⟩
  · next args hplan =>
    obtain ⟨ht, h⟩ := Prod.mk.inj h
    obtain ⟨outcome, hcall, hresult⟩ := Except.bind_eq_ok_iff.1 h
    exact Or.inr ⟨args, outcome, hplan, Prod.ext ht hcall, hresult⟩

/-- **The result of an attempt is sound**, whichever way the attempt took. -/
theorem sound_of_attempt {results : List StepResult} {index : ℕ} {step : Step} {t t' : Trace}
    {result : StepResult} (h : env.attempt results index step t = (t', .ok result)) :
    result.Sound step index := by
  rcases attempt_eq_ok h with ⟨refusal, -, -, rfl⟩ | ⟨args, outcome, -, -, hresult⟩
  · exact refusal.sound_result step index
  · exact sound_of_conclude hresult

/-- **The response on record is that of the tool**, or there is none. -/
theorem response_of_attempt {results : List StepResult} {index : ℕ} {step : Step} {t t' : Trace}
    {result : StepResult} (h : env.attempt results index step t = (t', .ok result)) :
    result.response = .null ∨ ∃ tool args, env.client t tool args = .returned result.response := by
  rcases attempt_eq_ok h with ⟨refusal, -, -, rfl⟩ | ⟨args, outcome, -, hcall, hresult⟩
  · exact Or.inl rfl
  · obtain ⟨_, _, -, -, rfl⟩ := conclude_eq_ok hresult
    rcases outcome with failure | response
    · exact Or.inl rfl
    · refine Or.inr ⟨step.tool, args, ?_⟩
      rcases hproblem : env.options.callTimeout.problem? with _ | b
      · rw [call_of_limit hproblem] at hcall
        exact (callOutcome_eq_ok_ok_iff.1 (Prod.mk.inj hcall).2).1
      · rw [call_of_problem hproblem] at hcall
        simp at hcall

end Environment

end ToolFlow
