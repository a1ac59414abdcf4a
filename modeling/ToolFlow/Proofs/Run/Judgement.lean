import Mathlib.Data.List.Forall2
import ToolFlow.Proofs.Evaluation
import ToolFlow.Proofs.Run.Dependencies

/-!
# The verdict on a step

Once its tool is called, a step can fail because there is no response, because the response says
that the call failed, or because an assertion fails. What is recorded is fixed by what the call came
to (`judged_of_attempt`):

* without a response there is an error that says why, and every assertion fails;
* a response is recorded, and every assertion is evaluated against it, whatever it says of the call;
  an error that the response reports comes before that of the assertions.

The errors are written out here as they are to be read, and not by the functions that put them
together. That none of them is empty, and that every assertion that failed has a message to be put
into them, is known from the evaluation of assertions (`Assertion.answers_of_evaluate`).

Whether a response says that the call failed is `Response.isError`, and when that is so is a matter
of one field of the response (`Response.isError_eq_true_iff`). What an assertion comes to on a
response is what its evaluation answers. Both are settled in modules of their own, and all that is
said here is how they make up the verdict.

Answers are those that reach the step. A limit that is no number of seconds makes the call fail
without its being made, and counts as an answer of that kind (`answerTo`), so that the verdict on
such a step needs no case of its own.
-/

namespace ToolFlow

/-! ### Errors -/

/-- What is said of an error that may have a text. -/
inductive Worded : Option String → String → Prop
  | text {text : String} (ne_empty : text ≠ "") : Worded (some text) text
  | empty : Worded (some "") "Unknown error"
  | absent : Worded none "Unknown error"

/-- What is said of a call that left no response: how it failed, that it took too long, or that
nothing came of it. -/
inductive CallFailed (tool : String) (limit : TimeLimit) : Answer Value → String → Prop
  | raised {text error : String} (worded : Worded (some text) error) :
      CallFailed tool limit (.failed text) error
  | timedOut {shown : String} (shown_eq : limit.shortText = .ok shown) :
      CallFailed tool limit .timedOut s!"Tool call '{tool}' timed out after {shown}ms"
  | nothing : CallFailed tool limit (.returned .null) s!"Tool '{tool}' returned no response"

/-- The response in an answer: null is none. -/
def Answer.response? : Answer Value → Option Value
  | .returned .null => none
  | .returned response => some response
  | _ => none

/-- The outcomes of the assertions of a step, none when none were evaluated. -/
def StepResult.outcomes (result : StepResult) : List AssertionResult :=
  result.assertionResults.getD []

/-! ### Verdicts -/

/-- The verdict on a step whose tool left no response, for an error that is said of it. -/
structure JudgedWithout (step : Step) (error : String) (result : StepResult) : Prop where
  response_eq : result.response = .null
  error_eq : result.error = some error
  error_ne_empty : error ≠ ""
  failed : List.Forall₂ (fun assertion outcome ↦
    outcome.assertion = assertion ∧ outcome.passed = false) step.checks result.outcomes

/-- The verdict on a step by the response of its tool. -/
structure JudgedBy (step : Step) (response : Value) (result : StepResult) : Prop where
  response_eq : result.response = response
  evaluated : List.Forall₂ (fun assertion outcome ↦ assertion.evaluate response = .ok outcome)
    step.checks result.outcomes
  error_of_isError : Response.isError response = true →
    ∃ text error, Response.firstText response = .ok text ∧ Worded text error ∧
      result.error = some error
  error_of_failed : Response.isError response = false →
    (∃ outcome ∈ result.outcomes, outcome.passed = false) →
    ∃ messages, List.Forall₂ (fun outcome message ↦ outcome.message = some message ∧ message ≠ "")
        (result.outcomes.filter fun outcome ↦ !outcome.passed) messages ∧
      result.error = some ("Assertions failed: " ++ "; ".intercalate messages)
  error_of_passed : Response.isError response = false →
    (∀ outcome ∈ result.outcomes, outcome.passed = true) → result.error = none

/-- The verdict on a step by the answer to the call of its tool. -/
structure Judged (limit : TimeLimit) (step : Step) (answer : Answer Value) (result : StepResult) :
    Prop where
  without : answer.response? = none →
    ∃ error, CallFailed step.tool limit answer error ∧ JudgedWithout step error result
  by_response : ∀ response, answer.response? = some response → JudgedBy step response result
  success_iff : result.success = true ↔
    (∃ response, answer.response? = some response ∧ Response.isError response = false) ∧
      ∀ outcome ∈ result.outcomes, outcome.passed = true
  assertionResults_eq_none_iff : result.assertionResults = none ↔ step.checks = []

/-- An error without a text is called unknown. -/
theorem worded_errorTextOr (text : Option String) : Worded text (errorTextOr text) := by
  unfold errorTextOr
  split
  · exact .empty
  · next text hne => exact .text (by simpa using hne)
  · exact .absent

/-! ### Calls -/

variable {tool : String} {limit : TimeLimit} {answer : Answer Value} {step : Step} {index : ℕ}
  {args : Fields} {outcome : Except CallFailure Value} {result : StepResult} {response : Value}

/-- **A call leaves a response or an error that is said of it.** -/
theorem callOutcome_eq_ok (h : callOutcome tool limit answer = .ok outcome) :
    (answer.response? = none ∧
        ∃ failure, outcome = .error failure ∧ CallFailed tool limit answer failure.message) ∨
      ∃ response, answer.response? = some response ∧ response.isNull = false ∧
        outcome = .ok response := by
  cases answer with
  | returned response =>
    cases hnull : response.isNull with
    | true =>
      obtain rfl : response = .null := by cases response <;> simp_all [Value.isNull]
      obtain rfl := Except.ok.inj h
      exact Or.inl ⟨rfl, _, rfl, .nothing⟩
    | false =>
      have hok : callOutcome tool limit (.returned response) = .ok (.ok response) :=
        callOutcome_eq_ok_ok_iff.2 ⟨rfl, hnull⟩
      obtain rfl := Except.ok.inj (hok.symm.trans h)
      refine Or.inr ⟨response, ?_, hnull, rfl⟩
      cases response <;> simp_all [Answer.response?, Value.isNull]
  | failed text =>
    obtain rfl := Except.ok.inj h
    exact Or.inl ⟨rfl, _, rfl, .raised (worded_errorTextOr _)⟩
  | timedOut =>
    obtain ⟨shown, hshown, rfl⟩ := Except.map_eq_ok_iff.1 h
    exact Or.inl ⟨rfl, _, rfl, .timedOut hshown⟩
  | brokenOff b => simp [callOutcome] at h

/-! ### Assertions -/

/-- The assertions of a step are evaluated in order. -/
theorem forall₂_of_assertionOutcomes {checked : Option (List AssertionResult)}
    (h : assertionOutcomes step response = .ok checked) :
    List.Forall₂ (fun assertion outcome ↦ assertion.evaluate response = .ok outcome) step.checks
        (checked.getD []) ∧
      (checked = none ↔ step.checks = []) := by
  unfold assertionOutcomes at h
  split at h
  · next hempty =>
    obtain rfl := Except.ok.inj h
    have hnil : step.checks = [] := List.isEmpty_iff.1 hempty
    simp [hnil]
  · next hnonempty =>
    obtain ⟨outcomes, houtcomes, rfl⟩ := Except.map_eq_ok_iff.1 h
    exact ⟨Except.mapM_eq_ok_iff_forall₂.1 houtcomes, by simpa using hnonempty⟩

/-- Assertions are no error when they all passed. -/
theorem assertionError?_eq_none_iff {outcomes : List AssertionResult} :
    assertionError? outcomes = none ↔ ∀ outcome ∈ outcomes, outcome.passed = true := by
  simp [assertionError?]

/-- Assertions of which some failed are reported by the messages of those that did. -/
theorem assertionError?_eq_some {outcomes : List AssertionResult}
    (hfailed : ∃ outcome ∈ outcomes, outcome.passed = false)
    (hsound : ∀ outcome ∈ outcomes, outcome.passed = false →
      ∃ message, outcome.message = some message ∧ message ≠ "") :
    ∃ messages, List.Forall₂ (fun outcome message ↦ outcome.message = some message ∧ message ≠ "")
        (outcomes.filter fun outcome ↦ !outcome.passed) messages ∧
      assertionError? outcomes = some ("Assertions failed: " ++ "; ".intercalate messages) := by
  refine ⟨(outcomes.filter fun outcome ↦ !outcome.passed).map fun outcome ↦
    outcome.message.getD "", ?_, ?_⟩
  · rw [List.forall₂_map_right_iff, List.forall₂_same]
    intro outcome hmem
    obtain ⟨hmem, hnot⟩ := List.mem_filter.1 hmem
    obtain ⟨message, hmessage, hne⟩ := hsound outcome hmem (by simpa using hnot)
    rw [hmessage]
    exact ⟨rfl, hne⟩
  · simpa [assertionError?] using hfailed

/-- Assertions that were evaluated have a message, if they failed. -/
theorem forall_exists_message {assertions : List Assertion} {outcomes : List AssertionResult}
    (h : List.Forall₂ (fun assertion outcome ↦ assertion.evaluate response = .ok outcome)
      assertions outcomes) :
    ∀ outcome ∈ outcomes, outcome.passed = false →
      ∃ message, outcome.message = some message ∧ message ≠ "" := by
  intro outcome hmem
  obtain ⟨assertion, -, heval⟩ :=
    Except.exists_of_mem_of_mapM_eq_ok (Except.mapM_eq_ok_iff_forall₂.2 h) outcome hmem
  exact (Assertion.answers_of_evaluate heval).exists_message

/-! ### Judgements -/

/-- **A call that left no response is judged by its failure.** -/
theorem judgedWithout_of_conclude {failure : CallFailure}
    (h : conclude step index args (.error failure) = .ok result) :
    JudgedWithout step failure.message result := by
  obtain ⟨invocation, checked, hinvocation, hchecked, rfl⟩ := conclude_eq_ok h
  obtain rfl := Except.ok.inj hinvocation
  refine ⟨rfl, rfl, failure.message_ne_empty, ?_⟩
  refine (forall₂_of_assertionOutcomes hchecked).1.imp fun assertion outcome heval ↦ ?_
  have hanswers := Assertion.answers_of_evaluate heval
  exact ⟨hanswers.assertion_eq, hanswers.failed_of_no_text Response.not_hasTextBlock_null⟩

/-- **A response is judged by what it says of the call, and else by the assertions.** -/
theorem judgedBy_of_conclude (h : conclude step index args (.ok response) = .ok result) :
    JudgedBy step response result := by
  obtain ⟨invocation, checked, hinvocation, hchecked, rfl⟩ := conclude_eq_ok h
  obtain ⟨hevaluated, -⟩ := forall₂_of_assertionOutcomes hchecked
  have hreported : responseError response = .ok invocation := hinvocation
  refine ⟨rfl, hevaluated, fun herror ↦ ?_, fun hok hfailed ↦ ?_, fun hok hpassed ↦ ?_⟩
  · rw [responseError, if_pos herror] at hreported
    obtain ⟨text, htext, rfl⟩ := Except.map_eq_ok_iff.1 hreported
    exact ⟨text, _, htext, worded_errorTextOr text, rfl⟩
  · rw [responseError, if_neg (by simp [hok])] at hreported
    obtain rfl := Except.ok.inj hreported
    exact assertionError?_eq_some hfailed (forall_exists_message hevaluated)
  · rw [responseError, if_neg (by simp [hok])] at hreported
    obtain rfl := Except.ok.inj hreported
    exact assertionError?_eq_none_iff.2 hpassed

/-- Only a response that does not say that the call failed, and fails no assertion, leaves no
error. -/
theorem JudgedBy.error_eq_none_iff (h : JudgedBy step response result) :
    result.error = none ↔ Response.isError response = false ∧
      ∀ outcome ∈ result.outcomes, outcome.passed = true := by
  constructor
  · intro hnone
    have hok : Response.isError response = false := by
      by_contra herror
      obtain ⟨_, _, -, -, hsome⟩ := h.error_of_isError (by simpa using herror)
      simp [hnone] at hsome
    refine ⟨hok, fun outcome hmem ↦ ?_⟩
    by_contra hfailed
    obtain ⟨_, -, hsome⟩ := h.error_of_failed hok ⟨outcome, hmem, by simpa using hfailed⟩
    simp [hnone] at hsome
  · rintro ⟨hok, hpassed⟩
    exact h.error_of_passed hok hpassed

/-- **What is recorded of a call is fixed by what it came to.** -/
theorem judged_of_conclude (hcall : callOutcome step.tool limit answer = .ok outcome)
    (h : conclude step index args outcome = .ok result) : Judged limit step answer result := by
  have hsuccess := (sound_of_conclude h).success_iff
  have hnone : result.assertionResults = none ↔ step.checks = [] := by
    obtain ⟨_, _, -, hchecked, rfl⟩ := conclude_eq_ok h
    exact (forall₂_of_assertionOutcomes hchecked).2
  rcases callOutcome_eq_ok hcall with ⟨hleft, failure, rfl, hfailed⟩ | ⟨response, hleft, -, rfl⟩
  · have hjudged := judgedWithout_of_conclude h
    refine ⟨fun _ ↦ ⟨_, hfailed, hjudged⟩, by simp [hleft], ?_, hnone⟩
    rw [hsuccess, hjudged.error_eq, hleft]
    simp
  · have hjudged := judgedBy_of_conclude h
    refine ⟨by simp [hleft], fun r hr ↦ ?_, ?_, hnone⟩
    · obtain rfl : response = r := Option.some.inj (hleft.symm.trans hr)
      exact hjudged
    · rw [hsuccess, hjudged.error_eq_none_iff, hleft]
      simp

/-! ### Attempts -/

namespace Environment

variable (env : Environment)

/-- What calling a tool comes to, the time limit included: a limit that is no number of seconds
makes the call fail before the tool is reached. -/
def answerTo (t : Trace) (tool : String) (args : Fields) : Answer Value :=
  match env.options.callTimeout.problem? with
  | some b => .failed b.message
  | none => env.client t tool args

variable {env}

/-- A call comes to what its answer comes to, the answer of a limit included. -/
theorem call_eq_callOutcome (t : Trace) :
    (env.call tool args t).2 =
      callOutcome tool env.options.callTimeout (env.answerTo t tool args) := by
  rcases hproblem : env.options.callTimeout.problem? with _ | b
  · rw [call_of_limit hproblem, answerTo, hproblem]
  · rw [call_of_problem hproblem, answerTo, hproblem]
    rfl

/-- **The verdict on a step whose tool is there and whose arguments can be resolved is fixed by what
the call of the tool comes to.** -/
theorem judged_of_attempt {results : List StepResult} {t t' : Trace}
    (htool : step.tool ∈ env.tools)
    (hargs : Resolution.resolveArguments results step index = .ok args)
    (h : env.attempt results index step t = (t', .ok result)) :
    Judged env.options.callTimeout step (env.answerTo t step.tool args) result := by
  have hplan : env.plan results index step = .ok (.ok args) :=
    plan_eq_ok_ok_iff.2 ⟨isCallable_iff_resolves.2 ⟨htool, args, hargs⟩, hargs⟩
  rcases attempt_eq_ok h with ⟨refusal, hrefused, -, -⟩ | ⟨args', outcome, hcalled, hcall, hresult⟩
  · simp [hplan] at hrefused
  · obtain rfl : args = args' := Except.ok.inj (Except.ok.inj (hplan.symm.trans hcalled))
    refine judged_of_conclude ?_ hresult
    rw [← call_eq_callOutcome, hcall]

/-- The first step of the errand, with assertions on its number: that it is seven, that it is a
text, and that it comes with a name. -/
def scrupulous : Step where
  tool := "create"
  assertions := some [
    { path := "id", condition := .equals, value := .int 7 },
    { path := "id", condition := .kind, value := .text "string",
      message := some "The id is no text" },
    { path := "name", condition := .present }]

/-- The second step of the errand, with an assertion that its response fails. -/
def refused : Step where
  tool := "delete"
  assertions := some [{ path := "id", condition := .present }]

/-- The assertions that fail are reported in order, the one that passes is not. Where the response
reports an error, the assertions are evaluated as well, but the error is that of the response. -/
theorem judged_of_scrupulous : (scrupulous.tool ∈ errandPlan.environment.tools ∧
    Resolution.resolveArguments [] scrupulous 0 = .ok [] ∧
    ∃ t' result, errandPlan.environment.attempt [] 0 scrupulous [] = (t', .ok result) ∧
      result.error = some "Assertions failed: The id is no text; Assertion failed: exists" ∧
      Judged errandPlan.environment.options.callTimeout scrupulous
        (errandPlan.environment.answerTo [] scrupulous.tool []) result) ∧
    refused.tool ∈ errandPlan.environment.tools ∧
    Resolution.resolveArguments [] refused 0 = .ok [] ∧
    ∃ t' result, errandPlan.environment.attempt [] 0 refused [] = (t', .ok result) ∧
      Response.isError result.response = true ∧ result.error = some "Permission denied" ∧
      result.outcomes.map (·.passed) = [false] ∧
      Judged errandPlan.environment.options.callTimeout refused
        (errandPlan.environment.answerTo [] refused.tool []) result := by
  constructor
  · have htool : scrupulous.tool ∈ errandPlan.environment.tools := List.mem_cons_self
    have hattempt : ((errandPlan.environment.attempt [] 0 scrupulous []).2.toOption.map
        (·.error)) =
          some (some "Assertions failed: The id is no text; Assertion failed: exists") := by
      decide +kernel
    obtain ⟨t', result, h, herror⟩ := Except.exists_eq_ok_of_shows hattempt
    exact ⟨htool, rfl, t', result, h, herror, judged_of_attempt htool rfl h⟩
  · have htool : refused.tool ∈ errandPlan.environment.tools := by decide
    have hattempt : ((errandPlan.environment.attempt [] 0 refused []).2.toOption.map
        fun result ↦ (Response.isError result.response, result.error,
          result.outcomes.map (·.passed))) = some (true, some "Permission denied", [false]) := by
      decide +kernel
    obtain ⟨t', result, h, hshown⟩ := Except.exists_eq_ok_of_shows hattempt
    obtain ⟨hreported, hrest⟩ := Prod.mk.inj hshown
    obtain ⟨herror, houtcomes⟩ := Prod.mk.inj hrest
    exact ⟨htool, rfl, t', result, h, hreported, herror, houtcomes, judged_of_attempt htool rfl h⟩

end Environment

end ToolFlow
