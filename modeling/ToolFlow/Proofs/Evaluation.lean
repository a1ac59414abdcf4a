import Mathlib.Data.List.Forall2
import ToolFlow.Evaluation
import ToolFlow.Proofs.Path.DigitLimit
import ToolFlow.Proofs.Response

/-!
# The evaluation of assertions

An assertion with a bad path fails, and so does one on a response without text. What no failed
assertion accounts for is a path with a number of too many digits, and a readable path into a
response that is not legible (`exists_evaluateAll_eq_ok_iff`). In these two cases nothing is
recorded, and the error leaves the evaluation.

What is recorded of an assertion that was evaluated answers it (`Assertion.answers_of_evaluate`):
the assertion passed exactly when its condition holds of a value that it reaches, and otherwise
there is a reason. Of the four ways out of the evaluation three reach no value, and these are alike.
A condition that holds of what is absent is no exception: an absent value that a path leads to is
reached, and what a bad path leads to is not absent but nothing at all.

## Main definitions

* `Assertion.Checkable`: what it takes for an assertion to be evaluated.
* `Assertion.Reaches`: the value at the end of the path, in a response that has a block of text.
* `AssertionResult.Answers`: what is recorded, read against the assertion and the response.

## Main results

* `exists_evaluateAll_eq_ok_iff`: when assertions are evaluated at all.
* `forall₂_answers`: one result for each assertion, in their order, that answers it.
* `forall₂_answers_nameless`: two assertions that there is no name, of which the one with a bad path
  fails.
-/

namespace ToolFlow

namespace Assertion

/-- What it takes for an assertion on a response to be evaluated; nothing, when there is no
response. -/
structure Checkable (assertion : Assertion) (response : Value) : Prop where
  short : response.isNull = false → ¬Path.HasOverlongNumber assertion.path.toList
  legible : response.isNull = false → (∃ segments, Path.parse assertion.path = .ok segments) →
    Response.Legible response

variable {assertion : Assertion} {response : Value}

/-- An assertion with a bad path fails, unless the path holds a number of too many digits. -/
theorem exists_evaluate_eq_ok_iff_of_error (hpresent : response.isNull = false)
    {failure : Path.Failure} (hparse : Path.parse assertion.path = .error failure) :
    (∃ result, assertion.evaluate response = .ok result) ↔
      ¬Path.HasOverlongNumber assertion.path.toList := by
  rw [← Path.forPath_breaks_iff hparse]
  simp only [evaluate, hpresent, Bool.false_eq_true, if_false, hparse]
  rcases failure.forPath (.text assertion.path) with fault | b <;> simp

/-- An assertion with a good path is checked on what the path leads to in the result of the
response. -/
theorem evaluate_of_parse (hpresent : response.isNull = false) {segments : List Path.Segment}
    (hparse : Path.parse assertion.path = .ok segments) :
    assertion.evaluate response = (Response.result response).map fun value ↦
      value.elim (assertion.unreached Response.noTextMessage) fun v ↦
        assertion.checked (v.navigate segments) := by
  rcases hvalue : Response.result response with b | _ | v <;>
    simp only [evaluate, hpresent, Bool.false_eq_true, if_false, hparse, hvalue] <;> rfl

/-- An assertion with a good path is evaluated when the response is legible. -/
theorem exists_evaluate_eq_ok_iff_of_ok (hpresent : response.isNull = false)
    {segments : List Path.Segment} (hparse : Path.parse assertion.path = .ok segments) :
    (∃ result, assertion.evaluate response = .ok result) ↔ Response.Legible response := by
  rw [← Response.exists_result_eq_ok_iff, evaluate_of_parse hpresent hparse]
  constructor
  · rintro ⟨result, h⟩
    obtain ⟨value, hvalue, -⟩ := Except.map_eq_ok_iff.1 h
    exact ⟨value, hvalue⟩
  · rintro ⟨value, hvalue⟩
    exact ⟨_, Except.map_eq_ok_iff.2 ⟨value, hvalue, rfl⟩⟩

/-- **An assertion is evaluated exactly when** it is checkable. -/
theorem exists_evaluate_eq_ok_iff :
    (∃ result, assertion.evaluate response = .ok result) ↔ assertion.Checkable response := by
  cases hnull : response.isNull with
  | true =>
    have hok : ∃ result, assertion.evaluate response = .ok result := by simp [evaluate, hnull]
    exact iff_of_true hok ⟨by simp [hnull], by simp [hnull]⟩
  | false =>
    rcases hparse : Path.parse assertion.path with failure | segments
    · rw [exists_evaluate_eq_ok_iff_of_error hnull hparse]
      exact ⟨fun h ↦ ⟨fun _ ↦ h, by simp [hparse]⟩, fun h ↦ h.short hnull⟩
    · have hshort := Path.not_hasOverlongNumber_of_parse hparse
      rw [exists_evaluate_eq_ok_iff_of_ok hnull hparse]
      exact ⟨fun h ↦ ⟨fun _ ↦ hshort, fun _ _ ↦ h⟩, fun h ↦ h.legible hnull ⟨segments, hparse⟩⟩

end Assertion

/-- **Assertions are evaluated exactly when** each of them is checkable. -/
theorem exists_evaluateAll_eq_ok_iff {assertions : List Assertion} {response : Value} :
    (∃ results, evaluateAll assertions response = .ok results) ↔
      ∀ assertion ∈ assertions, assertion.Checkable response := by
  rw [evaluateAll, Except.exists_mapM_eq_ok_iff]
  exact forall₂_congr fun _ _ ↦ Assertion.exists_evaluate_eq_ok_iff

/-! ### What is recorded -/

/-- An assertion reaches a value: there is a response with a block of text, the path can be read,
and in the result of the response it leads to the value. -/
structure Assertion.Reaches (assertion : Assertion) (response v : Value) : Prop where
  present : response.isNull = false
  hasTextBlock : Response.HasTextBlock response
  leads : ∃ segments root, Path.parse assertion.path = .ok segments ∧
    Response.result response = .ok (some root) ∧ root.navigate segments = v

/-- What is recorded of an assertion that was evaluated against a response. It passed exactly when
its condition holds of the value that it reaches, so neither a bad path nor a response without text
lets any condition pass, and there is something to be said of it exactly when it did not pass. -/
structure AssertionResult.Answers (assertion : Assertion) (response : Value)
    (result : AssertionResult) : Prop where
  assertion_eq : result.assertion = assertion
  passed_iff : result.passed = true ↔ ∃ v, assertion.Reaches response v ∧
    assertion.condition.holds v assertion.value = true
  message_eq_none_iff : result.message = none ↔ result.passed = true
  message_ne_empty : result.message ≠ some ""
  actual_of_reaches : ∀ v, assertion.Reaches response v →
    result.actual = if v.isMissing then .null else v
  actual_of_not_reaches : (¬∃ v, assertion.Reaches response v) → result.actual = .null
  failed_of_bad_path : (∀ segments, Path.parse assertion.path ≠ .ok segments) →
    result.passed = false
  failed_of_no_text : ¬Response.HasTextBlock response → result.passed = false

/-- A failed assertion has a message. -/
theorem AssertionResult.Answers.exists_message {assertion : Assertion} {response : Value}
    {result : AssertionResult} (h : result.Answers assertion response)
    (hfailed : result.passed = false) :
    ∃ message, result.message = some message ∧ message ≠ "" := by
  obtain ⟨message, hmessage⟩ : ∃ message, result.message = some message := by
    rw [← Option.ne_none_iff_exists', ne_eq, h.message_eq_none_iff, hfailed]
    exact Bool.false_ne_true
  exact ⟨message, hmessage, fun hempty ↦ h.message_ne_empty (hempty ▸ hmessage)⟩

namespace Assertion

variable {assertion : Assertion} {response v : Value} {result : AssertionResult}

/-- Something is said of a failed assertion, its own message if it has one. -/
theorem messageOr_ne_empty {other : String} (h : other ≠ "") : assertion.messageOr other ≠ "" := by
  unfold messageOr
  split
  · exact h
  · next message hne _ => simpa using hne
  · exact h

/-- An assertion reaches one value at most. -/
theorem Reaches.unique {w : Value} (h : assertion.Reaches response v)
    (h' : assertion.Reaches response w) : v = w := by
  obtain ⟨segments, root, hparse, hroot, rfl⟩ := h.leads
  obtain ⟨segments', root', hparse', hroot', rfl⟩ := h'.leads
  obtain rfl : segments = segments' := Except.ok.inj (hparse.symm.trans hparse')
  obtain rfl : root = root' := Option.some.inj (Except.ok.inj (hroot.symm.trans hroot'))
  rfl

/-- An assertion that reaches no value failed for some reason. -/
theorem answers_of_not_reaches (hnot : ¬∃ v, assertion.Reaches response v) {reason : String}
    (hreason : reason ≠ "") :
    AssertionResult.Answers assertion response
      { assertion, passed := false, message := some reason } where
  assertion_eq := rfl
  passed_iff := iff_of_false Bool.false_ne_true fun ⟨v, hv, _⟩ ↦ hnot ⟨v, hv⟩
  message_eq_none_iff := by simp
  message_ne_empty := by simpa using hreason
  actual_of_reaches v hv := absurd ⟨v, hv⟩ hnot
  actual_of_not_reaches _ := rfl
  failed_of_bad_path _ := rfl
  failed_of_no_text _ := rfl

/-- An assertion that reaches a value is judged by its condition. -/
theorem answers_checked (hv : assertion.Reaches response v) :
    (assertion.checked v).Answers assertion response where
  assertion_eq := rfl
  passed_iff := by
    constructor
    · exact fun hpassed ↦ ⟨v, hv, hpassed⟩
    · rintro ⟨w, hw, hholds⟩
      rwa [hw.unique hv] at hholds
  message_eq_none_iff := by
    cases hholds : assertion.condition.holds v assertion.value <;> simp [checked, hholds]
  message_ne_empty := by
    have hne : assertion.messageOr s!"Assertion failed: {assertion.condition.name}" ≠ "" :=
      messageOr_ne_empty (by simp [toString])
    cases hholds : assertion.condition.holds v assertion.value <;> simp [checked, hholds, hne]
  actual_of_reaches w hw := by rw [hw.unique hv, checked]
  actual_of_not_reaches hnot := absurd ⟨v, hv⟩ hnot
  failed_of_bad_path hbad := by
    obtain ⟨segments, _, hparse, -⟩ := hv.leads
    exact absurd hparse (hbad segments)
  failed_of_no_text hnone := absurd hv.hasTextBlock hnone

/-- **What is recorded of an assertion answers it.** There are four ways out of the evaluation, of
which one reaches a value. -/
theorem answers_of_evaluate (h : assertion.evaluate response = .ok result) :
    result.Answers assertion response := by
  cases hnull : response.isNull with
  | true =>
    rw [evaluate, if_pos hnull] at h
    obtain rfl := Except.ok.inj h
    refine answers_of_not_reaches ?_ (messageOr_ne_empty (by decide))
    rintro ⟨v, hv⟩
    simp [hv.present] at hnull
  | false =>
    rcases hparse : Path.parse assertion.path with failure | segments
    · have hnot : ¬∃ v, assertion.Reaches response v := by
        rintro ⟨v, hv⟩
        obtain ⟨segments, _, hok, -⟩ := hv.leads
        simp [hparse] at hok
      simp only [evaluate, hnull, Bool.false_eq_true, if_false, hparse] at h
      split at h
      · exact Except.ok.inj h ▸ answers_of_not_reaches hnot (by simp [toString])
      · simp at h
    · rw [evaluate_of_parse hnull hparse] at h
      obtain ⟨_ | root, hroot, rfl⟩ := Except.map_eq_ok_iff.1 h
      · refine answers_of_not_reaches ?_ (by simp [toString])
        rintro ⟨v, hv⟩
        exact hv.hasTextBlock.result_ne hroot
      · exact answers_checked
          ⟨hnull, Response.hasTextBlock_of_result hroot, segments, root, hparse, hroot, rfl⟩

end Assertion

/-- **Assertions are answered one by one**, when the text of the response can be read and no path
holds a number of too many digits. -/
theorem forall₂_answers {assertions : List Assertion} {response : Value}
    (hlegible : ∃ text, Response.firstText response = .ok text)
    (hshort : ∀ assertion ∈ assertions, ¬Path.HasOverlongNumber assertion.path.toList) :
    ∃ results, evaluateAll assertions response = .ok results ∧
      List.Forall₂ (fun assertion result ↦ result.Answers assertion response)
        assertions results := by
  have hlegible : Response.Legible response := Response.exists_firstText_eq_ok_iff.1 hlegible
  obtain ⟨results, hresults⟩ := exists_evaluateAll_eq_ok_iff.2 fun assertion hmem ↦
    ⟨fun _ ↦ hshort assertion hmem, fun _ _ ↦ hlegible⟩
  refine ⟨results, hresults, ?_⟩
  exact (Except.mapM_eq_ok_iff_forall₂.1 hresults).imp fun _ _ ↦ Assertion.answers_of_evaluate

/-- A response with a list of one number. -/
def seven : Value :=
  .object [("content", .list [.object [("type", .text "text"), ("text", .text "[7]")]])]

/-- Assertions that there is no name, of which the second has a bad path. -/
def nameless : List Assertion :=
  [{ path := "name", condition := .kind, value := .text "undefined" },
    { path := "name.", condition := .kind, value := .text "undefined", message := some "" }]

/-- What a bad path leads to is not said to be absent. -/
theorem forall₂_answers_nameless : (∃ text, Response.firstText seven = .ok text) ∧
    (∀ assertion ∈ nameless, ¬Path.HasOverlongNumber assertion.path.toList) ∧
    ∃ results, evaluateAll nameless seven = .ok results ∧
      (results.map fun result ↦ result.passed) = [true, false] ∧
      List.Forall₂ (fun assertion result ↦ result.Answers assertion seven) nameless results := by
  have hlegible : ∃ text, Response.firstText seven = .ok text := ⟨_, rfl⟩
  have hshort : ∀ assertion ∈ nameless, ¬Path.HasOverlongNumber assertion.path.toList := by
    decide +kernel
  have hpassed : ((evaluateAll nameless seven).toOption.map fun results ↦
      results.map fun result ↦ result.passed) = some [true, false] := by
    decide +kernel
  obtain ⟨results, hresults, hanswers⟩ := forall₂_answers hlegible hshort
  rw [hresults] at hpassed
  exact ⟨hlegible, hshort, results, hresults, Option.some.inj hpassed, hanswers⟩

end ToolFlow
