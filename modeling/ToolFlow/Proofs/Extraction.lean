import ToolFlow.Proofs.Evaluation
import ToolFlow.Proofs.Path.Printing
import ToolFlow.Proofs.Resolution
import ToolFlow.Proofs.Text.Digits

/-!
# What mappings and assertions see

A mapping asks for a path in the result of an earlier step, and an assertion asks for a path in the
result of its own step. They are read by different grammars, and what they come to is reported in
different ways, but they see the same (`Resolution.seenAlike`): one path is accepted by both or by
neither, and in the same response it leads both to the same value.

That the grammars agree is a matter of the notation alone: what comes before the path in the
expression of a mapping can be taken off in one way only (`Path.spelled_resultPath_iff`). It is not
enough that the expression ends in the path, for a path could begin earlier and still end there; the
digits of the step are told from what follows by the bracket after them.

What an assertion saw is read off what it recorded (`Assertion.Saw`): the value itself, for which
null stands in when the path leads nowhere, and whether the condition holds of it. A mapping is told
of an absent value as such.

## Main definitions

* `Path.resultPath`: the expression for a path in the result of a step.
* `SeenAlike`: what the two consumers of a path have in common, the error of a response that cannot
  be read included.

## Main results

* `Path.parse_resultPath_eq_ok_iff`: the expression is accepted exactly when the path is.
* `Resolution.seenAlike`: both see the same, in any response with a block of text.
* `Resolution.seenAlike_listing`: the number of a row, as a later step and an assertion see it.
-/

namespace ToolFlow

namespace Path

/-- The expression by which a mapping asks for a path in the result of a step. -/
def resultPath (n : ℕ) (path : String) : String :=
  s!"$steps[{n}].result.{path}"

variable {n : ℕ} {path : String}

/-! ### The notation -/

/-- The characters of the expression, those of the path at the end. -/
theorem toList_resultPath (n : ℕ) (path : String) :
    (resultPath n path).toList =
      "$steps[".toList ++ (Nat.toDigits 10 n ++ ']' :: ".result.".toList) ++ path.toList := by
  simp [resultPath, toString, Nat.repr]

/-- What follows a dot after something else could stand by itself. -/
theorem continued_cons_dot_iff {segments : List Segment} {cs : List Char} :
    Continued segments ('.' :: cs) ↔ Spelled segments cs := by
  constructor
  · intro h
    cases h with
    | cons first others => exact .intro first others
  · rintro ⟨first, others⟩
    exact .cons first others

/-- Digits are the same when they are followed by the same bracket. -/
theorem eq_of_append_cons_eq {digits digits' rest rest' : List Char}
    (hdigits : ∀ c ∈ digits, c.isDigit = true) (hdigits' : ∀ c ∈ digits', c.isDigit = true)
    (h : digits ++ ']' :: rest = digits' ++ ']' :: rest') : digits = digits' ∧ rest = rest' := by
  have htake := congrArg (List.takeWhile Char.isDigit) h
  rw [List.takeWhile_append_of_pos hdigits, List.takeWhile_append_of_pos hdigits',
    List.takeWhile_cons_of_neg (by decide), List.takeWhile_cons_of_neg (by decide),
    List.append_nil, List.append_nil] at htake
  subst htake
  simpa using h

/-- **The path is written in the expression as it is written by itself.** -/
theorem spelled_resultPath_iff {ref : Reference} :
    ref.Spelled (resultPath n path).toList ↔
      ∃ segments, Spelled segments path.toList ∧ ref = ⟨n, .result, segments⟩ := by
  constructor
  · intro h
    generalize hcs : (resultPath n path).toList = cs at h
    obtain ⟨hdecimal, root, hpath⟩ := h
    next digits segments rest =>
    rw [toList_resultPath] at hcs
    have htail : Nat.toDigits 10 n ++ ']' :: (".result.".toList ++ path.toList) =
        digits ++ ']' :: ('.' :: (root.name.toList ++ rest)) := by
      simpa using hcs
    obtain ⟨rfl, htail⟩ := eq_of_append_cons_eq
      (Text.isDecimal_iff.1 (Text.isDecimal_toDigits n)).2 (Text.isDecimal_iff.1 hdecimal).2 htail
    rw [Text.decimalValue_toDigits]
    cases root with
    | result =>
      obtain rfl : '.' :: path.toList = rest := by simpa [Root.name] using htail
      exact ⟨segments, continued_cons_dot_iff.1 hpath, rfl⟩
    | response => simp [Root.name] at htail
  · rintro ⟨segments, hpath, rfl⟩
    have h := Reference.Spelled.intro (Text.isDecimal_toDigits n) .result
      (continued_cons_dot_iff.2 hpath)
    rw [Text.decimalValue_toDigits] at h
    simpa [toList_resultPath, Root.name] using h

/-- No number in the expression is too long that is not in the path, as long as the number of the
step is not. -/
theorem hasOverlongNumber_resultPath_iff (hn : (Nat.toDigits 10 n).length ≤ Text.digitLimit) :
    HasOverlongNumber (resultPath n path).toList ↔ HasOverlongNumber path.toList := by
  have hcut : (resultPath n path).toList = "$steps[".toList ++ Nat.toDigits 10 n ++
      "].".toList ++ Root.result.name.toList ++ '.' :: path.toList := by
    simp [toList_resultPath, Root.name]
  have hstep : IsShort (Nat.toDigits 10 n) := fun _ ↦ hn
  rw [hcut, ← not_iff_not, not_hasOverlongNumber_reference_iff (Text.isDecimal_toDigits n) .result
      (endsName_cons_of_punctuation? punctuation?_dot _),
    not_hasOverlongNumber_cons_iff punctuation?_dot, and_iff_right hstep]

/-- **The expression is accepted exactly when the path is**, and refers to it. -/
theorem parse_resultPath_eq_ok_iff (hn : (Nat.toDigits 10 n).length ≤ Text.digitLimit)
    {ref : Reference} :
    Reference.parse (resultPath n path) = .ok ref ↔
      ∃ segments, parse path = .ok segments ∧ ref = ⟨n, .result, segments⟩ := by
  by_cases hshort : HasOverlongNumber path.toList
  · -- a number that is too long is accepted by neither
    have hlong := (hasOverlongNumber_resultPath_iff hn).2 hshort
    constructor
    · intro h
      exact absurd hlong (Reference.not_hasOverlongNumber_of_parse h)
    · rintro ⟨segments, h, -⟩
      exact absurd hshort (not_hasOverlongNumber_of_parse h)
  · rw [Reference.parse_eq_ok_iff (by rwa [hasOverlongNumber_resultPath_iff hn]),
      spelled_resultPath_iff]
    simp only [parse_eq_ok_iff hshort]

end Path

/-! ### The two consumers -/

/-- What is recorded of an assertion that saw a value: the assertion itself, the value, for which
null stands in when it is absent, and whether the condition holds of it. -/
structure Assertion.Saw (assertion : Assertion) (v : Value) (outcome : AssertionResult) : Prop where
  assertion_eq : outcome.assertion = assertion
  actual_eq : outcome.actual = if v.isMissing then .null else v
  passed_iff : outcome.passed = true ↔ assertion.condition.holds v assertion.value = true
  checked_eq : outcome = assertion.checked v

/-- An assertion that is checked on a value saw this value. -/
theorem Assertion.saw_checked (assertion : Assertion) (v : Value) :
    assertion.Saw v (assertion.checked v) :=
  ⟨rfl, rfl, Iff.rfl, rfl⟩

/-- A mapping that asks a step for a path and the assertions that ask its response for that path are
of one mind: about whether it is a path, about what it leads to, and about why the response cannot
be read, when it cannot. -/
structure SeenAlike (results : List StepResult) (n : ℕ) (response : Value) (current : Int)
    (path : String) : Prop where
  accepted_iff : (∃ ref, Path.Reference.parse (Path.resultPath n path) = .ok ref) ↔
    ∃ segments, Path.parse path = .ok segments
  seen : ∀ segments, Path.parse path = .ok segments →
    (∃ v, Response.result response = .ok (some v) ∧
        Resolution.resolve results (Path.resultPath n path) current = .ok (v.navigate segments) ∧
        ∀ assertion : Assertion, assertion.path = path → ∃ outcome,
          assertion.evaluate response = .ok outcome ∧
            assertion.Saw (v.navigate segments) outcome) ∨
      ∃ b, Response.result response = .error b ∧
        Resolution.resolve results (Path.resultPath n path) current = .error (.broken b) ∧
        ∀ assertion : Assertion, assertion.path = path → assertion.evaluate response = .error b

namespace Resolution

variable {results : List StepResult} {n : ℕ} {result : StepResult} {current : Int} {path : String}
  {segments : List Path.Segment}

/-- A mapping sees what the path leads to from the result of the response. -/
theorem resolve_resultPath (hn : (Nat.toDigits 10 n).length ≤ Text.digitLimit)
    (hearlier : (n : Int) < current) (hresult : resultFor? results n = some result)
    (hsuccess : result.success = true) (hpresent : result.response.isNull = false)
    (hpath : Path.parse path = .ok segments) :
    resolve results (Path.resultPath n path) current =
      (target ⟨n, .result, segments⟩ result.response).map fun v ↦ v.navigate segments := by
  rw [resolve, (Path.parse_resultPath_eq_ok_iff hn).2 ⟨segments, hpath, rfl⟩]
  simp [resolveReference, Int.not_le.2 hearlier, hresult, hsuccess, hpresent]

/-- **Mappings and assertions see the same.** -/
theorem seenAlike (hn : (Nat.toDigits 10 n).length ≤ Text.digitLimit)
    (hearlier : (n : Int) < current) (hresult : resultFor? results n = some result)
    (hsuccess : result.success = true) (htext : Response.HasTextBlock result.response)
    (path : String) :
    SeenAlike results n result.response current path where
  accepted_iff := by simp [Path.parse_resultPath_eq_ok_iff hn]
  seen := by
    intro segments hpath
    have hpresent := htext.not_isNull
    have hresolve := resolve_resultPath hn hearlier hresult hsuccess hpresent hpath
    rcases hvalue : Response.result result.response with b | _ | v
    · refine Or.inr ⟨b, rfl, by simp [hresolve, target, hvalue, Except.map], ?_⟩
      rintro assertion rfl
      rw [Assertion.evaluate_of_parse hpresent hpath, hvalue]
      rfl
    · exact absurd hvalue htext.result_ne
    · refine Or.inl ⟨v, rfl, by simp [hresolve, target, hvalue, Except.map], ?_⟩
      rintro assertion rfl
      rw [Assertion.evaluate_of_parse hpresent hpath, hvalue]
      exact ⟨_, rfl, assertion.saw_checked _⟩

/-- A listing of rows, recorded for the third step. -/
def listing : StepResult where
  step := { tool := "list" }
  index := 2
  success := true
  response := .object [("content", .list [.object
    [("type", .text "text"), ("text", .text "\x7b\"rows\": [\x7b\"id\": 7\x7d]\x7d")]])]

/-- That the first row has the number seven. -/
def numbered : Assertion where
  path := "rows.0.id"
  condition := .equals
  value := .int 7

/-- The number of the first row, as the sixth step and the third step itself see it. -/
theorem seenAlike_listing : (Nat.toDigits 10 2).length ≤ Text.digitLimit ∧
    resultFor? [listing] 2 = some listing ∧ Response.HasTextBlock listing.response ∧
    SeenAlike [listing] 2 listing.response 5 "rows.0.id" ∧
    ((resolve [listing] (Path.resultPath 2 "rows.0.id") 5).map Value.display).toOption =
      some "7" ∧
    ((numbered.evaluate listing.response).map fun outcome ↦
      (outcome.actual.display, outcome.passed)).toOption = some ("7", true) := by
  have hshort : (Nat.toDigits 10 2).length ≤ Text.digitLimit := by decide +kernel
  have htext : Response.HasTextBlock listing.response :=
    ⟨_, _, rfl, List.mem_cons_self, rfl,
      by simp [Value.field, Value.field?, Fields.lookup_cons_eq_if]⟩
  exact ⟨hshort, rfl, htext, seenAlike hshort (by decide) rfl rfl htext "rows.0.id",
    by decide +kernel, by decide +kernel⟩

end Resolution

end ToolFlow
