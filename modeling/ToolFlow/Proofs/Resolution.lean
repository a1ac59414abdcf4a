import Mathlib.Data.List.Basic
import ToolFlow.Proofs.Except
import ToolFlow.Proofs.Path.DigitLimit
import ToolFlow.Proofs.Response
import ToolFlow.Resolution

/-!
# What resolution comes to

A reference has a value exactly when it points back to a step on record that succeeded with a
response in which the root is found (`resolveReference_eq_ok_iff`). The arguments of a step are
resolved exactly when every mapped expression is (`exists_resolveArguments_eq_ok_iff`), and
otherwise fail as the first expression that is not (`resolveArguments_eq_error_iff`).

When each result stands under its own index, the look-up by index is a look-up by position
(`resultFor?_eq_getElem?`), and a reference to a step on record is never said to be one to a step
that has not been executed.

All of this depends on the index, the success and the response of results and on nothing else of
them (`resolveArguments_congr` and its like).

## Failures and breakdowns

Most failures of resolution are reported, and the step is recorded as failed. Two are not. An
expression may hold a number with too many digits to be read, and the response of a usable step may
not be legible, so that its result cannot be asked for. `resolve_breaks_iff` says that there are no
others, and `resolveArguments_breaks_iff` which expression of a step is the one that matters: the
first that has no value. For failed dependencies the first of the two reasons is left, since
responses are not looked at (`exists_failedDependency_eq_ok_iff`).

## Order

Arguments are resolved in the order of the mapping, and what an argument is resolved to does not
depend on those before it. Whether all of them are is a statement without order, which one fails
first is not, and both are given.
-/

namespace ToolFlow.Resolution

variable {results : List StepResult} {step : Step} {current : Int}

/-! ### References -/

/-- **A reference has a value exactly when** it points back to a usable result. -/
theorem resolveReference_eq_ok_iff {ref : Path.Reference} {v : Value} :
    resolveReference results ref current = .ok v ↔
      (ref.step : Int) < current ∧ ∃ result, resultFor? results ref.step = some result ∧
        result.success = true ∧ result.response.isNull = false ∧
        ∃ root, target ref result.response = .ok root ∧ root.navigate ref.segments = v := by
  unfold resolveReference
  split
  · next hle =>
    simp only [reduceCtorEq, false_iff, not_and]
    omega
  · next hlt =>
    have hlt : (ref.step : Int) < current := by omega
    split
    · next hnone => simp [hnone]
    · next result hsome =>
      split
      · next hunusable =>
        simp only [reduceCtorEq, hsome, Option.some.injEq, false_iff]
        rintro ⟨-, result', rfl, hsuccess, hresponse, -⟩
        simp [hsuccess, hresponse] at hunusable
      · next husable =>
        simp only [Bool.or_eq_true, Bool.not_eq_true', not_or, Bool.not_eq_false,
          Bool.not_eq_true] at husable
        simp [hlt, hsome, husable.1, husable.2, Except.map_eq_ok_iff]

/-- An expression has a value when it is a reference that has. -/
theorem resolve_eq_ok_iff {expression : String} {v : Value} :
    resolve results expression current = .ok v ↔
      ∃ ref, Path.Reference.parse expression = .ok ref ∧
        resolveReference results ref current = .ok v := by
  unfold resolve
  split
  · next hparse => simp [hparse]
  · next ref hparse => simp [hparse]

/-- A step is said not to have been executed only when an earlier one has no result. -/
theorem resolve_eq_notExecuted {expression : String} {n : ℕ}
    (h : resolve results expression current = .error (.notExecuted n)) :
    (n : Int) < current ∧ resultFor? results n = none := by
  unfold resolve at h
  split at h
  · simp at h
  · next ref _ =>
    unfold resolveReference at h
    split at h
    · simp at h
    · next hlt =>
      split at h
      · next hnone =>
        obtain rfl : ref.step = n := by simpa using h
        exact ⟨by omega, hnone⟩
      · next result _ =>
        split at h
        · simp at h
        · -- a response is at hand: only its root can be wanting
          unfold target at h
          split at h
          · simp [Except.map] at h
          · split at h <;> simp [Except.map] at h

/-! ### Arguments -/

/-- **Arguments are resolved exactly when every mapped expression is.** -/
theorem exists_resolveArguments_eq_ok_iff :
    (∃ args, resolveArguments results step current = .ok args) ↔
      ∀ entry ∈ step.mapped, ∃ v, resolve results entry.2 current = .ok v :=
  Except.exists_foldlM_map_eq_ok_iff

/-- **Otherwise the first expression without value says why.** -/
theorem resolveArguments_eq_error_iff {failure : Failure} :
    resolveArguments results step current = .error failure ↔
      ∃ before entry after, step.mapped = before ++ entry :: after ∧
        (∀ e ∈ before, ∃ v, resolve results e.2 current = .ok v) ∧
        resolve results entry.2 current = .error failure :=
  Except.foldlM_map_eq_error_iff

/-- An expression that has a value refers to no failed step. -/
theorem failedDependency_eq_none {expression : String} {v : Value}
    (h : resolve results expression current = .ok v) :
    failedDependency results current expression = .ok none := by
  obtain ⟨ref, hparse, hvalue⟩ := resolve_eq_ok_iff.1 h
  obtain ⟨hearlier, result, hfor, hsuccess, -⟩ := resolveReference_eq_ok_iff.1 hvalue
  have hearlier : ¬current ≤ ref.step := by omega
  simp [failedDependency, hparse, hearlier, hfor, hsuccess]

/-- **Where arguments are resolved, no failed step stands against them.** -/
theorem failedDependencies_eq_nil {args : Fields}
    (h : resolveArguments results step current = .ok args) :
    failedDependencies results step current = .ok [] := by
  have hnone : ∀ entry ∈ step.mapped, failedDependency results current entry.2 = .ok none := by
    intro entry hentry
    obtain ⟨v, hv⟩ := exists_resolveArguments_eq_ok_iff.1 ⟨args, h⟩ entry hentry
    exact failedDependency_eq_none hv
  obtain ⟨found, hfound⟩ := Except.exists_mapM_eq_ok_iff.2 fun entry hentry ↦
    ⟨none, hnone entry hentry⟩
  have hempty : found.filterMap id = [] := by
    refine List.filterMap_eq_nil_iff.2 fun failed hmem ↦ ?_
    obtain ⟨entry, hentry, heq⟩ := Except.exists_of_mem_of_mapM_eq_ok hfound failed hmem
    exact Except.ok.inj (heq.symm.trans (hnone entry hentry))
  refine Except.bind_eq_ok_iff.2 ⟨found, hfound, ?_⟩
  rw [hempty]
  rfl

/-! ### The record -/

/-- Among results under their own indices, the result of a step is the one at its position. -/
theorem resultFor?_eq_getElem?
    (h : ∀ (i : ℕ) (r : StepResult), results[i]? = some r → r.index = i) (n : ℕ) :
    resultFor? results n = results[n]? := by
  rcases hn : results[n]? with _ | result
  · rw [resultFor?, List.find?_eq_none]
    intro r hmem hr
    obtain ⟨i, hi⟩ := List.getElem?_of_mem hmem
    obtain rfl : i = n := (h i r hi).symm.trans (by simpa using hr)
    exact absurd (hi.symm.trans hn) (by simp)
  · obtain ⟨hlt, rfl⟩ := List.getElem?_eq_some_iff.1 hn
    -- no result before that position stands under the same index
    refine List.find?_eq_some_iff_getElem.2 ⟨by simpa using h n _ hn, n, hlt, rfl, ?_⟩
    intro j hj
    have hjn : results[j].index = j := h j _ (List.getElem?_eq_getElem _)
    simp only [hjn, Bool.not_eq_true', beq_eq_false_iff_ne]
    omega

/-- The first of these results stand under their own indices as well. -/
theorem index_eq_of_take {n : ℕ}
    (h : ∀ (i : ℕ) (r : StepResult), results[i]? = some r → r.index = i) (i : ℕ) (r : StepResult)
    (hi : (results.take n)[i]? = some r) : r.index = i := by
  rw [List.getElem?_take] at hi
  split at hi
  · exact h i r hi
  · simp at hi

/-- **What a step sees does not change with later results.** -/
theorem resolve_take (h : ∀ (i : ℕ) (r : StepResult), results[i]? = some r → r.index = i) (n : ℕ)
    (expression : String) :
    resolve (results.take n) expression n = resolve results expression n := by
  unfold resolve
  split
  · rfl
  · next ref _ =>
    unfold resolveReference
    split
    · rfl
    · next hearlier =>
      rw [resultFor?_eq_getElem? (index_eq_of_take h), resultFor?_eq_getElem? h, List.getElem?_take,
        if_pos (by omega)]

/-! ### Failures that are no faults -/

/-- An expression asks for the result of a usable step whose response cannot be read. -/
structure AsksIllegible (results : List StepResult) (current : Int) (expression : String)
    (ref : Path.Reference) (result : StepResult) : Prop where
  parse_eq : Path.Reference.parse expression = .ok ref
  root_eq : ref.root = .result
  earlier : (ref.step : Int) < current
  resultFor_eq : resultFor? results ref.step = some result
  success : result.success = true
  present : result.response.isNull = false
  illegible : ¬Response.Legible result.response

/-- **Finding the root breaks down exactly where the result of an illegible response is asked for.**
-/
theorem target_eq_broken_iff {ref : Path.Reference} {response : Value} :
    (∃ b, target ref response = .error (.broken b)) ↔
      ref.root = .result ∧ ¬Response.Legible response := by
  rw [← Response.exists_result_eq_ok_iff]
  unfold target
  split
  · next hroot => simp [hroot]
  · next hroot =>
    rcases Response.result response with b | _ | v <;> simp [hroot]

/-- **A reference breaks down exactly when** it asks for the result of an illegible response. -/
theorem resolveReference_eq_broken_iff {expression : String} {ref : Path.Reference}
    (hparse : Path.Reference.parse expression = .ok ref) :
    (∃ b, resolveReference results ref current = .error (.broken b)) ↔
      ∃ result, AsksIllegible results current expression ref result := by
  constructor
  · rintro ⟨b, h⟩
    unfold resolveReference at h
    split at h
    · simp at h
    · next hlt =>
      split at h
      · simp at h
      · next result hfor =>
        split at h
        · simp at h
        · next husable =>
          simp only [Bool.or_eq_true, Bool.not_eq_true', not_or, Bool.not_eq_false,
            Bool.not_eq_true] at husable
          obtain ⟨hroot, hillegible⟩ := target_eq_broken_iff.1 ⟨b, Except.map_eq_error_iff.1 h⟩
          exact ⟨result, hparse, hroot, by omega, hfor, husable.1, husable.2, hillegible⟩
  · rintro ⟨result, h⟩
    obtain ⟨b, hb⟩ := target_eq_broken_iff.2 ⟨h.root_eq, h.illegible⟩
    refine ⟨b, ?_⟩
    rw [resolveReference, if_neg (by have := h.earlier; omega), h.resultFor_eq]
    simp [h.success, h.present, hb, Except.map]

/-- A reference that was read is not said to be unreadable. -/
theorem resolveReference_ne_unreadable {ref : Path.Reference} {expression : String}
    {failure : Path.Failure} :
    resolveReference results ref current ≠ .error (.unreadable expression failure) := by
  intro h
  unfold resolveReference at h
  split at h
  · simp at h
  · split at h
    · simp at h
    · split at h
      · simp at h
      · have htarget := Except.map_eq_error_iff.1 h
        unfold target at htarget
        split at htarget
        · simp at htarget
        · split at htarget <;> simp at htarget

/-- **An expression breaks down exactly when** it holds a number of too many digits, or asks for the
result of an illegible response. -/
theorem resolve_breaks_iff {expression : String} :
    (∃ failure b, resolve results expression current = .error failure ∧
        failure.stop = .breakdown b) ↔
      Path.HasOverlongNumber expression.toList ∨
        ∃ ref result, AsksIllegible results current expression ref result := by
  rcases hparse : Path.Reference.parse expression with failure | ref
  · have hnone : ¬∃ ref result, AsksIllegible results current expression ref result := by
      rintro ⟨ref, result, h⟩
      exact absurd (hparse.symm.trans h.parse_eq) (by simp)
    rw [or_iff_left hnone, ← Path.forReference_breaks_iff hparse]
    simp only [resolve, hparse, Except.error.injEq, exists_and_left, exists_eq_left', Failure.stop]
  · rw [or_iff_right (Path.Reference.not_hasOverlongNumber_of_parse hparse)]
    simp only [resolve, hparse]
    constructor
    · rintro ⟨failure, b, h, hstop⟩
      refine ⟨ref, (resolveReference_eq_broken_iff hparse).1 ⟨b, ?_⟩⟩
      cases failure with
      | unreadable => exact absurd h resolveReference_ne_unreadable
      | broken b' =>
        obtain rfl : b' = b := Stop.breakdown.inj hstop
        exact h
      | _ => simp [Failure.stop] at hstop
    · rintro ⟨ref', result, h⟩
      obtain rfl : ref = ref' := Except.ok.inj (hparse.symm.trans h.parse_eq)
      obtain ⟨b, hb⟩ := (resolveReference_eq_broken_iff hparse).2 ⟨result, h⟩
      exact ⟨.broken b, b, hb, rfl⟩

/-- Resolving the arguments of a step comes upon an expression that asks for the result of an
illegible response. -/
def Stumbles (results : List StepResult) (step : Step) (current : Int) : Prop :=
  ∃ before entry after, step.mapped = before ++ entry :: after ∧
    (∀ e ∈ before, ∃ v, resolve results e.2 current = .ok v) ∧
    ∃ ref result, AsksIllegible results current entry.2 ref result

/-- **Arguments break down exactly when** their resolution stumbles, as long as no mapped expression
holds a number of too many digits. -/
theorem resolveArguments_breaks_iff
    (hshort : ∀ entry ∈ step.mapped, ¬Path.HasOverlongNumber entry.2.toList) :
    (∃ failure b, resolveArguments results step current = .error failure ∧
        failure.stop = .breakdown b) ↔ Stumbles results step current := by
  constructor
  · rintro ⟨failure, b, h, hstop⟩
    obtain ⟨before, entry, after, hmapped, hbefore, hentry⟩ := resolveArguments_eq_error_iff.1 h
    have hshort : ¬Path.HasOverlongNumber entry.2.toList := hshort entry (by simp [hmapped])
    have hasks := resolve_breaks_iff.1 ⟨failure, b, hentry, hstop⟩
    exact ⟨before, entry, after, hmapped, hbefore, hasks.resolve_left hshort⟩
  · rintro ⟨before, entry, after, hmapped, hbefore, hasks⟩
    obtain ⟨failure, b, hentry, hstop⟩ := resolve_breaks_iff.2 (Or.inr hasks)
    exact ⟨failure, b,
      resolveArguments_eq_error_iff.2 ⟨before, entry, after, hmapped, hbefore, hentry⟩, hstop⟩

/-- **Dependencies are found exactly when** no expression holds a number of too many digits. -/
theorem exists_failedDependency_eq_ok_iff {expression : String} :
    (∃ failed, failedDependency results current expression = .ok failed) ↔
      ¬Path.HasOverlongNumber expression.toList := by
  unfold failedDependency
  split
  · next failure hparse =>
    rw [← Path.forReference_breaks_iff hparse]
    rcases failure.forReference (.text expression) with fault | b <;> simp
  · next ref hparse =>
    refine iff_of_true ?_ (Path.Reference.not_hasOverlongNumber_of_parse hparse)
    split
    · exact ⟨_, rfl⟩
    · split <;> exact ⟨_, rfl⟩

/-- The dependencies of a step are found unless one of its expressions cannot be read. -/
theorem exists_failedDependencies_eq_ok_iff :
    (∃ failed, failedDependencies results step current = .ok failed) ↔
      ∀ entry ∈ step.mapped, ¬Path.HasOverlongNumber entry.2.toList := by
  rw [failedDependencies, Except.exists_bind_pure_eq_ok_iff, Except.exists_mapM_eq_ok_iff]
  exact forall₂_congr fun _ _ ↦ exists_failedDependency_eq_ok_iff

/-! ### What resolution sees -/

/-- What resolution sees of a result. -/
def seen (result : StepResult) : ℕ × Bool × Value :=
  (result.index, result.success, result.response)

variable {results₁ results₂ : List StepResult}

/-- Results that look alike hold results that look alike. -/
theorem map_seen_resultFor?_congr (h : results₁.map seen = results₂.map seen) (n : ℕ) :
    (resultFor? results₁ n).map seen = (resultFor? results₂ n).map seen := by
  have hfind : ∀ results, (resultFor? results n).map seen =
      (results.map seen).find? fun entry ↦ entry.1 == n :=
    fun results ↦ by
      rw [List.find?_map]
      rfl
  rw [hfind, hfind, h]

/-- References do not tell results apart that have the same index, success and response. -/
theorem resolveReference_congr (h : results₁.map seen = results₂.map seen) (ref : Path.Reference)
    (current : Int) :
    resolveReference results₁ ref current = resolveReference results₂ ref current := by
  have hfor := map_seen_resultFor?_congr h ref.step
  unfold resolveReference
  rcases h₁ : resultFor? results₁ ref.step with _ | r₁ <;>
    rcases h₂ : resultFor? results₂ ref.step with _ | r₂
  · rfl
  · simp [h₁, h₂] at hfor
  · simp [h₁, h₂] at hfor
  · have hseen : seen r₁ = seen r₂ := by simpa [h₁, h₂] using hfor
    obtain ⟨-, hsuccess, hresponse⟩ : r₁.index = r₂.index ∧ r₁.success = r₂.success ∧
        r₁.response = r₂.response := by simpa [seen] using hseen
    simp only [hsuccess, hresponse]

/-- Nor do expressions. -/
theorem resolve_congr (h : results₁.map seen = results₂.map seen) (expression : String)
    (current : Int) :
    resolve results₁ expression current = resolve results₂ expression current := by
  unfold resolve
  split
  · rfl
  · exact resolveReference_congr h _ current

/-- **Arguments are resolved alike from results that are seen alike.** -/
theorem resolveArguments_congr (h : results₁.map seen = results₂.map seen) (step : Step)
    (current : Int) :
    resolveArguments results₁ step current = resolveArguments results₂ step current := by
  simp only [resolveArguments, resolve_congr h]

/-- So is the dependency of an expression. -/
theorem failedDependency_congr (h : results₁.map seen = results₂.map seen) (current : Int)
    (expression : String) :
    failedDependency results₁ current expression =
      failedDependency results₂ current expression := by
  unfold failedDependency
  split
  · rfl
  · next ref _ =>
    have hfor := map_seen_resultFor?_congr h ref.step
    rcases h₁ : resultFor? results₁ ref.step with _ | r₁ <;>
      rcases h₂ : resultFor? results₂ ref.step with _ | r₂
    · rfl
    · simp [h₁, h₂] at hfor
    · simp [h₁, h₂] at hfor
    · have hseen : seen r₁ = seen r₂ := by simpa [h₁, h₂] using hfor
      have hsuccess : r₁.success = r₂.success := by
        simp only [seen, Prod.mk.injEq] at hseen
        exact hseen.2.1
      simp only [hsuccess]

/-- So are the dependencies of a step. -/
theorem failedDependencies_congr (h : results₁.map seen = results₂.map seen) (step : Step)
    (current : Int) :
    failedDependencies results₁ step current = failedDependencies results₂ step current := by
  simp only [failedDependencies, failedDependency_congr h]

end ToolFlow.Resolution
