import Mathlib.Data.List.Sort
import ToolFlow.Proofs.Resolution

/-!
# Failed dependencies

The failed earlier steps that a step refers to, found by going through its mapped expressions and
putting each step that is found into an increasing list. They are exactly the steps that are
referred to, come earlier and failed, as the first result recorded for each tells (`findsFailed`).

A step refers to another one by either root of a reference and by any path (`RefersTo`). An
expression that is no reference, that refers to the step itself or to a later one, or to a step that
succeeded or has no result, adds nothing (`IsIdle`). The search fails at one point only: an index
with more digits than are read has no number, and the hypothesis of `findsFailed` is that there is
none.

What an expression adds is made out by `failedDependency_eq_some_iff`, and what a list of steps is
put together to by `mem_foldl_insertNat` and `pairwise_foldl_insertNat`. An increasing list is known
by its members, so neither the order of the expressions matters, nor expressions that add nothing
(`failedDependencies_eq_of_refersTo`).

## Main results

* `mem_iff_of_failedDependencies`: what is found, member by member.
* `pairwise_of_failedDependencies`: that each step is found once, and in increasing order.
* `findsFailed`: both, and that the search comes to an end with a list.
* `findsFailed_audit`: a step with mappings of every kind, with results out of order and two of them
  for steps that have one already.
-/

namespace ToolFlow.Resolution

/-- A result is the first one recorded for a step. -/
def IsFirstFor (results : List StepResult) (n : ℕ) (result : StepResult) : Prop :=
  ∃ before after, results = before ++ result :: after ∧ result.index = n ∧
    ∀ earlier ∈ before, earlier.index ≠ n

/-- A step failed, as the first result recorded for it tells. -/
def Failed (results : List StepResult) (n : ℕ) : Prop :=
  ∃ result, IsFirstFor results n result ∧ result.success = false

/-- An expression refers to a step, at either root and by any path. -/
def RefersTo (expression : String) (n : ℕ) : Prop :=
  ∃ ref, Path.Reference.parse expression = .ok ref ∧ ref.step = n

/-- An expression has no say in what a step depends on: it is no reference, or one to the current
step, to a later one, or to one without result. -/
def IsIdle (results : List StepResult) (current : Int) (expression : String) : Prop :=
  ∀ n, RefersTo expression n → current ≤ n ∨ ∀ result ∈ results, result.index ≠ n

variable {results : List StepResult} {step : Step} {current : Int} {expression : String}
  {n m : ℕ} {ns : List ℕ}

/-! ### Single expressions -/

/-- **The result that is looked up for a step is the first one recorded for it.** -/
theorem resultFor?_eq_some_iff {result : StepResult} :
    resultFor? results n = some result ↔ IsFirstFor results n result := by
  simp only [resultFor?, List.find?_eq_some_iff_append, IsFirstFor, beq_iff_eq, Bool.not_eq_true',
    beq_eq_false_iff_ne]
  constructor
  · rintro ⟨hindex, before, after, hresults, hbefore⟩
    exact ⟨before, after, hresults, hindex, hbefore⟩
  · rintro ⟨before, after, hresults, hindex, hbefore⟩
    exact ⟨hindex, before, after, hresults, hbefore⟩

/-- The first result recorded for a step tells whether it failed. -/
theorem failed_iff_of_resultFor? {result : StepResult} (h : resultFor? results n = some result) :
    Failed results n ↔ result.success = false := by
  constructor
  · rintro ⟨result', hfirst, hsuccess⟩
    obtain rfl := Option.some.inj (h.symm.trans (resultFor?_eq_some_iff.2 hfirst))
    exact hsuccess
  · exact fun hsuccess ↦ ⟨result, resultFor?_eq_some_iff.1 h, hsuccess⟩

/-- A step without a result did not fail. -/
theorem not_failed_of_resultFor? (h : resultFor? results n = none) : ¬Failed results n := by
  rintro ⟨result, hfirst, -⟩
  exact absurd (h.symm.trans (resultFor?_eq_some_iff.2 hfirst)) (by simp)

/-- A step that failed has a result. -/
theorem Failed.exists_mem (h : Failed results n) : ∃ result ∈ results, result.index = n := by
  obtain ⟨result, ⟨before, after, rfl, hindex, -⟩, -⟩ := h
  exact ⟨result, by simp, hindex⟩

/-- A reference refers to the step that it names. -/
theorem refersTo_iff_of_parse {ref : Path.Reference}
    (h : Path.Reference.parse expression = .ok ref) : RefersTo expression n ↔ ref.step = n := by
  constructor
  · rintro ⟨ref', href', hstep⟩
    obtain rfl : ref = ref' := Except.ok.inj (h.symm.trans href')
    exact hstep
  · exact fun hstep ↦ ⟨ref, h, hstep⟩

/-- What is no reference refers to no step. -/
theorem not_refersTo_of_parse {failure : Path.Failure}
    (h : Path.Reference.parse expression = .error failure) : ¬RefersTo expression n := by
  rintro ⟨ref, href, -⟩
  exact absurd (h.symm.trans href) (by simp)

/-- **An expression adds a step exactly when** it refers to it, and the step is an earlier one that
failed. -/
theorem failedDependency_eq_some_iff :
    failedDependency results current expression = .ok (some n) ↔
      (n : Int) < current ∧ RefersTo expression n ∧ Failed results n := by
  unfold failedDependency
  split
  · next hparse => split <;> simp [not_refersTo_of_parse hparse]
  · next ref hparse =>
    rw [refersTo_iff_of_parse hparse]
    split
    · next hlater =>
      refine iff_of_false (by simp) ?_
      rintro ⟨hearlier, rfl, -⟩
      omega
    · next hearlier =>
      split
      · next result hfor =>
        cases hsuccess : result.success with
        | true =>
          refine iff_of_false (by simp) ?_
          rintro ⟨-, rfl, hfailed⟩
          simp [(failed_iff_of_resultFor? hfor).1 hfailed] at hsuccess
        | false =>
          simp only [Bool.false_eq_true, if_false, Except.ok.injEq, Option.some.injEq]
          constructor
          · rintro rfl
            exact ⟨by omega, rfl, (failed_iff_of_resultFor? hfor).2 hsuccess⟩
          · exact fun h ↦ h.2.1
      · next hnone =>
        refine iff_of_false (by simp) ?_
        rintro ⟨-, rfl, hfailed⟩
        exact not_failed_of_resultFor? hnone hfailed

/-! ### Increasing lists -/

/-- Putting a number into a list adds it, and keeps the others. -/
theorem mem_insertNat : m ∈ insertNat n ns ↔ m = n ∨ m ∈ ns := by
  induction ns with
  | nil => simp [insertNat]
  | cons first rest ih =>
    unfold insertNat
    split
    · exact List.mem_cons
    · split
      · next heq => simp [heq]
      · rw [List.mem_cons, ih, List.mem_cons, or_left_comm]

/-- An increasing list stays so when a number is put into it. -/
theorem pairwise_insertNat (h : ns.Pairwise (· < ·)) : (insertNat n ns).Pairwise (· < ·) := by
  induction ns with
  | nil => exact List.pairwise_singleton _ n
  | cons first rest ih =>
    obtain ⟨hfirst, hrest⟩ := List.pairwise_cons.1 h
    unfold insertNat
    split
    · next hlt =>
      refine List.pairwise_cons.2 ⟨?_, h⟩
      exact List.forall_mem_cons.2 ⟨hlt, fun k hk ↦ Nat.lt_trans hlt (hfirst k hk)⟩
    · next hge =>
      split
      · exact h
      · next hne =>
        refine List.pairwise_cons.2 ⟨fun k hk ↦ ?_, ih hrest⟩
        rcases mem_insertNat.1 hk with rfl | hk
        · omega
        · exact hfirst k hk

/-- The same for any count of numbers. -/
theorem mem_foldl_insertNat {found : List ℕ} :
    m ∈ found.foldl (fun sorted n ↦ insertNat n sorted) ns ↔ m ∈ found ∨ m ∈ ns := by
  induction found generalizing ns with
  | nil => simp
  | cons n found ih =>
    rw [List.foldl_cons, ih, mem_insertNat, List.mem_cons, or_left_comm, or_assoc]

/-- The same for any count of numbers. -/
theorem pairwise_foldl_insertNat {found : List ℕ} (h : ns.Pairwise (· < ·)) :
    (found.foldl (fun sorted n ↦ insertNat n sorted) ns).Pairwise (· < ·) := by
  induction found generalizing ns with
  | nil => exact h
  | cons n found ih => exact ih (pairwise_insertNat h)

/-! ### All expressions of a step -/

variable {failed : List ℕ}

/-- What is found is in increasing order. -/
theorem pairwise_of_failedDependencies (h : failedDependencies results step current = .ok failed) :
    failed.Pairwise (· < ·) := by
  obtain ⟨found, -, h⟩ := Except.bind_eq_ok_iff.1 h
  exact Except.ok.inj h ▸ pairwise_foldl_insertNat .nil

/-- **What is found are the earlier steps that are referred to and failed.** -/
theorem mem_iff_of_failedDependencies (h : failedDependencies results step current = .ok failed) :
    n ∈ failed ↔
      (n : Int) < current ∧ (∃ entry ∈ step.mapped, RefersTo entry.2 n) ∧ Failed results n := by
  obtain ⟨found, hfound, h⟩ := Except.bind_eq_ok_iff.1 h
  obtain rfl := Except.ok.inj h
  calc n ∈ (found.filterMap id).foldl (fun sorted n ↦ insertNat n sorted) []
      ↔ some n ∈ found := by simp [mem_foldl_insertNat]
    _ ↔ ∃ entry ∈ step.mapped, failedDependency results current entry.2 = .ok (some n) :=
        Except.mem_iff_of_mapM_eq_ok hfound
    _ ↔ ∃ entry ∈ step.mapped, (n : Int) < current ∧ RefersTo entry.2 n ∧ Failed results n := by
        simp only [failedDependency_eq_some_iff]
    _ ↔ _ := by
        constructor
        · rintro ⟨entry, hentry, hearlier, hrefers, hfailed⟩
          exact ⟨hearlier, ⟨entry, hentry, hrefers⟩, hfailed⟩
        · rintro ⟨hearlier, ⟨entry, hentry, hrefers⟩, hfailed⟩
          exact ⟨entry, hentry, hearlier, hrefers, hfailed⟩

/-- **Which steps are found depends on nothing but** the earlier failed steps that are referred
to. -/
theorem failedDependencies_eq_of_refersTo {step' : Step}
    (hshort : ∀ entry ∈ step'.mapped, ¬Path.HasOverlongNumber entry.2.toList)
    (hrefers : ∀ n : ℕ, (n : Int) < current → Failed results n →
      ((∃ entry ∈ step.mapped, RefersTo entry.2 n) ↔ ∃ entry ∈ step'.mapped, RefersTo entry.2 n))
    (h : failedDependencies results step current = .ok failed) :
    failedDependencies results step' current = .ok failed := by
  obtain ⟨failed', h'⟩ := exists_failedDependencies_eq_ok_iff.2 hshort
  have hmem : ∀ n, n ∈ failed' ↔ n ∈ failed := by
    intro n
    rw [mem_iff_of_failedDependencies h', mem_iff_of_failedDependencies h]
    constructor
    · rintro ⟨hearlier, hentry, hfailed⟩
      exact ⟨hearlier, (hrefers n hearlier hfailed).2 hentry, hfailed⟩
    · rintro ⟨hearlier, hentry, hfailed⟩
      exact ⟨hearlier, (hrefers n hearlier hfailed).1 hentry, hfailed⟩
  have hsame : failed' = failed :=
    (pairwise_of_failedDependencies h').eq_of_mem_iff (pairwise_of_failedDependencies h) hmem
  rw [h', hsame]

/-- Exactly the failed earlier steps that a step refers to, each once and in increasing order. They
are the same whatever the order of the expressions, and without those that are idle. -/
structure FindsFailed (results : List StepResult) (step : Step) (current : Int)
    (failed : List ℕ) : Prop where
  increasing : failed.Pairwise (· < ·)
  mem_iff : ∀ n, n ∈ failed ↔
    (n : Int) < current ∧ (∃ entry ∈ step.mapped, RefersTo entry.2 n) ∧ Failed results n
  eq_of_perm : ∀ (step' : Step) (idle : List (String × String)),
    (∀ entry ∈ idle, IsIdle results current entry.2) →
      step.mapped.Perm (idle ++ step'.mapped) →
        failedDependencies results step' current = .ok failed

/-- **The failed dependencies of a step are found exactly**, as long as no expression holds a number
that is too long. -/
theorem findsFailed (hshort : ∀ entry ∈ step.mapped, ¬Path.HasOverlongNumber entry.2.toList) :
    ∃ failed, failedDependencies results step current = .ok failed ∧
      FindsFailed results step current failed := by
  obtain ⟨failed, h⟩ := exists_failedDependencies_eq_ok_iff.2 hshort
  refine ⟨failed, h, pairwise_of_failedDependencies h, fun n ↦ mem_iff_of_failedDependencies h, ?_⟩
  intro step' idle hidle hperm
  have hmem : ∀ entry, entry ∈ step.mapped ↔ entry ∈ idle ∨ entry ∈ step'.mapped := fun _ ↦
    hperm.mem_iff.trans List.mem_append
  refine failedDependencies_eq_of_refersTo (fun entry hentry ↦ ?_) (fun n hearlier hfailed ↦ ?_) h
  · exact hshort entry ((hmem entry).2 (Or.inr hentry))
  · constructor
    · rintro ⟨entry, hentry, hrefers⟩
      refine ⟨entry, ((hmem entry).1 hentry).resolve_left fun hidles ↦ ?_, hrefers⟩
      -- an idle expression refers to no earlier step with a result
      obtain ⟨result, hresult, hindex⟩ := hfailed.exists_mem
      rcases hidle entry hidles n hrefers with hlater | hnone
      · omega
      · exact hnone result hresult hindex
    · rintro ⟨entry, hentry, hrefers⟩
      exact ⟨entry, (hmem entry).2 (Or.inr hentry), hrefers⟩

/-- A step with mappings that refer to failed steps, to one that succeeded at first, to one without
result, to itself, to a later one, and to nothing. -/
def audit : Step where
  tool := "audit"
  mapping := some [("rows", "$steps[3].response.rows[0]"), ("cause", "$steps[1].result"),
    ("id", "$steps[3].result.id"), ("title", "$steps[0].result"), ("owner", "$steps[2].result"),
    ("own", "$steps[5].result"), ("later", "$steps[6].result"), ("note", "steps[1].result")]

/-- Results out of order, two of them for steps that have one already. -/
def auditResults : List StepResult :=
  [(3, false), (0, true), (1, false), (3, true), (0, false), (5, false), (6, false)].map
    fun (index, success) ↦ { step := { tool := "fetch" }, index, success }

/-- Of the mappings of the audit only those to the failed steps 1 and 3 count. -/
theorem findsFailed_audit :
    (∀ entry ∈ audit.mapped, ¬Path.HasOverlongNumber entry.2.toList) ∧
      failedDependencies auditResults audit 5 = .ok [1, 3] ∧
      FindsFailed auditResults audit 5 [1, 3] := by
  have hshort : ∀ entry ∈ audit.mapped, ¬Path.HasOverlongNumber entry.2.toList := by
    decide +kernel
  have hfound : (failedDependencies auditResults audit 5).toOption = some [1, 3] := by
    decide +kernel
  obtain ⟨failed, h, hfinds⟩ : ∃ failed, failedDependencies auditResults audit 5 = .ok failed ∧
      FindsFailed auditResults audit 5 failed := findsFailed hshort
  obtain rfl : failed = [1, 3] := by simpa [h, Except.toOption] using hfound
  exact ⟨hshort, h, hfinds⟩

end ToolFlow.Resolution
