import Mathlib.Data.List.Forall2
import ToolFlow.Definition.Loader
import ToolFlow.Proofs.Definition.Checked
import ToolFlow.Proofs.Except

/-!
# What the loader makes of documents

An assertion, a step or a workflow is loaded from a mapping field by field (`Assertion.MadeOf`,
`Step.MadeOf`, `Workflow.MadeOf`), and from nothing else. All that is shown of loaded workflows
comes from these three inversions: what they are like, which data define them, and that they come
back from their documents.

The loader stops at the first problem, so each of its functions is a sequence of checks in `Except`.
The inversions forget the sequence. That is sound for successes only, where every check has to find
nothing wrong, and in which order they are made cannot be told from the result. Where the order
matters, because the first problem is the one that is reported, a loading is inverted by the prefix
that went well (`numbered_eq_error_iff`), which is what the results on breakdowns use.

What is loaded of a mapping is stated by the checks of the loader themselves. A description of the
data that does without them is given with the documents that are accepted, and rests on this module.
-/

namespace ToolFlow

open Yaml (Datum Scalar)

namespace Definition

/-! ### Items in order -/

/-- Relations that agree on the items of a list relate it to the same lists. -/
theorem forall₂_congr_of_mem {α β : Type} {R S : α → β → Prop} {as : List α} {bs : List β}
    (h : ∀ a ∈ as, ∀ b, R a b ↔ S a b) : List.Forall₂ R as bs ↔ List.Forall₂ S as bs := by
  induction as generalizing bs with
  | nil => simp
  | cons a as ih =>
    obtain ⟨ha, has⟩ := List.forall_mem_cons.1 h
    simp only [List.forall₂_cons_left_iff, ha, ih has]

/-- A list is related to another one exactly when each of its items is related to something. -/
theorem exists_forall₂_iff {α β : Type} {R : α → β → Prop} {as : List α} :
    (∃ bs, List.Forall₂ R as bs) ↔ ∀ a ∈ as, ∃ b, R a b := by
  induction as with
  | nil => simp
  | cons a as ih =>
    rw [List.forall_mem_cons, ← ih]
    constructor
    · rintro ⟨_, h⟩
      obtain ⟨b, bs, hb, hbs, -⟩ := List.forall₂_cons_left_iff.1 h
      exact ⟨⟨b, hb⟩, bs, hbs⟩
    · rintro ⟨⟨b, hb⟩, bs, hbs⟩
      exact ⟨b :: bs, .cons hb hbs⟩

section Numbered

variable {ε α : Type} {load : ℕ → Datum → Except ε α} {number : ℕ} {items : List Datum}

/-- When what an item becomes does not depend on its number, so does what the items become. -/
theorem numbered_eq_ok_iff {R : Datum → α → Prop} (hR : ∀ n d a, load n d = .ok a ↔ R d a)
    {as : List α} : numbered load number items = .ok as ↔ List.Forall₂ R items as := by
  induction items generalizing number as with
  | nil => cases as <;> simp [numbered]
  | cons d items ih =>
    simp only [numbered, Except.bind_eq_ok_iff, hR, ih, List.forall₂_cons_left_iff]
    simp only [pure, Except.pure, Except.ok.injEq, eq_comm]
    tauto

/-- Items fail with the first one that does. -/
theorem numbered_eq_error_iff {e : ε} :
    numbered load number items = .error e ↔ ∃ before d after, items = before ++ d :: after ∧
      (∃ as, numbered load number before = .ok as) ∧
      load (number + before.length) d = .error e := by
  induction items generalizing number with
  | nil => simp [numbered]
  | cons d items ih =>
    simp only [numbered, Except.bind_eq_error_iff, ih]
    constructor
    · rintro (hd | ⟨a, hd, hrest⟩)
      · exact ⟨[], d, items, rfl, ⟨[], rfl⟩, hd⟩
      · rcases hrest with ⟨before, d', after, rfl, ⟨as, has⟩, hd'⟩ | ⟨as, -, h⟩
        · refine ⟨d :: before, d', after, rfl, ⟨a :: as, ?_⟩, ?_⟩
          · rw [numbered, hd, Except.bind_eq_ok_iff]
            exact ⟨a, rfl, Except.bind_eq_ok_iff.2 ⟨as, has, rfl⟩⟩
          · rwa [List.length_cons, Nat.add_comm before.length, ← Nat.add_assoc]
        · exact absurd h (by simp [pure, Except.pure])
    · rintro ⟨_ | ⟨first, before⟩, d', after, hitems, ⟨as, has⟩, hd'⟩
      · obtain ⟨rfl, -⟩ := List.cons.inj hitems
        exact .inl hd'
      · obtain ⟨rfl, rfl⟩ := List.cons.inj hitems
        obtain ⟨a, ha, hrest⟩ := Except.bind_eq_ok_iff.1 has
        obtain ⟨as', has', -⟩ := Except.bind_eq_ok_iff.1 hrest
        refine .inr ⟨a, ha, .inl ⟨before, d', after, rfl, ⟨as', has'⟩, ?_⟩⟩
        rwa [List.length_cons, Nat.add_comm before.length, ← Nat.add_assoc] at hd'

end Numbered

end Definition

/-! ### What a mapping makes -/

open Definition

/-- An assertion is made of the entries of a mapping. -/
structure Assertion.MadeOf (assertion : Assertion) (entries : Entries) : Prop where
  path : solidText? (Datum.get "path" entries) = some assertion.path
  condition : condition? (Datum.get "condition" entries) = some assertion.condition
  value : (Datum.get "value" entries).value = assertion.value
  message : messageText (Datum.get "message" entries) = .ok assertion.message

/-- A step is made of the entries of a mapping. -/
structure Step.MadeOf (step : Step) (entries : Entries) : Prop where
  tool : solidText? (Datum.get "tool" entries) = some step.tool
  description : textOr ("Call " ++ step.tool) (Datum.get "description" entries) =
    .valid step.description
  args : ∃ given, argEntries (Datum.get "args" entries) = .ok given ∧
    namedArgs given = .valid step.args
  mapping : ∃ given, mappingEntries (Datum.get "argMapping" entries) = .ok given ∧
    namedMapping given = .valid step.mapping
  assertions : assertionList (Datum.get "assertions" entries) = .ok step.assertions
  isOptional : optionalFlag (Datum.get "optional" entries) = .ok step.isOptional

/-- A workflow is made of the entries of a mapping. -/
structure Workflow.MadeOf (workflow : Workflow) (entries : Entries) : Prop where
  id : solidText? (Datum.get "id" entries) = some workflow.id
  name : solidText? (Datum.get "name" entries) = some workflow.name
  description : textOr ("Workflow: " ++ workflow.name) (Datum.get "description" entries) =
    .valid workflow.description
  expectedOutcome : textOr defaultOutcome (Datum.get "expectedOutcome" entries) =
    .valid workflow.expectedOutcome
  steps : ∃ items, someItems? (Datum.get "steps" entries) = some items ∧
    List.Forall₂ (fun d step ↦ loadStep d = .ok step) items workflow.steps
  written : workflow.discovered = false

/-- A workflow is defined by data that are a mapping of which it is made. -/
def Workflow.DefinedBy (workflow : Workflow) (d : Datum) : Prop :=
  ∃ entries, mapping? d = some entries ∧ workflow.MadeOf entries

namespace Definition

variable {d : Datum}

/-- What is there passes, whatever would be reported in its absence. -/
theorem orFail_eq_ok_iff {ε α : Type} {problem : ε} {x : Option α} {a : α} :
    orFail problem x = .ok a ↔ x = some a := by
  cases x <;> simp [orFail]

/-- An expression is a text that starts like a reference to a step. -/
theorem isExpression_iff : isExpression d = true ↔
    ∃ s, d = .text s ∧ "$steps[".toList <+: s.toList := by
  have hopening : (Path.stepsKeyword ++ "[") = "$steps[" := rfl
  unfold isExpression
  split
  · simp [hopening]
  · next hother =>
    simp only [Bool.false_eq_true, false_iff, not_exists, not_and]
    exact fun s h ↦ absurd h (hother s)

/-- **An assertion is loaded from a mapping of which it is made**, and from nothing else. -/
theorem loadAssertion_eq_ok_iff {assertion : Assertion} :
    loadAssertion d = .ok assertion ↔
      ∃ entries, mapping? d = some entries ∧ assertion.MadeOf entries := by
  simp only [loadAssertion, Except.bind_eq_ok_iff, orFail_eq_ok_iff]
  constructor
  · rintro ⟨entries, hd, path, hpath, condition, hcondition, message, hmessage, h⟩
    obtain rfl := Except.ok.inj h
    exact ⟨entries, hd, hpath, hcondition, rfl, hmessage⟩
  · rintro ⟨entries, hd, h⟩
    exact ⟨entries, hd, _, h.path, _, h.condition, _, h.message, by rw [h.value]; rfl⟩

/-- Assertions are declared by a list, each item of which is one, or not at all. -/
theorem assertionList_eq_ok_iff {assertions : Option (List Assertion)} :
    assertionList d = .ok assertions ↔ d.opened = .null ∧ assertions = none ∨
      ∃ items found, d.opened = .list items ∧ assertions = some found ∧
        List.Forall₂ (fun d assertion ↦ loadAssertion d = .ok assertion) items found := by
  have hloads {items : List Datum} {found : List Assertion} : loadAssertions items = .ok found ↔
      List.Forall₂ (fun d assertion ↦ loadAssertion d = .ok assertion) items found :=
    numbered_eq_ok_iff fun _ _ _ ↦ Except.mapError_eq_ok_iff
  unfold assertionList
  split
  · next hd => simp [hd, eq_comm]
  · next items hd =>
    simp only [hd, Except.map_eq_ok_iff, hloads, reduceCtorEq, false_and, false_or,
      Datum.list.injEq]
    constructor
    · rintro ⟨found, hfound, rfl⟩
      exact ⟨items, found, rfl, rfl, hfound⟩
    · rintro ⟨_, found, rfl, rfl, hfound⟩
      exact ⟨found, hfound, rfl⟩
  · next hnull hlist =>
    simp only [reduceCtorEq, false_iff, not_or, not_and, not_exists]
    exact ⟨fun h ↦ absurd h hnull, fun items _ h ↦ absurd h (hlist items)⟩

/-- **A step is loaded from a mapping of which it is made**, and from nothing else. -/
theorem loadStep_eq_ok_iff {step : Step} :
    loadStep d = .ok step ↔ ∃ entries, mapping? d = some entries ∧ step.MadeOf entries := by
  simp only [loadStep, Except.bind_eq_ok_iff, orFail_eq_ok_iff, Except.mapError_eq_ok_iff,
    Checked.titled_eq_ok_iff, Checked.also_eq_valid_iff, Checked.map_eq_valid_iff,
    Checked.inside_eq_valid_iff]
  constructor
  · rintro ⟨entries, hd, tool, htool, given, hgiven, mapped, hmapped, isOptional, hoptional,
      assertions, hassertions, _, mapping, ⟨_, args, ⟨description, hdescription, rfl⟩, hargs, rfl⟩,
      hmapping, rfl⟩
    exact ⟨entries, hd, htool, hdescription, ⟨given, hgiven, hargs⟩, ⟨mapped, hmapped, hmapping⟩,
      hassertions, hoptional⟩
  · rintro ⟨entries, hd, h⟩
    obtain ⟨given, hgiven, hargs⟩ := h.args
    obtain ⟨mapped, hmapped, hmapping⟩ := h.mapping
    exact ⟨entries, hd, _, h.tool, given, hgiven, mapped, hmapped, _, h.isOptional, _, h.assertions,
      _, _, ⟨_, _, ⟨_, h.description, rfl⟩, hargs, rfl⟩, hmapping, rfl⟩

/-- **A workflow is loaded from the data that define it**, wherever they stand: the place is for
reports only. -/
theorem loadWorkflow_eq_ok_iff {place : WorkflowPlace} {workflow : Workflow} :
    loadWorkflow place d = .ok workflow ↔ workflow.DefinedBy d := by
  have hloads {id : String} {items : List Datum} {steps : List Step} :
      loadSteps id items = .ok steps ↔
        List.Forall₂ (fun d step ↦ loadStep d = .ok step) items steps :=
    numbered_eq_ok_iff fun _ _ _ ↦ Except.mapError_eq_ok_iff
  simp only [loadWorkflow, Except.bind_eq_ok_iff, orFail_eq_ok_iff, Except.mapError_eq_ok_iff,
    Checked.titled_eq_ok_iff, Checked.also_eq_valid_iff, Checked.map_eq_valid_iff,
    Checked.inside_eq_valid_iff, hloads]
  constructor
  · rintro ⟨entries, hd, id, hid, name, hname, items, hitems, steps, hsteps, _, outcome,
      ⟨description, hdescription, rfl⟩, houtcome, rfl⟩
    exact ⟨entries, hd, hid, hname, hdescription, houtcome, ⟨items, hitems, hsteps⟩, rfl⟩
  · rintro ⟨entries, hd, h⟩
    obtain ⟨items, hitems, hsteps⟩ := h.steps
    refine ⟨entries, hd, _, h.id, _, h.name, items, hitems, _, hsteps, _, _,
      ⟨_, h.description, rfl⟩, h.expectedOutcome, ?_⟩
    rw [← h.written]

/-- Workflows are loaded when there are some, one for each definition. -/
theorem loadDocuments_eq_ok_iff {source : String} {documents : List Datum}
    {workflows : List Workflow} :
    loadDocuments source documents = .ok workflows ↔ documents.flatMap candidates ≠ [] ∧
      List.Forall₂ (fun d workflow ↦ workflow.DefinedBy d) (documents.flatMap candidates)
        workflows := by
  unfold loadDocuments
  split
  · next h => simp [h]
  · next h =>
    rw [numbered_eq_ok_iff fun number d workflow ↦
      @loadWorkflow_eq_ok_iff d { source, number } workflow]
    exact ⟨fun hload ↦ ⟨h, hload⟩, And.right⟩

end Definition

end ToolFlow
