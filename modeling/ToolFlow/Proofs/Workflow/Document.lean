import ToolFlow.Proofs.DataFlow
import ToolFlow.Proofs.Value.Data
import ToolFlow.Workflow.Document

/-!
# Definitions as documents

A definition that holds nothing but data with finite numbers has a document, in which these data
stand as they are (`Workflow.document_eq_ok`). The document is data itself when each argument is
mapped once (`Workflow.isData_written`).

## Documents with and without nulls

Whether the fields that are null are kept is a choice of the writer. `Assertion.written`,
`Step.written` and `Workflow.written` write documents for either choice without the failures that
writing can meet, and are shown equal to what is written wherever the definition holds data. Every
fact about documents is stated for these, with the choice as a parameter. To those who read a
document the choice makes no difference: a field that is left out reads as null
(`Assertion.field_written`, `Step.field_written`, `Workflow.field_written`).

## What may go wrong

* A number that is not finite is written as null, and would not come back. `Number.IsFinite` rules
  it out. Data that are read from JSON or YAML may have such numbers, so this is asked for and not
  derived.
* An absent value and an entity cannot be written. `Value.IsData` rules them out.
* An argument that is mapped twice would be two fields of one name. A definition may well hold such
  a mapping when it is made by hand, but none that was loaded does.

Which fields a document has, and what becomes of a value that is no data, is fixed by
`Workflow.document` and `Value.plain`; the module that defines them names the facts about the
dumping of models that they stand for, and nothing further is assumed of it here.
-/

namespace ToolFlow

variable {P : Number → Prop}

/-- A number that JSON can hold: an integer, or a finite floating-point number. -/
def Number.IsFinite : Number → Prop
  | .int _ => True
  | .float x => x.isFinite = true

namespace Value

/-! ### Data as they are -/

/-- A list stays as it is when its items do. -/
theorem plainItems_eq_ok {items : List Value} (h : ∀ v ∈ items, v.plain = .ok v) :
    plainItems items = .ok items := by
  induction items with
  | nil => rfl
  | cons v rest ih =>
    obtain ⟨hv, hrest⟩ := List.forall_mem_cons.1 h
    rw [plainItems, hv, ih hrest]
    rfl

/-- So does an object when its values do. Names are never touched. -/
theorem plainFields_eq_ok {fields : Fields} (h : ∀ field ∈ fields, field.2.plain = .ok field.2) :
    plainFields fields = .ok fields := by
  induction fields with
  | nil => rfl
  | cons field rest ih =>
    obtain ⟨hfield, hrest⟩ := List.forall_mem_cons.1 h
    rw [plainFields, hfield, ih hrest]
    rfl

/-- A document holds data with finite numbers as they are. -/
theorem IsData.plain_eq_ok {v : Value} (h : v.IsData Number.IsFinite) : v.plain = .ok v := by
  induction h with
  | @leaf v h =>
    cases v with
    | number n =>
      cases n with
      | int n => rfl
      | float x =>
        have hfinite : x.isFinite = true := h
        simp [plain, hfinite]
    | missing => exact h.elim
    | entity => exact h.elim
    | list => exact h.elim
    | object => exact h.elim
    | _ => rfl
  | list _ ih => rw [plain, plainItems_eq_ok ih]; rfl
  | object _ _ ih => rw [plain, plainFields_eq_ok ih]; rfl

end Value

/-! ### Fields that may be left out -/

/-- A field that may be left out is found under its name, unless it was. -/
theorem lookup_nullableField {keepsNull : Bool} {key name : String} {v : Value} :
    (nullableField keepsNull name v).lookup key =
      if key = name ∧ (v.isNull && !keepsNull) = false then some v else none := by
  unfold nullableField
  split
  · next h => simp [h]
  · next h => by_cases hkey : key = name <;> simp_all

theorem lookup_nullableField_of_ne {keepsNull : Bool} {key name : String} {v : Value}
    (h : key ≠ name) : (nullableField keepsNull name v).lookup key = none := by
  simp [lookup_nullableField, h]

/-- A field that is left out reads as null, which it would be. -/
theorem getD_lookup_nullableField {keepsNull : Bool} {name : String} {v : Value} :
    ((nullableField keepsNull name v).lookup name).getD .null = v := by
  rw [lookup_nullableField]
  cases v with
  | null => split <;> rfl
  | _ => simp [Value.isNull]

/-- There is nothing in such a field but its name and its value. -/
theorem eq_of_mem_nullableField {keepsNull : Bool} {name : String} {v : Value}
    {field : String × Value} (h : field ∈ nullableField keepsNull name v) : field = (name, v) := by
  unfold nullableField at h
  split at h
  · cases h
  · exact List.mem_singleton.1 h

/-- Leaving a field out takes its name from the names, and adds none. -/
theorem sublist_nullableField {keepsNull : Bool} {name : String} {v : Value} :
    List.Sublist ((nullableField keepsNull name v).map Prod.fst) [name] := by
  unfold nullableField
  split
  · exact List.nil_sublist _
  · exact List.Sublist.refl _

/-! ### Documents of what holds data -/

/-- A step holds data: its arguments and the expected values of its assertions. -/
structure Step.HoldsData (P : Number → Prop) (step : Step) : Prop where
  args : (Value.object step.args).IsData P
  values : ∀ assertion ∈ step.checks, assertion.value.IsData P

/-- Data with numbers of a narrow kind are data with numbers of a wider one. -/
theorem Step.HoldsData.mono {Q : Number → Prop} {step : Step} (hP : ∀ n, P n → Q n)
    (h : step.HoldsData P) : step.HoldsData Q :=
  { args := h.args.mono hP
    values := fun assertion hmem ↦ (h.values assertion hmem).mono hP }

/-- A workflow holds data: its steps do. -/
def Workflow.HoldsData (P : Number → Prop) (workflow : Workflow) : Prop :=
  ∀ step ∈ workflow.steps, step.HoldsData P

/-- The fields of the document of an assertion whose expected value is data. -/
def Assertion.fields (keepsNull : Bool) (assertion : Assertion) : Fields :=
  [("path", .text assertion.path), ("condition", .text assertion.condition.name)] ++
    nullableField keepsNull "value" assertion.value ++
    nullableField keepsNull "message" (.ofText? assertion.message)

/-- The document of an assertion whose expected value is data. -/
def Assertion.written (keepsNull : Bool) (assertion : Assertion) : Value :=
  .object (assertion.fields keepsNull)

/-- The documents of the assertions of a step, null when it declares no list of them. -/
def assertionsValue (keepsNull : Bool) : Option (List Assertion) → Value
  | none => .null
  | some assertions => .list (assertions.map (Assertion.written keepsNull))

/-- The fields of the document of a step that holds data. -/
def Step.fields (keepsNull : Bool) (step : Step) : Fields :=
  [("tool", .text step.tool), ("description", .text step.description),
    ("args", .object step.args)] ++
    nullableField keepsNull "argMapping" (mappingValue step.mapping) ++
    nullableField keepsNull "assertions" (assertionsValue keepsNull step.assertions) ++
    [("optional", .bool step.isOptional)]

/-- The document of a step that holds data. -/
def Step.written (keepsNull : Bool) (step : Step) : Value :=
  .object (step.fields keepsNull)

/-- The fields of the document of a workflow that holds data. -/
def Workflow.fields (keepsNull : Bool) (workflow : Workflow) : Fields :=
  [("id", .text workflow.id), ("name", .text workflow.name),
    ("description", .text workflow.description),
    ("expectedOutcome", .text workflow.expectedOutcome),
    ("steps", .list (workflow.steps.map (Step.written keepsNull))),
    ("discovered", .bool workflow.discovered)]

/-- The document of a workflow that holds data. -/
def Workflow.written (keepsNull : Bool) (workflow : Workflow) : Value :=
  .object (workflow.fields keepsNull)

variable {keepsNull : Bool}

/-- An assertion whose expected value is data has a document. -/
theorem Assertion.document_eq_ok {assertion : Assertion}
    (h : assertion.value.IsData Number.IsFinite) :
    assertion.document keepsNull = .ok (assertion.written keepsNull) := by
  rw [document, h.plain_eq_ok]
  rfl

/-- A step that holds data has a document. -/
theorem Step.document_eq_ok {step : Step} (h : step.HoldsData Number.IsFinite) :
    step.document keepsNull = .ok (step.written keepsNull) := by
  have hargs : Value.plainFields step.args = .ok step.args :=
    Value.plainFields_eq_ok fun field hfield ↦
      Value.IsData.plain_eq_ok ((Value.isData_object_iff.1 h.args).2 field hfield)
  have hassertions : assertionsDocument keepsNull step.assertions =
      .ok (assertionsValue keepsNull step.assertions) := by
    have hvalues := h.values
    cases hstep : step.assertions with
    | none => rfl
    | some assertions =>
      rw [Step.checks, hstep, Option.getD_some] at hvalues
      have hdocuments : assertions.mapM (Assertion.document keepsNull) =
          .ok (assertions.map (Assertion.written keepsNull)) :=
        Except.mapM_eq_ok_map fun assertion hmem ↦ Assertion.document_eq_ok (hvalues assertion hmem)
      rw [assertionsDocument, hdocuments]
      rfl
  rw [document, hargs, hassertions]
  rfl

/-- **A workflow that holds data has a document**, in which they stand as they are. -/
theorem Workflow.document_eq_ok {workflow : Workflow} (h : workflow.HoldsData Number.IsFinite) :
    workflow.document keepsNull = .ok (workflow.written keepsNull) := by
  have hsteps : workflow.steps.mapM (Step.document keepsNull) =
      .ok (workflow.steps.map (Step.written keepsNull)) :=
    Except.mapM_eq_ok_map fun step hmem ↦ Step.document_eq_ok (h step hmem)
  rw [document, hsteps]
  rfl

/-! ### The fields of documents -/

/-- Each field of an assertion reads from its document, those included that were left out. -/
theorem Assertion.field_written {assertion : Assertion} :
    (assertion.written keepsNull).field "path" = .text assertion.path ∧
    (assertion.written keepsNull).field "condition" = .text assertion.condition.name ∧
    (assertion.written keepsNull).field "value" = assertion.value ∧
    (assertion.written keepsNull).field "message" = .ofText? assertion.message := by
  simp [written, fields, Value.field, Value.field?, List.lookup_append,
    lookup_nullableField_of_ne, Fields.lookup_cons_eq_if, getD_lookup_nullableField]

/-- Each field of a step reads from its document. The names are those of documents, which differ
from those of the parts of a step. -/
theorem Step.field_written {step : Step} :
    (step.written keepsNull).field "tool" = .text step.tool ∧
    (step.written keepsNull).field "description" = .text step.description ∧
    (step.written keepsNull).field "args" = .object step.args ∧
    (step.written keepsNull).field "argMapping" = mappingValue step.mapping ∧
    (step.written keepsNull).field "assertions" = assertionsValue keepsNull step.assertions ∧
    (step.written keepsNull).field "optional" = .bool step.isOptional := by
  simp [written, fields, Value.field, Value.field?, List.lookup_append,
    lookup_nullableField_of_ne, Fields.lookup_cons_eq_if, getD_lookup_nullableField]

/-- Each field of a workflow reads from its document, and its steps are the documents of the steps.
-/
theorem Workflow.field_written {workflow : Workflow} :
    (workflow.written keepsNull).field "id" = .text workflow.id ∧
    (workflow.written keepsNull).field "name" = .text workflow.name ∧
    (workflow.written keepsNull).field "description" = .text workflow.description ∧
    (workflow.written keepsNull).field "expectedOutcome" = .text workflow.expectedOutcome ∧
    (workflow.written keepsNull).field "steps" =
      .list (workflow.steps.map (Step.written keepsNull)) := by
  simp [written, fields, Value.field, Value.field?, Fields.lookup_cons_eq_if]

/-! ### The names of documents -/

/-- No document of an assertion has other fields than these, or has them in another order. -/
theorem Assertion.names_fields {assertion : Assertion} :
    List.Sublist ((assertion.fields keepsNull).map Prod.fst)
      ["path", "condition", "value", "message"] := by
  rw [fields, List.map_append, List.map_append]
  exact ((List.Sublist.refl ["path", "condition"]).append sublist_nullableField).append
    sublist_nullableField

/-- The same goes for the documents of steps. -/
theorem Step.names_fields {step : Step} :
    List.Sublist ((step.fields keepsNull).map Prod.fst)
      ["tool", "description", "args", "argMapping", "assertions", "optional"] := by
  rw [fields, List.map_append, List.map_append, List.map_append]
  exact (((List.Sublist.refl ["tool", "description", "args"]).append
    sublist_nullableField).append sublist_nullableField).append (List.Sublist.refl ["optional"])

/-- No field of a workflow is ever left out. -/
theorem Workflow.names_fields {workflow : Workflow} :
    (workflow.fields keepsNull).map Prod.fst =
      ["id", "name", "description", "expectedOutcome", "steps", "discovered"] :=
  rfl

/-! ### Documents are data -/

/-- A field that may be left out adds nothing but its own value. -/
theorem forall_mem_nullableField {name : String} {v : Value} (h : v.IsData P) :
    ∀ field ∈ nullableField keepsNull name v, field.2.IsData P := by
  intro field hfield
  rw [eq_of_mem_nullableField hfield]
  exact h

/-- The document of an assertion is data when the expected value is. -/
theorem Assertion.isData_written {assertion : Assertion} (h : assertion.value.IsData P) :
    (assertion.written keepsNull).IsData P := by
  refine Value.isData_object_iff.2 ⟨names_fields.nodup (by decide), ?_⟩
  simp only [fields, List.forall_mem_append, List.forall_mem_cons, Value.isData_text, true_and]
  exact ⟨⟨by simp, forall_mem_nullableField h⟩,
    forall_mem_nullableField (Value.isData_ofText? assertion.message)⟩

/-- Mapped arguments are data when no name is mapped twice. -/
theorem isData_mappingValue {mapping : Option (List (String × String))}
    (h : ((mapping.getD []).map Prod.fst).Nodup) : (mappingValue mapping).IsData P := by
  cases mapping with
  | none => exact Value.isData_null
  | some entries =>
    refine Value.isData_object_iff.2 ⟨by simpa [Function.comp_def] using h, ?_⟩
    rw [List.forall_mem_map]
    exact fun entry _ ↦ Value.isData_text entry.2

/-- The document of a step is data when what it holds is, and when it maps each argument once. -/
theorem Step.isData_written {step : Step} (h : step.HoldsData P)
    (honce : (step.mapped.map Prod.fst).Nodup) : (step.written keepsNull).IsData P := by
  have hassertions : (assertionsValue keepsNull step.assertions).IsData P := by
    have hvalues := h.values
    cases hstep : step.assertions with
    | none => exact Value.isData_null
    | some assertions =>
      rw [Step.checks, hstep, Option.getD_some] at hvalues
      exact Value.isData_list_map_iff.2 fun assertion hmem ↦
        Assertion.isData_written (hvalues assertion hmem)
  refine Value.isData_object_iff.2 ⟨names_fields.nodup (by decide), ?_⟩
  simp only [fields, List.forall_mem_append, List.forall_mem_cons, Value.isData_text,
    Value.isData_bool, h.args, true_and]
  exact ⟨⟨⟨by simp, forall_mem_nullableField (isData_mappingValue honce)⟩,
    forall_mem_nullableField hassertions⟩, by simp⟩

/-- **The document of a workflow is data** when what it holds is, and when it maps each argument
once. -/
theorem Workflow.isData_written {workflow : Workflow} (h : workflow.HoldsData P)
    (honce : workflow.MapsOnce) : (workflow.written keepsNull).IsData P := by
  have hsteps : (Value.list (workflow.steps.map (Step.written keepsNull))).IsData P :=
    Value.isData_list_map_iff.2 fun step hmem ↦ Step.isData_written (h step hmem) (honce step hmem)
  refine Value.isData_object_iff.2 ⟨by rw [names_fields]; decide, ?_⟩
  simp only [fields, List.forall_mem_cons, Value.isData_text, Value.isData_bool, hsteps, true_and]
  simp

end ToolFlow
