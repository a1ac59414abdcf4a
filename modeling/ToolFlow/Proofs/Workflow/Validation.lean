import ToolFlow.Proofs.Definition.Checked
import ToolFlow.Proofs.Workflow.Document
import ToolFlow.Workflow.Validation

/-!
# Data that validate

An assertion, a step or a workflow comes out of the validation of fields that hold its parts and
nothing unknown besides (`Assertion.ofFields_eq_valid`, `Step.ofFields_eq_valid`,
`Workflow.ofFields_eq_valid`). A field that may be null may as well be left out.

The lemmas say what is sufficient, and not what is necessary: the validation accepts much more, such
as words in place of truth values and either of two names for some fields. What is needed is the way
back from a document, which has each field under its first name and with a value of its own kind.

A field is found by the first of its names that the data have (`pick?_of_lookup`), so only the first
name is ever looked up here. Unknown fields are ruled out by the names of the data being among those
that the definition knows (`unknownIssues_eq_nil`), which is a matter of lists of names and not of
values.
-/

namespace ToolFlow

namespace Fields

variable {α : Type} {fields : Fields} {name : String} {names : List String} {v : Value}
  {check : Value → Checked α} {a default : α}

/-- A field that is there under its first name is found there. -/
theorem pick?_of_lookup (h : fields.lookup name = some v) :
    pick? (name :: names) fields = some (name, v) := by
  simp [pick?, h]

/-- A field that is required has to be there and to pass its check. -/
theorem required_eq_valid (h : fields.lookup name = some v) (hcheck : check v = .valid a) :
    required fields (name :: names) check = .valid a := by
  simp only [required, pick?_of_lookup h, hcheck, Checked.inside]

/-- A field with a default is checked like any other when it is there. -/
theorem defaulted_eq_valid (h : fields.lookup name = some v) (hcheck : check v = .valid a) :
    defaulted fields (name :: names) default check = .valid a := by
  simp only [defaulted, pick?_of_lookup h, hcheck, Checked.inside]

/-- A field that may be left out is checked as null when null stands for its default. -/
theorem defaulted_eq_valid_of_null (hnull : check .null = .valid default)
    (hnames : ∀ other ∈ names, fields.lookup other = none)
    (hcheck : check ((fields.lookup name).getD .null) = .valid a) :
    defaulted fields (name :: names) default check = .valid a := by
  cases h : fields.lookup name with
  | some v => exact defaulted_eq_valid h (by rwa [h] at hcheck)
  | none =>
    have hpick : pick? (name :: names) fields = none := by
      simpa [pick?, h] using hnames
    rw [h, Option.getD_none, hnull] at hcheck
    simp only [defaulted, hpick, hcheck]

/-- No name is unknown when each comes first among the names of some field. -/
theorem unknownIssues_eq_nil {known : List (List String)}
    (h : ∀ field ∈ fields, ∃ others, field.1 :: others ∈ known) :
    unknownIssues fields known = [] := by
  simp only [unknownIssues, List.map_eq_nil_iff, List.filter_eq_nil_iff, Bool.not_eq_true,
    Bool.not_eq_false', List.contains_iff_mem, List.mem_filterMap]
  intro field hfield
  obtain ⟨others, hknown⟩ := h field hfield
  obtain ⟨v, hv⟩ : ∃ v, fields.lookup field.1 = some v := by
    rcases hv : fields.lookup field.1 with _ | v
    · exact absurd (List.lookup_eq_none_iff.1 hv field hfield) (by simp)
    · exact ⟨v, rfl⟩
  exact ⟨_, hknown, by rw [pick?_of_lookup hv]; rfl⟩

end Fields

namespace Value

/-- The items of a list are checked one by one. -/
theorem checkList_map {α : Type} {check : Value → Checked α} {g : α → Value} {as : List α}
    (h : ∀ a ∈ as, check (g a) = .valid a) : checkList check (.list (as.map g)) = .valid as := by
  rw [checkList, Checked.all_eq_valid_iff]
  refine List.ext_getElem (by simp) fun i hi _ ↦ ?_
  simp only [List.getElem_mapIdx, List.getElem_map]
  rw [h _ (List.getElem_mem _)]
  rfl

/-- A message passes as it is written, and so does its absence. -/
theorem checkNullable_ofText? (message : Option String) :
    checkNullable checkText (ofText? message) = .valid message := by
  cases message <;> rfl

end Value

/-- So do mapped arguments. -/
theorem checkTexts_mappingValue (mapping : Option (List (String × String))) :
    Value.checkNullable Value.checkTexts (mappingValue mapping) = .valid mapping := by
  cases mapping with
  | none => rfl
  | some entries =>
    have htexts : Value.checkTexts (.object (entries.map fun entry ↦ (entry.1, .text entry.2))) =
        .valid entries := by
      rw [Value.checkTexts, Checked.all_eq_valid_iff, List.map_map]
      exact List.map_congr_left fun entry _ ↦ rfl
    simp only [mappingValue, Value.checkNullable, htexts, Checked.map]

/-- A description with something in it is not made up. -/
theorem withDescription_eq_self {subject lead s : String} {fields : Fields}
    (h : fields.lookup "description" = some (.text s)) (hs : s ≠ "") :
    withDescription subject lead fields = fields := by
  have hsome : s.isEmpty = false := by simpa using hs
  simp [withDescription, Fields.get?, h, Value.isVacant, hsome]

/-- The name of a condition stands for it. -/
theorem Condition.check_name (condition : Condition) :
    Condition.check (.text condition.name) = .valid condition := by
  cases condition <;> rfl

/-- An assertion comes out of the fields that hold its parts. -/
theorem Assertion.ofFields_eq_valid {fields : Fields} {assertion : Assertion}
    (hpath : fields.lookup "path" = some (.text assertion.path))
    (hcondition : fields.lookup "condition" = some (.text assertion.condition.name))
    (hvalue : (fields.lookup "value").getD .null = assertion.value)
    (hmessage : (fields.lookup "message").getD .null = .ofText? assertion.message)
    (hknown : ∀ field ∈ fields, [field.1] ∈ fieldNames) :
    ofFields fields = .valid assertion := by
  have hpath' : Fields.required fields ["path"] Value.checkText = .valid assertion.path :=
    Fields.required_eq_valid hpath rfl
  have hcondition' : Fields.required fields ["condition"] Condition.check =
      .valid assertion.condition :=
    Fields.required_eq_valid hcondition (Condition.check_name _)
  have hvalue' : Fields.defaulted fields ["value"] .null .valid = .valid assertion.value :=
    Fields.defaulted_eq_valid_of_null rfl (by simp) (by rw [hvalue])
  have hmessage' : Fields.defaulted fields ["message"] none
      (Value.checkNullable Value.checkText) = .valid assertion.message :=
    Fields.defaulted_eq_valid_of_null rfl (by simp) (by rw [hmessage, Value.checkNullable_ofText?])
  have hissues : Fields.unknownIssues fields fieldNames = [] :=
    Fields.unknownIssues_eq_nil fun field hfield ↦ ⟨[], hknown field hfield⟩
  rw [ofFields, hpath', hcondition', hvalue', hmessage', hissues]
  rfl

/-- A step comes out of the fields that hold its parts, its assertions as far as they validate. -/
theorem Step.ofFields_eq_valid {fields : Fields} {step : Step}
    (htool : fields.lookup "tool" = some (.text step.tool))
    (hsolid : Text.isBlankText step.tool = false)
    (hdescription : fields.lookup "description" = some (.text step.description))
    (hnonempty : step.description ≠ "")
    (hargs : fields.lookup "args" = some (.object step.args))
    (hmapping : (fields.lookup "argMapping").getD .null = mappingValue step.mapping)
    (hassertions : Value.checkNullable (Value.checkList Assertion.ofValue)
      ((fields.lookup "assertions").getD .null) = .valid step.assertions)
    (hoptional : fields.lookup "optional" = some (.bool step.isOptional))
    (hknown : ∀ field ∈ fields, field.1 ≠ "arg_mapping" ∧
      ∃ others, field.1 :: others ∈ fieldNames) :
    ofFields fields = .valid step := by
  have htool' : Fields.required fields ["tool"] checkTool = .valid step.tool :=
    Fields.required_eq_valid htool (by simp [checkTool, Value.checkText, hsolid])
  have hdescription' : Fields.defaulted fields ["description"] "" Value.checkText =
      .valid step.description :=
    Fields.defaulted_eq_valid hdescription rfl
  have hargs' : Fields.defaulted fields ["args"] [] Value.checkObject = .valid step.args :=
    Fields.defaulted_eq_valid hargs rfl
  have halias : fields.lookup "arg_mapping" = none :=
    List.lookup_eq_none_iff.2 fun field hfield ↦ by simpa using Ne.symm (hknown field hfield).1
  have hmapping' : Fields.defaulted fields ["argMapping", "arg_mapping"] none
      (Value.checkNullable Value.checkTexts) = .valid step.mapping :=
    Fields.defaulted_eq_valid_of_null rfl (by simpa using halias)
      (by rw [hmapping, checkTexts_mappingValue])
  have hassertions' : Fields.defaulted fields ["assertions"] none
      (Value.checkNullable (Value.checkList Assertion.ofValue)) = .valid step.assertions :=
    Fields.defaulted_eq_valid_of_null rfl (by simp) hassertions
  have hoptional' : Fields.defaulted fields ["optional"] false Value.checkBoolean =
      .valid step.isOptional :=
    Fields.defaulted_eq_valid hoptional rfl
  have hissues : Fields.unknownIssues fields fieldNames = [] :=
    Fields.unknownIssues_eq_nil fun field hfield ↦ (hknown field hfield).2
  rw [ofFields, withDescription_eq_self hdescription hnonempty, htool', hdescription', hargs',
    hmapping', hassertions', hoptional', hissues]
  rfl

/-- A workflow comes out of the fields that hold its parts, its steps as far as they validate. -/
theorem Workflow.ofFields_eq_valid {fields : Fields} {workflow : Workflow} {steps : Value}
    (hid : fields.lookup "id" = some (.text workflow.id))
    (hname : fields.lookup "name" = some (.text workflow.name))
    (hdescription : fields.lookup "description" = some (.text workflow.description))
    (hnonempty : workflow.description ≠ "")
    (houtcome : fields.lookup "expectedOutcome" = some (.text workflow.expectedOutcome))
    (hsteps : fields.lookup "steps" = some steps)
    (hchecked : checkSteps steps = .valid workflow.steps)
    (hdiscovered : fields.lookup "discovered" = some (.bool workflow.discovered))
    (hknown : ∀ field ∈ fields, ∃ others, field.1 :: others ∈ fieldNames) :
    ofFields fields = .valid workflow := by
  have hid' : Fields.required fields ["id"] Value.checkText = .valid workflow.id :=
    Fields.required_eq_valid hid rfl
  have hname' : Fields.required fields ["name"] Value.checkText = .valid workflow.name :=
    Fields.required_eq_valid hname rfl
  have hdescription' : Fields.defaulted fields ["description"] "" Value.checkText =
      .valid workflow.description :=
    Fields.defaulted_eq_valid hdescription rfl
  have houtcome' : Fields.defaulted fields ["expectedOutcome", "expected_outcome"] defaultOutcome
      Value.checkText = .valid workflow.expectedOutcome :=
    Fields.defaulted_eq_valid houtcome rfl
  have hsteps' : Fields.required fields ["steps"] checkSteps = .valid workflow.steps :=
    Fields.required_eq_valid hsteps hchecked
  have hdiscovered' : Fields.defaulted fields ["discovered"] false Value.checkBoolean =
      .valid workflow.discovered :=
    Fields.defaulted_eq_valid hdiscovered rfl
  have hissues : Fields.unknownIssues fields fieldNames = [] :=
    Fields.unknownIssues_eq_nil hknown
  rw [ofFields, withDescription_eq_self hdescription hnonempty, hid', hname', hdescription',
    houtcome', hsteps', hdiscovered', hissues]
  rfl

end ToolFlow
