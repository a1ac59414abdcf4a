import ToolFlow.Proofs.Definition.Loader
import ToolFlow.Proofs.Yaml.Datum
import ToolFlow.Workflow.Document

/-!
# Which documents define workflows

The form of a document is said of its data alone: which fields an assertion, a step and a workflow
have to have, and of what kind (`Value.IsAssertion`, `Value.IsStep`, `Value.IsWorkflow`). Documents
are accepted exactly when all that they hold is of this form, and what is loaded then has the fields
of the data (`loadsExactly`).

## The form and the loader

The form is not the loader read backwards. It knows no order in which fields are looked at, no
reports, and no difference between a value and the datum of a document that stands for it. The
loader on the other hand works on data as YAML has them, which are more than values: there are
bytes, dates, keys that are no texts, and collections that are shared. The two meet in
`Datum.ofValue`, and each check of the loader has a lemma that says what it comes to on such a datum
(the lemmas named `…_ofValue`).

`Assertion.ReadFrom`, `Step.ReadFrom` and `Workflow.ReadFrom` extend the form by what is loaded:
each field of the data against the field of the result. From these both directions follow. Data of
the form have a result that is read from them (`Value.IsWorkflow.exists_readFrom`), and what is
loaded is read from data, which then are of the form.

## What the results rest on

* The data hold no integer with too many digits to be written. Only the message of an assertion is
  ever written while it is loaded, so the lemmas ask for `HasShortMessage` where they can, and
  `hasShortMessages_of_isData` gives it.
* How a text becomes data is left to the decoder: `loadDecoded` is given the documents. What the
  decoder does with a text is the matter of the modules on YAML.
* Fields that no definition knows are not looked at by the loader. The form does not mention them
  either, so that data with further fields are of the form.
-/

namespace ToolFlow

open Yaml (Datum)

/-! ### The form of documents -/

namespace Value

/-- A text with other characters than blank ones. -/
def IsSolidText (v : Value) : Prop :=
  ∃ s, v = text s ∧ Text.isBlankText s = false

/-- Nothing, or a text. -/
def IsOptionalText (v : Value) : Prop :=
  v.isVacant = true ∨ ∃ s, v = text s

/-- An expression that starts like a reference to a step. -/
def IsExpression (v : Value) : Prop :=
  ∃ s, v = text s ∧ "$steps[".toList <+: s.toList

/-- The form of an assertion. -/
structure IsAssertion (v : Value) : Prop where
  isObject : ∃ fields, v = object fields
  path : (v.field "path").IsSolidText
  condition : ∃ condition : Condition, v.field "condition" = text condition.name

/-- The form of a step. -/
structure IsStep (v : Value) : Prop where
  isObject : ∃ fields, v = object fields
  tool : (v.field "tool").IsSolidText
  description : (v.field "description").IsOptionalText
  args : (v.field "args").isVacant = true ∨ ∃ fields, v.field "args" = object fields
  mapping : v.field "argMapping" = null ∨ ∃ fields, v.field "argMapping" = object fields ∧
    ∀ field ∈ fields, field.2.IsExpression
  assertions : v.field "assertions" = null ∨ ∃ items, v.field "assertions" = list items ∧
    ∀ item ∈ items, item.IsAssertion
  isOptional : v.field "optional" = null ∨ ∃ b, v.field "optional" = bool b

/-- The form of a workflow. -/
structure IsWorkflow (v : Value) : Prop where
  isObject : ∃ fields, v = object fields
  id : (v.field "id").IsSolidText
  name : (v.field "name").IsSolidText
  description : (v.field "description").IsOptionalText
  expectedOutcome : (v.field "expectedOutcome").IsOptionalText
  steps : ∃ items, v.field "steps" = list items ∧ items ≠ [] ∧ ∀ item ∈ items, item.IsStep

/-- What a document contributes: nothing when it is null, the items of a list, or itself. -/
def spliced : Value → List Value
  | null => []
  | list items => items
  | v => [v]

/-- The text of a field, or another one when there is nothing in it. -/
def textOr (default : String) (v : Value) : String :=
  if v.isVacant then default else v.display

/-- The text of a message, none when it is null. -/
def messageText? : Value → Option String
  | null => none
  | v => some v.display

end Value

/-! ### The fields of what is loaded -/

/-- An assertion has the fields of data of its form. -/
structure Assertion.ReadFrom (assertion : Assertion) (v : Value) : Prop extends v.IsAssertion where
  path_eq : v.field "path" = .text assertion.path
  condition_eq : v.field "condition" = .text assertion.condition.name
  value_eq : v.field "value" = assertion.value
  message_eq : (v.field "message").messageText? = assertion.message

/-- A step has the fields of data of its form. -/
structure Step.ReadFrom (step : Step) (v : Value) : Prop extends v.IsStep where
  tool_eq : v.field "tool" = .text step.tool
  description_eq : (v.field "description").textOr ("Call " ++ step.tool) = step.description
  args_eq : (v.field "args").fields = step.args
  mapping_eq : v.field "argMapping" = mappingValue step.mapping
  assertions_eq : v.field "assertions" = .null ∧ step.assertions = none ∨
    ∃ items assertions, v.field "assertions" = .list items ∧ step.assertions = some assertions ∧
      List.Forall₂ (fun item assertion ↦ assertion.ReadFrom item) items assertions
  isOptional_eq : v.field "optional" = .bool step.isOptional ∨
    v.field "optional" = .null ∧ step.isOptional = false

/-- A workflow has the fields of data of its form. -/
structure Workflow.ReadFrom (workflow : Workflow) (v : Value) : Prop extends v.IsWorkflow where
  id_eq : v.field "id" = .text workflow.id
  name_eq : v.field "name" = .text workflow.name
  description_eq : (v.field "description").textOr ("Workflow: " ++ workflow.name) =
    workflow.description
  expectedOutcome_eq : (v.field "expectedOutcome").textOr defaultOutcome =
    workflow.expectedOutcome
  steps_eq : List.Forall₂ (fun item step ↦ step.ReadFrom item) (v.field "steps").items
    workflow.steps
  written : workflow.discovered = false

/-- A text that is solid is not blank, whatever equation it is known by. -/
theorem Value.IsSolidText.not_blank {v : Value} {s : String} (h : v.IsSolidText)
    (hv : v = .text s) : Text.isBlankText s = false := by
  obtain ⟨t, rfl, ht⟩ := h
  rwa [← Value.text.inj hv]

namespace Condition

/-- Each condition has its own name and is found under no other. -/
theorem ofName?_eq_some_iff {name : String} {condition : Condition} :
    ofName? name = some condition ↔ name = condition.name := by
  constructor
  · intro h
    have hname : (condition.name == name) = true :=
      List.find?_some (p := fun c : Condition ↦ c.name == name) h
    exact (eq_of_beq hname).symm
  · rintro rfl
    cases condition <;> rfl

end Condition

namespace Definition

variable {P : Number → Prop} {v : Value} {fields : Fields}

/-! ### Fields of documents -/

/-- The loader takes the solid texts for names, and nothing else. -/
theorem solidText?_ofValue {s : String} :
    solidText? (.ofValue v) = some s ↔ v = .text s ∧ Text.isBlankText s = false := by
  cases v with
  | text t =>
    have hgate : solidText? (.text t) = some s ↔ Text.isBlankText t = false ∧ t = s := by
      simp [solidText?]
    rw [Datum.ofValue, hgate, Value.text.injEq]
    constructor
    · rintro ⟨ht, rfl⟩
      exact ⟨rfl, ht⟩
    · rintro ⟨rfl, ht⟩
      exact ⟨ht, rfl⟩
  | _ => simp [solidText?, Datum.ofValue]

/-- A description is made up exactly where there is nothing in the field, whatever kind of nothing.
-/
theorem textOr_ofValue (h : v.IsData P) {default s : String} :
    textOr default (.ofValue v) = .valid s ↔ v.IsOptionalText ∧ v.textOr default = s := by
  unfold textOr Value.textOr Value.IsOptionalText
  rw [Datum.isVacant_ofValue h]
  by_cases hvacant : v.isVacant
  · simp [hvacant]
  · cases v with
    | text t => simp [hvacant, Datum.ofValue, checkText, Value.display]
    | _ => simp [hvacant, Datum.ofValue, checkText, Checked.fail]

theorem condition?_ofValue {condition : Condition} :
    condition? (.ofValue v) = some condition ↔ v = .text condition.name := by
  cases v with
  | text name => simpa [condition?, Datum.ofValue] using Condition.ofName?_eq_some_iff
  | _ => simp [condition?, Datum.ofValue]

/-- A message may be any data, which are shown as a text, and null is no message. -/
theorem messageText_ofValue (h : v.IsData P) (hshort : v.isOverlong = false)
    {message : Option String} :
    messageText (.ofValue v) = .ok message ↔ v.messageText? = message := by
  have hdisplay : (Datum.ofValue v).display? = some v.display := by
    simp [Datum.display?, Datum.isOverlong_ofValue h, hshort, Datum.display_ofValue h]
  cases v with
  | null => simp [messageText, Datum.ofValue, Value.messageText?]
  | missing => exact absurd h Value.not_isData_missing
  | entity => exact absurd h Value.not_isData_entity
  | _ =>
    rw [Datum.ofValue] at hdisplay ⊢
    simp [messageText, hdisplay, Value.messageText?]

/-- Objects are the mappings of documents. -/
theorem mapping?_ofValue {entries : Entries} :
    mapping? (.ofValue v) = some entries ↔
      ∃ fields, v = .object fields ∧ Datum.ofFields fields = entries := by
  rw [mapping?, Datum.opened_ofValue]
  cases v <;> simp [Datum.ofValue]

/-- Steps are the items of a list that has some. -/
theorem someItems?_ofValue {items : List Datum} :
    someItems? (.ofValue v) = some items ↔
      ∃ found, v = .list found ∧ found ≠ [] ∧ found.map .ofValue = items := by
  rw [someItems?, Datum.opened_ofValue]
  cases v with
  | list found => cases found <;> simp [Datum.ofValue, Datum.ofValues_eq_map]
  | _ => simp [Datum.ofValue]

/-! ### Arguments, flags and assertions -/

/-- Names that are texts are names. -/
theorem namedEntries_ofFields (field : String) (fields : Fields) :
    namedEntries field (Datum.ofFields fields) =
      .valid (fields.map fun field ↦ (field.1, .ofValue field.2)) := by
  rw [namedEntries, Checked.inside_eq_valid_iff, Checked.all_eq_valid_iff, Datum.ofFields_eq_map,
    List.map_map, List.map_map]
  rfl

/-- Anything vacant stands for no arguments, and other data have to be an object. -/
theorem argEntries_ofValue (h : v.IsData P) {entries : Entries} :
    argEntries (.ofValue v) = .ok entries ↔
      (v.isVacant = true ∨ ∃ fields, v = .object fields) ∧ Datum.ofFields v.fields = entries := by
  have hgate {c : Bool} : (if c = true then .ok [] else .error .argsNotMapping) =
      (Except.ok entries : Except StepProblem Entries) ↔ c = true ∧ [] = entries := by
    cases c <;> simp
  unfold argEntries
  rw [Datum.opened_ofValue]
  cases v with
  | object fields => simp [Datum.ofValue, Value.fields]
  | _ =>
    have hvacant := Datum.isVacant_ofValue h
    rw [Datum.ofValue] at hvacant ⊢
    simp [hvacant, hgate, Value.fields, Datum.ofFields]

/-- **Static arguments are the fields of an object**, in their order and with their values. -/
theorem namedArgs_ofFields (h : (Value.object fields).IsData P) :
    namedArgs (Datum.ofFields fields) = .valid fields := by
  have hfields : (Datum.ofValue (.object fields)).value = .object fields := Datum.value_ofValue h
  rw [Datum.ofValue, Datum.value, Value.object.injEq, Datum.namedValues_eq_map,
    Datum.ofFields_eq_map, List.map_map] at hfields
  rw [namedArgs, namedEntries_ofFields, Checked.map, List.map_map]
  exact congrArg Checked.valid hfields

/-- The loader looks at the start of an expression only. -/
theorem isExpression_ofValue : isExpression (.ofValue v) = true ↔ v.IsExpression := by
  rw [isExpression_iff]
  cases v <;> simp [Datum.ofValue, Value.IsExpression]

theorem mappingValue_eq_iff (hexpressions : ∀ field ∈ fields, field.2.IsExpression)
    {mapping : Option (List (String × String))} :
    .object fields = mappingValue mapping ↔
      some (fields.map fun field ↦ (field.1, field.2.display)) = mapping := by
  have htexts : fields = fields.map fun field ↦ (field.1, .text field.2.display) := by
    refine (List.map_id' fields).symm.trans (List.map_congr_left fun field hfield ↦ ?_)
    obtain ⟨s, hs, -⟩ := hexpressions field hfield
    rw [hs, Value.display, ← hs]
  cases mapping with
  | none => simp [mappingValue]
  | some entries =>
    rw [mappingValue, Value.object.injEq, Option.some.injEq]
    constructor
    · rintro rfl
      simp [Function.comp_def, Value.display]
    · rintro rfl
      rw [List.map_map]
      exact htexts

/-- **Mapped arguments are the fields of an object of expressions**, or none when the field is null.
Whether they are is decided before their names are read. -/
theorem mappingEntries_ofValue (h : v.IsData P) {mapping : Option (List (String × String))} :
    (∃ given, mappingEntries (.ofValue v) = .ok given ∧ namedMapping given = .valid mapping) ↔
      (v = .null ∨ ∃ fields, v = .object fields ∧ ∀ field ∈ fields, field.2.IsExpression) ∧
        v = mappingValue mapping := by
  unfold mappingEntries
  rw [Datum.opened_ofValue]
  cases v with
  | null =>
    cases mapping <;> simp [Datum.ofValue, namedMapping, mappingValue]
  | object fields =>
    have hfind : (Datum.ofFields fields).find? (fun entry ↦ !isExpression entry.2) = none ↔
        ∀ field ∈ fields, field.2.IsExpression := by
      simp [Datum.ofFields_eq_map, ← isExpression_ofValue]
    have hnamed : namedMapping (some (Datum.ofFields fields)) =
        .valid (some (fields.map fun field ↦ (field.1, field.2.display))) := by
      have hargs := namedArgs_ofFields h
      rw [namedArgs, namedEntries_ofFields, Checked.map, Checked.valid.injEq] at hargs
      rw [namedMapping, namedEntries_ofFields, Checked.map]
      simp only [hargs]
    by_cases hexpressions : ∀ field ∈ fields, field.2.IsExpression
    · rw [mappingValue_eq_iff hexpressions]
      simpa [Datum.ofValue, hfind.2 hexpressions, hnamed] using
        fun _ name v hmem ↦ hexpressions (name, v) hmem
    · obtain ⟨entry, hentry⟩ := Option.ne_none_iff_exists'.1 (mt hfind.1 hexpressions)
      simp only [Datum.ofValue, hentry]
      simpa using fun h ↦ absurd (fun field hfield ↦ h field.1 field.2 hfield) hexpressions
  | missing => exact absurd h Value.not_isData_missing
  | entity => exact absurd h Value.not_isData_entity
  | _ => simp [Datum.ofValue]

/-- A step is optional when it is said to be, and only a truth value or null can say so. -/
theorem optionalFlag_ofValue (h : v.IsData P) {b : Bool} :
    optionalFlag (.ofValue v) = .ok b ↔ v = .bool b ∨ v = .null ∧ b = false := by
  cases v with
  | missing => exact absurd h Value.not_isData_missing
  | entity => exact absurd h Value.not_isData_entity
  | null => simp [optionalFlag, Datum.ofValue, eq_comm]
  | _ => simp [optionalFlag, Datum.ofValue]

end Definition

/-! ### What is loaded from data -/

open Definition

namespace Value

/-- The message of an assertion can be written. -/
def HasShortMessage (v : Value) : Prop :=
  (v.field "message").isOverlong = false

/-- The messages of a step can be written. -/
def HasShortMessages (v : Value) : Prop :=
  ∀ item ∈ (v.field "assertions").items, item.HasShortMessage

end Value

variable {P : Number → Prop} {v : Value} {fields : Fields}

/-- An assertion is made of an object exactly when it is read from it. -/
theorem Assertion.madeOf_ofFields_iff (h : (Value.object fields).IsData P)
    (hshort : (Value.object fields).HasShortMessage) {assertion : Assertion} :
    assertion.MadeOf (Datum.ofFields fields) ↔ assertion.ReadFrom (.object fields) := by
  have hvalue := Datum.value_ofValue (Value.isData_field h "value")
  have hmessage := @messageText_ofValue _ _ (Value.isData_field h "message") hshort
  constructor
  · rintro ⟨hpath, hcondition, hvalue', hmessage'⟩
    rw [Datum.get_ofFields] at hpath hcondition hvalue' hmessage'
    obtain ⟨hpath, hsolid⟩ := solidText?_ofValue.1 hpath
    have hcondition := condition?_ofValue.1 hcondition
    exact
      { isObject := ⟨fields, rfl⟩
        path := ⟨_, hpath, hsolid⟩
        condition := ⟨_, hcondition⟩
        path_eq := hpath
        condition_eq := hcondition
        value_eq := hvalue.symm.trans hvalue'
        message_eq := hmessage.1 hmessage' }
  · intro hread
    constructor <;> rw [Datum.get_ofFields]
    · exact solidText?_ofValue.2 ⟨hread.path_eq, hread.path.not_blank hread.path_eq⟩
    · exact condition?_ofValue.2 hread.condition_eq
    · exact hvalue.trans hread.value_eq
    · exact hmessage.2 hread.message_eq

/-- What is known of everything that is related to something is known of the whole list. -/
theorem forall_mem_of_forall₂ {α β : Type} {R : α → β → Prop} {S : α → Prop} {as : List α}
    {bs : List β} (h : List.Forall₂ R as bs) (hS : ∀ a b, R a b → S a) : ∀ a ∈ as, S a :=
  fun a ha ↦ (exists_forall₂_iff.1 ⟨bs, h⟩ a ha).elim (hS a)

/-- An assertion is loaded from data exactly when it has the fields of these. -/
theorem loadAssertion_ofValue_eq_ok_iff (h : v.IsData P) (hshort : v.HasShortMessage)
    {assertion : Assertion} :
    loadAssertion (.ofValue v) = .ok assertion ↔ assertion.ReadFrom v := by
  simp only [loadAssertion_eq_ok_iff, mapping?_ofValue]
  constructor
  · rintro ⟨_, ⟨fields, rfl, rfl⟩, hmade⟩
    exact (Assertion.madeOf_ofFields_iff h hshort).1 hmade
  · intro hread
    obtain ⟨fields, rfl⟩ := hread.isObject
    exact ⟨_, ⟨fields, rfl, rfl⟩, (Assertion.madeOf_ofFields_iff h hshort).2 hread⟩

/-- The assertions of a step are read one by one from a list, and null declares none. -/
theorem assertionList_ofValue_eq_ok_iff (h : v.IsData P)
    (hshort : ∀ item ∈ v.items, item.HasShortMessage) {assertions : Option (List Assertion)} :
    assertionList (.ofValue v) = .ok assertions ↔ v = .null ∧ assertions = none ∨
      ∃ items found, v = .list items ∧ assertions = some found ∧
        List.Forall₂ (fun item assertion ↦ assertion.ReadFrom item) items found := by
  rw [assertionList_eq_ok_iff, Datum.opened_ofValue]
  cases v with
  | list items =>
    have hloads {found : List Assertion} :
        List.Forall₂ (fun d assertion ↦ loadAssertion d = .ok assertion)
            (Datum.ofValues items) found ↔
          List.Forall₂ (fun item assertion ↦ assertion.ReadFrom item) items found := by
      rw [Datum.ofValues_eq_map, List.forall₂_map_left_iff]
      exact forall₂_congr_of_mem fun item hitem _ ↦
        loadAssertion_ofValue_eq_ok_iff (Value.isData_of_mem_items h hitem) (hshort item hitem)
    simp [Datum.ofValue, hloads]
  | missing => exact absurd h Value.not_isData_missing
  | entity => exact absurd h Value.not_isData_entity
  | _ => simp [Datum.ofValue]

/-- A step is made of an object exactly when it is read from it. -/
theorem Step.madeOf_ofFields_iff (h : (Value.object fields).IsData P)
    (hshort : (Value.object fields).HasShortMessages) {step : Step} :
    step.MadeOf (Datum.ofFields fields) ↔ step.ReadFrom (.object fields) := by
  have hdescription := @textOr_ofValue _ _ (Value.isData_field h "description")
  have hargs := @argEntries_ofValue _ _ (Value.isData_field h "args")
  have hmapping := @mappingEntries_ofValue _ _ (Value.isData_field h "argMapping")
  have hoptional := @optionalFlag_ofValue _ _ (Value.isData_field h "optional")
  have hassertions :=
    @assertionList_ofValue_eq_ok_iff _ _ (Value.isData_field h "assertions") hshort
  have hnamed : namedArgs (Datum.ofFields ((Value.object fields).field "args").fields) =
      .valid ((Value.object fields).field "args").fields :=
    namedArgs_ofFields (Value.isData_fields (Value.isData_field h "args"))
  constructor
  · rintro ⟨htool, hdescription', ⟨given, hgiven, hargs'⟩, hmapping', hassertions', hoptional'⟩
    rw [Datum.get_ofFields] at htool hdescription' hgiven hassertions' hoptional'
    simp only [Datum.get_ofFields] at hmapping'
    obtain ⟨htool, hsolid⟩ := solidText?_ofValue.1 htool
    obtain ⟨hform, hdescription'⟩ := hdescription.1 hdescription'
    obtain ⟨hargsForm, rfl⟩ := hargs.1 hgiven
    obtain ⟨hmappingForm, hmapping'⟩ := hmapping.1 hmapping'
    have hassertions' := hassertions.1 hassertions'
    have hoptional' := hoptional.1 hoptional'
    exact
      { isObject := ⟨fields, rfl⟩
        tool := ⟨_, htool, hsolid⟩
        description := hform
        args := hargsForm
        mapping := hmappingForm
        assertions := hassertions'.imp And.left fun ⟨items, found, hitems, _, hfound⟩ ↦
          ⟨items, hitems, forall_mem_of_forall₂ hfound fun _ _ h ↦ h.toIsAssertion⟩
        isOptional := hoptional'.symm.imp And.left fun hb ↦ ⟨_, hb⟩
        tool_eq := htool
        description_eq := hdescription'
        args_eq := Checked.valid.inj (hnamed.symm.trans hargs')
        mapping_eq := hmapping'
        assertions_eq := hassertions'
        isOptional_eq := hoptional' }
  · intro hread
    constructor <;> simp only [Datum.get_ofFields]
    · exact solidText?_ofValue.2 ⟨hread.tool_eq, hread.tool.not_blank hread.tool_eq⟩
    · exact hdescription.2 ⟨hread.description, hread.description_eq⟩
    · exact ⟨_, hargs.2 ⟨hread.args, rfl⟩, hread.args_eq ▸ hnamed⟩
    · exact hmapping.2 ⟨hread.mapping, hread.mapping_eq⟩
    · exact hassertions.2 hread.assertions_eq
    · exact hoptional.2 hread.isOptional_eq

/-- A step is loaded from data exactly when it has the fields of these. -/
theorem loadStep_ofValue_eq_ok_iff (h : v.IsData P) (hshort : v.HasShortMessages) {step : Step} :
    loadStep (.ofValue v) = .ok step ↔ step.ReadFrom v := by
  simp only [loadStep_eq_ok_iff, mapping?_ofValue]
  constructor
  · rintro ⟨_, ⟨fields, rfl, rfl⟩, hmade⟩
    exact (Step.madeOf_ofFields_iff h hshort).1 hmade
  · intro hread
    obtain ⟨fields, rfl⟩ := hread.isObject
    exact ⟨_, ⟨fields, rfl, rfl⟩, (Step.madeOf_ofFields_iff h hshort).2 hread⟩

/-- A workflow is made of an object exactly when it is read from it. -/
theorem Workflow.madeOf_ofFields_iff (h : (Value.object fields).IsData P)
    (hshort : ∀ item ∈ ((Value.object fields).field "steps").items, item.HasShortMessages)
    {workflow : Workflow} :
    workflow.MadeOf (Datum.ofFields fields) ↔ workflow.ReadFrom (.object fields) := by
  have hdescription := @textOr_ofValue _ _ (Value.isData_field h "description")
  have houtcome := @textOr_ofValue _ _ (Value.isData_field h "expectedOutcome")
  have hsteps {items : List Value} {steps : List Step}
      (hitems : (Value.object fields).field "steps" = .list items) :
      List.Forall₂ (fun d step ↦ loadStep d = .ok step) (items.map .ofValue) steps ↔
        List.Forall₂ (fun item step ↦ step.ReadFrom item) items steps := by
    have hdata : (Value.list items).IsData P := hitems ▸ Value.isData_field h "steps"
    rw [List.forall₂_map_left_iff]
    refine forall₂_congr_of_mem fun item hitem _ ↦ loadStep_ofValue_eq_ok_iff
      (Value.isData_of_mem_items hdata hitem) (hshort item ?_)
    rwa [hitems]
  constructor
  · rintro ⟨hid, hname, hdescription', houtcome', ⟨_, hfound, hsteps'⟩, hwritten⟩
    rw [Datum.get_ofFields] at hid hname hdescription' houtcome' hfound
    obtain ⟨hid, hidSolid⟩ := solidText?_ofValue.1 hid
    obtain ⟨hname, hnameSolid⟩ := solidText?_ofValue.1 hname
    obtain ⟨hform, hdescription'⟩ := hdescription.1 hdescription'
    obtain ⟨houtcomeForm, houtcome'⟩ := houtcome.1 houtcome'
    obtain ⟨items, hitems, hne, rfl⟩ := someItems?_ofValue.1 hfound
    have hsteps' := (hsteps hitems).1 hsteps'
    exact
      { isObject := ⟨fields, rfl⟩
        id := ⟨_, hid, hidSolid⟩
        name := ⟨_, hname, hnameSolid⟩
        description := hform
        expectedOutcome := houtcomeForm
        steps := ⟨items, hitems, hne, forall_mem_of_forall₂ hsteps' fun _ _ h ↦ h.toIsStep⟩
        id_eq := hid
        name_eq := hname
        description_eq := hdescription'
        expectedOutcome_eq := houtcome'
        steps_eq := by rwa [hitems]
        written := hwritten }
  · intro hread
    obtain ⟨items, hitems, hne, -⟩ := hread.steps
    have hsteps' := hread.steps_eq
    rw [hitems] at hsteps'
    refine ⟨?_, ?_, ?_, ?_, ?_, hread.written⟩ <;> simp only [Datum.get_ofFields]
    · exact solidText?_ofValue.2 ⟨hread.id_eq, hread.id.not_blank hread.id_eq⟩
    · exact solidText?_ofValue.2 ⟨hread.name_eq, hread.name.not_blank hread.name_eq⟩
    · exact hdescription.2 ⟨hread.description, hread.description_eq⟩
    · exact houtcome.2 ⟨hread.expectedOutcome, hread.expectedOutcome_eq⟩
    · exact ⟨_, someItems?_ofValue.2 ⟨items, hitems, hne, rfl⟩, (hsteps hitems).2 hsteps'⟩

/-- A workflow is loaded from data exactly when it has the fields of these. -/
theorem loadWorkflow_ofValue_eq_ok_iff (h : v.IsData P)
    (hshort : ∀ item ∈ (v.field "steps").items, item.HasShortMessages) {place : WorkflowPlace}
    {workflow : Workflow} :
    loadWorkflow place (.ofValue v) = .ok workflow ↔ workflow.ReadFrom v := by
  simp only [loadWorkflow_eq_ok_iff, Workflow.DefinedBy, mapping?_ofValue]
  constructor
  · rintro ⟨_, ⟨fields, rfl, rfl⟩, hmade⟩
    exact (Workflow.madeOf_ofFields_iff h hshort).1 hmade
  · intro hread
    obtain ⟨fields, rfl⟩ := hread.isObject
    exact ⟨_, ⟨fields, rfl, rfl⟩, (Workflow.madeOf_ofFields_iff h hshort).2 hread⟩

/-! ### Data of the form are read -/

/-- Data of the form of an assertion have all that an assertion needs. -/
theorem Value.IsAssertion.exists_readFrom (h : v.IsAssertion) :
    ∃ assertion : Assertion, assertion.ReadFrom v := by
  obtain ⟨path, hpath, -⟩ := h.path
  obtain ⟨condition, hcondition⟩ := h.condition
  exact ⟨{ path, condition, value := v.field "value", message := (v.field "message").messageText? },
    { toIsAssertion := h, path_eq := hpath, condition_eq := hcondition, value_eq := rfl
      message_eq := rfl }⟩

/-- Data of the form of a step have all that a step needs; what they leave out is made up. -/
theorem Value.IsStep.exists_readFrom (h : v.IsStep) : ∃ step : Step, step.ReadFrom v := by
  obtain ⟨tool, htool, -⟩ := h.tool
  obtain ⟨mapping, hmapping⟩ : ∃ mapping, v.field "argMapping" = mappingValue mapping := by
    rcases h.mapping with hnull | ⟨fields, hfields, hexpressions⟩
    · exact ⟨none, hnull⟩
    · exact ⟨_, hfields.trans ((mappingValue_eq_iff hexpressions).2 rfl)⟩
  obtain ⟨assertions, hassertions⟩ : ∃ found : Option (List Assertion),
      v.field "assertions" = .null ∧ found = none ∨
        ∃ items assertions, v.field "assertions" = .list items ∧ found = some assertions ∧
          List.Forall₂ (fun item assertion ↦ assertion.ReadFrom item) items assertions := by
    rcases h.assertions with hnull | ⟨items, hitems, hforms⟩
    · exact ⟨none, .inl ⟨hnull, rfl⟩⟩
    · obtain ⟨assertions, hread⟩ := exists_forall₂_iff.2 fun item hitem ↦
        (hforms item hitem).exists_readFrom
      exact ⟨some assertions, .inr ⟨items, assertions, hitems, rfl, hread⟩⟩
  obtain ⟨isOptional, hoptional⟩ : ∃ isOptional : Bool,
      v.field "optional" = .bool isOptional ∨ v.field "optional" = .null ∧ isOptional = false := by
    rcases h.isOptional with hnull | ⟨b, hb⟩
    · exact ⟨false, .inr ⟨hnull, rfl⟩⟩
    · exact ⟨b, .inl hb⟩
  exact ⟨{ tool, description := (v.field "description").textOr ("Call " ++ tool)
           args := (v.field "args").fields, mapping, assertions, isOptional },
    { toIsStep := h, tool_eq := htool, description_eq := rfl, args_eq := rfl, mapping_eq := hmapping
      assertions_eq := hassertions, isOptional_eq := hoptional }⟩

/-- **Data of the form of a workflow have all that a workflow needs.** -/
theorem Value.IsWorkflow.exists_readFrom (h : v.IsWorkflow) :
    ∃ workflow : Workflow, workflow.ReadFrom v := by
  obtain ⟨id, hid, -⟩ := h.id
  obtain ⟨name, hname, -⟩ := h.name
  obtain ⟨items, hitems, -, hforms⟩ := h.steps
  obtain ⟨steps, hsteps⟩ :=
    exists_forall₂_iff.2 fun item hitem ↦ (hforms item hitem).exists_readFrom
  exact ⟨{ id, name, description := (v.field "description").textOr ("Workflow: " ++ name)
           expectedOutcome := (v.field "expectedOutcome").textOr defaultOutcome, steps },
    { toIsWorkflow := h, id_eq := hid, name_eq := hname, description_eq := rfl
      expectedOutcome_eq := rfl, steps_eq := by rwa [hitems], written := rfl }⟩

/-! ### Documents -/

/-- The data that documents define workflows by. -/
def definitions (documents : List Value) : List Value :=
  documents.flatMap Value.spliced

/-- What a document contributes is the same whether it is asked as a datum or as a value. -/
theorem candidates_ofValue (h : v.IsData P) :
    candidates (.ofValue v) = v.spliced.map .ofValue := by
  unfold candidates
  rw [Datum.opened_ofValue]
  cases v with
  | missing => exact absurd h Value.not_isData_missing
  | entity => exact absurd h Value.not_isData_entity
  | list items => simp [Datum.ofValue, Value.spliced, Datum.ofValues_eq_map]
  | _ => simp [Datum.ofValue, Value.spliced]

/-- What documents contribute is data, as they are. -/
theorem isData_of_mem_definitions {documents : List Value} (h : ∀ v ∈ documents, v.IsData P) :
    ∀ v ∈ definitions documents, v.IsData P := by
  intro v hv
  obtain ⟨document, hdocument, hmem⟩ := List.mem_flatMap.1 hv
  have hdata := h document hdocument
  cases document with
  | null => simp [Value.spliced] at hmem
  | list items => exact Value.isData_list_iff.1 hdata v hmem
  | _ =>
    rw [List.mem_singleton.1 hmem]
    exact hdata

/-- Without a number that is too long, all messages can be written. -/
theorem hasShortMessages_of_isData (h : v.IsData fun n ↦ n.isOverlong = false) :
    ∀ item ∈ (v.field "steps").items, item.HasShortMessages := by
  intro step hstep assertion hassertion
  have hstep := Value.isData_of_mem_items (Value.isData_field h "steps") hstep
  have hassertion := Value.isData_of_mem_items (Value.isData_field hstep "assertions") hassertion
  exact (Value.isData_field hassertion "message").isOverlong_eq_false fun _ ↦ id

/-- Workflows are loaded from data exactly when there are some, and when each has the fields of one
definition. -/
theorem loadDocuments_ofValue_eq_ok_iff {documents : List Value}
    (h : ∀ v ∈ documents, v.IsData P) (hshort : ∀ v ∈ definitions documents,
      ∀ item ∈ (v.field "steps").items, item.HasShortMessages)
    {source : String} {workflows : List Workflow} :
    loadDocuments source (documents.map .ofValue) = .ok workflows ↔ definitions documents ≠ [] ∧
      List.Forall₂ (fun v workflow ↦ workflow.ReadFrom v) (definitions documents) workflows := by
  have hcandidates : (documents.map Datum.ofValue).flatMap candidates =
      (definitions documents).map .ofValue := by
    rw [List.flatMap_map, definitions, List.map_flatMap]
    exact List.flatMap_congr fun v hv ↦ candidates_ofValue (h v hv)
  rw [loadDocuments_eq_ok_iff, hcandidates]
  refine and_congr (not_congr List.map_eq_nil_iff) ?_
  rw [List.forall₂_map_left_iff]
  refine forall₂_congr_of_mem fun v hv _ ↦ ?_
  rw [← @loadWorkflow_eq_ok_iff _ { source, number := 1 }]
  exact loadWorkflow_ofValue_eq_ok_iff (isData_of_mem_definitions h v hv) (hshort v hv)

namespace Definition

/-- **Documents are accepted exactly when all that they define has the form of a workflow**, and
then there is one workflow for each definition, with its fields. -/
theorem loadsExactly {documents : List Value}
    (h : ∀ v ∈ documents, v.IsData fun n ↦ n.isOverlong = false) (source : String) :
    ((∃ workflows, loadDecoded source (.ok (documents.map .ofValue)) = .ok workflows) ↔
      definitions documents ≠ [] ∧ ∀ v ∈ definitions documents, v.IsWorkflow) ∧
    ∀ workflows, loadDecoded source (.ok (documents.map .ofValue)) = .ok workflows →
      List.Forall₂ (fun v workflow ↦ workflow.ReadFrom v) (definitions documents) workflows := by
  have hload {workflows : List Workflow} :
      loadDecoded source (.ok (documents.map .ofValue)) = .ok workflows ↔
        definitions documents ≠ [] ∧ List.Forall₂ (fun v workflow ↦ workflow.ReadFrom v)
          (definitions documents) workflows := by
    rw [loadDecoded, Except.mapError_eq_ok_iff]
    exact loadDocuments_ofValue_eq_ok_iff h fun v hv ↦
      hasShortMessages_of_isData (isData_of_mem_definitions h v hv)
  refine ⟨?_, fun workflows hworkflows ↦ (hload.1 hworkflows).2⟩
  simp only [hload, exists_and_left, exists_forall₂_iff]
  refine and_congr_right fun _ ↦ forall₂_congr fun v _ ↦ ⟨?_, Value.IsWorkflow.exists_readFrom⟩
  rintro ⟨workflow, hread⟩
  exact hread.toIsWorkflow

/-- A null document, and a list of one definition. -/
def sampleDocuments : List Value :=
  [.null, .list [.object [("id", .text "orders"), ("name", .text "Orders"), ("steps", .list [
    .object [("tool", .text "find"), ("args", .object [("since", .null)]),
      ("assertions", .list [.object [("path", .text "ok"), ("condition", .text "exists"),
        ("message", .bool true)]])],
    .object [("tool", .text "pay"), ("args", .text ""),
      ("argMapping", .object [("order", .text "$steps[0].id")])]])]]]

/-- The sample has no number at all, and so none that is too long. -/
theorem isData_sampleDocuments : ∀ v ∈ sampleDocuments, v.IsData fun n ↦ n.isOverlong = false := by
  simp [sampleDocuments, Value.isData_list_iff, Value.isData_object_iff,
    Value.isData_null, Value.isData_text, Value.isData_bool]

/-- The null document is passed over. The empty text stands for no arguments, and the truth value of
the message is shown as a text. -/
theorem loadsExactly_sampleDocuments :
    (∀ v ∈ sampleDocuments, v.IsData fun n ↦ n.isOverlong = false) ∧
      ∃ workflow, loadDecoded "<string>" (.ok (sampleDocuments.map .ofValue)) = .ok [workflow] ∧
        List.Forall₂ (fun v workflow ↦ workflow.ReadFrom v) (definitions sampleDocuments)
          [workflow] :=
  ⟨isData_sampleDocuments, _, rfl, (loadsExactly isData_sampleDocuments "<string>").2 _ rfl⟩

end Definition

end ToolFlow
