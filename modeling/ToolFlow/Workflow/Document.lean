import ToolFlow.Breakdown
import ToolFlow.Value.Literal
import ToolFlow.Workflow.Basic

/-!
# Documents of definitions

Definitions as data under the field names of documents. Fields that are null can be left out; nulls
inside arguments and expected values always stay.

## What this rests on

`Assertion.document`, `Step.document` and `Workflow.document` write a definition as its fields are
declared, which is taken to mean the following:

* the fields come in the order of their declaration and under the names that documents use, those
  with two words in camel case;
* a field that is null is left out when it is asked for, of a definition and of those inside it, and
  nothing is left out of the data that a definition holds;
* a condition is written by its name;
* what is not a finite number becomes null (`Value.plain`), and an absent value or an entity cannot
  be written, which is a breakdown.

A value that holds nothing of the last kind is its own document. How deep values are nested makes no
difference here: the limit of a machine to nesting is left out.

Nulls are left out by `nullableField`, one definition for all fields that may be null. The expected
value of an assertion has a branch of its own in `Assertion.document`, since it is left out when the
value is null, and not when it becomes null.
-/

namespace ToolFlow

namespace Value

mutual

/-- A value as a document holds it: what is not a finite number becomes null, and a value that is
not data cannot be held. -/
def plain : Value → Except Breakdown Value
  | missing => .error (.unserializable missing.typeName)
  | entity id attributes => .error (.unserializable (entity id attributes).typeName)
  | number (.float x) => .ok (if x.isFinite then .number (.float x) else .null)
  | list items => (plainItems items).map list
  | object fields => (plainFields fields).map object
  | v => .ok v

/-- Items as a document holds them. -/
def plainItems : List Value → Except Breakdown (List Value)
  | [] => .ok []
  | v :: rest => do
    let v ← plain v
    let rest ← plainItems rest
    return v :: rest

/-- Fields as a document holds them. -/
def plainFields : List (String × Value) → Except Breakdown (List (String × Value))
  | [] => .ok []
  | (name, v) :: rest => do
    let v ← plain v
    let rest ← plainFields rest
    return (name, v) :: rest

end

end Value

/-- A field that may be left out when it is null. -/
def nullableField (keepsNull : Bool) (name : String) (v : Value) : Fields :=
  if v.isNull && !keepsNull then [] else [(name, v)]

/-- The document of an assertion. -/
def Assertion.document (keepsNull : Bool) (assertion : Assertion) : Except Breakdown Value := do
  let value ← assertion.value.plain
  let valueField :=
    if assertion.value.isNull && !keepsNull then [] else [("value", value)]
  return .object ([("path", .text assertion.path),
    ("condition", .text assertion.condition.name)] ++ valueField ++
    nullableField keepsNull "message" (.ofText? assertion.message))

/-- The mapped arguments as an object. -/
def mappingValue : Option (List (String × String)) → Value
  | none => .null
  | some entries => .object (entries.map fun entry => (entry.1, .text entry.2))

/-- The documents of the assertions of a step, null when it declares no list of them. -/
def assertionsDocument (keepsNull : Bool) : Option (List Assertion) → Except Breakdown Value
  | none => .ok .null
  | some assertions => (assertions.mapM (Assertion.document keepsNull)).map .list

/-- The document of a step. -/
def Step.document (keepsNull : Bool) (step : Step) : Except Breakdown Value := do
  let args ← Value.plainFields step.args
  let assertions ← assertionsDocument keepsNull step.assertions
  return .object ([("tool", .text step.tool), ("description", .text step.description),
    ("args", .object args)] ++ nullableField keepsNull "argMapping" (mappingValue step.mapping) ++
    nullableField keepsNull "assertions" assertions ++ [("optional", .bool step.isOptional)])

/-- The document of a workflow. -/
def Workflow.document (keepsNull : Bool) (workflow : Workflow) : Except Breakdown Value := do
  let steps ← workflow.steps.mapM (Step.document keepsNull)
  return .object [("id", .text workflow.id), ("name", .text workflow.name),
    ("description", .text workflow.description),
    ("expectedOutcome", .text workflow.expectedOutcome), ("steps", .list steps),
    ("discovered", .bool workflow.discovered)]

end ToolFlow
