import ToolFlow.Text.Blank
import ToolFlow.Value.Literal
import ToolFlow.Workflow.Basic
import ToolFlow.Workflow.Issue

/-!
# Validation of definitions

Assertions, steps and workflows from data. Names that a definition does not know are refused, a
description that is left out or empty is made from the tool or the name, and every issue of the data
is reported.

## What this rests on

`Assertion.ofValue`, `Step.ofValue` and `Workflow.ofValue` are the lax validation of data against
the declared fields, of which the following is taken to be so:

* a text is asked for and nothing else is taken for one; the like holds of lists and objects;
* null is accepted only where a field may be null, and a default is not checked;
* a truth value may also be given as a word, in upper or lower case, or as a number that is zero or
  one (`Value.checkBoolean`);
* a field with two names has the value under the first of them that is given, and the other one is
  then a name that is not known;
* descriptions are made up before the fields are checked;
* the issues are reported field by field in the order of declaration, inside lists and objects in
  the order of the data, and those of unknown names last.

How deep data are nested makes no difference here: the limit of a machine to nesting is left out.

Each field is one line: the check of a field that has to be there (`Fields.required`) or may be left
out (`Fields.defaulted`), put together with those before it by `Checked.also`.
-/

namespace ToolFlow

/-! ### Parts -/

namespace Value

/-- A text. -/
def checkText : Value → Checked String
  | text s => .valid s
  | _ => .fail .notText

/-- A value or null. -/
def checkNullable {α : Type} (check : Value → Checked α) : Value → Checked (Option α)
  | null => .valid none
  | v => (check v).map some

/-- An object. -/
def checkObject : Value → Checked Fields
  | object fields => .valid fields
  | _ => .fail .notObject

/-- A list whose items pass a check. -/
def checkList {α : Type} (check : Value → Checked α) : Value → Checked (List α)
  | list items => Checked.all (items.mapIdx fun i item => (check item).inside (.index i))
  | _ => .fail .notList

/-- An object whose values are texts. -/
def checkTexts : Value → Checked (List (String × String))
  | object fields =>
    Checked.all (fields.map fun field =>
      ((checkText field.2).inside (.name field.1)).map fun s => (field.1, s))
  | _ => .fail .notObject

/-- The words for true and false, in lower case. -/
def booleanWords : List (String × Bool) :=
  [("1", true), ("on", true), ("t", true), ("true", true), ("y", true), ("yes", true),
    ("0", false), ("off", false), ("f", false), ("false", false), ("n", false), ("no", false)]

/-- The truth value of an integer, which is zero or one. -/
def booleanOfInt (n : Int) : Checked Bool :=
  if n = 0 then .valid false else if n = 1 then .valid true else .fail .unclearBoolean

/-- A truth value, or a word or number that stands for one. -/
def checkBoolean : Value → Checked Bool
  | bool b => .valid b
  | text s =>
    match booleanWords.lookup s.toLower with
    | some b => .valid b
    | none => .fail .unclearBoolean
  | number (.int n) =>
    if -(2 ^ 63) ≤ n ∧ n < 2 ^ 63 then booleanOfInt n else .fail .notBoolean
  | number (.float x) =>
    match x.toInt? with
    | some n => if n.natAbs < 2 ^ 63 then booleanOfInt n else .fail .notBoolean
    | none => .fail .notBoolean
  | _ => .fail .notBoolean

end Value

/-! ### Definitions -/

/-- The fields with a description made up when there is none but there is something to name. -/
def withDescription (subject lead : String) (fields : Fields) : Fields :=
  let subjectValue := (Fields.get? subject fields).getD .null
  if ((Fields.get? "description" fields).getD .null).isVacant && !subjectValue.isVacant then
    Fields.put "description" (.text (lead ++ subjectValue.display)) fields
  else fields

/-- The condition of a name. -/
def Condition.check : Value → Checked Condition
  | .text s =>
    match Condition.ofName? s with
    | some condition => .valid condition
    | none => .fail .notCondition
  | _ => .fail .notCondition

namespace Assertion

/-- The names of the fields of an assertion. -/
def fieldNames : List (List String) := [["path"], ["condition"], ["value"], ["message"]]

/-- The fields of an assertion, in the order in which their issues are reported. -/
def ofFields (fields : Fields) : Checked Assertion :=
  let made := (Fields.required fields ["path"] Value.checkText).map Assertion.mk
  let made := made.also (Fields.required fields ["condition"] Condition.check)
  let made := made.also (Fields.defaulted fields ["value"] .null .valid)
  let made := made.also (Fields.defaulted fields ["message"] none
    (Value.checkNullable Value.checkText))
  made.withIssues (Fields.unknownIssues fields fieldNames)

/-- An assertion from data. -/
def ofValue : Value → Checked Assertion
  | .object fields => ofFields fields
  | _ => .fail (.notDefinition "Assertion")

end Assertion

namespace Step

/-- The names of the fields of a step. -/
def fieldNames : List (List String) :=
  [["tool"], ["description"], ["args"], ["argMapping", "arg_mapping"], ["assertions"],
    ["optional"]]

/-- The name of a tool, which may not be blank. -/
def checkTool (v : Value) : Checked String :=
  match v.checkText with
  | .valid s => if Text.isBlankText s then .fail .blankTool else .valid s
  | .invalid issues => .invalid issues

/-- The fields of a step, in the order in which their issues are reported. -/
def ofFields (given : Fields) : Checked Step :=
  let fields := withDescription "tool" "Call " given
  let made := (Fields.required fields ["tool"] checkTool).map Step.mk
  let made := made.also (Fields.defaulted fields ["description"] "" Value.checkText)
  let made := made.also (Fields.defaulted fields ["args"] [] Value.checkObject)
  let made := made.also (Fields.defaulted fields ["argMapping", "arg_mapping"] none
    (Value.checkNullable Value.checkTexts))
  let made := made.also (Fields.defaulted fields ["assertions"] none
    (Value.checkNullable (Value.checkList Assertion.ofValue)))
  let made := made.also (Fields.defaulted fields ["optional"] false Value.checkBoolean)
  made.withIssues (Fields.unknownIssues fields fieldNames)

/-- A step from data. -/
def ofValue : Value → Checked Step
  | .object fields => ofFields fields
  | _ => .fail (.notDefinition "WorkflowStep")

end Step

namespace Workflow

/-- The names of the fields of a workflow. -/
def fieldNames : List (List String) :=
  [["id"], ["name"], ["description"], ["expectedOutcome", "expected_outcome"], ["steps"],
    ["discovered"]]

/-- The steps of a workflow, of which there is at least one. -/
def checkSteps (v : Value) : Checked (List Step) :=
  match v.checkList Step.ofValue with
  | .valid [] => .fail .noSteps
  | outcome => outcome

/-- The fields of a workflow, in the order in which their issues are reported. -/
def ofFields (given : Fields) : Checked Workflow :=
  let fields := withDescription "name" "Workflow: " given
  let made := (Fields.required fields ["id"] Value.checkText).map Workflow.mk
  let made := made.also (Fields.required fields ["name"] Value.checkText)
  let made := made.also (Fields.defaulted fields ["description"] "" Value.checkText)
  let made := made.also (Fields.defaulted fields ["expectedOutcome", "expected_outcome"]
    defaultOutcome Value.checkText)
  let made := made.also (Fields.required fields ["steps"] checkSteps)
  let made := made.also (Fields.defaulted fields ["discovered"] false Value.checkBoolean)
  made.withIssues (Fields.unknownIssues fields fieldNames)

/-- A workflow from data. -/
def ofValue : Value → Checked Workflow
  | .object fields => ofFields fields
  | _ => .fail (.notDefinition "Workflow")

end Workflow

end ToolFlow
