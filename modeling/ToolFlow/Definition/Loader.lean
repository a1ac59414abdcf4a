import ToolFlow.Definition.Problem
import ToolFlow.Workflow.Basic

/-!
# Loading workflows

Workflows from the documents of a YAML text. A document is a workflow or a list of workflows, and
documents that are null are passed over. The first problem ends the loading: in a workflow first its
id, its name and its steps, then what is wrong with its other fields.

A document is checked in two ways. What the loader asks for itself is looked at field by field in a
fixed order, and the first problem is reported with the place at which it stands. What is left to
the definitions is checked at the end, all issues together. So a text field that holds something
else is an issue of the definition, while arguments that are no mapping are a problem of the loader.

Fields with nothing in them often count as left out: a vacant description is made up, and vacant
arguments are none. Fields that the loader does not know are passed over.

## Main definitions

* `loadAssertion`, `loadStep`, `loadWorkflow`: one definition each, from the data of its document.
* `numbered`: definitions in order, numbered for messages, up to the first that fails.
* `loadDecoded`: the workflows of what a text holds, as far as it could be read.
* `parse`: the workflows of a text.
* `load`: the same for those who write the workflows out again, where data without a written form
  are refused.
-/

namespace ToolFlow.Definition

open Yaml (Datum Scalar)

/-- Entries of a mapping of a document. -/
abbrev Entries := List (Scalar × Datum)

/-- What there is, unless there is nothing, which is a problem. -/
def orFail {ε α : Type} (problem : ε) : Option α → Except ε α
  | some a => .ok a
  | none => .error problem

/-- The entries of data that is a mapping. -/
def mapping? (d : Datum) : Option Entries :=
  match d.opened with
  | .mapping entries => some entries
  | _ => none

/-- The text of data that is a text and not blank. -/
def solidText? : Datum → Option String
  | .text s => if Text.isBlankText s then none else some s
  | _ => none

/-- A text, or bytes that are the text. -/
def checkText : Scalar → Checked String
  | .text s => .valid s
  | .bytes data =>
    match String.fromUTF8? ⟨data.toArray⟩ with
    | some s => .valid s
    | none => .fail .undecodableText
  | _ => .fail .notText

/-- The text of a field, or another one when there is nothing in it. -/
def textOr (default : String) (d : Datum) : Checked String :=
  if d.isVacant then .valid default
  else
    match d with
    | .scalar s => checkText s
    | _ => .fail .notText

/-- A key as part of a place: a number where it is one of machine size, else its literal, unless
that is too long. -/
def keyPlace : Scalar → Place
  | .text s => .name s
  | .bool b => .index (if b then 1 else 0)
  | .number (.int n) =>
    if -(2 ^ 63) ≤ n ∧ n < 2 ^ 63 then .index n
    else if (Number.int n).isOverlong then .name "<unprintable int object>"
    else .name (toString n)
  | s => .name s.literal

/-- The entries of a mapping under names. -/
def namedEntries (field : String) (entries : Entries) : Checked (List (String × Datum)) :=
  Checked.all (entries.map fun entry =>
    (((checkText entry.1).inside (.name "[key]")).inside (keyPlace entry.1)).map
      fun name => (name, entry.2)) |>.inside (.name field)

/-- What data become, one after the other and numbered from the given number on, unless one of them
fails. -/
def numbered {ε α : Type} (load : Nat → Datum → Except ε α) :
    Nat → List Datum → Except ε (List α)
  | _, [] => .ok []
  | number, d :: rest => do
    let a ← load number d
    let as ← numbered load (number + 1) rest
    return a :: as

/-! ### Assertions -/

/-- The condition that data name. -/
def condition? : Datum → Option Condition
  | .text name => Condition.ofName? name
  | _ => none

/-- The text of a message, none when there is no message. -/
def messageText (d : Datum) : Except AssertionProblem (Option String) :=
  match d with
  | .null => .ok none
  | d =>
    match d.display? with
    | some text => .ok (some text)
    | none => .error .overlongMessage

/-- An assertion of a document. -/
def loadAssertion (d : Datum) : Except AssertionProblem Assertion := do
  let entries ← orFail .notMapping (mapping? d)
  let path ← orFail .lacksPath (solidText? (Datum.get "path" entries))
  let condition ← orFail .unknownCondition (condition? (Datum.get "condition" entries))
  let message ← messageText (Datum.get "message" entries)
  return { path, condition, value := (Datum.get "value" entries).value, message }

/-- Assertions of a document. -/
def loadAssertions : List Datum → Except StepProblem (List Assertion) :=
  numbered (fun number d => (loadAssertion d).mapError (StepProblem.assertion number)) 1

/-! ### Steps -/

/-- The entries of the arguments, none when there is nothing in the field. -/
def argEntries (d : Datum) : Except StepProblem Entries :=
  match d.opened with
  | .mapping entries => .ok entries
  | d => if d.isVacant then .ok [] else .error .argsNotMapping

/-- Whether data is an expression that starts like a reference to a step. -/
def isExpression : Datum → Bool
  | .text s => (Path.stepsKeyword ++ "[").toList.isPrefixOf s.toList
  | _ => false

/-- The entries of the mapped arguments. -/
def mappingEntries (d : Datum) : Except StepProblem (Option Entries) :=
  match d.opened with
  | .null => .ok none
  | .mapping entries =>
    match entries.find? fun entry => !isExpression entry.2 with
    | some (parameter, _) => .error (.badExpression parameter)
    | none => .ok (some entries)
  | _ => .error .mappingNotMapping

/-- Whether a step is optional. -/
def optionalFlag : Datum → Except StepProblem Bool
  | .null => .ok false
  | .bool b => .ok b
  | _ => .error .optionalNotBoolean

/-- The assertions of a step. -/
def assertionList (d : Datum) : Except StepProblem (Option (List Assertion)) :=
  match d.opened with
  | .null => .ok none
  | .list items => (loadAssertions items).map some
  | _ => .error .assertionsNotList

/-- Arguments under names. -/
def namedArgs (entries : Entries) : Checked Fields :=
  (namedEntries "args" entries).map fun named =>
    Fields.ofPairs (named.map fun entry => (entry.1, entry.2.value))

/-- Mapped arguments under names. -/
def namedMapping : Option Entries → Checked (Option (List (String × String)))
  | none => .valid none
  | some entries => (namedEntries "arg_mapping" entries).map fun named =>
    let fields := Fields.ofPairs (named.map fun entry => (entry.1, entry.2.value))
    some (fields.map fun field => (field.1, field.2.display))

/-- A step of a document. -/
def loadStep (d : Datum) : Except StepProblem Step := do
  let entries ← orFail .notMapping (mapping? d)
  let tool ← orFail .lacksTool (solidText? (Datum.get "tool" entries))
  let args ← argEntries (Datum.get "args" entries)
  let mapping ← mappingEntries (Datum.get "argMapping" entries)
  let isOptional ← optionalFlag (Datum.get "optional" entries)
  let assertions ← assertionList (Datum.get "assertions" entries)
  let description := (textOr ("Call " ++ tool) (Datum.get "description" entries)).inside
    (.name "description")
  let made := description.map fun description args mapping =>
    { tool, description, args, mapping, assertions, isOptional : Step }
  let made := (made.also (namedArgs args)).also (namedMapping mapping)
  (made.titled "WorkflowStep").mapError StepProblem.invalid

/-- Steps of a document. -/
def loadSteps (workflow : String) : List Datum → Except Problem (List Step) :=
  numbered (fun number d => (loadStep d).mapError (Problem.step { workflow, number })) 1

/-! ### Workflows -/

/-- The items of data that is a list with items. -/
def someItems? (d : Datum) : Option (List Datum) :=
  match d.opened with
  | .list [] => none
  | .list items => some items
  | _ => none

/-- A workflow of a document. -/
def loadWorkflow (place : WorkflowPlace) (d : Datum) : Except Problem Workflow := do
  let entries ← orFail (.notMapping place) (mapping? d)
  let id ← orFail (.lacksId place) (solidText? (Datum.get "id" entries))
  let name ← orFail (.lacksName place id) (solidText? (Datum.get "name" entries))
  let items ← orFail (.lacksSteps place id) (someItems? (Datum.get "steps" entries))
  let steps ← loadSteps id items
  let description := (textOr ("Workflow: " ++ name) (Datum.get "description" entries)).inside
    (.name "description")
  let outcome := (textOr defaultOutcome (Datum.get "expectedOutcome" entries)).inside
    (.name "expected_outcome")
  let made := description.map fun description expectedOutcome =>
    { id, name, description, expectedOutcome, steps : Workflow }
  ((made.also outcome).titled "Workflow").mapError (Problem.invalid id place.source)

/-- The workflows that a document holds: the items of a list, or the document itself. -/
def candidates (d : Datum) : List Datum :=
  match d.opened with
  | .null => []
  | .list items => items
  | _ => [d]

/-- The workflows of documents from a source. -/
def loadDocuments (source : String) (documents : List Datum) : Except Problem (List Workflow) :=
  match documents.flatMap candidates with
  | [] => .error (.empty source)
  | found => numbered (fun number => loadWorkflow { source, number }) 1 found

/-- The source of a text that comes from no file. -/
def textSource : String := "<string>"

/-! ### Texts -/

/-- The workflows of what the text of a source holds, as far as it could be read. -/
def loadDecoded (source : String) :
    Except Yaml.Obstacle (List Datum) → Except Failure (List Workflow)
  | .error obstacle => .error (.ofObstacle source obstacle)
  | .ok documents => (loadDocuments source documents).mapError .ofProblem

/-- The workflows of a YAML text from a source. -/
def parse (source text : String) : Except Failure (List Workflow) :=
  loadDecoded source (Yaml.documents text)

/-- The data that a step holds as they are: its arguments and the expected values of its
assertions. -/
def heldData (d : Datum) : List Datum :=
  match mapping? d with
  | some entries =>
    let assertions := match (Datum.get "assertions" entries).opened with
      | .list items => items
      | _ => []
    Datum.get "args" entries :: assertions.map fun assertion =>
      match mapping? assertion with
      | some entries => Datum.get "value" entries
      | none => .null
  | none => []

/-- The steps of a workflow. -/
def stepData (d : Datum) : List Datum :=
  match mapping? d with
  | some entries => (someItems? (Datum.get "steps" entries)).getD []
  | none => []

/-- Why the definitions in documents have no written form. -/
def unwritable? (documents : List Datum) : Option Yaml.Obstacle :=
  (documents.flatMap candidates).flatMap stepData |>.flatMap heldData |>.findSome?
    Datum.unwritable?

/-- The workflows of a YAML text from a source that hold nothing without a written form. -/
def load (source text : String) : Except Failure (List Workflow) := do
  let decoded := Yaml.documents text
  let workflows ← loadDecoded source decoded
  match decoded.toOption.bind unwritable? with
  | some obstacle => throw (.ofObstacle source obstacle)
  | none => return workflows

end ToolFlow.Definition
