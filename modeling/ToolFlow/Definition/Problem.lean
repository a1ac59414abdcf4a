import ToolFlow.Condition
import ToolFlow.Fault
import ToolFlow.Workflow.Issue
import ToolFlow.Yaml.Document

/-!
# Problems of workflow documents

What can be wrong with the documents that define workflows, and how it is reported.

Problems are nested like the definitions: a problem of an assertion stands inside one of its step,
and that inside one of the workflow, each with the number by which a message names it. Messages
count from one. A problem is reported as a fault with a message and, for some, with what it was
about.

A problem whose message cannot be written is no problem but a breakdown (`Problem.breakdown?`): this
is so where an integer with too many digits would have to be shown. The same goes for obstacles in
the text. Only that a text is no YAML is a problem; every other obstacle is an error of the
conversion that met it, and escapes with its own class and text (`Yaml.Obstacle.breakdown?`).
-/

namespace ToolFlow.Definition

/-- A step, by its number and the id of its workflow. -/
structure StepPlace where
  workflow : String
  number : Nat

/-- The step as messages name it. -/
def StepPlace.text (place : StepPlace) : String :=
  s!"step {place.number} of workflow \"{place.workflow}\""

/-- The step at the start of a message. -/
def StepPlace.headText (place : StepPlace) : String :=
  s!"Step {place.number} in workflow \"{place.workflow}\""

/-- A workflow, by its number and its source. -/
structure WorkflowPlace where
  source : String
  number : Nat

/-- The workflow as messages name it. -/
def WorkflowPlace.text (place : WorkflowPlace) : String :=
  s!"Workflow {place.number} from {place.source}"

/-- What is wrong with an assertion. -/
inductive AssertionProblem where
  | notMapping
  | lacksPath
  | unknownCondition
  /-- The message holds an integer with too many digits to be written. -/
  | overlongMessage

/-- What is wrong with a step. -/
inductive StepProblem where
  | notMapping
  | lacksTool
  | argsNotMapping
  | mappingNotMapping
  /-- The expression of a parameter is no reference to a step. -/
  | badExpression (parameter : Yaml.Scalar)
  | optionalNotBoolean
  | assertionsNotList
  | assertion (number : Nat) (problem : AssertionProblem)
  | invalid (data : Invalid)

/-- What is wrong with documents. -/
inductive Problem where
  | fileMissing (path : String)
  | fileUnreadable (path : String)
  | unparsable (source : String)
  | empty (source : String)
  | notMapping (place : WorkflowPlace)
  | lacksId (place : WorkflowPlace)
  | lacksName (place : WorkflowPlace) (workflow : String)
  | lacksSteps (place : WorkflowPlace) (workflow : String)
  | step (place : StepPlace) (problem : StepProblem)
  | invalid (workflow source : String) (data : Invalid)

/-- The heading of the issues of data. -/
def heading (data : Invalid) : String :=
  let count := data.issues.length
  s!"{count} validation error" ++ (if count == 1 then "" else "s") ++ s!" for {data.title}"

/-- The message of a problem of an assertion. -/
def AssertionProblem.message (place : StepPlace) (number : Nat) : AssertionProblem → String
  | notMapping => s!"Assertion {number} in {place.text} must be a mapping"
  | lacksPath => s!"Assertion {number} in {place.text} missing required field: path"
  | unknownCondition =>
    s!"Assertion {number} in {place.text} has invalid condition. Valid conditions: " ++
      commaSeparated (Condition.all.map Condition.name)
  | overlongMessage => Breakdown.overlongInteger.message

/-- The message of a problem of a step. -/
def StepProblem.message (place : StepPlace) : StepProblem → String
  | notMapping => s!"{place.headText} must be a mapping"
  | lacksTool => s!"{place.headText} missing required field: tool"
  | argsNotMapping => s!"Invalid args in {place.text}: expected a mapping"
  | mappingNotMapping => s!"Invalid argMapping in {place.text}: expected a mapping"
  | badExpression parameter =>
    s!"Invalid argMapping for \"{parameter.display}\" in {place.text}. " ++
      s!"Expected format: {Path.expectedFormat}"
  | optionalNotBoolean => s!"Invalid optional flag in {place.text}: expected true or false"
  | assertionsNotList => s!"Invalid assertions in {place.text}: expected a list"
  | assertion number problem => problem.message place number
  | invalid data => s!"Invalid {place.text}: {heading data}"

/-- The breakdown that a problem of a step is when its message cannot be written. -/
def StepProblem.breakdown? : StepProblem → Option Breakdown
  | assertion _ .overlongMessage => some .overlongInteger
  | badExpression parameter => if parameter.isOverlong then some .overlongInteger else none
  | _ => none

namespace Problem

/-- The message of a problem. -/
def message : Problem → String
  | fileMissing path => s!"Workflow file not found: {path}"
  | fileUnreadable path => s!"Could not read workflow file {path}"
  | unparsable source => s!"YAML parse error in {source}"
  | empty source => s!"No workflows defined in {source}"
  | notMapping place => s!"{place.text} must be a mapping"
  | lacksId place => s!"{place.text} missing required field: id"
  | lacksName place _ => s!"{place.text} missing required field: name"
  | lacksSteps place _ =>
    s!"{place.text} missing required field: steps (must be non-empty array)"
  | step place problem => problem.message place
  | invalid workflow source data =>
    s!"Workflow \"{workflow}\" from {source} is invalid: {heading data}"

/-- What a problem was about. -/
def context : Problem → Value
  | fileMissing path => .object [("path", .text path)]
  | unparsable source => .object [("source", .text source)]
  | empty source => .object [("source", .text source)]
  | lacksName _ workflow => .object [("workflow_id", .text workflow)]
  | lacksSteps _ workflow => .object [("workflow_id", .text workflow)]
  | step place (.badExpression parameter) =>
    .object [("workflow_id", .text place.workflow), ("step", .nat place.number),
      ("param", parameter.value)]
  | _ => .null

/-- The issues of the data that a problem reports. -/
def invalid? : Problem → Option Invalid
  | step _ (.invalid data) => some data
  | invalid _ _ data => some data
  | _ => none

/-- The breakdown that a problem is when its message cannot be written. -/
def breakdown? : Problem → Option Breakdown
  | step _ problem => problem.breakdown?
  | _ => none

/-- The fault that reports a problem. -/
def fault (problem : Problem) : Fault :=
  { kind := .definition, message := problem.message, context := problem.context }

end Problem

end ToolFlow.Definition

namespace ToolFlow.Yaml.Obstacle

/-- A literal as far as messages about integers show it. -/
def shownLiteral (text : String) : String :=
  String.ofList ((Text.quoted text).toList.take 200)

/-- The breakdown that an obstacle is, unless the text is just not YAML. -/
def breakdown? : Obstacle → Option Breakdown
  | malformed => none
  | noCharacter code =>
    if code < 2 ^ 31 then some (.raised "ValueError" "chr() arg not in range(0x110000)")
    else some (.raised "OverflowError" "Python int too large to convert to C int")
  | notInteger base text =>
    some (.raised "ValueError"
      s!"invalid literal for int() with base {base}: {shownLiteral text}")
  | emptyNumber => some (.raised "IndexError" "string index out of range")
  | tooManyDigits count => some (.tooManyDigits count)
  | notFloat text =>
    some (.raised "ValueError" s!"could not convert string to float: {Text.quoted text}")
  | beyondFloat => some (.raised "OverflowError" "int too large to convert to float")
  | notBoolean word => some (.raised "KeyError" (Text.quoted word))
  | notTimestamp =>
    some (.raised "AttributeError" "'NoneType' object has no attribute 'groupdict'")
  | timestampMapping =>
    some (.raised "TypeError" "expected string or bytes-like object, got 'list'")
  | impossibleDate reason => some (.raised "ValueError" reason)
  | endlessDefault => some (.raised "RecursionError" "maximum recursion depth exceeded")
  | selfContaining => some (.raised "ValueError" "Circular reference detected (id repeated)")
  | overlongKey => some .overlongInteger
  | undecodable flaw => some (.raised "UnicodeDecodeError" (flaw.report "invalid utf-8"))

end ToolFlow.Yaml.Obstacle

namespace ToolFlow.Definition

/-- Why no workflows are loaded. -/
inductive Failure where
  | problem (p : Problem)
  /-- What the documents say cannot be read or written at all. -/
  | breakdown (b : Breakdown)

namespace Failure

/-- The failure that a problem is. -/
def ofProblem (p : Problem) : Failure :=
  match p.breakdown? with
  | some b => breakdown b
  | none => problem p

/-- The failure that an obstacle in the documents of a source is. -/
def ofObstacle (source : String) (o : Yaml.Obstacle) : Failure :=
  match o.breakdown? with
  | some b => breakdown b
  | none => problem (.unparsable source)

end Failure

end ToolFlow.Definition
