import ToolFlow.Value.Basic

/-!
# Issues of data

What is wrong with data that was to become a definition or a setting. A check collects the issues of
all parts, each with its place, instead of stopping at the first.

A check that succeeds has the checked thing, and one that fails has the issues (`Checked`). Checks
are put together side by side (`Checked.also`), and the issues of both are kept; so this is no
sequence of computations in which the second would need the outcome of the first. The place of an
issue is built from the inside, one name or number for each definition that it stands in
(`Checked.inside`).

The classes and descriptions of issues are those that a reader of the report sees, in which fields
with two names go by the one that was given.
-/

namespace ToolFlow

/-- One step of a place inside data. -/
inductive Place where
  | name (s : String)
  | index (n : Int)
  deriving DecidableEq

/-- What is wrong at one place. -/
inductive Issue.Cause where
  | absent
  | unknownName
  | notText
  | undecodableText
  | notObject
  | notList
  /-- The data is not the definition of the named thing. -/
  | notDefinition (title : String)
  | notBoolean
  | unclearBoolean
  | notCondition
  | blankTool
  | noSteps
  | notInteger
  | unreadableInteger
  | oversizedInteger
  | fractionalInteger
  | infiniteInteger
  | notPositive
  | notNumber
  | unreadableNumber
  deriving DecidableEq

/-- An issue and its place. -/
structure Issue where
  place : List Place
  cause : Issue.Cause
  deriving DecidableEq

namespace Issue.Cause

/-- The class of an issue. -/
def label : Cause → String
  | absent => "missing"
  | unknownName => "extra_forbidden"
  | notText => "string_type"
  | undecodableText => "string_unicode"
  | notObject => "dict_type"
  | notList => "list_type"
  | notDefinition _ => "model_type"
  | notBoolean => "bool_type"
  | unclearBoolean => "bool_parsing"
  | notCondition => "enum"
  | blankTool => "value_error"
  | noSteps => "value_error"
  | notInteger => "int_type"
  | unreadableInteger => "int_parsing"
  | oversizedInteger => "int_parsing_size"
  | fractionalInteger => "int_from_float"
  | infiniteInteger => "finite_number"
  | notPositive => "greater_than"
  | notNumber => "float_type"
  | unreadableNumber => "float_parsing"

/-- The description of an issue. -/
def message : Cause → String
  | absent => "Field required"
  | unknownName => "Extra inputs are not permitted"
  | notText => "Input should be a valid string"
  | undecodableText =>
    "Input should be a valid string, unable to parse raw data as a unicode string"
  | notObject => "Input should be a valid dictionary"
  | notList => "Input should be a valid list"
  | notDefinition title => s!"Input should be a valid dictionary or instance of {title}"
  | notBoolean => "Input should be a valid boolean"
  | unclearBoolean => "Input should be a valid boolean, unable to interpret input"
  | notCondition => "Input should be 'exists', 'truthy', 'equals', 'contains' or 'type'"
  | blankTool => "Value error, tool cannot be empty"
  | noSteps => "Value error, workflow must have at least one step"
  | notInteger => "Input should be a valid integer"
  | unreadableInteger =>
    "Input should be a valid integer, unable to parse string as an integer"
  | oversizedInteger => "Unable to parse input string as an integer, exceeded maximum size"
  | fractionalInteger =>
    "Input should be a valid integer, got a number with a fractional part"
  | infiniteInteger => "Input should be a finite number"
  | notPositive => "Input should be greater than 0"
  | notNumber => "Input should be a valid number"
  | unreadableNumber => "Input should be a valid number, unable to parse string as a number"

end Issue.Cause

/-- The issues of data that was to become the named thing. -/
structure Invalid where
  title : String
  issues : List Issue

/-- The outcome of a check: what the data stands for, or all its issues. -/
inductive Checked (α : Type) where
  | valid (a : α)
  | invalid (issues : List Issue)

namespace Checked

/-- A single issue at the data itself. -/
def fail {α : Type} (cause : Issue.Cause) : Checked α :=
  invalid [⟨[], cause⟩]

/-- The outcome made into something else. -/
def map {α β : Type} (f : α → β) : Checked α → Checked β
  | valid a => valid (f a)
  | invalid issues => invalid issues

/-- A further check of what the data stands for. -/
def bind {α β : Type} (x : Checked α) (f : α → Checked β) : Checked β :=
  match x with
  | valid a => f a
  | invalid issues => invalid issues

/-- A check of a part, whose issues lie inside the part. -/
def inside {α : Type} (place : Place) : Checked α → Checked α
  | valid a => valid a
  | invalid issues =>
    invalid (issues.map fun issue => { issue with place := place :: issue.place })

/-- The check of one more part; the issues of both are kept in order. -/
def also {α β : Type} : Checked (α → β) → Checked α → Checked β
  | valid f, valid a => valid (f a)
  | valid _, invalid issues => invalid issues
  | invalid issues, valid _ => invalid issues
  | invalid issues, invalid more => invalid (issues ++ more)

/-- A list of checks as the check of a list. -/
def all {α : Type} : List (Checked α) → Checked (List α)
  | [] => valid []
  | x :: rest => also (x.map List.cons) (all rest)

/-- A check with issues that do not depend on its outcome. -/
def withIssues {α : Type} (x : Checked α) (issues : List Issue) : Checked α :=
  match x with
  | valid a => if issues.isEmpty then valid a else invalid issues
  | invalid found => invalid (found ++ issues)

/-- The outcome under the title of what was to be made. -/
def titled {α : Type} (title : String) : Checked α → Except Invalid α
  | valid a => .ok a
  | invalid issues => .error ⟨title, issues⟩

end Checked

/-! ### Fields of a definition -/

namespace Fields

/-- The value under the first of several names, with the name. -/
def pick? (names : List String) (fields : Fields) : Option (String × Value) :=
  names.findSome? fun name => (fields.lookup name).map fun v => (name, v)

/-- The check of a field that has to be there. -/
def required {α : Type} (fields : Fields) (names : List String) (check : Value → Checked α) :
    Checked α :=
  match pick? names fields with
  | some (name, v) => (check v).inside (.name name)
  | none => .invalid [⟨(names.take 1).map .name, .absent⟩]

/-- The check of a field that may be left out. -/
def defaulted {α : Type} (fields : Fields) (names : List String) (default : α)
    (check : Value → Checked α) : Checked α :=
  match pick? names fields with
  | some (name, v) => (check v).inside (.name name)
  | none => .valid default

/-- An issue for every name that no field of the definition takes. -/
def unknownIssues (fields : Fields) (known : List (List String)) : List Issue :=
  let used := known.filterMap fun names => (pick? names fields).map Prod.fst
  (fields.filter fun field => !used.contains field.1).map fun field =>
    ⟨[.name field.1], .unknownName⟩

end Fields

end ToolFlow
