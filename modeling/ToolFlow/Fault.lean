import ToolFlow.Breakdown
import ToolFlow.Path.Token
import ToolFlow.Value.Equality
import ToolFlow.Value.Literal

/-!
# Faults

What the library reports when a definition, an argument mapping, a tool call or a comment on a run
goes wrong. Kinds of faults form a tree under the general kind.

A fault has a message and may have a context, which says what it was about. The context shows in the
text of a fault when there is something in it, as a literal behind the message. Faults are compared
by all three.

Where a path is read, what is wrong with it becomes a fault or a breakdown (`Stop`): what is wrong
with the notation is a fault of the path, and a number that is too long to be converted is not. The
two readers of paths have their own words for this, one for references and one for paths in
assertions.
-/

namespace ToolFlow

namespace Fault

/-- The kind of a fault. -/
inductive Kind where
  | general
  | definition
  | completionConfig
  | resolution
  | pathSyntax
  | toolInvocation
  | analysis
  deriving DecidableEq

namespace Kind

/-- The name of a kind. -/
def name : Kind → String
  | general => "ChainProbeError"
  | definition => "DefinitionError"
  | completionConfig => "LLMConfigError"
  | resolution => "ResolutionError"
  | pathSyntax => "PathSyntaxError"
  | toolInvocation => "ToolInvocationError"
  | analysis => "AnalysisError"

/-- All kinds. -/
def all : List Kind :=
  [general, definition, completionConfig, resolution, pathSyntax, toolInvocation, analysis]

/-- The kind of a name. -/
def ofName? (s : String) : Option Kind :=
  all.find? fun kind => kind.name == s

/-- A kind and those it is a special case of, up to the general kind. -/
def lineage : Kind → List Kind
  | general => [general]
  | pathSyntax => [pathSyntax, resolution, general]
  | kind => [kind, general]

end Kind

end Fault

/-- A fault: its kind, a message, and what it was about. -/
structure Fault where
  kind : Fault.Kind
  message : String
  /-- What the fault was about, null when nothing is said of that. -/
  context : Value := .null

/-- A message with a context that is not vacant. -/
def Fault.withContext (message : String) (context : Value) : String :=
  message ++ " | context=" ++ context.literal

/-- The fault as plain text; a vacant context is not shown. -/
def Fault.text (fault : Fault) : String :=
  if fault.context.isVacant then fault.message
  else Fault.withContext fault.message fault.context

/-- Whether two faults are of one kind and say the same about equal things. -/
def Fault.same (a b : Fault) : Bool :=
  a.kind == b.kind && a.message == b.message && a.context.looselyEquals b.context

/-- What ended an attempt: a fault, which the caller may record, or a breakdown. -/
inductive Stop where
  | fault (f : Fault)
  | breakdown (b : Breakdown)

namespace Path

/-- The form of a reference that messages name. -/
def expectedFormat : String := "$steps[N].result.path.to.value"

/-- What is reported of a text that is no reference. -/
def Failure.forReference (expression : Value) : Failure → Stop
  | .empty =>
    .fault
      { kind := .pathSyntax
        message :=
          s!"Invalid path expression: {expression.literal}. Expected format: {expectedFormat}"
        context := .object [("expression", expression)] }
  | .problem p =>
    .fault
      { kind := .pathSyntax
        message := s!"Invalid path expression: {expression.display}. " ++
          s!"Expected format: {expectedFormat} ({p.detail})"
        context := .object [("expression", expression), ("position", .nat p.position)] }
  | .tooManyDigits count => .breakdown (.tooManyDigits count)

/-- What is reported of a text that is no relative path. -/
def Failure.forPath (path : Value) : Failure → Stop
  | .empty =>
    .fault
      { kind := .pathSyntax
        message := s!"Invalid path: {path.literal}"
        context := .object [("path", path)] }
  | .problem p =>
    .fault
      { kind := .pathSyntax
        message := s!"Invalid path: {path.display} ({p.detail})"
        context := .object [("path", path), ("position", .nat p.position)] }
  | .tooManyDigits count => .breakdown (.tooManyDigits count)

end Path

end ToolFlow
