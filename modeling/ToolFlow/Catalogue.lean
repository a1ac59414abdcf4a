import ToolFlow.Breakdown
import ToolFlow.Text.Quoted

/-!
# The catalogue of the library

The names under which the library offers its parts.
-/

namespace ToolFlow.Catalogue

/-- What a name stands for. -/
inductive Kind where
  | type
  | function
  deriving DecidableEq

/-- The name of a kind. -/
def Kind.name : Kind → String
  | type => "class"
  | function => "function"

/-- The offered names. -/
def entries : List (String × Kind) :=
  [("Settings", .type), ("Workflow", .type), ("WorkflowStep", .type), ("Assertion", .type),
    ("WorkflowResult", .type), ("WorkflowExecutor", .type), ("ExecutorOptions", .type),
    ("load_workflows", .function)]

/-- What a name stands for. -/
def find (name : String) : Except Breakdown Kind :=
  match entries.lookup name with
  | some kind => .ok kind
  | none =>
    .error (.raised "AttributeError"
      s!"module 'chainprobe' has no attribute {Text.quoted name}")

end ToolFlow.Catalogue
