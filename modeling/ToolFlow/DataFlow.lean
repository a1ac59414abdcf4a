import ToolFlow.Resolution

/-!
# Data flow

One edge for every mapped argument whose expression is a reference, in the order of the steps and of
their declarations. The edges follow from the workflow alone; results only supply the samples.

An edge leads from the step that a reference is to, to the step with the mapping, whether or not
either was attempted. Its sample is the value that the reference has by the results, and null when
it has none or when it leads nowhere (`DataFlow.sample`). So a failure at a reference is no failure
here.

A mapping whose expression is no reference has no edge. What can go wrong is only that an expression
holds a number too long to be converted, which is a breakdown.
-/

namespace ToolFlow.DataFlow

/-- The value shown at an edge, null when the reference yields none. -/
def sample (results : List StepResult) (ref : Path.Reference) (index : Nat) : Value :=
  match Resolution.resolveReference results ref index with
  | .ok v => if v.isMissing then .null else v
  | .error _ => .null

/-- The edge of one mapped argument, if its expression is a reference. -/
def edge? (results : List StepResult) (index : Nat) (entry : String × String) :
    Except Breakdown (Option Edge) :=
  match Path.Reference.parse entry.2 with
  | .error failure =>
    match failure.forReference (.text entry.2) with
    | .fault _ => .ok none
    | .breakdown b => .error b
  | .ok ref =>
    .ok (some
      { source := ref.step
        target := index
        sourcePath := ref.sourcePath
        parameter := entry.1
        sample := sample results ref index })

/-- The edges into one step. -/
def edgesInto (results : List StepResult) (index : Nat) (step : Step) :
    Except Breakdown (List Edge) := do
  return (← step.mapped.mapM (edge? results index)).filterMap id

/-- The edges into each step from an index on. -/
def edgesFrom (results : List StepResult) : Nat → List Step → Except Breakdown (List Edge)
  | _, [] => .ok []
  | index, step :: rest => do
    let here ← edgesInto results index step
    let later ← edgesFrom results (index + 1) rest
    return here ++ later

/-- The edges of a workflow. -/
def edges (workflow : Workflow) (results : List StepResult) : Except Breakdown (List Edge) :=
  edgesFrom results 0 workflow.steps

end ToolFlow.DataFlow
