import ToolFlow.Evaluation

/-!
# Resolution of mapped arguments

The value of a reference from the perspective of a step: only earlier steps that succeeded with a
response can be referred to. Resolved values take the place of static arguments; a reference that
leads nowhere leaves the static argument as it is.

A reference has no value for one of several reasons (`Resolution.Failure`), which are looked for in
a fixed order: it cannot be read, it is not to an earlier step, this step was not attempted, it
failed or has no response, its response has no text. Each reason is reported with a text of its own,
but for errors that are none of the library's own, which end what was under way (`Failure.stop`).

A path that leads nowhere is not among these reasons. It has the absent value, and this is what
tells a mapping that found nothing from one that could not look.

## Main definitions

* `Resolution.resolve`: the value of an expression from the perspective of a step.
* `Resolution.resolveArguments`: the arguments of a step, its mappings put over its static arguments
  one after the other. The first failure ends this.
* `Resolution.failedDependencies`: the failed earlier steps that a step refers to, in increasing
  order and each once. A mapping that is no reference is passed over here.
-/

namespace ToolFlow

/-- Why a reference has no value. -/
inductive Resolution.Failure where
  | unreadable (expression : String) (failure : Path.Failure)
  /-- The reference is not to an earlier step. -/
  | notEarlier (ref : Path.Reference) (current : Int)
  | notExecuted (step : Nat)
  /-- The step failed or yielded no response. -/
  | unusable (step : Nat)
  | noText (step : Nat)
  | broken (b : Breakdown)

namespace Resolution

/-- What is reported of a reference without value. -/
def Failure.stop : Failure → Stop
  | unreadable expression failure => failure.forReference (.text expression)
  | notEarlier ref current =>
    .fault
      { kind := .resolution
        message := s!"Cannot reference step {ref.step} from step {current} " ++
          "(can only reference earlier steps)"
        context := .object [("expression", .text ref.text)] }
  | notExecuted step =>
    .fault { kind := .resolution, message := s!"Step {step} has not been executed yet" }
  | unusable step =>
    .fault { kind := .resolution, message := s!"Step {step} failed or has no response" }
  | noText step =>
    .fault { kind := .resolution, message := s!"Step {step} response has no text content" }
  | broken b => .breakdown b

/-- The first result recorded for a step. -/
def resultFor? (results : List StepResult) (step : Nat) : Option StepResult :=
  results.find? fun result => result.index == step

/-- The value at which a reference into a response starts. -/
def target (ref : Path.Reference) (response : Value) : Except Failure Value :=
  match ref.root with
  | .response => .ok response
  | .result =>
    match Response.result response with
    | .error b => .error (.broken b)
    | .ok none => .error (.noText ref.step)
    | .ok (some v) => .ok v

/-- The value of a reference from the perspective of a step. -/
def resolveReference (results : List StepResult) (ref : Path.Reference) (current : Int) :
    Except Failure Value :=
  if current ≤ ref.step then .error (.notEarlier ref current)
  else
    match resultFor? results ref.step with
    | none => .error (.notExecuted ref.step)
    | some result =>
      if !result.success || result.response.isNull then .error (.unusable ref.step)
      else (target ref result.response).map fun v => v.navigate ref.segments

/-- The value of an expression from the perspective of a step. -/
def resolve (results : List StepResult) (expression : String) (current : Int) :
    Except Failure Value :=
  match Path.Reference.parse expression with
  | .error failure => .error (.unreadable expression failure)
  | .ok ref => resolveReference results ref current

/-- The arguments after one mapped argument got its value. -/
def merge (args : Fields) (parameter : String) (v : Value) : Fields :=
  if v.isMissing then args else args.put parameter v

/-- The arguments of a step: the static ones, then each mapping in order. -/
def resolveArguments (results : List StepResult) (step : Step) (current : Int) :
    Except Failure Fields :=
  step.mapped.foldlM
    (fun args entry => (resolve results entry.2 current).map (merge args entry.1)) step.args

/-- The failed earlier step that an expression refers to, if it does. -/
def failedDependency (results : List StepResult) (current : Int) (expression : String) :
    Except Breakdown (Option Nat) :=
  match Path.Reference.parse expression with
  | .error failure =>
    match failure.forReference (.text expression) with
    | .fault _ => .ok none
    | .breakdown b => .error b
  | .ok ref =>
    if current ≤ ref.step then .ok none
    else
      match resultFor? results ref.step with
      | some result => .ok (if result.success then none else some ref.step)
      | none => .ok none

/-- A number put into an increasing list, once. -/
def insertNat (n : Nat) : List Nat → List Nat
  | [] => [n]
  | m :: rest => if n < m then n :: m :: rest else if n = m then m :: rest
    else m :: insertNat n rest

/-- The failed earlier steps that a step refers to, in increasing order. -/
def failedDependencies (results : List StepResult) (step : Step) (current : Int) :
    Except Breakdown (List Nat) := do
  let found ← step.mapped.mapM fun entry => failedDependency results current entry.2
  return (found.filterMap id).foldl (fun sorted n => insertNat n sorted) []

end Resolution

end ToolFlow
