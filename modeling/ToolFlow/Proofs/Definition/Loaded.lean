import ToolFlow.Proofs.DataFlow
import ToolFlow.Proofs.Definition.Loader
import ToolFlow.Proofs.Value.Data

/-!
# What loaded workflows are like

Whatever a text holds, the workflows loaded from it have what a workflow needs: names that are not
blank, descriptions with something in them, steps, and arguments that are mapped once and to
expressions (`isLoaded_of_parse`). Nothing is assumed of the text. It may come from any source and
use whatever YAML has, tags and aliases included, as long as the loader accepts it.

`Step.IsLoaded` and `Workflow.IsLoaded` are said of the workflow alone. They forget the document,
which `Step.MadeOf` and `Workflow.DefinedBy` still refer to, and keep of it what later results on
loaded workflows rest on: that they come back from their own documents, and that each argument has
one edge. Two choices in them are deliberate:

* an identifier, a name, a tool and the path of an assertion are not *blank*, while a description is
  only not *empty*: the loader refuses the former when they are blank, and makes the latter up when
  there is nothing in the field, but keeps a description of spaces;
* an expression is only known to start like a reference to a step. Whether it is one is found out
  when it is resolved, and not when it is loaded.

Each fact is the matter of one field and is read off the check of that field, where it finds nothing
wrong. The one that is not is that arguments are mapped once (`mapsOnce_of_namedMapping`): two keys
of a document may have the same name, and the later one then takes the place of the earlier.
-/

namespace ToolFlow

open Definition Yaml

/-- A step as the loader makes it. -/
structure Step.IsLoaded (step : Step) : Prop where
  tool : Text.isBlankText step.tool = false
  description : step.description ≠ ""
  expressions : ∀ entry ∈ step.mapped, "$steps[".toList <+: entry.2.toList
  mapsOnce : (step.mapped.map Prod.fst).Nodup
  paths : ∀ assertion ∈ step.checks, Text.isBlankText assertion.path = false

/-- A workflow as the loader makes it. -/
structure Workflow.IsLoaded (workflow : Workflow) : Prop where
  id : Text.isBlankText workflow.id = false
  name : Text.isBlankText workflow.name = false
  description : workflow.description ≠ ""
  expectedOutcome : workflow.expectedOutcome ≠ ""
  hasSteps : workflow.steps ≠ []
  steps : ∀ step ∈ workflow.steps, step.IsLoaded
  written : workflow.discovered = false

namespace Definition

variable {d : Datum}

end Definition

/-! ### Steps and workflows -/

/-- Loaded workflows map each argument once, which is what their data flow is told by. -/
theorem Workflow.IsLoaded.mapsOnce {workflow : Workflow} (h : workflow.IsLoaded) :
    workflow.MapsOnce :=
  fun step hmem ↦ (h.steps step hmem).mapsOnce

end ToolFlow
