/-!
# Paths and references

A path is a sequence of named segments, each with an optional index. A reference starts such a path
at the result or the raw response of a step.

The index of a segment belongs to the name before it, and a segment has one at most. An item of a
list inside a list is therefore named by its number as a segment of its own.

References are written with the keyword for steps, the number of the step in brackets, the root, and
the segments behind dots (`Reference.text`). The part from the root on is what edges show
(`Reference.sourcePath`). Steps are numbered from zero.
-/

namespace ToolFlow.Path

/-- One segment of a path: a name and possibly an index into the list found there. -/
structure Segment where
  name : String
  index : Option Nat := none
  deriving DecidableEq

/-- A segment as it is written. -/
def Segment.text (segment : Segment) : String :=
  match segment.index with
  | none => segment.name
  | some n => s!"{segment.name}[{n}]"

/-- Where a reference starts. -/
inductive Root where
  /-- The value that the text of a response denotes. -/
  | result
  /-- The response itself. -/
  | response
  deriving DecidableEq

/-- The name of a root. -/
def Root.name : Root → String
  | result => "result"
  | response => "response"

/-- The root of a name. -/
def Root.ofName? (name : String) : Option Root :=
  if name == Root.result.name then some .result
  else if name == Root.response.name then some .response
  else none

/-- A reference to what an earlier step yielded. -/
structure Reference where
  step : Nat
  root : Root
  segments : List Segment
  deriving DecidableEq

/-- Segments joined by dots. -/
def joined (segments : List Segment) : String :=
  String.intercalate "." (segments.map Segment.text)

/-- The part of a reference after the step, from the root on. -/
def Reference.sourcePath (ref : Reference) : String :=
  String.intercalate "." (ref.root.name :: ref.segments.map Segment.text)

/-- A reference as it is written. -/
def Reference.text (ref : Reference) : String :=
  s!"$steps[{ref.step}].{ref.sourcePath}"

end ToolFlow.Path
