import ToolFlow.Breakdown
import ToolFlow.Commentary
import ToolFlow.Notice
import ToolFlow.Progress
import ToolFlow.Tracking.Basic

/-!
# Traces

The record of everything that a run exchanged with its surroundings, in the order in which it
happened. Whatever a collaborator answers may depend on the trace up to the question and on nothing
else.

A run is thus a function that continues a trace. This takes the place of the state that the
collaborators have in common: a tool that keeps a store knows from the trace what was asked of it,
and so does whoever decides to stop the run. Time is not part of the record. That something takes
too long is one of the answers, and no step is told of the clock.

An entry records the question and not the answer, which follows from the trace before it. Lines of
the log are entries as well, since they are told to the outside in the same order.

## Main definitions

* `Trace.Entry`: the kinds of exchanges, one for each channel to the outside.
* `Trace.calls`, `Trace.eventsFor`, `Trace.prompts`, `Trace.requests`, `Trace.notices`: what went
  over one channel. Each is a selection of entries and distributes over traces that follow each
  other.
* `Answer`: what comes of asking a collaborator: an answer, a failure with a text, no answer in
  time, or a failure that has no text.
-/

namespace ToolFlow

/-- One exchange with the surroundings. -/
inductive Trace.Entry where
  /-- A tool was called with arguments. -/
  | called (tool : String) (args : Fields)
  /-- A subscriber was told of an event. -/
  | told (subscriber : String) (event : Progress.Event)
  /-- A comment was asked for. -/
  | asked (prompt : String) (options : CompletionOptions)
  /-- The tracker was asked something. -/
  | tracked (request : Tracking.Request)
  /-- A line was written to the log. -/
  | noticed (notice : Notice)

/-- The exchanges so far, oldest first. -/
abbrev Trace := List Trace.Entry

namespace Trace

/-- The call that an entry records. -/
def Entry.call? : Entry → Option (String × Fields)
  | called tool args => some (tool, args)
  | _ => none

/-- The event that an entry records for a subscriber. -/
def Entry.eventFor? (name : String) : Entry → Option Progress.Event
  | told subscriber event => if subscriber == name then some event else none
  | _ => none

/-- The prompt that an entry records. -/
def Entry.prompt? : Entry → Option (String × CompletionOptions)
  | asked prompt options => some (prompt, options)
  | _ => none

/-- The question to the tracker that an entry records. -/
def Entry.request? : Entry → Option Tracking.Request
  | tracked request => some request
  | _ => none

/-- The line of the log that an entry records. -/
def Entry.notice? : Entry → Option Notice
  | noticed notice => some notice
  | _ => none

/-- The tool calls of a trace. -/
def calls (trace : Trace) : List (String × Fields) :=
  trace.filterMap Entry.call?

/-- The events that a subscriber was told of. -/
def eventsFor (name : String) (trace : Trace) : List Progress.Event :=
  trace.filterMap (Entry.eventFor? name)

/-- The prompts of a trace. -/
def prompts (trace : Trace) : List (String × CompletionOptions) :=
  trace.filterMap Entry.prompt?

/-- The questions to the tracker. -/
def requests (trace : Trace) : List Tracking.Request :=
  trace.filterMap Entry.request?

/-- The lines of the log. -/
def notices (trace : Trace) : List Notice :=
  trace.filterMap Entry.notice?

/-! ### One trace after another -/

@[simp] theorem calls_append (s t : Trace) : calls (s ++ t) = calls s ++ calls t :=
  List.filterMap_append

@[simp] theorem eventsFor_append (name : String) (s t : Trace) :
    eventsFor name (s ++ t) = eventsFor name s ++ eventsFor name t :=
  List.filterMap_append

@[simp] theorem prompts_append (s t : Trace) : prompts (s ++ t) = prompts s ++ prompts t :=
  List.filterMap_append

@[simp] theorem requests_append (s t : Trace) : requests (s ++ t) = requests s ++ requests t :=
  List.filterMap_append

@[simp] theorem notices_append (s t : Trace) : notices (s ++ t) = notices s ++ notices t :=
  List.filterMap_append

end Trace

/-- What comes of asking a collaborator that may fail or take too long. -/
inductive Answer (α : Type) where
  | returned (a : α)
  /-- It failed, with this error text. -/
  | failed (error : String)
  | timedOut
  /-- It failed, with an error that has no text. -/
  | brokenOff (b : Breakdown)

end ToolFlow
