import ToolFlow.Run.Options
import ToolFlow.Tracking.Session

/-!
# Surroundings of a run

The collaborators of a run and its options. The collaborators are functions of the trace: what they
do may depend on all that happened before.

Nothing is assumed of a collaborator. A tool may answer anything, a subscriber may fail at any
event, a tracker at any question, and the request to stop may come and go. Which tools there are is
fixed before the run, as the list of names that the client gave.

A failure of a channel beside the tools stays with it. A subscriber that fails is noted in the log,
and the others are told all the same; a comment that cannot be had is made up for by a fixed text.
Each of the definitions below has this in its branches, so that a run itself need not know of it.

## Main definitions

* `Environment`: the collaborators, with options.
* `Environment.session?`, `Environment.withSession`: tracking, where it is wanted and there is a
  tracker, and nothing otherwise.
* `Environment.announce`: telling those who are subscribed at this moment.
* `Environment.comment`: asking for a comment within a time limit.
-/

namespace ToolFlow

/-- One that is told of the progress of a run. -/
structure Subscriber where
  name : String
  /-- The error with which it takes an event, if it fails. -/
  failure? : Trace → Progress.Event → Option String

/-- The surroundings of a run. -/
structure Environment where
  /-- What comes of calling a tool. -/
  client : Trace → String → Fields → Answer Value
  /-- The tools that there are. -/
  tools : List String
  /-- What comes of asking for a comment, if there is anyone to ask. -/
  commentator : Option (Trace → String → CompletionOptions → Answer (Option String)) := none
  tracker : Option Tracking.Tracker := none
  /-- Those who are told of progress at a moment. -/
  subscribers : Trace → List Subscriber := fun _ => []
  /-- Whether the run has been asked to stop. -/
  cancelled : Trace → Bool := fun _ => false
  options : RunOptions := {}

namespace Environment

variable (env : Environment)

/-! ### Tools -/

/-- The name of a tool in a list of capabilities: the capability itself or its name. -/
def toolName : Value → String
  | .text name => name
  | tool => ((tool.field? "name").getD (.text "")).display

/-! ### Tracking -/

/-- The tracking of a run, when it is wanted and there is a tracker. -/
def session? : Option Tracking.Session :=
  match env.tracker with
  | some tracker =>
    if env.options.tracking.enabled then
      some
        { tracker, options := env.options.tracking, timeout := env.options.timeouts.snapshot }
    else none
  | none => none

/-- The name of the logger of runs. -/
def logger : String := "chainprobe.execution.executor"

/-- What the log says before the first run: that tracking is wanted without a tracker. -/
def openingNotices : List Notice :=
  if env.options.tracking.enabled && env.tracker.isNone then
    [.warning logger "State tracking enabled but no state tracker supplied; disabling"]
  else []

/-- What the session of a run, if there is one, does at a moment. -/
def withSession (act : Tracking.Session → Tracking.Captured → Trace → Trace × Tracking.Captured)
    (captured : Tracking.Captured) (t : Trace) : Trace × Tracking.Captured :=
  match env.session? with
  | some session => act session captured t
  | none => (t, captured)

/-! ### Progress -/

/-- Tells one subscriber of an event. -/
def tell (event : Progress.Event) (t : Trace) (subscriber : Subscriber) : Trace :=
  let t' := t ++ [.told subscriber.name event]
  match subscriber.failure? t event with
  | some error => t' ++ [.noticed (Progress.failureNotice event.phase error)]
  | none => t'

/-- Tells those who are subscribed now of an event. -/
def announce (event : Progress.Event) (t : Trace) : Trace :=
  (Progress.Channel.mk (env.subscribers t)).emit (tell event) t

/-! ### Comments -/

/-- What an answer to a request for a comment comes to: a comment, the text that stands in for it,
or a breakdown. -/
def commentOf (limit : TimeLimit) (fallback : String) :
    Answer (Option String) → Except Breakdown (Option String)
  | .returned text => .ok text
  | .failed _ => .ok (some fallback)
  | .timedOut => limit.shortText.map fun _ => some fallback
  | .brokenOff b => .error b

/-- A comment, or the text that stands in for it. Nobody is asked when the time limit is none. -/
def comment (prompt : String) (options : CompletionOptions) (limit : TimeLimit)
    (fallback : String) (t : Trace) : Trace × Except Breakdown (Option String) :=
  match env.commentator, limit.problem? with
  | none, _ => (t, .ok (some fallback))
  | _, some _ => (t, .ok (some fallback))
  | some commentator, none =>
    (t ++ [.asked prompt options], commentOf limit fallback (commentator t prompt options))

end Environment

end ToolFlow
