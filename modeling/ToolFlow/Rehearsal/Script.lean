import ToolFlow.Json.Tagged
import ToolFlow.Raised
import ToolFlow.Run.Environment

/-!
# Scripts of tools and commentators

A rehearsal runs a workflow against collaborators that follow a script. A scripted tool has a list
of behaviours, one for each call; the last one serves all further calls. A behaviour may change a
store of named values and ask the run to stop before it answers.

Scripts are data, so a rehearsal can be set up from outside. The collaborators of a script are
functions of the trace like any others: which behaviour a call has is a matter of the calls before
it, and the store is what those calls have made of it (`Rehearsal.storeAt`).
-/

namespace ToolFlow.Rehearsal

/-- The item for the n-th use of a list whose last item serves all further uses. -/
def nth {α : Type} (items : List α) (n : Nat) : Option α :=
  items[min n (items.length - 1)]?

/-! ### Tools -/

/-- How a scripted call ends. -/
inductive Deed where
  | raises (error : Raised)
  | hangs
  /-- The answer is the arguments as text. -/
  | echoes
  | speaks (text : String) (isError : Value)
  | returns (v : Value)

/-- What a scripted call does. -/
structure Behaviour where
  puts : Fields := []
  erases : List String := []
  cancels : Bool := false
  deed : Deed := .returns .null

/-- The behaviours of each tool. -/
abbrev Script := List (String × List Behaviour)

/-- A response with one text block. -/
def textResponse (text : String) (isError : Value) : Value :=
  .object [("content", .list [.object [("type", .text "text"), ("text", .text text)]]),
    ("isError", isError)]

/-- What an error answers. -/
def answerOf {α : Type} (error : Raised) : Answer α :=
  if error.isTimeout then .timedOut
  else
    match error.endingCall.text with
    | .ok text => .failed text
    | .error b => .brokenOff b

/-- The answer of a behaviour to a call. -/
def Behaviour.answer (behaviour : Behaviour) (args : Fields) : Answer Value :=
  match behaviour.deed with
  | .raises error => answerOf error
  | .hangs => .timedOut
  | .echoes => .returned (textResponse (Json.encode (Json.tag (.object args))) (.bool false))
  | .speaks text isError => .returned (textResponse text isError)
  | .returns v => .returned v

/-- The store after a behaviour. -/
def Behaviour.changed (store : Fields) (behaviour : Behaviour) : Fields :=
  behaviour.erases.foldl (fun store name => Fields.erase name store)
    (behaviour.puts.foldl (fun store field => Fields.put field.1 field.2 store) store)

namespace Script

variable (script : Script)

/-- The behaviour of a call after a number of calls of the same tool. -/
def behaviour (tool : String) (earlier : Nat) : Behaviour :=
  ((script.lookup tool).bind fun behaviours => nth behaviours earlier).getD {}

/-- The behaviour of a call after other calls. -/
def behaviourAfter (calls : List (String × Fields)) (tool : String) : Behaviour :=
  script.behaviour tool (calls.countP fun call => call.1 == tool)

/-- The behaviours of calls in order. -/
def performed (calls : List (String × Fields)) : List Behaviour :=
  calls.mapIdx fun i call => script.behaviourAfter (calls.take i) call.1

/-- The scripted answer to a call. -/
def client (t : Trace) (tool : String) (args : Fields) : Answer Value :=
  (script.behaviourAfter t.calls tool).answer args

/-- The store after what was done to it from its beginning. -/
def storeAt (store : Fields) (t : Trace) : Fields :=
  (script.performed t.calls).foldl Behaviour.changed store

end Script

/-! ### Commentators -/

/-- A scripted comment. -/
inductive Reply where
  | speaks (text : Option String)
  | raises (error : Raised)
  | hangs

/-- A commentator that gives its replies in order, the last one again and again. -/
def commentator (replies : List Reply) (t : Trace) (_prompt : String) (_ : CompletionOptions) :
    Answer (Option String) :=
  match nth replies t.prompts.length with
  | some (.speaks text) => .returned text
  | some (.raises error) => answerOf error
  | some .hangs => .timedOut
  | none => .returned none

/-! ### Subscribers and requests to stop -/

/-- The name of the subscriber that only listens. -/
def listenerName : String := "listener"

/-- A subscriber that only listens. -/
def listener : Subscriber :=
  { name := listenerName, failure? := fun _ _ => none }

/-- A subscriber that fails at every event. -/
def brokenSubscriber : Subscriber :=
  { name := "broken", failure? := fun _ _ => some "ui crashed" }

/-- When a run is asked to stop, other than by a tool. -/
inductive Stopping where
  | never
  | before
  /-- When the listener is told of a phase at a step. -/
  | onEvent (phase : Progress.Phase) (step : Nat)

/-- Whether the request to stop was made. -/
def Stopping.made (t : Trace) : Stopping → Bool
  | never => false
  | before => true
  | onEvent phase step =>
    (t.eventsFor listenerName).any fun event => event.phase == phase && event.current == step

/-- Whether a run has been asked to stop by anyone. -/
def cancelled (script : Script) (stopping : Stopping) (t : Trace) : Bool :=
  stopping.made t || (script.performed t.calls).any Behaviour.cancels

end ToolFlow.Rehearsal
