import ToolFlow.Rehearsal.Script
import ToolFlow.Rehearsal.Tracker
import ToolFlow.Run.Execute

/-!
# Rehearsals

A workflow run several times in one scripted environment, a tracking session taken through scripted
moments, and a channel of progress events with scripted callbacks.

Runs follow each other on one trace, so that a later run meets its collaborators as the earlier one
has left them. A session is taken to its moments one by one, each with what may have happened in
between, and a channel is put through acts of which one delivers an event.
-/

namespace ToolFlow.Rehearsal

/-! ### Runs -/

/-- Who is told of the progress of a rehearsal. -/
inductive Audience where
  | nobody
  | listening
  /-- One that fails at every event comes before the listener. -/
  | brokenFirst

/-- The subscribers of an audience. -/
def Audience.subscribers : Audience → List Subscriber
  | nobody => []
  | listening => [listener]
  | brokenFirst => [brokenSubscriber, listener]

/-- All that a rehearsal needs besides a workflow. -/
structure Plan where
  script : Script
  tools : List String
  options : RunOptions
  replies : Option (List Reply) := none
  tracker : Option TrackerScript := none
  store : Fields := []
  stopping : Stopping := .never
  audience : Audience := .listening

/-- The scripted environment. -/
def Plan.environment (plan : Plan) : Environment where
  client := plan.script.client
  tools := plan.tools
  commentator := plan.replies.map commentator
  tracker := plan.tracker.map fun script => script.tracker (plan.script.storeAt plan.store)
  subscribers := fun _ => plan.audience.subscribers
  cancelled := cancelled plan.script plan.stopping
  options := plan.options

/-- Runs a workflow several times, one run after the other. -/
def runs (env : Environment) (workflow : Workflow) :
    Nat → Trace → Trace × List (Except Breakdown WorkflowResult)
  | 0, t => (t, [])
  | n + 1, t =>
    let (t, result) := env.execute workflow t
    let (t, rest) := runs env workflow n t
    (t, result :: rest)

/-- The runs of a rehearsal. -/
def Plan.perform (plan : Plan) (workflow : Workflow) (count : Nat) :
    Trace × List (Except Breakdown WorkflowResult) :=
  let env := plan.environment
  runs env workflow count (env.openingNotices.map .noticed)

/-! ### Tracking sessions -/

/-- One moment of a scripted tracking session. -/
inductive Moment where
  | beforeRun
  | afterStep (index : Int)
  | afterRun (last : Int)
  | put (name : String) (v : Value)
  | erase (name : String)
  /-- The end, with so many results. -/
  | finish (results : Nat)

/-- How a scripted session stands. -/
structure Stage where
  store : Fields
  captured : Tracking.Captured := {}
  trace : Trace := []

/-- A result of which nothing matters. -/
def blankResult : StepResult :=
  { step := { tool := "" }, index := 0, success := true }

namespace Stage

/-- Takes a session to a moment. At the end there is a bundle. -/
def goTo (sessionOver : Fields → Tracking.Session) (stage : Stage) :
    Moment → Stage × Option Tracking.Bundle
  | .put name v => ({ stage with store := Fields.put name v stage.store }, none)
  | .erase name => ({ stage with store := Fields.erase name stage.store }, none)
  | .beforeRun =>
    let (trace, captured) := (sessionOver stage.store).beforeRun stage.captured stage.trace
    ({ stage with trace, captured }, none)
  | .afterStep index =>
    let (trace, captured) := (sessionOver stage.store).afterStep index stage.captured stage.trace
    ({ stage with trace, captured }, none)
  | .afterRun last =>
    let (trace, captured) := (sessionOver stage.store).afterRun last stage.captured stage.trace
    ({ stage with trace, captured }, none)
  | .finish results =>
    let (trace, bundle) := (sessionOver stage.store).finish (List.replicate results blankResult)
      stage.captured stage.trace
    ({ stage with trace }, some bundle)

/-- Takes a session through moments; each stage is kept, with its bundle at the end. -/
def through (sessionOver : Fields → Tracking.Session) :
    Stage → List Moment → List (Stage × Option Tracking.Bundle)
  | _, [] => []
  | stage, moment :: rest =>
    let next := stage.goTo sessionOver moment
    next :: through sessionOver next.1 rest

end Stage

/-! ### Channels -/

/-- What is done with a channel. -/
inductive ChannelAct where
  | subscribe (callback : String)
  /-- Takes back the n-th subscription. -/
  | unsubscribe (n : Nat)
  | emit (phase : Progress.Phase) (current : Nat)

/-- A channel whose callbacks are known by name. -/
structure Hall where
  channel : Progress.Channel String := {}
  /-- The callbacks of all subscriptions, whether taken back or not. -/
  subscriptions : List String := []
  /-- What was received since the latest act. -/
  seen : List (String × Progress.Phase × Nat) := []
  notices : List Notice := []

namespace Hall

/-- Delivers an event to a callback. One named as broken fails; one named for a single use takes
back its subscription. -/
def deliver (phase : Progress.Phase) (current : Nat) (hall : Hall) (callback : String) : Hall :=
  let hall := { hall with seen := hall.seen ++ [(callback, phase, current)] }
  if "broken".isPrefixOf callback then
    let notice := Progress.failureNotice phase s!"{callback} failed"
    { hall with notices := hall.notices ++ [notice] }
  else if "once".isPrefixOf callback && hall.subscriptions.contains callback then
    { hall with channel := hall.channel.unsubscribe callback }
  else hall

/-- The hall after an act. -/
def after (hall : Hall) (act : ChannelAct) : Hall :=
  let hall := { hall with seen := [] }
  match act with
  | .subscribe callback =>
    { hall with
      channel := hall.channel.subscribe callback
      subscriptions := hall.subscriptions ++ [callback] }
  | .unsubscribe n =>
    match hall.subscriptions[n]? with
    | some callback => { hall with channel := hall.channel.unsubscribe callback }
    | none => hall
  | .emit phase current => hall.channel.emit (deliver phase current) hall

/-- The hall after each of several acts. -/
def through : Hall → List ChannelAct → List Hall
  | _, [] => []
  | hall, act :: rest => hall.after act :: through (hall.after act) rest

end Hall

end ToolFlow.Rehearsal
