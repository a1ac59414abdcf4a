import ToolFlow.Notice
import ToolFlow.Result.Workflow

/-!
# Progress

The events by which a run tells how far it is, and the channel that delivers them.

An event says what the run is about to do, where it stands, and how many results and failures there
are. It is made of the workflow and the results so far (`Event.of`), so that all events of a run
count in the same way.

A channel keeps callbacks in the order in which they were registered, and delivers an event to each
of them. Registering a callback again adds it again. A registration is ended by way of its callback,
and of several registrations of one callback the first is taken away (`Channel.unsubscribe`).

Delivery is a fold over the callbacks that are registered when it begins. What a callback does to
the channel meanwhile has an effect on later events only.
-/

namespace ToolFlow.Progress

/-- What a run is about to do. -/
inductive Phase where
  | starting
  | executing
  | analyzing
  | summarizing
  | complete
  deriving DecidableEq

namespace Phase

/-- The name of a phase. -/
def name : Phase → String
  | starting => "starting"
  | executing => "executing"
  | analyzing => "analyzing"
  | summarizing => "summarizing"
  | complete => "complete"

/-- All phases in the order in which a run goes through them. -/
def all : List Phase := [starting, executing, analyzing, summarizing, complete]

/-- The phase of a name. -/
def ofName? (s : String) : Option Phase :=
  all.find? fun phase => phase.name == s

end Phase

/-- How far a run is at the start of a phase. -/
structure Event where
  phase : Phase
  current : Nat
  total : Nat
  completed : Nat
  failed : Nat
  /-- The step that the phase is about. -/
  step : Option Step := none

/-- The event of a phase, given the results so far. -/
def Event.of (workflow : Workflow) (phase : Phase) (current : Nat) (step : Option Step)
    (results : List StepResult) : Event :=
  { phase, current, total := workflow.steps.length, completed := results.length
    failed := failedCount results, step }

/-! ### Channels -/

/-- The registered callbacks in order; a callback may be registered several times. -/
structure Channel (α : Type) where
  callbacks : List α := []

namespace Channel

/-- One more registration. -/
def subscribe {α : Type} (channel : Channel α) (callback : α) : Channel α :=
  ⟨channel.callbacks ++ [callback]⟩

/-- The channel without the first registration of a callback. -/
def unsubscribe {α : Type} [BEq α] (channel : Channel α) (callback : α) : Channel α :=
  ⟨channel.callbacks.erase callback⟩

/-- Whether anything is registered. -/
def hasSubscribers {α : Type} (channel : Channel α) : Bool :=
  !channel.callbacks.isEmpty

/-- Delivers to the callbacks that are registered now, one after the other. -/
def emit {α σ : Type} (channel : Channel α) (deliver : σ → α → σ) (s : σ) : σ :=
  channel.callbacks.foldl deliver s

end Channel

/-! ### Failing callbacks -/

/-- The name of the logger of this module. -/
def logger : String := "chainprobe.execution.progress"

/-- The notice of a callback that failed. -/
def failureNotice (phase : Phase) (error : String) : Notice :=
  .warning logger s!"Progress callback failed during {phase.name}: {error}"

end ToolFlow.Progress
