import ToolFlow.Calendar
import ToolFlow.Value.Basic

/-!
# State around a run

What a tracker captures of the state that tools change: snapshots, the changes between them, which
step depends on which, and the part that each tool plays.

These are records of what a tracker says, and nothing is computed from them here. A snapshot knows
after which step it was taken, which is minus one before the run, and a change knows which step it
is put down to.

What a run has captured so far (`Captured`) is kept apart from what is made of it at the end
(`Bundle`), since only the former grows while steps are attempted.

A question to the tracker is recorded by what tells it from other questions (`Request`): its sort,
and the numbers that say which snapshots, or how many results, it was about.
-/

namespace ToolFlow.Tracking

/-- The part that a tool plays for the state. -/
inductive Role where
  | reader
  | writer
  | both
  | unclear
  deriving DecidableEq

/-- The name of a role. -/
def Role.name : Role → String
  | reader => "reader"
  | writer => "writer"
  | both => "both"
  | unclear => "unknown"

/-- What is known of a tool. -/
structure ToolInfo where
  tool : String
  role : Role := .unclear
  stateTypes : List String := []
  /-- Whether the tool only reads and can be used to take snapshots. -/
  isProbe : Bool := false
  confidence : Number := .float .zero

/-- The state at one point of a run. -/
structure Snapshot where
  moment : Moment
  /-- The step after which it was taken; before the run this is minus one. -/
  afterStep : Int
  data : Value := .null
  hash : String := ""
  probe : Option String := none

/-- What happened to a part of the state. -/
inductive ChangeKind where
  | created
  | modified
  | deleted
  deriving DecidableEq

/-- The name of a kind of change. -/
def ChangeKind.name : ChangeKind → String
  | created => "created"
  | modified => "modified"
  | deleted => "deleted"

/-- A difference between two snapshots. -/
structure Change where
  kind : ChangeKind
  path : String
  causedBy : Int
  before : Value := .null
  after : Value := .null

/-- A step that uses what an earlier step left in the state. -/
structure Dependency where
  producer : Nat
  consumer : Nat
  stateType : String
  description : String := ""
  verified : Bool := false

/-- The snapshots of a run so far and the changes found between them. -/
structure Captured where
  snapshots : List Snapshot := []
  changes : List Change := []

/-- All that was found out about the state around a run. -/
structure Bundle extends Captured where
  dependencies : List Dependency := []
  roles : List ToolInfo := []
  summary : Option String := none

/-- Which snapshots a run asks for. -/
structure Options where
  enabled : Bool := false
  /-- The tools that snapshots are restricted to, when there are any. -/
  probeTools : List String := []
  before : Bool := true
  after : Bool := true
  afterEachStep : Bool := false

/-- What a tracker is asked, as far as the order of the questions goes. -/
inductive Request where
  | setProbes (tools : List String)
  | takeSnapshot (afterStep : Int)
  | compare (before after step : Int)
  | toolInfo
  | infer (results : Nat)
  | verify (dependencies snapshots changes : Nat)
  | summarize (dependencies roles : Nat)
  deriving DecidableEq

end ToolFlow.Tracking
