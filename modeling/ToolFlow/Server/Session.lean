import ToolFlow.Duration
import ToolFlow.Notice
import ToolFlow.Raised
import ToolFlow.Settings.Basic

/-!
# Sessions with a tool server

Opening a session with a server of tools, and what its answers are as responses. A session that
takes too long to begin, and troubles that come in groups, are reported as faults of the tool
invocation; a single error passes as it is.

What happens to a session is given as its course, from the opening of the transport to what is done
while the session is open. The time limit is in seconds, taken as it is given and turned into whole
microseconds, which may fail. An answer becomes a response by leaving out its null fields, apart
from structured content, which is kept as it is.
-/

namespace ToolFlow.Server

/-! ### Connections -/

/-- Where a server is and how long it may take, in seconds. Both are taken as they are given. -/
structure Connection where
  url : Value
  timeout : Value

/-- The connection that is asked for. When one part is null, each vacant part is taken from the
settings. -/
def Connection.choose (url timeout : Value) (settings : Settings) : Connection :=
  if url.isNull || timeout.isNull then
    { url := if url.isVacant then .text settings.serverUrl else url
      timeout := if timeout.isVacant then .float settings.serverTimeout else timeout }
  else { url, timeout }

/-! ### Opening -/

/-- What a server sees of a session. -/
inductive Event where
  | transport (url : Value)
  /-- A session starts; answers are waited for so many seconds. -/
  | session (patience : Binary64)
  | greeted
  | called (tool : String) (args : Fields)

/-- How a session begins. -/
inductive Beginning where
  | well
  | badly (trouble : Trouble)
  | never

/-- What happens to a session. -/
structure Course where
  connecting : Option Trouble := none
  beginning : Beginning := .well
  /-- What happens once it is open. -/
  body : Option Trouble := none

/-- The greatest number of days that can be waited. -/
def dayLimit : Int := 999999999

/-- How long answers are waited for: whole microseconds, in seconds. -/
def patienceOf (timeout : Number) : Except Breakdown Binary64 :=
  match timeout.microseconds? with
  | some micros =>
    let days := micros / microsPerDay
    if days < -(2 ^ 31) ∨ 2 ^ 31 ≤ days then
      .error (.raised "OverflowError" "Python int too large to convert to C int")
    else if dayLimit < days.natAbs then
      .error (.raised "OverflowError" s!"days={days}; must have magnitude <= {dayLimit}")
    else .ok (secondsOfMicros micros)
  | none =>
    if timeout.isNaN then .error (.raised "ValueError" "cannot convert float NaN to integer")
    else .error (.raised "OverflowError" "cannot convert float infinity to integer")

/-- How long answers are waited for under a limit, which has to be a number. -/
def patience (timeout : Value) : Except Breakdown Binary64 :=
  match timeout.asNumber? with
  | some n => patienceOf n
  | none =>
    .error (.raised "TypeError"
      s!"unsupported type for timedelta seconds component: {timeout.typeName}")

/-- A number with one place after the point. -/
def onePlace (v : Value) : String :=
  match v.asNumber? with
  | some (.int n) => (Binary64.ofInt n).fixedText 1
  | some (.float x) => x.fixedText 1
  | none => v.display

/-- The name of the logger of sessions. -/
def logger : String := "chainprobe.mcp_client"

/-- The fault of a connection. -/
def fault (connection : Connection) (message : String) : Stop :=
  .fault
    { kind := .toolInvocation, message, context := .object [("url", connection.url)] }

/-- The fault of a session that did not begin in time. -/
def beginsLate (connection : Connection) : Stop :=
  fault connection s!"MCP initialize timed out after {onePlace connection.timeout}s"

/-- What a trouble is reported as, and what the log says of it. -/
def reported (connection : Connection) : Trouble → Stop × List Notice
  | .single error => (error.stop, [])
  | .group message items =>
    match (Trouble.group message items).text with
    | .ok details =>
      (fault connection s!"MCP session failed: {details}",
        [.error logger s!"MCP session failed with exception group: {details}"])
    | .error b => (.breakdown b, [])

/-- What comes of opening a session. -/
structure Opening where
  events : List Event
  /-- Why there is no open session. -/
  stop : Option Stop := none
  notices : List Notice := []

/-- An opening that ends in a trouble. -/
def Opening.troubled (events : List Event) (connection : Connection) (trouble : Trouble) :
    Opening :=
  let (stop, notices) := reported connection trouble
  { events, stop := some stop, notices }

/-- Once a session is open: what happens then. -/
def Opening.opened (events : List Event) (connection : Connection) (course : Course) : Opening :=
  match course.body with
  | some trouble => .troubled events connection trouble
  | none => { events }

/-- Begins a session whose transport is open. -/
def begin (connection : Connection) (course : Course) : Opening :=
  let transport := Event.transport connection.url
  match patience connection.timeout with
  | .error b => { events := [transport], stop := some (.breakdown b) }
  | .ok seconds =>
    let events := [transport, .session seconds, .greeted]
    match course.beginning with
    | .well => .opened events connection course
    | .never => { events, stop := some (beginsLate connection) }
    | .badly (.single error) =>
      if error.isTimeout then { events, stop := some (beginsLate connection) }
      else .troubled events connection (.single error)
    | .badly trouble => .troubled events connection trouble

/-- Opens a session. -/
def openSession (connection : Connection) (course : Course) : Opening :=
  match course.connecting with
  | some trouble => .troubled [.transport connection.url] connection trouble
  | none => begin connection course

/-! ### Answers -/

mutual

/-- A value without null fields, also inside its items; what a caller attached is kept as it is. -/
def withoutNulls : Value → Value
  | .list items => .list (withoutNullsItems items)
  | .object fields => .object (withoutNullsFields fields)
  | v => v

/-- Items without null fields. -/
def withoutNullsItems : List Value → List Value
  | [] => []
  | v :: rest => withoutNulls v :: withoutNullsItems rest

/-- Fields that are not null. -/
def withoutNullsFields : List (String × Value) → List (String × Value)
  | [] => []
  | (_, .null) :: rest => withoutNullsFields rest
  | (name, v) :: rest =>
    (name, if name == "_meta" then v else withoutNulls v) :: withoutNullsFields rest

end

/-- The field of structured content, which is kept as it is. -/
def structuredName : String := "structuredContent"

/-- The response that a result of a call is: its content, whether the call failed, and that the
result is complete. -/
def responseOf (result : Fields) : Value :=
  let structured := (result.lookup structuredName).getD .null
  let others := withoutNullsFields (Fields.erase structuredName result)
  let base := Fields.put "resultType" ((others.lookup "resultType").getD (.text "complete"))
    (Fields.put "isError" ((others.lookup "isError").getD (.bool false)) others)
  .object (base ++ if structured.isNull then [] else [(structuredName, structured)])

end ToolFlow.Server
