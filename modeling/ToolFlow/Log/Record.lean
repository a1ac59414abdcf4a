import ToolFlow.Calendar
import ToolFlow.Duration
import ToolFlow.Json.Writer
import ToolFlow.Progress
import ToolFlow.Raised
import ToolFlow.Result.Report
import ToolFlow.Text.Placeholder

/-!
# Records of the log

A record of the log as one line of JSON: when it was made, its level, the logger, the message, and
what else the caller attached to it.

A record is what the log hands to the one who writes its lines. The message may have placeholders,
which are filled from the arguments of the record when it has any. What a caller attached is shown
in an object of its own, the context, which is left out when nothing is shown. Hidden are the names
that every record has and those that start with an underscore (`isShown`). What is attached under
the name of one of its parts takes the place of this part instead (`Record.replace`).

Not every record can be written. The time has to be one that a clock can count and that lies in the
calendar, the placeholders have to fit the arguments, and the document of an attached step has to
exist. Each of these is a breakdown with the text of its error.

## Main definitions

* `Attachment`: a value, or one of the library's own things, which are shown as data
  (`Attachment.data`).
* `Record`: a record with what a caller attached, and `Record.attach`, by which it gets this.
* `momentOf`, `stamp`: the time of a record, to the millisecond.
* `Record.line`: the record as one line.
-/

namespace ToolFlow.Log

/-! ### Attachments -/

/-- Something attached to a record. -/
inductive Attachment where
  | value (v : Value)
  | step (step : Step)
  | phase (phase : Progress.Phase)
  /-- An edge by its fields, which may hold anything. -/
  | edge (fields : Fields)

/-- The names of the fields of an edge that have to be given, and the one that may be left out. -/
def edgeNames : List String × String :=
  (["from_step", "to_step", "source_path", "target_param"], "sample_value")

/-- An edge of named values. -/
def Attachment.ofEdge (given : Fields) : Except Breakdown Attachment :=
  let (needed, optional) := edgeNames
  let lacking := needed.filter fun name => !given.has name
  match (Fields.names given).find? fun name => !(needed ++ [optional]).contains name with
  | some name => .error (.unknownArgument "DataFlowEdge" name)
  | none =>
    if !lacking.isEmpty then .error (.lackingArguments "DataFlowEdge" lacking)
    else
      .ok (.edge ((needed ++ [optional]).map fun name =>
        (name, (given.get? name).getD .null)))

/-- Something attached as data; the document of a step keeps its null fields. -/
def Attachment.data : Attachment → Except Breakdown Value
  | value v => .ok v
  | step s => s.document true
  | phase p => .ok (.text p.name)
  | edge fields => .ok (.object fields)

/-! ### Records -/

/-- An error attached to a record: its class name and the line that reports it. -/
structure ErrorNote where
  label : String
  line : String

/-- The note of an error; of its text the last line is reported. -/
def ErrorNote.of (error : Raised) : ErrorNote :=
  { label := error.label, line := (error.reportLines.getLast?).getD "" }

/-- A record of the log. What a caller attaches may take the place of any part of it. -/
structure Record where
  logger : Value
  /-- The name of the level. -/
  level : Value
  /-- The message, with placeholders for the arguments. -/
  message : Value
  args : Text.Arguments := ⟨[], none⟩
  /-- When it was made, in seconds since the start of 1970. -/
  created : Value
  attached : List (String × Attachment) := []
  /-- The error attached to it, or why there is none to be shown. -/
  error : Except Breakdown (Option ErrorNote) := .ok none

/-- The error that a value in place of an error comes to: none when there is nothing in it. -/
def errorOf (v : Value) : Except Breakdown (Option ErrorNote) :=
  let nameless (item : Value) : Except Breakdown (Option ErrorNote) :=
    if item.isNull then .ok none else .error (.noAttribute item.typeName "__name__")
  if v.isVacant then .ok none
  else
    match v with
    | .text _ => nameless v
    | .list items => nameless (items.headD .null)
    | .object _ => .error (.raised "KeyError" "0")
    | v => .error (.raised "TypeError" s!"'{v.typeName}' object is not subscriptable")

/-- The record with a value in place of the part of this name, if there is one. -/
def Record.replace (record : Record) : String × Attachment → Record
  | ("name", .value v) => { record with logger := v }
  | ("levelname", .value v) => { record with level := v }
  | ("msg", .value v) => { record with message := v }
  | ("args", .value v) =>
    { record with args := if v.isVacant then ⟨[], none⟩ else .single v }
  | ("created", .value v) => { record with created := v }
  | ("exc_info", .value v) => { record with error := errorOf v }
  | _ => record

/-- The record with what a caller attaches. -/
def Record.attach (record : Record) (attached : List (String × Attachment)) : Record :=
  attached.foldl Record.replace { record with attached }

/-! ### Levels -/

/-- The levels with names of their own. -/
def levelNames : List (Int × String) :=
  [(50, "CRITICAL"), (40, "ERROR"), (30, "WARNING"), (20, "INFO"), (10, "DEBUG"), (0, "NOTSET")]

/-- The name of a level. -/
def levelName (level : Int) : String :=
  (levelNames.lookup level).getD s!"Level {level}"

/-! ### Times -/

/-- Whether a number of seconds is one that a clock can count. -/
def isCountable : Number → Bool
  | .int n => -(2 ^ 63) ≤ n && n < 2 ^ 63
  | .float x =>
    match x.split? with
    | some (whole, _) => -(2 ^ 63) ≤ whole && whole < 2 ^ 63
    | none => false

/-- A time in microseconds since the start of 1970. -/
def microseconds (created : Value) : Except Breakdown Int :=
  match created.asNumber? with
  | none =>
    .error (.raised "TypeError"
      s!"'{created.typeName}' object cannot be interpreted as an integer")
  | some n =>
    match isCountable n, n.microseconds? with
    | true, some micros => .ok micros
    | _, _ =>
      if n.isNaN then .error (.raised "ValueError" "Invalid value NaN (not a number)")
      else .error (.raised "OverflowError" "timestamp out of range for platform time_t")

/-- The number of the day on which the year 1970 starts. -/
def epochDay : Int := Calendar.dayNumber { year := 1970, month := 1, day := 1 }

/-- The number of days in four hundred years, after which the calendar repeats itself. -/
def daysInCycle : Int := 146097

/-- Why there is no moment in a year, if there is none. Years are counted from 1900 in a machine
word, and shown in one. -/
def yearProblem? (year : Int) : Option Breakdown :=
  if year - 1900 < -(2 ^ 31) ∨ 2 ^ 31 ≤ year - 1900 then
    some (.raised "OSError" "[Errno 75] Value too large for defined data type")
  else if year < 1 ∨ 9999 < year then
    some (.raised "ValueError" s!"year {Int.bmod year (2 ^ 32)} is out of range")
  else none

/-- The universal time of a number of microseconds since the start of 1970. -/
def momentOf (micros : Int) : Except Breakdown Moment :=
  let day := epochDay + micros / microsPerDay
  let rest := (micros % microsPerDay).toNat
  let date := Calendar.ofDayNumber (day % daysInCycle).toNat
  let year : Int := date.year + 400 * (day / daysInCycle)
  match yearProblem? year with
  | some b => .error b
  | none =>
    .ok
      { date := { date with year := year.toNat }
        hour := rest / microsPerSecond / 3600
        minute := rest / microsPerSecond / 60 % 60
        second := rest / microsPerSecond % 60
        microsecond := rest % microsPerSecond
        offset := some 0 }

/-- A moment to the millisecond. -/
def stamp (m : Moment) : String :=
  { m with microsecond := 0, offset := none }.text "T" "" ++ "." ++
    Text.paddedNumber 3 (m.microsecond / 1000) ++ "+00:00"

/-! ### Context -/

/-- The names that belong to every record. -/
def ownNames : List String :=
  ["name", "msg", "args", "levelname", "levelno", "pathname", "filename", "module", "exc_info",
    "exc_text", "stack_info", "lineno", "funcName", "created", "msecs", "relativeCreated", "thread",
    "threadName", "processName", "process", "message", "asctime"]

/-- Whether something attached under a name is shown. -/
def isShown (name : String) : Bool :=
  !ownNames.contains name && !"_".isPrefixOf name

namespace Record

/-- What the caller attached, under names that are shown. -/
def context (record : Record) : Except Breakdown Fields :=
  (record.attached.filter fun field => isShown field.1).mapM fun field =>
    field.2.data.map fun v => (field.1, v)

/-- The message with its placeholders filled. -/
def text (record : Record) : Except Breakdown String :=
  let message := record.message.display
  if record.args.left.isEmpty then .ok message
  else
    match Text.fill message record.args with
    | .ok s => .ok s
    | .error problem => .error (.raised problem.label problem.message)

/-- The record as data. -/
def data (record : Record) : Except Breakdown Value := do
  let moment ← momentOf (← microseconds record.created)
  let text ← record.text
  let context ← record.context
  let base := [("ts", Value.text (stamp moment)), ("level", record.level),
    ("logger", record.logger), ("message", .text text)]
  let shown := if context.isEmpty then [] else [("context", Value.object context)]
  let error := match ← record.error with
    | none => []
    | some note =>
      [("error", Value.object [("type", .text note.label), ("traceback", .text note.line)])]
  return .object (base ++ shown ++ error)

/-- The record as one line. -/
def line (record : Record) : Except Breakdown String :=
  record.data.map (Json.encodeReadable none)

end Record

end ToolFlow.Log
