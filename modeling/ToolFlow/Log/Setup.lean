import ToolFlow.Breakdown
import ToolFlow.Log.Record
import ToolFlow.Text.LetterCase

/-!
# Setting up the log

The log gets one handler, unless it has one, and then a level.
-/

namespace ToolFlow.Log

/-- How records are written: as lines of JSON or by a pattern. -/
inductive Handler where
  | json
  | plain
  deriving DecidableEq

/-- The pattern of plain records. -/
def plainPattern : String := "%(asctime)s %(levelname)s %(name)s: %(message)s"

/-- The pattern of a handler, if it has one. -/
def Handler.pattern? : Handler → Option String
  | json => none
  | plain => some plainPattern

/-- The handlers of the log and its level. -/
structure Setup where
  handlers : List Handler := []
  level : Int := 30

/-- The names of levels in settings. -/
def levels : List (String × Int) :=
  [("CRITICAL", 50), ("FATAL", 50), ("ERROR", 40), ("WARN", 30), ("WARNING", 30), ("INFO", 20),
    ("DEBUG", 10), ("NOTSET", 0)]

/-- The level that a value names, in any case. -/
def levelOf : Value → Except Breakdown Int
  | .text s =>
    match levels.lookup (Text.upper s) with
    | some level => .ok level
    | none => .error (.raised "ValueError" s!"Unknown level: {Text.quoted (Text.upper s)}")
  | v => .error (.noAttribute v.typeName "upper")

/-- Sets up the log. The handler stays even when there is no such level. -/
def Setup.configure (setup : Setup) (level : Value) (json : Bool) : Setup × Option Breakdown :=
  if !setup.handlers.isEmpty then (setup, none)
  else
    let handlers := [if json then Handler.json else Handler.plain]
    match levelOf level with
    | .ok level => ({ handlers, level }, none)
    | .error b => ({ setup with handlers }, some b)

end ToolFlow.Log
