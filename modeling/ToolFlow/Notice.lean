/-!
# Notices

Lines of a log that others than the reader of a result may want to see.
-/

namespace ToolFlow

/-- One line of a log: a level, the name of the logger, and a message. -/
structure Notice where
  level : String
  logger : String
  message : String
  deriving DecidableEq

/-- A line at the level of warnings. -/
def Notice.warning (logger message : String) : Notice :=
  { level := "WARNING", logger, message }

/-- A line at the level of errors. -/
def Notice.error (logger message : String) : Notice :=
  { level := "ERROR", logger, message }

end ToolFlow
