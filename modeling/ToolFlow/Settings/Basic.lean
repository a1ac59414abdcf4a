import ToolFlow.Run.Options
import ToolFlow.Settings.Check

/-!
# Settings

The settings of the program: how runs go, what the log looks like, which server is talked to and
which model comments. They are made from named values, and each named value is checked.

A setting may have several names, that of its field and those of the variables it can be given by,
and the first one that has a value counts. The issues of all settings are reported together, in the
order of the settings.
-/

namespace ToolFlow

/-- The settings. -/
structure Settings where
  stepTimeout : Int := 30000
  snapshotTimeout : Int := 30000
  analysisTimeout : Int := 30000
  summaryTimeout : Int := 45000
  continueOnError : Bool := false
  analyzeSteps : Bool := true
  generateSummary : Bool := true
  requireSuccessfulDependencies : Bool := false
  logLevel : String := "INFO"
  jsonLogs : Bool := false
  serverUrl : String := "http://127.0.0.1:8000/mcp"
  /-- How long the server may take, in seconds. -/
  serverTimeout : Binary64 := .ofInt 120
  apiKey : Option String := none
  model : Option String := none

namespace Settings

/-! ### Names -/

/-- What the names of variables start with, in lower case. -/
def variableLead : String := "chainprobe_"

/-- The names of the key for the commentator: two names of variables, then the name of the
setting. -/
def apiKeyNames : List String :=
  ["CHAINPROBE_ANTHROPIC_API_KEY", "ANTHROPIC_API_KEY", "anthropic_api_key"]

/-- The names of the model of the commentator. -/
def modelNames : List String :=
  ["CHAINPROBE_ANTHROPIC_MODEL", "ANTHROPIC_MODEL", "anthropic_model"]

/-- The settings that have one name only. -/
def plainNames : List String :=
  ["step_timeout_ms", "state_snapshot_timeout_ms", "llm_analysis_timeout_ms",
    "llm_summary_timeout_ms", "continue_on_error", "analyze_steps", "generate_summary",
    "require_successful_dependencies", "log_level", "json_logs", "mcp_url", "mcp_timeout_s"]

/-- The names of each setting, in the order in which they are looked for. -/
def namesOfEach : List (List String) :=
  plainNames.map (fun name => [name]) ++ [apiKeyNames, modelNames]

/-! ### Named values -/

/-- The settings of named values, in the order in which their issues are reported. Other names are
passed over. -/
def ofFields (fields : Fields) : Checked Settings :=
  let default : Settings := {}
  let made := (Fields.defaulted fields ["step_timeout_ms"] default.stepTimeout
    Value.checkPositiveInteger).map Settings.mk
  let made := made.also (Fields.defaulted fields ["state_snapshot_timeout_ms"]
    default.snapshotTimeout Value.checkPositiveInteger)
  let made := made.also (Fields.defaulted fields ["llm_analysis_timeout_ms"]
    default.analysisTimeout Value.checkPositiveInteger)
  let made := made.also (Fields.defaulted fields ["llm_summary_timeout_ms"]
    default.summaryTimeout Value.checkPositiveInteger)
  let made := made.also (Fields.defaulted fields ["continue_on_error"] default.continueOnError
    Value.checkBoolean)
  let made := made.also (Fields.defaulted fields ["analyze_steps"] default.analyzeSteps
    Value.checkBoolean)
  let made := made.also (Fields.defaulted fields ["generate_summary"] default.generateSummary
    Value.checkBoolean)
  let made := made.also (Fields.defaulted fields ["require_successful_dependencies"]
    default.requireSuccessfulDependencies Value.checkBoolean)
  let made := made.also (Fields.defaulted fields ["log_level"] default.logLevel Value.checkText)
  let made := made.also (Fields.defaulted fields ["json_logs"] default.jsonLogs Value.checkBoolean)
  let made := made.also (Fields.defaulted fields ["mcp_url"] default.serverUrl Value.checkText)
  let made := made.also (Fields.defaulted fields ["mcp_timeout_s"] default.serverTimeout
    Value.checkPositiveNumber)
  let made := made.also (Fields.defaulted fields apiKeyNames default.apiKey
    (Value.checkNullable Value.checkText))
  made.also (Fields.defaulted fields modelNames default.model
    (Value.checkNullable Value.checkText))

/-- The settings as named values. -/
def document (s : Settings) : Value :=
  .object [("step_timeout_ms", .int s.stepTimeout),
    ("state_snapshot_timeout_ms", .int s.snapshotTimeout),
    ("llm_analysis_timeout_ms", .int s.analysisTimeout),
    ("llm_summary_timeout_ms", .int s.summaryTimeout),
    ("continue_on_error", .bool s.continueOnError), ("analyze_steps", .bool s.analyzeSteps),
    ("generate_summary", .bool s.generateSummary),
    ("require_successful_dependencies", .bool s.requireSuccessfulDependencies),
    ("log_level", .text s.logLevel), ("json_logs", .bool s.jsonLogs),
    ("mcp_url", .text s.serverUrl), ("mcp_timeout_s", .float s.serverTimeout),
    ("anthropic_api_key", .ofText? s.apiKey), ("anthropic_model", .ofText? s.model)]

/-! ### Options of runs -/

/-- The options of runs under the settings. -/
def runOptions (s : Settings) : RunOptions where
  continueOnError := s.continueOnError
  stepTimeout := .ofInt s.stepTimeout
  analyzeSteps := s.analyzeSteps
  generateSummary := s.generateSummary
  requireSuccessfulDependencies := s.requireSuccessfulDependencies
  timeouts :=
    { snapshot := .ofInt s.snapshotTimeout, analysis := .ofInt s.analysisTimeout
      summary := .ofInt s.summaryTimeout }

end Settings

end ToolFlow
