import ToolFlow.Catalogue
import ToolFlow.Completion
import ToolFlow.Definition.Files
import ToolFlow.Definition.Template
import ToolFlow.Log.Setup
import ToolFlow.Proofs.Arguments
import ToolFlow.Proofs.FailedDependencies
import ToolFlow.Proofs.Keys
import ToolFlow.Proofs.Path.Partition
import ToolFlow.Proofs.Path.Problems
import ToolFlow.Proofs.Run.Cancellation
import ToolFlow.Proofs.Run.Changes
import ToolFlow.Proofs.Run.Containment
import ToolFlow.Proofs.Run.Dependencies
import ToolFlow.Proofs.Run.FailFast
import ToolFlow.Proofs.Run.Progress
import ToolFlow.Proofs.Run.Reason
import ToolFlow.Proofs.Run.Samples
import ToolFlow.Proofs.Run.Summary
import ToolFlow.Rehearsal.Performance
import ToolFlow.Server.Session
import ToolFlow.Settings.Source
import ToolFlow.Proofs.Definition.RoundTrip
import ToolFlow.Proofs.Definition.Breakdowns
import ToolFlow.Proofs.Workflow.Document
import ToolFlow.Proofs.Workflow.Validation
import ToolFlow.Proofs.Definition.Loaded
import ToolFlow.Proofs.Json.Escape
import ToolFlow.Proofs.Json.RoundTrip
import ToolFlow.Proofs.Result.Report
import ToolFlow.Proofs.State
import ToolFlow.Proofs.Yaml.Scanning
import ToolFlow.Proofs.Yaml.Composing
import ToolFlow.Proofs.Condition
import ToolFlow.Proofs.Run.Judgement
import ToolFlow.Proofs.Log.Record
import ToolFlow.Proofs.Subscriptions
import ToolFlow.Proofs.Tracking.Conclusion
