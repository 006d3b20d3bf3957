import ClosedLoop.Backoff
import ClosedLoop.CommandLine.Arguments
import ClosedLoop.CommandLine.Session
import ClosedLoop.Compliance
import ClosedLoop.Config
import ClosedLoop.Config.Failure
import ClosedLoop.Config.Loading
import ClosedLoop.Config.Reading
import ClosedLoop.Config.Rendering
import ClosedLoop.Config.Validation
import ClosedLoop.Device
import ClosedLoop.Device.Bench
import ClosedLoop.Device.Scripted
import ClosedLoop.Device.Simulated
import ClosedLoop.Duration
import ClosedLoop.EnforcementError
import ClosedLoop.Event
import ClosedLoop.FileTree
import ClosedLoop.Intent
import ClosedLoop.Json
import ClosedLoop.Loop
import ClosedLoop.LoopOptions
import ClosedLoop.LoopState
import ClosedLoop.Main
import ClosedLoop.Pipeline
import ClosedLoop.Report.Filter
import ClosedLoop.Report.Log
import ClosedLoop.Report.Pattern
import ClosedLoop.Report.Record
import ClosedLoop.Sample
import ClosedLoop.Text.Alphanumeric
import ClosedLoop.Text.Binary64
import ClosedLoop.Text.Blank
import ClosedLoop.Text.Decimal
import ClosedLoop.Text.Hidden
import ClosedLoop.Text.Quoted
import ClosedLoop.Tick
import ClosedLoop.Timeline
import ClosedLoop.Yaml.Document
import ClosedLoop.Yaml.Event
import ClosedLoop.Yaml.Gap
import ClosedLoop.Yaml.Position
import ClosedLoop.Yaml.Scalar.Block
import ClosedLoop.Yaml.Scalar.Plain
import ClosedLoop.Yaml.Scalar.Quoted
import ClosedLoop.Yaml.Tag
import ClosedLoop.Yaml.Token
import ClosedLoop.Yaml.TokenStream
import ClosedLoop.Yaml.Value
import ClosedLoop.Proofs.Execution
import ClosedLoop.Proofs.Progress
import ClosedLoop.Proofs.Handle
import ClosedLoop.Proofs.Stopping
import ClosedLoop.Proofs.Stepping
import ClosedLoop.Proofs.Truncation
import ClosedLoop.Proofs.Simulated
import ClosedLoop.Proofs.SimulatedRun
import ClosedLoop.Proofs.Trace
import ClosedLoop.Proofs.Calls
import ClosedLoop.Proofs.Life
import ClosedLoop.Proofs.Convergence
import ClosedLoop.Proofs.Failures
import ClosedLoop.Proofs.Doubling
import ClosedLoop.Proofs.Applying
import ClosedLoop.Proofs.Quotation
import ClosedLoop.Proofs.JsonTokens
import ClosedLoop.Proofs.JsonTree
import ClosedLoop.Proofs.ResolvedConfig
import ClosedLoop.Proofs.Runnable
import ClosedLoop.Proofs.Rescheduling
import ClosedLoop.Proofs.Trees
import ClosedLoop.Proofs.Sections
import ClosedLoop.Proofs.Restating
import ClosedLoop.Proofs.PortRange
import ClosedLoop.Proofs.DriftReport
import ClosedLoop.Proofs.DeviceContract
import ClosedLoop.Proofs.Overriding
import ClosedLoop.Proofs.Rearming
import ClosedLoop.Proofs.Phases
import ClosedLoop.Proofs.Retelling
