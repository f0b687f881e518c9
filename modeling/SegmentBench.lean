import SegmentBench.Main
import SegmentBench.Log.Pattern
import SegmentBench.Proofs.Segment.Greatest
import SegmentBench.Proofs.Segment.Overflow
import SegmentBench.Proofs.Input.Trailing
import SegmentBench.Proofs.Input.Successive
import SegmentBench.Proofs.Engine.Runs
import SegmentBench.Proofs.Settings.Checks
import SegmentBench.Proofs.Settings.Layers
import SegmentBench.Proofs.Program.ExitCode
import SegmentBench.Proofs.Document.Written
import SegmentBench.Proofs.Config.Optional
import SegmentBench.Proofs.Config.RoundTrip
import SegmentBench.Proofs.Arguments.RoundTrip
import SegmentBench.Proofs.Config.Leftmost
import SegmentBench.Proofs.Json.Grammar
import SegmentBench.Proofs.Json.Reader
import SegmentBench.Proofs.Json.Written
import SegmentBench.Proofs.Decimal.Compact
import SegmentBench.Proofs.Report.Decoded
import SegmentBench.Proofs.Report.Masked
import SegmentBench.Proofs.Program.Logging
import SegmentBench.Proofs.Input.BrokenLine
import SegmentBench.Proofs.Input.AtOnce
import SegmentBench.Proofs.Input.Faults
import SegmentBench.Proofs.Input.Resumed
import SegmentBench.Proofs.Input.Spelled
import SegmentBench.Proofs.Document.Ordered
import SegmentBench.Proofs.Config.Accepted
import SegmentBench.Proofs.Settings.Opening
import SegmentBench.Proofs.Settings.Steps
import SegmentBench.Proofs.Config.Variable
import SegmentBench.Proofs.Engine.Allocation
import SegmentBench.Proofs.Segment.Lockstep
import SegmentBench.Proofs.Text.Quoted
import SegmentBench.Proofs.Failure.BadInteger
import SegmentBench.Proofs.Decimal.Fields
import SegmentBench.Proofs.Decimal.Nearest
import SegmentBench.Proofs.Decimal.Fixed
import SegmentBench.Proofs.Report.Times
import SegmentBench.Needs
import SegmentBench.Proofs.Program.Needs
