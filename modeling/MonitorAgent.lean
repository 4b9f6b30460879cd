import MonitorAgent.Text.Space
import MonitorAgent.Text.Span
import MonitorAgent.Text.Case
import MonitorAgent.Text.Cut
import MonitorAgent.Text.DecimalDigit
import MonitorAgent.Text.Word
import MonitorAgent.Text.Printable
import MonitorAgent.Decimal.Text
import MonitorAgent.Decimal.Reader
import MonitorAgent.Threshold.Reader
import MonitorAgent.Threshold.Compare
import MonitorAgent.Threshold.Grammar
import MonitorAgent.Check.Tally
import MonitorAgent.Check.Registry
import MonitorAgent.Host.Size
import MonitorAgent.Duration.Reader
import MonitorAgent.Calendar
import MonitorAgent.Host.State
import MonitorAgent.Host.LoadHistory
import MonitorAgent.Probe.Standard
import MonitorAgent.Nrpe.Stream
import MonitorAgent.Nrpe.Command
import MonitorAgent.Nrpe.Policy
import MonitorAgent.Telemetry.Gauges
import MonitorAgent.Telemetry.Exposition
import MonitorAgent.Nrpe.Client
import MonitorAgent.Agent
import MonitorAgent.Daemon
import MonitorAgent.Session
import MonitorAgent.CommandLine.Invocation
import MonitorAgent.Config.Reader
import MonitorAgent.Main
import MonitorAgent.Proofs.BurstDetection
import MonitorAgent.Proofs.Utf8RoundTrip
import MonitorAgent.Proofs.CommandRoundTrip
import MonitorAgent.Proofs.FrameReading
import MonitorAgent.Proofs.Connections
import MonitorAgent.Proofs.QueryRoundTrip
import MonitorAgent.Proofs.HandlerCalls
import MonitorAgent.Proofs.SuccessiveReads
import MonitorAgent.Proofs.FrameImage
import MonitorAgent.Proofs.Series
import MonitorAgent.Proofs.Moments
import MonitorAgent.Proofs.Accounting
import MonitorAgent.Proofs.ExpositionLines
import MonitorAgent.Proofs.Ledger
import MonitorAgent.Proofs.OperatorReading
import MonitorAgent.Proofs.QuantityReading
import MonitorAgent.Proofs.ThresholdReading
import MonitorAgent.Proofs.TallyReport
import MonitorAgent.Proofs.ArgumentReading
import MonitorAgent.Proofs.CollectedRates
import MonitorAgent.Proofs.LoadWindow
import MonitorAgent.Proofs.ProbeAborts
import MonitorAgent.Proofs.LatestValues
import MonitorAgent.Proofs.Families
import MonitorAgent.Proofs.Gauges
import MonitorAgent.Proofs.Isolation
import MonitorAgent.Proofs.FrontEnds
import MonitorAgent.Proofs.NumberReading
import MonitorAgent.Proofs.QuotedText
import MonitorAgent.Proofs.ThresholdErrors
import MonitorAgent.Proofs.CountThresholds
import MonitorAgent.Proofs.TemplateScan
import MonitorAgent.Proofs.ResponseReport
import MonitorAgent.Proofs.AllowedHosts
import MonitorAgent.Proofs.Retention
import MonitorAgent.Proofs.ReportedTraffic
import MonitorAgent.Proofs.ProcessReport
import MonitorAgent.Proofs.MetricLevels
import MonitorAgent.Proofs.TruncatedText
import MonitorAgent.Proofs.ThresholdDisplay
import MonitorAgent.Proofs.HostSelection
import MonitorAgent.Proofs.PercentLevels
import MonitorAgent.Proofs.LoadReport
import MonitorAgent.Proofs.SizeText
