import SchedLatency.Text.Lines
import SchedLatency.Text.Numeral
import SchedLatency.Text.Quoted
import SchedLatency.Text.Utf8
import SchedLatency.Error
import SchedLatency.Sample
import SchedLatency.Journal
import SchedLatency.Log
import SchedLatency.Stats
import SchedLatency.Config
import SchedLatency.Report
import SchedLatency.Command
import SchedLatency.Runner
import SchedLatency.Main
import SchedLatency.Proofs.Accounting
import SchedLatency.Proofs.OrderStatistics
import SchedLatency.Proofs.Course
import SchedLatency.Proofs.Phases
import SchedLatency.Proofs.Protocol
import SchedLatency.Proofs.Verdict
import SchedLatency.Proofs.MissingProgram
import SchedLatency.Proofs.LineLanguage
import SchedLatency.Proofs.Splicing
import SchedLatency.Proofs.Transcript
import SchedLatency.Proofs.LineOrder
import SchedLatency.Proofs.SuccessLog
import SchedLatency.Proofs.LoadEnding
import SchedLatency.Proofs.Sessions
import SchedLatency.Proofs.Encoding
import SchedLatency.Proofs.Delivery
import SchedLatency.Proofs.SameCapture
import SchedLatency.Proofs.CoreNumbers
import SchedLatency.Proofs.Footprint
import SchedLatency.Proofs.Readiness
import SchedLatency.Proofs.CoreKinds
import SchedLatency.Proofs.LoadLeft
import SchedLatency.Proofs.LoadTimeout
import SchedLatency.Proofs.CommandLines
import SchedLatency.Proofs.ReportReading
import SchedLatency.Proofs.Shortfalls
import SchedLatency.Proofs.RankOverflow
import SchedLatency.Proofs.CountDecision
