import PackageVerification.Json.Parser
import PackageVerification.Json.Printer
import PackageVerification.Main
import PackageVerification.Service.Report
import PackageVerification.Service.Request
import PackageVerification.Totals
import PackageVerification.Tracker.Snapshot
import PackageVerification.Proofs.ArrivalOrder
import PackageVerification.Proofs.FinalVerdict
import PackageVerification.Proofs.History
import PackageVerification.Proofs.Isolation
import PackageVerification.Proofs.Registration
import PackageVerification.Proofs.JsonText
import PackageVerification.Proofs.Snapshot
import PackageVerification.Proofs.AxisReport
import PackageVerification.Proofs.Refusal
import PackageVerification.Proofs.Deadline
import PackageVerification.Proofs.Turns
import PackageVerification.Proofs.QuietTicks
import PackageVerification.Proofs.Underway
import PackageVerification.Proofs.ReplayEnds
import PackageVerification.Proofs.TickPeriod
import PackageVerification.Proofs.Indifference
import PackageVerification.Proofs.Balance
import PackageVerification.Proofs.Rejection
import PackageVerification.Proofs.Dispositions
import PackageVerification.Proofs.Ticks
import PackageVerification.Proofs.Extension
import PackageVerification.Proofs.TimeOut
import PackageVerification.Proofs.AuditLog
import PackageVerification.Proofs.SameRoster
import PackageVerification.Proofs.ReplayFaults
import PackageVerification.Proofs.ConfigurationText
import PackageVerification.Proofs.AnswerText
import PackageVerification.Proofs.WellFormed
import PackageVerification.Proofs.EffectiveConfiguration
