import DaemonWatch.Text.Utf8
import DaemonWatch.Json.Tree
import DaemonWatch.Json.Printer
import DaemonWatch.Tick
import DaemonWatch.Rehearsal
import DaemonWatch.Signals
import DaemonWatch.Liveness
import DaemonWatch.PollLoop.Settling
import DaemonWatch.Proofs.Course
import DaemonWatch.Config
import DaemonWatch.Client
import DaemonWatch.Address.Use
import DaemonWatch.TrayLog
import DaemonWatch.Console
import DaemonWatch.Proofs.Pause
import DaemonWatch.Proofs.Timetable
import DaemonWatch.Proofs.TickSteps
import DaemonWatch.Proofs.Polling
import DaemonWatch.Proofs.ChannelView
import DaemonWatch.Proofs.TickShape
import DaemonWatch.Proofs.Session
import DaemonWatch.Proofs.Independence
import DaemonWatch.Proofs.ErrorList
import DaemonWatch.Proofs.CallRecord
import DaemonWatch.Proofs.Connectivity
import DaemonWatch.Proofs.BackOff
import DaemonWatch.Proofs.NotificationKinds
import DaemonWatch.Proofs.Handling
import DaemonWatch.Proofs.Settings
import DaemonWatch.Proofs.Silence
import DaemonWatch.Proofs.Occasions
import DaemonWatch.Proofs.ReportOutcomes
import DaemonWatch.Proofs.DeletionReplies
import DaemonWatch.Proofs.JsonText
import DaemonWatch.Proofs.Utf8
import DaemonWatch.Proofs.ReportOnWire
import DaemonWatch.Proofs.NotificationFields
import DaemonWatch.Proofs.JsonRecord
import DaemonWatch.Proofs.ReplyClasses
import DaemonWatch.Proofs.Signals
import DaemonWatch.Proofs.Resuming
import DaemonWatch.Proofs.BackPressure
import DaemonWatch.Proofs.ConfigText
import DaemonWatch.Proofs.DeletionSentence
import DaemonWatch.Proofs.DeletionText
import DaemonWatch.Proofs.CommitLines
import DaemonWatch.Proofs.TrayErrors
import DaemonWatch.Proofs.JsonSpelling
import DaemonWatch.Proofs.RequestText
import DaemonWatch.Proofs.JsonGrammar
import DaemonWatch.Proofs.ConfigFormat
import DaemonWatch.Proofs.TextLines
import DaemonWatch.Proofs.ConsoleLines
import DaemonWatch.Proofs.Accounts
import DaemonWatch.Proofs.Lockstep
import DaemonWatch.Proofs.LinkOutcomes
import DaemonWatch.Proofs.CutReplies
import DaemonWatch.Proofs.LinkCommands
import DaemonWatch.Proofs.EventMemo
import DaemonWatch.Proofs.PayloadMembers
import DaemonWatch.Proofs.Rounding
import DaemonWatch.Proofs.IntegerFields
import DaemonWatch.Proofs.StatusPayload
import DaemonWatch.Proofs.Ages
import DaemonWatch.Proofs.PathParts
import DaemonWatch.Proofs.MoveFolder
