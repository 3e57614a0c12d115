import OnboardAutonomy.Binary64
import OnboardAutonomy.MavlinkMessage
import OnboardAutonomy.TimedLog
import OnboardAutonomy.MavlinkDecoder
import OnboardAutonomy.SessionModel
import OnboardAutonomy.SessionRefinement
import OnboardAutonomy.SessionIsolation
import OnboardAutonomy.Readiness
import OnboardAutonomy.CompanionLinkFailsafe
import OnboardAutonomy.FailsafeVerdict
import OnboardAutonomy.MavlinkEncoder
import OnboardAutonomy.TelemetryStreamConfigurator
import OnboardAutonomy.TelemetryAgreement
import OnboardAutonomy.AppSnapshot
import OnboardAutonomy.CompanionApplication
import OnboardAutonomy.CompanionCore
import OnboardAutonomy.ObservationOnly
import OnboardAutonomy.ForeignFrames
import OnboardAutonomy.SessionAgreement
import OnboardAutonomy.OutboundFraming
import OnboardAutonomy.UdpReplyAddress
import OnboardAutonomy.Json
import OnboardAutonomy.SnapshotJson
import OnboardAutonomy.JsonDiagnostics
import OnboardAutonomy.ChangeLog
import OnboardAutonomy.EventDelivery
import OnboardAutonomy.Pacing
import OnboardAutonomy.PollTimers
import OnboardAutonomy.HeartbeatCadence
import OnboardAutonomy.FromChars
import OnboardAutonomy.CommandLine
import OnboardAutonomy.CommandLineGrammar
import OnboardAutonomy.LaunchRules
import OnboardAutonomy.LaunchStates
import OnboardAutonomy.LaunchAdapters
import OnboardAutonomy.Mailbox
import OnboardAutonomy.CameraSource
import OnboardAutonomy.CameraMonitor
import OnboardAutonomy.FrameConservation
import OnboardAutonomy.PreviewPipeline
import OnboardAutonomy.RpicamCapture
import OnboardAutonomy.CaptureTimestamps
import OnboardAutonomy.Retention
import OnboardAutonomy.LogRotation
import OnboardAutonomy.ActiveLog
import OnboardAutonomy.TelemetrySetup
import OnboardAutonomy.ArmingThreshold
import OnboardAutonomy.BatteryInstances
import OnboardAutonomy.PreviewServer
import OnboardAutonomy.FrameSizes
import OnboardAutonomy.PreviewStore
import OnboardAutonomy.LogRetention
import OnboardAutonomy.StreamedLogs
import OnboardAutonomy.FailsafePolling
import OnboardAutonomy.Wrapping
import OnboardAutonomy.ConsoleView
import OnboardAutonomy.ConsoleLayout
import OnboardAutonomy.ControlCharacters
import OnboardAutonomy.ConsoleText
import OnboardAutonomy.TerminalSafety
import OnboardAutonomy.LineReader
import OnboardAutonomy.Ownership
import OnboardAutonomy.ChildProcess
import OnboardAutonomy.PosixSerialTransport
import OnboardAutonomy.FrameWallClock
import OnboardAutonomy.YoloXOutputDecoder
import OnboardAutonomy.Selection
import OnboardAutonomy.YoloXDecoding
import OnboardAutonomy.TargetGeometry
import OnboardAutonomy.BoardTypeCatalog
import OnboardAutonomy.Rounding
import OnboardAutonomy.JsonAccess
import OnboardAutonomy.CameraCalibrationLoader
import OnboardAutonomy.Blocks
import OnboardAutonomy.GStreamerCapture
import OnboardAutonomy.VideoStream
import OnboardAutonomy.StallDetection
import OnboardAutonomy.CaptureFailures
import OnboardAutonomy.CaptureStop
import OnboardAutonomy.Histories
import OnboardAutonomy.RunnerLoop
import OnboardAutonomy.RunnerStop
import OnboardAutonomy.RunnerSchedule
import OnboardAutonomy.Terminal
import OnboardAutonomy.ConsoleSnapshotSink
import OnboardAutonomy.Attempts
import OnboardAutonomy.TargetDetector
import OnboardAutonomy.TargetReports
import OnboardAutonomy.ProgramLifecycle
import OnboardAutonomy.Decimals
import OnboardAutonomy.JsonLayouts
import OnboardAutonomy.DiagnosticLog
import OnboardAutonomy.CalibrationReading
import OnboardAutonomy.PreviewPage
import OnboardAutonomy.Rasters
import OnboardAutonomy.PreviewShown
import OnboardAutonomy.RunningStatistics
import OnboardAutonomy.CameraStatistics
