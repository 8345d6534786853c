import DroidOs.Backends.Bounds
import DroidOs.Backends.CanFd
import DroidOs.Backends.CanRouting
import DroidOs.Backends.Charge
import DroidOs.Backends.Hardware
import DroidOs.Backends.PowerRequests
import DroidOs.Backends.SafetyController
import DroidOs.Backends.Simulation
import DroidOs.Backends.Unpowered
import DroidOs.Body.Loader
import DroidOs.Body.Package
import DroidOs.Body.Selection
import DroidOs.Body.SelectionFile
import DroidOs.Cli.Console
import DroidOs.Cli.Modes
import DroidOs.Core.AuditFile
import DroidOs.Core.Config
import DroidOs.Core.Context
import DroidOs.Core.Events
import DroidOs.Core.Keys
import DroidOs.Core.Numbers
import DroidOs.Core.States
import DroidOs.Core.Values
import DroidOs.Core.Words
import DroidOs.Executive.BehaviourTree
import DroidOs.Executive.CalmRun
import DroidOs.Executive.Drive
import DroidOs.Executive.DriveRun
import DroidOs.Executive.Forgetting
import DroidOs.Executive.PowerRelease
import DroidOs.Executive.RunIntent
import DroidOs.Executive.ScriptedWorld
import DroidOs.Executive.Tools
import DroidOs.Firmware.ContactorLaw
import DroidOs.Firmware.Controller
import DroidOs.Firmware.FrameCheck
import DroidOs.Firmware.InputHistory
import DroidOs.Firmware.Protocol
import DroidOs.Firmware.RealTime
import DroidOs.Firmware.SilenceLaw
import DroidOs.Firmware.StatusSchedule
import DroidOs.Gait.Policy
import DroidOs.Language.Approval
import DroidOs.Language.BrokenOff
import DroidOs.Language.Broker
import DroidOs.Language.Conversation
import DroidOs.Language.Dispatch
import DroidOs.Language.FirstObject
import DroidOs.Language.Intent
import DroidOs.Language.OfflineParser
import DroidOs.Language.PlaceNames
import DroidOs.Language.Punctuation
import DroidOs.Language.Renderer
import DroidOs.Language.Rendering
import DroidOs.Language.Reply
import DroidOs.Language.Rules
import DroidOs.Language.SafetyFacts
import DroidOs.Language.Slots
import DroidOs.Language.TemperatureReport
import DroidOs.Language.Users
import DroidOs.Language.Utterance
import DroidOs.Language.Wording
import DroidOs.Lib.Acyclic
import DroidOs.Lib.Crc
import DroidOs.Lib.Dict
import DroidOs.Lib.History
import DroidOs.Lib.Interleaving
import DroidOs.Lib.Json
import DroidOs.Lib.JsonAppend
import DroidOs.Lib.JsonDumps
import DroidOs.Lib.JsonLoads
import DroidOs.Lib.JsonText
import DroidOs.Lib.JsonTorn
import DroidOs.Lib.LooseKeys
import DroidOs.Lib.Matching
import DroidOs.Lib.Padded
import DroidOs.Lib.Phases
import DroidOs.Lib.Procedure
import DroidOs.Lib.Ranking
import DroidOs.Lib.Regex
import DroidOs.Lib.Rely
import DroidOs.Lib.Restart
import DroidOs.Lib.Selection
import DroidOs.Lib.TextLines
import DroidOs.Lib.Wildcards
import DroidOs.Rocky.Ask
import DroidOs.Rocky.Audit
import DroidOs.Rocky.AutoRun
import DroidOs.Rocky.DeskAccounts
import DroidOs.Rocky.DeskLaw
import DroidOs.Rocky.Executor
import DroidOs.Rocky.Memory
import DroidOs.Rocky.MemorySearch
import DroidOs.Rocky.Pipeline
import DroidOs.Rocky.Policy
import DroidOs.Rocky.Programs
import DroidOs.Rocky.SharedDesk
import DroidOs.Rocky.SimpleYaml
import DroidOs.Rocky.Tightening
import DroidOs.Services.ActivationOrder
import DroidOs.Services.Attempts
import DroidOs.Services.BootLaw
import DroidOs.Services.BundleFiles
import DroidOs.Services.CleanStart
import DroidOs.Services.DependencyLaw
import DroidOs.Services.Diagnostics
import DroidOs.Services.FaultSources
import DroidOs.Services.HookLaw
import DroidOs.Services.Inhibition
import DroidOs.Services.Lifecycle
import DroidOs.Services.LifecycleProtocol
import DroidOs.Services.Memory
import DroidOs.Services.Perception
import DroidOs.Services.Readiness
import DroidOs.Services.SafetyGateway
import DroidOs.Services.Supervisor
import DroidOs.Services.Update
import DroidOs.Services.UpdateSlots
import DroidOs.Services.WorldModel
import DroidOs.System.BodyLaw
import DroidOs.System.Boot
import DroidOs.System.BootReport
import DroidOs.System.Confirmation
import DroidOs.System.DiagnosticAgreement
import DroidOs.System.Docking
import DroidOs.System.DriveGate
import DroidOs.System.DriveLimits
import DroidOs.System.FaultReports
import DroidOs.System.Furnished
import DroidOs.System.GuestLaw
import DroidOs.System.HookFailures
import DroidOs.System.Interruptions
import DroidOs.System.JointTargets
import DroidOs.System.LatchContents
import DroidOs.System.LatchLaw
import DroidOs.System.LatchPersistence
import DroidOs.System.MotionReport
import DroidOs.System.OfflineDroid
import DroidOs.System.Operations
import DroidOs.System.Outlook
import DroidOs.System.Pacing
import DroidOs.System.PackageLaw
import DroidOs.System.PowerCopies
import DroidOs.System.PowerDown
import DroidOs.System.PowerGrants
import DroidOs.System.PoweredStates
import DroidOs.System.Registration
import DroidOs.System.RejectedBodies
import DroidOs.System.Replies
import DroidOs.System.ReportDrift
import DroidOs.System.Restarts
import DroidOs.System.SafetyCommands
import DroidOs.System.SentVelocities
import DroidOs.System.Serving
import DroidOs.System.SharedFiles
import DroidOs.System.SharedLatch
import DroidOs.System.Simulated
import DroidOs.System.StateGraph
import DroidOs.System.StepLaw
import DroidOs.System.StopEffects
import DroidOs.System.StopPhrases
import DroidOs.System.StrayGoals
import DroidOs.System.TaskFrame
import DroidOs.System.TaskIds
import DroidOs.System.TaskLaw
import DroidOs.System.TaskRecords
import DroidOs.System.TaskSteps
import DroidOs.System.UpToDate
import DroidOs.System.VoiceLaw
import DroidOs.System.WorldLaw
import DroidOs.Util.Characters
import DroidOs.Util.CommentLaw
import DroidOs.Util.CommentText
import DroidOs.Util.ConsumedLines
import DroidOs.Util.DroppedLines
import DroidOs.Util.DumpedText
import DroidOs.Util.Indexed
import DroidOs.Util.IndexedRun
import DroidOs.Util.Leaves
import DroidOs.Util.Legible
import DroidOs.Util.LineRoles
import DroidOs.Util.MiniYaml
import DroidOs.Util.NearLines
import DroidOs.Util.Parsed
import DroidOs.Util.RoundTrip
import DroidOs.Util.Sources
import DroidOs.Util.TidyLines
import DroidOs.Util.WrittenLines
