import HealthAgent.Agent.Run
import HealthAgent.Agent.Start
import HealthAgent.Alert.Draft
import HealthAgent.Alert.Kind
import HealthAgent.Alert.Listing
import HealthAgent.Alert.Record
import HealthAgent.Alert.Sink
import HealthAgent.Calendar.Date
import HealthAgent.Calendar.EventTime
import HealthAgent.Calendar.Zone
import HealthAgent.CommandLine
import HealthAgent.Config.Basic
import HealthAgent.Config.Decode
import HealthAgent.Config.Load
import HealthAgent.Config.Validate
import HealthAgent.Dict
import HealthAgent.Enclosure.FaultMap
import HealthAgent.Enclosure.FaultStore
import HealthAgent.Enclosure.Sensor
import HealthAgent.Enclosure.Service
import HealthAgent.Enclosure.Status
import HealthAgent.EventLog.Device
import HealthAgent.EventLog.Draft
import HealthAgent.EventLog.Entry
import HealthAgent.EventLog.Plan
import HealthAgent.EventLog.Sensor
import HealthAgent.EventLog.SensorNumbers
import HealthAgent.EventLog.Usage
import HealthAgent.Files.Path
import HealthAgent.Files.Request
import HealthAgent.Files.Tree
import HealthAgent.Host.Model
import HealthAgent.Host.Request
import HealthAgent.Ipmi.Listing
import HealthAgent.Ipmi.Properties
import HealthAgent.Ipmi.Request
import HealthAgent.Ipmi.Tool
import HealthAgent.Json.Basic
import HealthAgent.Json.Decode
import HealthAgent.Json.Parser
import HealthAgent.Json.Pick
import HealthAgent.Json.Printer
import HealthAgent.Main
import HealthAgent.Number.Binary64
import HealthAgent.Number.Digits
import HealthAgent.Number.Shortest
import HealthAgent.Program
import HealthAgent.Proofs.EventLog.Surroundings
import HealthAgent.Proofs.Program.Runs
import HealthAgent.Proofs.Program.Twins
import HealthAgent.Schedule.Scheduler
import HealthAgent.Schedule.Thread
import HealthAgent.Sensor.Request
import HealthAgent.SourceError
import HealthAgent.State.File
import HealthAgent.State.LogStore
import HealthAgent.Text.Blank
import HealthAgent.Text.Cut
import HealthAgent.Text.Lines
import HealthAgent.Text.Printable
import HealthAgent.Text.Quoted
import HealthAgent.Text.Ranges
import HealthAgent.Text.Utf8
import HealthAgent.Toml.Parser
import HealthAgent.Toml.Value
import HealthAgent.Url.Address
import HealthAgent.Url.Basic
import HealthAgent.Url.Composed
import HealthAgent.Url.Direction
import HealthAgent.Url.Domain
import HealthAgent.Url.DomainTable
import HealthAgent.Url.Host
import HealthAgent.Url.Joiner
import HealthAgent.Url.Mark
import HealthAgent.Url.MarkTable
import HealthAgent.Url.Parser
import HealthAgent.Url.Percent
import HealthAgent.Url.Punycode
import HealthAgent.Proofs.Number.Hex
import HealthAgent.Proofs.EventLog.Store
import HealthAgent.Proofs.EventLog.Acts
import HealthAgent.Proofs.EventLog.Parts
import HealthAgent.Proofs.EventLog.Start
import HealthAgent.Proofs.EventLog.Coverage
import HealthAgent.Proofs.EventLog.Upkeep
import HealthAgent.Proofs.EventLog.Lifetimes
import HealthAgent.Proofs.EventLog.Replies
import HealthAgent.Proofs.EventLog.CrashSafety
import HealthAgent.Proofs.EventLog.Clearing
import HealthAgent.Proofs.EventLog.Completed
import HealthAgent.Proofs.EventLog.InOrder
import HealthAgent.Proofs.EventLog.Rotation
import HealthAgent.Proofs.EventLog.Backlog
import HealthAgent.Proofs.EventLog.Separation
import HealthAgent.Proofs.EventLog.ClearCrash
import HealthAgent.Proofs.EventLog.CursorFile
import HealthAgent.Proofs.EventLog.FixedReplies
import HealthAgent.Proofs.Json.Scalar
import HealthAgent.Proofs.Json.Spelling
import HealthAgent.Proofs.Json.Picking
import HealthAgent.Proofs.Json.Canonical
import HealthAgent.Proofs.Alert.Streams
import HealthAgent.Proofs.Enclosure.FaultFile
import HealthAgent.Proofs.Enclosure.Site
import HealthAgent.Proofs.Enclosure.Units
import HealthAgent.Proofs.Enclosure.Cycle
import HealthAgent.Proofs.Enclosure.Restarts
import HealthAgent.Proofs.Enclosure.Crash
import HealthAgent.Proofs.Enclosure.Course
import HealthAgent.Proofs.Enclosure.Durability
import HealthAgent.Proofs.Enclosure.Snapshots
import HealthAgent.Proofs.EventLog.Interruption
import HealthAgent.Proofs.EventLog.Repetition
import HealthAgent.Proofs.EventLog.Recovery
import HealthAgent.Proofs.EventLog.Tailing
import HealthAgent.Proofs.Schedule.Turns
import HealthAgent.Proofs.Schedule.Crew
import HealthAgent.Proofs.Schedule.Interleaving
import HealthAgent.Proofs.Number.NotANumber
import HealthAgent.Proofs.EventLog.UsageCheck
import HealthAgent.Proofs.EventLog.Tasks
import HealthAgent.Proofs.EventLog.Stages
import HealthAgent.Proofs.EventLog.Aborted
import HealthAgent.Proofs.EventLog.Drafts
import HealthAgent.Proofs.EventLog.Subject
import HealthAgent.Proofs.EventLog.Thresholds
import HealthAgent.Proofs.EventLog.Debounce
import HealthAgent.Proofs.EventLog.Reports
import HealthAgent.Proofs.EventLog.Readings
import HealthAgent.Proofs.EventLog.Endings
import HealthAgent.Proofs.Program.Exchanges
import HealthAgent.Proofs.Sensor.Shutdown
import HealthAgent.Proofs.Enclosure.Unusable
import HealthAgent.Proofs.Enclosure.Reopening
import HealthAgent.Proofs.Text.Padding
import HealthAgent.Proofs.Text.Lines
import HealthAgent.Proofs.Text.Cuts
import HealthAgent.Proofs.Number.Numeral
import HealthAgent.Proofs.State.LastWritten
import HealthAgent.Proofs.EventLog.LineForm
import HealthAgent.Proofs.EventLog.SensorNames
import HealthAgent.Proofs.Ipmi.Descriptions
import HealthAgent.Proofs.EventLog.UsageEstimate
import HealthAgent.Proofs.Text.Words
import HealthAgent.Proofs.Text.Encoding
import HealthAgent.Proofs.Json.BrokenOff
import HealthAgent.Proofs.Alert.Listings
import HealthAgent.Proofs.Alert.Envelopes
import HealthAgent.Proofs.Alert.BrokenLines
