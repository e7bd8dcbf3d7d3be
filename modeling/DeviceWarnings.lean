import DeviceWarnings.Main
import DeviceWarnings.Proofs.Poll
import DeviceWarnings.Rehearsal
import DeviceWarnings.Proofs.Run
import DeviceWarnings.Proofs.Alternation
import DeviceWarnings.Proofs.Order
import DeviceWarnings.Proofs.LowBattery
import DeviceWarnings.Proofs.Dismissal
import DeviceWarnings.Proofs.Rounding
import DeviceWarnings.Proofs.Frame
import DeviceWarnings.Proofs.Temperatures
import DeviceWarnings.Proofs.Hysteresis
import DeviceWarnings.Proofs.Events
import DeviceWarnings.Proofs.Completion
import DeviceWarnings.Proofs.Soundness
import DeviceWarnings.Proofs.Insulation
import DeviceWarnings.Proofs.Reports
import DeviceWarnings.Proofs.JsonReading
import DeviceWarnings.Proofs.SettingsFile
import DeviceWarnings.Proofs.PowerCommands
import DeviceWarnings.Proofs.Gaps
import DeviceWarnings.Proofs.Independence
import DeviceWarnings.Proofs.Hotter
import DeviceWarnings.Proofs.Recovery
import DeviceWarnings.Proofs.Questions
import DeviceWarnings.Proofs.EventLog
import DeviceWarnings.Proofs.Statistics
import DeviceWarnings.Proofs.Windows
import DeviceWarnings.Proofs.Serial
import DeviceWarnings.Proofs.OneLoop
import DeviceWarnings.Proofs.Overlay
import DeviceWarnings.Proofs.Buckets
import DeviceWarnings.Proofs.Severity
import DeviceWarnings.Proofs.ReportReading
import DeviceWarnings.Proofs.Registration
import DeviceWarnings.Proofs.Zones
import DeviceWarnings.Proofs.History
import DeviceWarnings.Proofs.TripPoints
import DeviceWarnings.Proofs.SensorReads
