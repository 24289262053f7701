import BinMonitor.Bench.Sheets
import BinMonitor.Bench.Trace
import BinMonitor.Proofs.Codec
import BinMonitor.Proofs.RecordImage
import BinMonitor.Proofs.WriteBack
import BinMonitor.Proofs.QuietPeriod
import BinMonitor.Proofs.CycleParts
import BinMonitor.Proofs.Runs
import BinMonitor.Proofs.SleepSafety
import BinMonitor.Proofs.AlertResolution
import BinMonitor.Proofs.Validity
import BinMonitor.Proofs.MeasurementPasses
import BinMonitor.Proofs.TornWrites
import BinMonitor.Proofs.MemoryChips
import BinMonitor.Proofs.Diagram
import BinMonitor.Proofs.LowPower
import BinMonitor.Proofs.ErrorState
import BinMonitor.Proofs.HourlyReports
import BinMonitor.Proofs.DeviceViews
import BinMonitor.Proofs.ReportsInFlight
import BinMonitor.Proofs.StoredRecords
import BinMonitor.Proofs.ShutDown
import BinMonitor.Proofs.DueReports
import BinMonitor.Proofs.NewHours
import BinMonitor.Proofs.WakeTimes
import BinMonitor.Proofs.DailyCleanup
import BinMonitor.Proofs.CallLog
import BinMonitor.Proofs.ConnectionDurations
import BinMonitor.Proofs.RadioAttempts
import BinMonitor.Proofs.Loading
import BinMonitor.Proofs.DamagedImages
import BinMonitor.Proofs.ReportOrder
import BinMonitor.Proofs.Acknowledgements
import BinMonitor.Proofs.StartUp
import BinMonitor.Proofs.SensorFailure
import BinMonitor.Proofs.Lives
import BinMonitor.Proofs.ExcessiveResets
import BinMonitor.Proofs.PowerCycles
import BinMonitor.Proofs.NumericChanges
import BinMonitor.Proofs.RangingCycles
import BinMonitor.Proofs.QuietTicks
import BinMonitor.Proofs.Fractions
import BinMonitor.Proofs.PartialFailures
import BinMonitor.Proofs.Rounding
import BinMonitor.Proofs.SectionNesting
import BinMonitor.Proofs.CloseCalls
import BinMonitor.Proofs.ShortestDecimals
import BinMonitor.Proofs.Digits
import BinMonitor.Proofs.Payloads
import BinMonitor.Proofs.DoubleRounding
import BinMonitor.Proofs.JsonReading
import BinMonitor.Proofs.SettingsText
