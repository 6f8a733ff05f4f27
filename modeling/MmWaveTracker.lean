import MmWaveTracker.ByteOrder
import MmWaveTracker.Packet
import MmWaveTracker.Timestamp
import MmWaveTracker.JavaInt
import MmWaveTracker.JavaText
import MmWaveTracker.AckLoop
import MmWaveTracker.Uplink
import MmWaveTracker.ProbeLink
import MmWaveTracker.UplinkLog
import MmWaveTracker.RelativeTime
import MmWaveTracker.RunClient
import MmWaveTracker.SendDuration
import MmWaveTracker.CString
import MmWaveTracker.RrcProbe
import MmWaveTracker.RrcReply
import MmWaveTracker.RrcVerdict
import MmWaveTracker.IStream
import MmWaveTracker.NetworkStat
import MmWaveTracker.JavaMethod
import MmWaveTracker.Config
import MmWaveTracker.Handoff
import MmWaveTracker.Platform
import MmWaveTracker.Report
import MmWaveTracker.SessionSummary
import MmWaveTracker.Device
import MmWaveTracker.Sampler
import MmWaveTracker.ProcessReport
import MmWaveTracker.ReportRow
import MmWaveTracker.CellLists
import MmWaveTracker.TechnologyReading
import MmWaveTracker.SamplingLoop
import MmWaveTracker.HandoffChain
import MmWaveTracker.FailedSample
import MmWaveTracker.SessionCoupling
import MmWaveTracker.SessionIsolation
import MmWaveTracker.FileStore
import MmWaveTracker.TrackerLog
import MmWaveTracker.PartSize
import MmWaveTracker.Towers
import MmWaveTracker.Throughput
import MmWaveTracker.SinceBoot
import MmWaveTracker.TimeIn5G
import MmWaveTracker.SummaryRow
import MmWaveTracker.EventRun
import MmWaveTracker.DeviceHistory
import MmWaveTracker.Tracing
import MmWaveTracker.TracingInvariants
import MmWaveTracker.SessionClosing
import MmWaveTracker.InFlight
import MmWaveTracker.OneSampler
import MmWaveTracker.SummaryLog
import MmWaveTracker.SessionFiles
import MmWaveTracker.CsvFiles
import MmWaveTracker.Iperf
import MmWaveTracker.IperfRuns
import MmWaveTracker.IperfStop
import MmWaveTracker.RunNumber
import MmWaveTracker.IperfTimeLine
import MmWaveTracker.PacketRow
import MmWaveTracker.DatagramHandling
import MmWaveTracker.Iperf3Handle
import MmWaveTracker.IperfHosts
import MmWaveTracker.IperfSummary
import MmWaveTracker.IperfStall
import MmWaveTracker.IperfRows
import MmWaveTracker.SpeedWindows
import MmWaveTracker.CoverageMap
import MmWaveTracker.RunLabel
import MmWaveTracker.DeviceSettings
import MmWaveTracker.FreshInstall
import MmWaveTracker.PingReport
import MmWaveTracker.Permissions
import MmWaveTracker.CJson
import MmWaveTracker.CJsonRoundTrip
import MmWaveTracker.CJsonParsed
import MmWaveTracker.BlockReader
import MmWaveTracker.JsonFrames
import MmWaveTracker.IperfParameters
import MmWaveTracker.IperfNegotiation
import MmWaveTracker.IperfResults
import MmWaveTracker.IperfExchange
import MmWaveTracker.LinkedCells
import MmWaveTracker.IperfTimer
import MmWaveTracker.IperfTimerList
import MmWaveTracker.IperfTimerRuns
import MmWaveTracker.IperfTimerReach
import MmWaveTracker.ScriptQueue
import MmWaveTracker.IperfControl
import MmWaveTracker.IperfConversation
import MmWaveTracker.IperfControlRuns
import MmWaveTracker.IperfControlServer
import MmWaveTracker.IperfControlSteps
import MmWaveTracker.IperfControlSafety
import MmWaveTracker.IperfControlProgress
