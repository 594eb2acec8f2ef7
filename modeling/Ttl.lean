import Ttl.Export.Csv
import Ttl.Export.Diff
import Ttl.Export.FileName
import Ttl.Export.MetricsRead
import Ttl.Export.Stream
import Ttl.Lib.Checked
import Ttl.Lib.Hysteresis
import Ttl.Lib.OnesComplement
import Ttl.Lib.Plurality
import Ttl.Lib.Streaming
import Ttl.Lib.Text
import Ttl.Lookup.Asn
import Ttl.Lookup.CacheRegister
import Ttl.Lookup.Exchanges
import Ttl.Lookup.Expiry
import Ttl.Lookup.Ix
import Ttl.Lookup.LongestMatch
import Ttl.Lookup.Prune
import Ttl.Lookup.Worker
import Ttl.Main.Manager
import Ttl.Main.Resolve
import Ttl.Probe.Checked
import Ttl.Probe.Checksums
import Ttl.Probe.Copies
import Ttl.Probe.ExtensionObjects
import Ttl.Probe.ExtensionRoundTrip
import Ttl.Probe.Names
import Ttl.Probe.Panics
import Ttl.Probe.RoundTrip
import Ttl.Probe.Sums
import Ttl.State.Args
import Ttl.State.Asymmetry
import Ttl.State.Ecmp
import Ttl.State.Flaps
import Ttl.State.HopOrder
import Ttl.State.MtuReports
import Ttl.State.Percentiles
import Ttl.State.Primary
import Ttl.State.RateLimit
import Ttl.State.RateLimitChecked
import Ttl.State.Samples
import Ttl.State.Stats
import Ttl.State.TtlManip
import Ttl.Trace.Aggregates
import Ttl.Trace.Answered
import Ttl.Trace.Conservation
import Ttl.Trace.CrossProtocol
import Ttl.Trace.Destination
import Ttl.Trace.FlowHint
import Ttl.Trace.Isolation
import Ttl.Trace.Poll
import Ttl.Trace.Ports
import Ttl.Trace.Provenance
import Ttl.Trace.RateLimitRuns
import Ttl.Trace.Replay
import Ttl.Trace.Reset
import Ttl.Trace.SearchIntegrity
import Ttl.Trace.Sequence
import Ttl.Tui.AddTarget
import Ttl.Tui.Editor
import Ttl.Tui.Indices
import Ttl.Tui.Paused
import Ttl.Tui.Redraw
import Ttl.Tui.ReplayReset
import Ttl.Tui.ReplayState
