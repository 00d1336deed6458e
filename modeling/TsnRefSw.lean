import TsnRefSw.Core.Lts
import TsnRefSw.Core.Bytes
import TsnRefSw.Core.Blocks
import TsnRefSw.Core.Ring
import TsnRefSw.Core.Fifo
import TsnRefSw.Tsq.Payload
import TsnRefSw.Tsq.Listener.Basic
import TsnRefSw.Tsq.Listener.History
import TsnRefSw.Tsq.Listener.Comparison
import TsnRefSw.Tsq.Listener.Realignment
import TsnRefSw.Tsq.Talker
import TsnRefSw.Tsq.Framing.Basic
import TsnRefSw.Tsq.Framing.Soundness
import TsnRefSw.Tsq.Framing.NoLoss
import TsnRefSw.Txrx.Options
import TsnRefSw.Txrx.Afxdp.Xsk
import TsnRefSw.Txrx.Afxdp.Send
import TsnRefSw.Txrx.Afxdp.Ownership
import TsnRefSw.Txrx.Afxdp.Wedge
import TsnRefSw.Txrx.Afxdp.Overlap
import TsnRefSw.Txrx.Afxdp.Accounting
import TsnRefSw.Txrx.Afxdp.Receive
import TsnRefSw.Txrx.Afxdp.FillRing
import TsnRefSw.Opcua.DataSource
import TsnRefSw.Opcua.Duplicates
import TsnRefSw.Opcua.Shapes
import TsnRefSw.Opcua.RoundTrip.Basic
import TsnRefSw.Opcua.RoundTrip.Numbers
import TsnRefSw.Opcua.RoundTrip.Coherence
import TsnRefSw.Opcua.RoundTrip.Shutdown
import TsnRefSw.Opcua.Configuration
import TsnRefSw.Opcua.Setup
import TsnRefSw.Opcua.Identifiers
import TsnRefSw.Opcua.Connections
import TsnRefSw.Opcua.Layers
import TsnRefSw.Core.Clock
import TsnRefSw.Opcua.Phases
import TsnRefSw.Opcua.Timing
import TsnRefSw.Core.Text
import TsnRefSw.Report.Losses
import TsnRefSw.Plugin.XdpReceive
import TsnRefSw.Txrx.Arguments
import TsnRefSw.Txrx.Afpkt.Send
import TsnRefSw.Txrx.Schedule
import TsnRefSw.Txrx.Afpkt.Receive
import TsnRefSw.Txrx.Afpkt.EndToEnd
import TsnRefSw.Txrx.Afxdp.Link
import TsnRefSw.Txrx.Afxdp.EndToEnd
import TsnRefSw.Txrx.EndToEnd
import TsnRefSw.Opcua.Published
import TsnRefSw.Opcua.Stopping
import TsnRefSw.Opcua.Alone
import TsnRefSw.Opcua.Interference
import TsnRefSw.Opcua.Forwarding
import TsnRefSw.Core.Ledger
import TsnRefSw.Core.Prog
import TsnRefSw.Core.Slots
import TsnRefSw.Opcua.Resources.Basic
import TsnRefSw.Opcua.Resources.Owned
import TsnRefSw.Opcua.Resources.Acquired
import TsnRefSw.Opcua.Resources.Settled
import TsnRefSw.Txrx.Leaks
import TsnRefSw.Txrx.Logged
import TsnRefSw.Tsq.Events
import TsnRefSw.Tsq.Listener.Closed
import TsnRefSw.Core.Statistics
import TsnRefSw.Report.Deviation
import TsnRefSw.Report.ReturnTrip
import TsnRefSw.Core.Command
import TsnRefSw.Core.Emit
import TsnRefSw.GenSetup.Value
import TsnRefSw.GenSetup.Script
import TsnRefSw.GenSetup.Taprio
import TsnRefSw.GenSetup.Shapers
import TsnRefSw.GenSetup.Main
import TsnRefSw.GenSetup.Failures
import TsnRefSw.Core.Sort
import TsnRefSw.Shell.Qdiscs
import TsnRefSw.Txrx.Numerals
import TsnRefSw.Tsq.Arguments
import TsnRefSw.Txrx.Addresses
import TsnRefSw.Cli.Options
import TsnRefSw.Plugin.XdpSend
import TsnRefSw.Plugin.XdpMessages
import TsnRefSw.Core.Lossy
import TsnRefSw.Plugin.Link
import TsnRefSw.Plugin.Publisher
import TsnRefSw.Plugin.Subscriber
import TsnRefSw.Plugin.EndToEnd
import TsnRefSw.Tsq.Startup
import TsnRefSw.Tsq.Measurement
import TsnRefSw.Opcua.Publishers
import TsnRefSw.Txrx.Readings
import TsnRefSw.Report.Transmission
import TsnRefSw.Opcua.OneWay
import TsnRefSw.Report.OneWay
import TsnRefSw.Opcua.Lifecycle
import TsnRefSw.Core.File
import TsnRefSw.Shell.TimeLog
import TsnRefSw.Core.Cmsg
import TsnRefSw.Txrx.Afpkt.Timestamps
import TsnRefSw.Txrx.Afpkt.TransmitTimes
import TsnRefSw.Opcua.RoundTrip.Order
import TsnRefSw.Report.RoundTrip
import TsnRefSw.Core.Fallible
import TsnRefSw.Opcua.Parsed
import TsnRefSw.Core.Double
import TsnRefSw.Core.Spread
import TsnRefSw.Report.Spacing
import TsnRefSw.Plugin.Channels
