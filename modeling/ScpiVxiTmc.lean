import ScpiVxiTmc.Lib.Account
import ScpiVxiTmc.Lib.Align
import ScpiVxiTmc.Lib.Blocks
import ScpiVxiTmc.Lib.Buffer
import ScpiVxiTmc.Lib.CString
import ScpiVxiTmc.Lib.ControlPoints
import ScpiVxiTmc.Lib.History
import ScpiVxiTmc.Lib.Ledger
import ScpiVxiTmc.Lib.LossyQueue
import ScpiVxiTmc.Lib.Machine
import ScpiVxiTmc.Lib.Merge
import ScpiVxiTmc.Lib.Movers
import ScpiVxiTmc.Lib.Packets
import ScpiVxiTmc.Lib.ReplacingQueue
import ScpiVxiTmc.Lib.Routing
import ScpiVxiTmc.Lib.Simulation
import ScpiVxiTmc.Lib.Utf8
import ScpiVxiTmc.Lib.Window
import ScpiVxiTmc.Lib.Xdr
import ScpiVxiTmc.Lib.XdrLaws
import ScpiVxiTmc.Adapter.Ring
import ScpiVxiTmc.Adapter.Messages
import ScpiVxiTmc.Adapter.RingQueues
import ScpiVxiTmc.Adapter.RingCommutation
import ScpiVxiTmc.Adapter.SharedRing
import ScpiVxiTmc.Adapter.ConcurrentWrites
import ScpiVxiTmc.Adapter.RoundTrip
import ScpiVxiTmc.Adapter.CommandHandover
import ScpiVxiTmc.Adapter.Notification
import ScpiVxiTmc.Adapter.StandaloneUsb
import ScpiVxiTmc.Adapter.ResponseReplacement
import ScpiVxiTmc.Adapter.Wakeup
import ScpiVxiTmc.Usb.Packet
import ScpiVxiTmc.Usb.CmdRead
import ScpiVxiTmc.Usb.LengthTest
import ScpiVxiTmc.Usb.Residue
import ScpiVxiTmc.Usb.Arrivals
import ScpiVxiTmc.Usb.SplitTransfer
import ScpiVxiTmc.Usb.Response
import ScpiVxiTmc.Usb.ResponsePadding
import ScpiVxiTmc.Usb.Sink
import ScpiVxiTmc.Usb.WholeTransfer
import ScpiVxiTmc.Usb.CopyBounds
import ScpiVxiTmc.Usb.ShortPackets
import ScpiVxiTmc.Usb.Strings
import ScpiVxiTmc.Usb.IoThreads
import ScpiVxiTmc.Usb.Control
import ScpiVxiTmc.Usb.ControlReplies
import ScpiVxiTmc.Usb.StringReplies
import ScpiVxiTmc.Usb.StringText
import ScpiVxiTmc.Usb.Events
import ScpiVxiTmc.Usb.ThreadHistory
import ScpiVxiTmc.Usb.FailedStart
import ScpiVxiTmc.Usb.Endpoints
import ScpiVxiTmc.Usb.SteppedResponse
import ScpiVxiTmc.Usb.CutRound
import ScpiVxiTmc.Usb.Descriptors
import ScpiVxiTmc.Usb.EventReads
import ScpiVxiTmc.Usb.PacketDumps
import ScpiVxiTmc.Vxi.DeviceCore
import ScpiVxiTmc.Vxi.Links
import ScpiVxiTmc.Vxi.LinkUse
import ScpiVxiTmc.Vxi.RefusedReads
import ScpiVxiTmc.Vxi.WriteReply
import ScpiVxiTmc.Vxi.Xdr
import ScpiVxiTmc.Vxi.WireFormat
import ScpiVxiTmc.Vxi.Dispatch
import ScpiVxiTmc.Vxi.RemoteCalls
import ScpiVxiTmc.Vxi.ServerRuns
import ScpiVxiTmc.Transports
import ScpiVxiTmc.Instrument
import ScpiVxiTmc.Startup
import ScpiVxiTmc.Process
import ScpiVxiTmc.SinkThreads
import ScpiVxiTmc.Overruns
import ScpiVxiTmc.Announcements
