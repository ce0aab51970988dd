import MagiStack.Gui.PngExport
import MagiStack.Layer2.HostOrder
import MagiStack.Layer2.SwitchDelivery
import MagiStack.Layer2.SwitchTagging
import MagiStack.Layer3.HeaderIntegrity
import MagiStack.Layer3.IpBuffer
import MagiStack.Layer3.LookupTables
import MagiStack.Layer3.PendingFifo
import MagiStack.Layer3.RouteLookup
import MagiStack.Layer3.RouterErrors
import MagiStack.Layer3.RouterNetwork
import MagiStack.Layer3.RouterResidue
import MagiStack.Layer3.RouterRetry
import MagiStack.Layer4.ChecksumLoops
import MagiStack.Layer4.DatagramIntegrity
import MagiStack.Layer4.Encapsulation
import MagiStack.Layer4.ListenerClose
import MagiStack.Layer4.ParserSafety
import MagiStack.Layer4.SegmentIntegrity
import MagiStack.Layer4.TcpClose
import MagiStack.Layer4.TcpHost
import MagiStack.Layer4.TcpReset
import MagiStack.Layer4.TcpWindow
import MagiStack.Layer7.CallFailure
import MagiStack.Layer7.DhcpClient
import MagiStack.Layer7.DhcpLedger
import MagiStack.Layer7.DhcpOptions
import MagiStack.Layer7.DhcpPool
import MagiStack.Layer7.DnsSafety
import MagiStack.Layer7.DnsTableMap
import MagiStack.Layer7.HttpFraming
import MagiStack.Layer7.HttpSegmentation
import MagiStack.Layer7.HttpTokens
import MagiStack.Layer7.Listeners
import MagiStack.Layer7.Ownership
import MagiStack.Layer7.Resolve
import MagiStack.Layer7.TimeWaitTuples
import MagiStack.Layer7.UdpSockets
import MagiStack.Layer4.TcpCompletion
import MagiStack.Network.Origins
import MagiStack.Network.Queries
import MagiStack.Network.Traceroute
import MagiStack.Topology.Bookkeeping
import MagiStack.Topology.PauseClock
import MagiStack.Topology.RealtimeDelivery
import MagiStack.Utils.FreedReceivers
import MagiStack.Utils.JsonNumbers
import MagiStack.Utils.LoaderAddresses
import MagiStack.Utils.LoaderFailure
import MagiStack.Utils.LoaderRoundTrip
