import XnetZt.Lib.AsyncNetwork
import XnetZt.Lib.BigEndian
import XnetZt.Lib.BufferedReader
import XnetZt.Lib.Handler
import XnetZt.Lib.IdentityScope
import XnetZt.Lib.Interleaving
import XnetZt.Lib.Java
import XnetZt.Lib.LinkedList
import XnetZt.Lib.OnesComplement
import XnetZt.Lib.ParseInt
import XnetZt.Lib.Relational
import XnetZt.Lib.RingBuffer
import XnetZt.Lib.Run
import XnetZt.Lib.Script
import XnetZt.Lib.SocketSession
import XnetZt.Lib.Tally
import XnetZt.Lib.Text
import XnetZt.Lib.Utf8
import XnetZt.Libxnet.JniBridge
import XnetZt.Libxnet.Lifecycle
import XnetZt.Libxnet.NetifList
import XnetZt.Libxnet.StateObjects
import XnetZt.Libxnet.Tap
import XnetZt.Libxnet.TapAddresses
import XnetZt.Libxnet.TapFrames
import XnetZt.Libxnet.TapIsolation
import XnetZt.Libxnet.TapOutput
import XnetZt.Libxnet.TapRegistry
import XnetZt.Libxnet.TapStack
import XnetZt.Model.Migration
import XnetZt.Model.NetworkStore
import XnetZt.Model.NetworkTables
import XnetZt.Net.Checksum
import XnetZt.Net.DnsMessage
import XnetZt.Net.DnsRecord
import XnetZt.Net.HttpMessage
import XnetZt.Net.IPPacket
import XnetZt.Net.IPv6Packet
import XnetZt.Net.InetAddress
import XnetZt.Net.NetworkPrefix
import XnetZt.Net.Route
import XnetZt.Net.Socks
import XnetZt.Net.Uri
import XnetZt.Service.ArpExchange
import XnetZt.Service.BufferResidue
import XnetZt.Service.ConfigCache
import XnetZt.Service.DataStore
import XnetZt.Service.DestinationCache
import XnetZt.Service.InboundFrames
import XnetZt.Service.LanDelivery
import XnetZt.Service.LanSolicitation
import XnetZt.Service.LookupRace
import XnetZt.Service.MulticastPackets
import XnetZt.Service.MulticastScanner
import XnetZt.Service.NeighborPackets
import XnetZt.Service.NeighborSolicitation
import XnetZt.Service.NeighborTable
import XnetZt.Service.NeighborTableInvariants
import XnetZt.Service.NeighborTableRace
import XnetZt.Service.ReceiveThread
import XnetZt.Service.RouteLookup
import XnetZt.Service.ServiceLifecycle
import XnetZt.Service.TetherControl
import XnetZt.Service.TetherTraffic
import XnetZt.Service.TunTapAdapter
import XnetZt.Service.TunnelConfig
import XnetZt.Service.VirtualLan
import XnetZt.Service.VirtualNetworkFrame
import XnetZt.Tether.ConnectionTable
import XnetZt.Tether.DnsLifetime
import XnetZt.Tether.DnsNames
import XnetZt.Tether.DnsParser
import XnetZt.Tether.DnsProxy
import XnetZt.Tether.DnsServer
import XnetZt.Tether.HttpForwarding
import XnetZt.Tether.HttpHeaders
import XnetZt.Tether.HttpProxy
import XnetZt.Tether.L3Bridge
import XnetZt.Tether.NatEngine
import XnetZt.Tether.Relay
import XnetZt.Tether.SocksProxy
import XnetZt.Tether.SocksRequest
import XnetZt.Tether.SocksSession
import XnetZt.Tether.SplitHorizon
import XnetZt.Tether.SubnetMembership
import XnetZt.Tether.TetherBridge
import XnetZt.Tether.TetherServices
import XnetZt.Tether.TtlFix
import XnetZt.Tether.UpstreamSocks
import XnetZt.Ui.MoonOrbits
import XnetZt.Util.MulticastGroups
import XnetZt.Util.PortForwarder
import XnetZt.Util.RemoteLog
