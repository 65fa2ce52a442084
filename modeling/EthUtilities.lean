import EthUtilities.Library.Machine
import EthUtilities.Library.Progress
import EthUtilities.Library.Buffer
import EthUtilities.Library.Slots
import EthUtilities.Library.Keyed
import EthUtilities.Library.PbufHeap
import EthUtilities.Library.OnesComplement
import EthUtilities.Library.Ring
import EthUtilities.Library.Refinement
import EthUtilities.Library.DnsMessage
import EthUtilities.Library.Sweep
import EthUtilities.Library.Logged
import EthUtilities.Library.PbufLife
import EthUtilities.Library.History
import EthUtilities.Library.LeaseBook
import EthUtilities.Library.Custody
import EthUtilities.TcpServerChannel.Registry
import EthUtilities.TcpServerChannel.RegistryRuns
import EthUtilities.TcpServerChannel.Stream
import EthUtilities.TcpServerChannel.StreamRuns
import EthUtilities.TcpServerChannel.WholeMessages
import EthUtilities.TcpServerChannel.Progress
import EthUtilities.TcpServerChannel.Teardown
import EthUtilities.TcpServerChannel.Lines
import EthUtilities.TcpServerChannel.LineRuns
import EthUtilities.TcpServerChannel.LineStreams
import EthUtilities.TcpServerChannel.Projection
import EthUtilities.TcpServerChannel.Inbound
import EthUtilities.TcpServerChannel.Channel
import EthUtilities.TcpServerChannel.Ledger
import EthUtilities.TcpServerChannel.References
import EthUtilities.WsChannel.Channel
import EthUtilities.WsChannel.Ownership
import EthUtilities.DhcpServer.Options
import EthUtilities.DhcpServer.Server
import EthUtilities.DhcpServer.Replies
import EthUtilities.DhcpServer.Leases
import EthUtilities.DhcpServer.OptionGrammar
import EthUtilities.DhcpServer.OptionRoundTrip
import EthUtilities.DhcpServer.LeftOver
import EthUtilities.DhcpServer.Pool
import EthUtilities.DhcpServer.LeaseRuns
import EthUtilities.DhcpServer.Handshake
import EthUtilities.DhcpServer.LeaseBook
import EthUtilities.DhcpServer.OptionBounds
import EthUtilities.EthernetUtilities.Frames
import EthUtilities.EthernetUtilities.Checksum
import EthUtilities.EthernetUtilities.ChangeIp
import EthUtilities.EthernetUtilities.NetworkChecksum
import EthUtilities.EthernetUtilities.Adjustment
import EthUtilities.EthernetUtilities.UdpFrame
import EthUtilities.EthernetUtilities.NoChecksum
import EthUtilities.EthernetUtilities.Translation
import EthUtilities.EthernetUtilities.Builders
import EthUtilities.EthernetUtilities.ChecksumReads
import EthUtilities.EthernetQueue.Queue
import EthUtilities.EthernetQueue.QueueRuns
import EthUtilities.EthernetQueue.Overruns
import EthUtilities.ArpController.Controller
import EthUtilities.ArpController.Table
import EthUtilities.ArpController.Ticks
import EthUtilities.ArpController.TableRuns
import EthUtilities.ArpController.Ageing
import EthUtilities.ArpController.Packets
import EthUtilities.ArpController.Resolution
import EthUtilities.ArpController.ReplyAddresses
import EthUtilities.ArpController.Announcements
import EthUtilities.ArpController.Freshness
import EthUtilities.ArpController.Requests
import EthUtilities.ArpController.KeepAlive
import EthUtilities.DnsServer.Query
import EthUtilities.DnsServer.Servers
import EthUtilities.DnsServer.Responses
import EthUtilities.DnsServer.Grammar
import EthUtilities.DnsServer.Answers
import EthUtilities.DnsServer.AnswerSpace
import EthUtilities.EthernetRouter.Router
import EthUtilities.EthernetRouter.Listeners
import EthUtilities.EthernetRouter.ReceivedBytes
import EthUtilities.EthernetRouter.Timers
import EthUtilities.EthernetRouter.TimerRuns
import EthUtilities.UdpChannel.Channels
import EthUtilities.UdpChannel.Destinations
import EthUtilities.Datagrams.Handlers
import EthUtilities.Datagrams.HandlerRuns
import EthUtilities.Sockets.Endpoints
import EthUtilities.Sockets.EndpointRuns
import EthUtilities.Sockets.VoidChannels
import EthUtilities.Sockets.VoidChannelRuns
