import FoloXray.Foundation.Runs
import FoloXray.PacketBridge.Model
import FoloXray.PacketBridge.Invariant
import FoloXray.PacketBridge.Ownership
import FoloXray.PacketBridge.Completion
import FoloXray.Foundation.Stream
import FoloXray.PacketFlow.Frame
import FoloXray.PacketFlow.Codec
import FoloXray.PacketFlow.RoundTrip
import FoloXray.Foundation.Address
import FoloXray.Foundation.Search
import FoloXray.Routing.ChinaRanges
import FoloXray.Routing.Matcher
import FoloXray.Foundation.Tables
import FoloXray.Routing.Precedence
import FoloXray.Netstack.UDPRelay
import FoloXray.Wrapper.Engine
import FoloXray.Wrapper.EngineSteps
import FoloXray.Foundation.Refinement
import FoloXray.Wrapper.Lifecycle
import FoloXray.Foundation.Custody
import FoloXray.Wrapper.Teardown
import FoloXray.Foundation.RWMutex
import FoloXray.Netstack.Runtime
import FoloXray.Netstack.RuntimeSteps
import FoloXray.Netstack.Shutdown
import FoloXray.Foundation.Digest
import FoloXray.Foundation.Encoding
import FoloXray.Foundation.Json
import FoloXray.Foundation.JsonDecode
import FoloXray.Profile.Identifier
import FoloXray.Profile.Endpoint
import FoloXray.Profile.Schema
import FoloXray.Profile.Build
import FoloXray.Profile.LoadSafety
import FoloXray.Foundation.Reads
import FoloXray.RealityTransport.Client
import FoloXray.RealityTransport.Spider
import FoloXray.Wrapper.RuntimeMoves
import FoloXray.Foundation.PrefixCode
import FoloXray.PacketFlow.Canonical
import FoloXray.PacketBridge.Echo
import FoloXray.PacketBridge.Sequence
import FoloXray.PacketBridge.Statistics
import FoloXray.Foundation.Cuts
import FoloXray.Netstack.Sniffer
import FoloXray.PacketBridge.Descriptors
import FoloXray.Profile.FailClosed
import FoloXray.Foundation.JsonAgreement
import FoloXray.Wrapper.StartRouting
import FoloXray.Wrapper.CustomRules
import FoloXray.Foundation.Releases
import FoloXray.Foundation.Tally
import FoloXray.Netstack.Admission
import FoloXray.Netstack.Egress
import FoloXray.Netstack.HandlerPaths
import FoloXray.Netstack.RuntimePaths
import FoloXray.Foundation.Checked
import FoloXray.Foundation.HostName
import FoloXray.Foundation.Layout
import FoloXray.Netstack.ClientHello
import FoloXray.Netstack.DeclaredLengths
import FoloXray.Netstack.RequestHead
import FoloXray.Netstack.SnifferChecks
import FoloXray.Netstack.TCPTarget
import FoloXray.Profile.ServerName
import FoloXray.Routing.ChinaLookup
import FoloXray.Routing.CustomLists
import FoloXray.Routing.DomainSpec
import FoloXray.Foundation.Base64
import FoloXray.Foundation.Manifest
import FoloXray.Foundation.RubyString
import FoloXray.Netstack.Datagrams
import FoloXray.Netstack.TCPRelay
import FoloXray.PacketFlow.Destination
import FoloXray.PacketFlow.Truncation
import FoloXray.Profile.ForeignFields
import FoloXray.Profile.PublicKey
import FoloXray.Profile.ServerAddress
import FoloXray.RealityTransport.Fingerprint
import FoloXray.Release.Archive
import FoloXray.Release.UpstreamLock
import FoloXray.Foundation.Writes
import FoloXray.PacketFlow.FullWrite
import FoloXray.Buffers.Buffer
import FoloXray.Foundation.Transducer
import FoloXray.Foundation.Wakeup
import FoloXray.Transport.Pipe
import FoloXray.Transport.PipeRest
import FoloXray.Vision.Blocks
import FoloXray.Vision.Reader
import FoloXray.Vision.ReaderStream
import FoloXray.Vision.RoundTrip
import FoloXray.Mux.Frame
import FoloXray.Protocol.Servers
import FoloXray.Trojan.Protocol
import FoloXray.Trojan.Wire
import FoloXray.Vless.Header
import FoloXray.Vless.HeaderWire
import FoloXray.Vmess.BodyRoundTrip
import FoloXray.Vmess.Header
import FoloXray.Vmess.HeaderWire
import FoloXray.Vmess.Session
import FoloXray.Xudp.Downlink
import FoloXray.Core.Instance
import FoloXray.Core.Callbacks
