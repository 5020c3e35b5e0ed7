import FoloXray.Foundation.JsonDecode
import FoloXray.Profile.Endpoint
import FoloXray.Profile.Identifier

/-! # The profile schema and the configuration built from it

The JSON shape that `folojson` accepts, how it is decoded, and the parts of the engine's own
configuration that a profile is turned into.  A typed message carries its type name next to its
value; only the fields that the builders set or the engine reads from them are kept.
-/

namespace FoloXray.Profile

open Foundation

inductive Failure where
  | new (text : String)
  | wrapped (text : String) (inner : Failure)
  | uuid (e : UUIDError)
  | corruptInput (offset : Base64.CorruptInputError)
  | json (e : Json.StreamError)
  deriving DecidableEq, Repr

structure Routing where
  mode : Bytes
  customDirectDomains : Slice Bytes
  customProxyDomains : Slice Bytes
  customBlockDomains : Slice Bytes
  customDirectIPs : Slice Bytes
  customProxyIPs : Slice Bytes
  customBlockIPs : Slice Bytes
  deriving DecidableEq, Repr

structure Reality where
  serverName : Bytes
  fingerprint : Bytes
  publicKey : Bytes
  shortID : Bytes
  spiderX : Bytes
  deriving DecidableEq, Repr

structure Outbound where
  protocol : Bytes
  address : Bytes
  port : UInt16
  uuid : Bytes
  password : Bytes
  flow : Bytes
  encryption : Bytes
  transport : Bytes
  security : Bytes
  serverName : Bytes
  reality : Option Reality
  deriving DecidableEq, Repr

structure Config where
  version : ℤ
  mode : Bytes
  outbound : Outbound
  routing : Option Routing
  deriving DecidableEq, Repr

def Routing.zero : Routing := ⟨[], .empty, .empty, .empty, .empty, .empty, .empty⟩

def Reality.zero : Reality := ⟨[], [], [], [], []⟩

def Outbound.zero : Outbound := ⟨[], [], 0, [], [], [], [], [], [], [], none⟩

def Config.zero : Config := ⟨0, [], .zero, none⟩

def stringField {τ : Type} (name : String) (get : τ → Bytes) (set : τ → Bytes → τ) : Json.Field τ :=
  Json.field name get set Json.decodeString

def stringsField {τ : Type} (name : String) (get : τ → Slice Bytes) (set : τ → Slice Bytes → τ) :
    Json.Field τ :=
  Json.field name get set (Json.decodeSlice "[]string" [] Json.decodeString)

def Routing.fields : List (Json.Field Routing) :=
  [stringField "mode" (·.mode) fun r v => { r with mode := v },
    stringsField "customDirectDomains" (·.customDirectDomains) fun r v =>
      { r with customDirectDomains := v },
    stringsField "customProxyDomains" (·.customProxyDomains) fun r v =>
      { r with customProxyDomains := v },
    stringsField "customBlockDomains" (·.customBlockDomains) fun r v =>
      { r with customBlockDomains := v },
    stringsField "customDirectIPs" (·.customDirectIPs) fun r v => { r with customDirectIPs := v },
    stringsField "customProxyIPs" (·.customProxyIPs) fun r v => { r with customProxyIPs := v },
    stringsField "customBlockIPs" (·.customBlockIPs) fun r v => { r with customBlockIPs := v }]

def Reality.fields : List (Json.Field Reality) :=
  [stringField "serverName" (·.serverName) fun r v => { r with serverName := v },
    stringField "fingerprint" (·.fingerprint) fun r v => { r with fingerprint := v },
    stringField "publicKey" (·.publicKey) fun r v => { r with publicKey := v },
    stringField "shortId" (·.shortID) fun r v => { r with shortID := v },
    stringField "spiderX" (·.spiderX) fun r v => { r with spiderX := v }]

/-- Unknown members are refused throughout. -/
def decodeReality : Json.Decoder Reality := Json.decodeStruct "folojson.Reality" true Reality.fields

def decodeRouting : Json.Decoder Routing := Json.decodeStruct "folojson.Routing" true Routing.fields

def Outbound.fields : List (Json.Field Outbound) :=
  [stringField "protocol" (·.protocol) fun o v => { o with protocol := v },
    stringField "address" (·.address) fun o v => { o with address := v },
    Json.field "port" (·.port) (fun o v => { o with port := v }) Json.decodeUint16,
    stringField "uuid" (·.uuid) fun o v => { o with uuid := v },
    stringField "password" (·.password) fun o v => { o with password := v },
    stringField "flow" (·.flow) fun o v => { o with flow := v },
    stringField "encryption" (·.encryption) fun o v => { o with encryption := v },
    stringField "transport" (·.transport) fun o v => { o with transport := v },
    stringField "security" (·.security) fun o v => { o with security := v },
    stringField "serverName" (·.serverName) fun o v => { o with serverName := v },
    Json.field "reality" (·.reality) (fun o v => { o with reality := v })
      (Json.decodePointer .zero decodeReality)]

def decodeOutbound : Json.Decoder Outbound :=
  Json.decodeStruct "folojson.Outbound" true Outbound.fields

def Config.fields : List (Json.Field Config) :=
  [Json.field "version" (·.version) (fun c v => { c with version := v }) Json.decodeInt,
    stringField "mode" (·.mode) fun c v => { c with mode := v },
    Json.field "outbound" (·.outbound) (fun c v => { c with outbound := v }) decodeOutbound,
    Json.field "routing" (·.routing) (fun c v => { c with routing := v })
      (Json.decodePointer .zero decodeRouting)]

def decodeConfig : Json.Decoder Config := Json.decodeStruct "folojson.Config" true Config.fields

/-- Messages with a type name, `GetMessageType`. -/
class Message (μ : Type) where
  messageType : μ → String

structure TypedMessage (μ : Type) where
  type : String
  value : μ
  deriving DecidableEq, Repr

def toTypedMessage {μ : Type} [Message μ] (message : μ) : TypedMessage μ :=
  ⟨Message.messageType message, message⟩

inductive AppConfig where
  | dispatcher
  | proxymanInbound
  | proxymanOutbound
  | stats
  deriving DecidableEq, Repr

instance : Message AppConfig where
  messageType
    | .dispatcher => "xray.app.dispatcher.Config"
    | .proxymanInbound => "xray.app.proxyman.InboundConfig"
    | .proxymanOutbound => "xray.app.proxyman.OutboundConfig"
    | .stats => "xray.app.stats.Config"

structure TLSConfig where
  allowInsecure : Bool
  serverName : Bytes
  minVersion : Bytes
  maxVersion : Bytes
  deriving DecidableEq, Repr

structure RealityConfig where
  fingerprint : Bytes
  serverName : Bytes
  publicKey : Bytes
  shortId : Bytes
  spiderX : Bytes
  spiderY : List ℤ
  deriving DecidableEq, Repr

inductive SecurityConfig where
  | tls (config : TLSConfig)
  | reality (config : RealityConfig)
  deriving DecidableEq, Repr

instance : Message SecurityConfig where
  messageType
    | .tls _ => "xray.transport.internet.tls.Config"
    | .reality _ => "xray.transport.internet.reality.Config"

/-- The settings of the TCP transport; the builders leave them empty. -/
structure TCPConfig where
  deriving DecidableEq, Repr

instance : Message TCPConfig where
  messageType _ := "xray.transport.internet.tcp.Config"

structure TransportConfig where
  protocolName : Bytes
  settings : TypedMessage TCPConfig
  deriving DecidableEq, Repr

structure StreamConfig where
  protocolName : Bytes
  transportSettings : List TransportConfig
  securityType : String
  securitySettings : List (TypedMessage SecurityConfig)
  deriving DecidableEq, Repr

structure SenderConfig where
  streamSettings : StreamConfig
  deriving DecidableEq, Repr

instance : Message SenderConfig where
  messageType _ := "xray.app.proxyman.SenderConfig"

inductive SecurityType where
  | unknown
  | auto
  | aes128Gcm
  | chacha20Poly1305
  | none
  | zero
  deriving DecidableEq, Repr

inductive Account where
  | vless (id flow encryption : Bytes)
  | trojan (password : Bytes)
  | vmess (id : Bytes) (securityType : SecurityType)
  deriving DecidableEq, Repr

instance : Message Account where
  messageType
    | .vless .. => "xray.proxy.vless.Account"
    | .trojan _ => "xray.proxy.trojan.Account"
    | .vmess .. => "xray.proxy.vmess.Account"

structure User where
  account : TypedMessage Account
  deriving DecidableEq, Repr

structure ServerEndpoint where
  address : IPOrDomain
  port : UInt32
  user : List User
  deriving DecidableEq, Repr

inductive ProxyConfig where
  | vless (vnext : List ServerEndpoint)
  | trojan (server : List ServerEndpoint)
  | vmess (receiver : List ServerEndpoint)
  deriving DecidableEq, Repr

instance : Message ProxyConfig where
  messageType
    | .vless _ => "xray.proxy.vless.outbound.Config"
    | .trojan _ => "xray.proxy.trojan.ClientConfig"
    | .vmess _ => "xray.proxy.vmess.outbound.Config"

structure InboundHandlerConfig where
  tag : Bytes
  deriving DecidableEq, Repr

structure OutboundHandlerConfig where
  tag : Bytes
  senderSettings : TypedMessage SenderConfig
  proxySettings : TypedMessage ProxyConfig
  deriving DecidableEq, Repr

structure CoreConfig where
  app : List (TypedMessage AppConfig)
  inbound : List InboundHandlerConfig
  outbound : List OutboundHandlerConfig
  deriving DecidableEq, Repr

end FoloXray.Profile
