import FoloXray.Protocol.AddressWire
import FoloXray.Protocol.Headers
import FoloXray.Vmess.Chunks

/-! # The headers of VMess

`proxy/vmess/encoding`, `proxy/vmess/aead` and the choice of the request in `proxy/vmess/outbound`.  A
request is sealed under the key of its user and says which keys, options and cipher its body has; the
response is sealed under keys that are made from those.  The ciphers and hashes are parameters.
-/

namespace FoloXray.Vmess

open Foundation Buffers Protocol
open PacketFlow (Destination)
open Profile (Address parseAddress)

structure Suite where
  /-- AES-GCM for a key and additional data. -/
  gcm : (key additional : Bytes) → Aead
  chacha : (key : Bytes) → Aead
  kdf : (key : Bytes) → (path : List Bytes) → Bytes
  sha256 : Bytes → Bytes
  md5 : Bytes → Bytes
  /-- The numbers that SHAKE128 gives for a nonce. -/
  shake : (nonce : Bytes) → ℕ → UInt16
  crc32 : Bytes → UInt32
  /-- AES for a block. -/
  encryptBlock : (key block : Bytes) → Bytes
  decryptBlock : (key block : Bytes) → Bytes
  gcm_overhead : ∀ key additional, (gcm key additional).overhead = 16
  length_encryptBlock : ∀ key block, (encryptBlock key block).length = 16
  decryptBlock_encryptBlock : ∀ key block, block.length = 16 →
    decryptBlock key (encryptBlock key block) = block

def fnv1a (b : Bytes) : UInt32 := b.foldl (fun h c => (h ^^^ c.toUInt32) * 16777619) 2166136261

section Keys

variable (suite : Suite)

def kdf16 (key : Bytes) (path : List Bytes) : Bytes := (suite.kdf key path).take 16

def kdfNonce (key : Bytes) (path : List Bytes) : Bytes := (suite.kdf key path).take 12

def generateChacha20Poly1305Key (b : Bytes) : Bytes := suite.md5 b ++ suite.md5 (suite.md5 b)

end Keys

def kdfSaltConstAuthIDEncryptionKey : Bytes := goString "AES Auth ID Encryption"
def kdfSaltConstAEADRespHeaderLenKey : Bytes := goString "AEAD Resp Header Len Key"
def kdfSaltConstAEADRespHeaderLenIV : Bytes := goString "AEAD Resp Header Len IV"
def kdfSaltConstAEADRespHeaderPayloadKey : Bytes := goString "AEAD Resp Header Key"
def kdfSaltConstAEADRespHeaderPayloadIV : Bytes := goString "AEAD Resp Header IV"
def kdfSaltConstVMessHeaderPayloadAEADKey : Bytes := goString "VMess Header AEAD Key"
def kdfSaltConstVMessHeaderPayloadAEADIV : Bytes := goString "VMess Header AEAD Nonce"
def kdfSaltConstVMessHeaderPayloadLengthAEADKey : Bytes := goString "VMess Header AEAD Key_Length"
def kdfSaltConstVMessHeaderPayloadLengthAEADIV : Bytes := goString "VMess Header AEAD Nonce_Length"

def version : UInt8 := 1

def requestOptionChunkStream : UInt8 := 0x01
def requestOptionChunkMasking : UInt8 := 0x04
def requestOptionGlobalPadding : UInt8 := 0x08
def requestOptionAuthenticatedLength : UInt8 := 0x10

def has (option bit : UInt8) : Bool := option &&& bit != 0

inductive SecurityType where
  | unknown
  | auto
  | aes128GCM
  | chacha20Poly1305
  | none
  | zero
  deriving DecidableEq, Repr

def SecurityType.byte : SecurityType → UInt8
  | .unknown => 0
  | .auto => 2
  | .aes128GCM => 3
  | .chacha20Poly1305 => 4
  | .none => 5
  | .zero => 6

def parseSecurityType (b : UInt8) : SecurityType :=
  if b = 0 ∨ b = 2 then .auto
  else if b = 3 then .aes128GCM
  else if b = 4 then .chacha20Poly1305
  else if b = 5 then .none
  else if b = 6 then .zero
  else .unknown

def addrParser : AddressParser :=
  newAddressParser [.addressFamilyByte 1 .ipv4, .addressFamilyByte 2 .domain, .addressFamilyByte 3 .ipv6,
    .portThenAddress]

/-- The fields of a request header; the user of a request that is to be encoded is the key of its
account. -/
structure RequestHeader (υ : Type) where
  version : UInt8
  user : υ
  command : UInt8
  option : UInt8
  security : SecurityType
  address : Option Address
  port : UInt16
  deriving DecidableEq, Repr

/-- What both sides of a connection know of each other's keys. -/
structure Session where
  requestBodyKey : Bytes
  requestBodyIV : Bytes
  responseHeader : UInt8
  deriving DecidableEq, Repr

def Session.responseBodyKey (suite : Suite) (session : Session) : Bytes :=
  (suite.sha256 session.requestBodyKey).take 16

def Session.responseBodyIV (suite : Suite) (session : Session) : Bytes :=
  (suite.sha256 session.requestBodyIV).take 16

inductive HeaderError where
  | writeAddress (e : AddressError)
  | globalPadding
  | security
  | readRequest (e : FillError)
  | invalidUser
  | replayedRequest
  | readAEAD (e : FillError)
  | openAEAD
  | duplicatedSession
  | unreadableAddress
  | readPadding (e : FillError)
  | readChecksum (e : FillError)
  | invalidAuth
  | invalidAddress
  | unknownSecurity
  | readLength (e : FillError)
  | decryptLength
  | readData (e : FillError)
  | decryptPayload
  | readResponse (e : FillError)
  | unexpectedResponse (expected actual : UInt8)
  | readCommand (e : FillError)
  deriving DecidableEq, Repr

structure Rolls where
  padding : Bytes
  random : Bytes
  connectionNonce : Bytes
  padding_lt : padding.length < 16
  length_random : random.length = 4
  length_connectionNonce : connectionNonce.length = 8

section Encoding

variable (suite : Suite)

def encodeTarget (request : RequestHeader Bytes) : Encoder HeaderError Unit :=
  if request.command = requestCommandMux then pure ()
  else
    match request.address with
    | none => .panic
    | some address => (addrParser.writeAddressPort address request.port).mapError .writeAddress

def securityByte (padding : Bytes) (security : SecurityType) : UInt8 :=
  UInt8.ofNat padding.length <<< 4 ||| security.byte

def appendChecksum : Encoder HeaderError Unit := fun b =>
  Encoder.extend bufSize (numberBytes 4 (fnv1a b).toNat) b

/-- The buffer that `EncodeRequestHeader` seals, without the hash behind it. -/
def requestFront (session : Session) (request : RequestHeader Bytes) (rolls : Rolls) :
    Encoder HeaderError Unit := do
  (Encoder.putByte bufSize version).must
  .put bufSize session.requestBodyIV
  .put bufSize session.requestBodyKey
  (Encoder.putByte bufSize session.responseHeader).must
  (Encoder.putByte bufSize request.option).must
  .put bufSize [securityByte rolls.padding request.security, 0, request.command]
  encodeTarget request
  .extend bufSize rolls.padding

def requestBuffer (session : Session) (request : RequestHeader Bytes) (rolls : Rolls) :
    Encoder HeaderError Unit := do
  requestFront session request rolls
  appendChecksum

def authBlock (time : ℕ) (random : Bytes) : Bytes :=
  let front := numberBytes 8 time ++ random
  front ++ numberBytes 4 (suite.crc32 front).toNat

def createAuthID (cmdKey : Bytes) (time : ℕ) (random : Bytes) : Bytes :=
  suite.encryptBlock (kdf16 suite cmdKey [kdfSaltConstAuthIDEncryptionKey]) (authBlock suite time random)

/-- The cipher of a part of a header, and its nonce. -/
def headerAead (key authID nonce keySalt : Bytes) : Aead :=
  suite.gcm (kdf16 suite key [keySalt, authID, nonce]) authID

def sealVMessAEADHeader (key authID nonce data : Bytes) : Bytes :=
  let length := (headerAead suite key authID nonce kdfSaltConstVMessHeaderPayloadLengthAEADKey).encrypt
    (kdfNonce suite key [kdfSaltConstVMessHeaderPayloadLengthAEADIV, authID, nonce]) (twoBytes data.length)
  let payload := (headerAead suite key authID nonce kdfSaltConstVMessHeaderPayloadAEADKey).encrypt
    (kdfNonce suite key [kdfSaltConstVMessHeaderPayloadAEADIV, authID, nonce]) data
  authID ++ length ++ nonce ++ payload

/-- `EncodeRequestHeader` at a time; what is written. -/
def encodeRequestHeader (session : Session) (request : RequestHeader Bytes) (rolls : Rolls) (time : ℕ) :
    Outcome HeaderError Bytes :=
  match requestBuffer session request rolls [] with
  | (.ok (), data) =>
    .ok (sealVMessAEADHeader suite request.user (createAuthID suite request.user time rolls.random)
      rolls.connectionNonce data)
  | (.error e, _) => .error e
  | (.panicked, _) => .panicked

end Encoding

/-- A server at a time: the keys of its users, in the order in which they are tried, and what its memory
says of authentication values and of sessions. -/
structure Server (υ : Type) where
  decoders : List (Bytes × υ)
  now : ℕ
  check : (authID : Bytes) → Bool
  addIfNotExists : υ → (key nonce : Bytes) → Bool

section Decoding

variable (suite : Suite) {υ : Type}

/-- The key takes the value for one of its own: the hash is right and the time is close. -/
def Server.takes (server : Server υ) (authID key : Bytes) : Bool :=
  let d := suite.decryptBlock (kdf16 suite key [kdfSaltConstAuthIDEncryptionKey]) authID
  let t := bytesNumber (d.take 8)
  bytesNumber (d.drop 12) == (suite.crc32 (d.take 12)).toNat && t < 2 ^ 63 &&
    t ≤ server.now + 120 && server.now ≤ t + 120

/-- `Match`; the key comes with the user, whose account has it. -/
def Server.matchAuthID (server : Server υ) (authID : Bytes) :
    List (Bytes × υ) → Outcome HeaderError (Bytes × υ)
  | [] => .error .invalidUser
  | (key, user) :: decoders =>
    if server.takes suite authID key then
      if server.check authID then .ok (key, user) else .error .replayedRequest
    else server.matchAuthID authID decoders

/-- `binary.Read` of two bytes, which must be there. -/
def mustUint16 {ε : Type} (b : Bytes) : Outcome ε UInt16 :=
  if b.length < 2 then .panicked else .ok (Body.uint16 b)

def opened {ε : Type} (e : ε) (text : Option Bytes) : Outcome ε Bytes := text.elim (.error e) .ok

/-- `OpenVMessAEADHeader`; the length of the payload is a 16-bit number. -/
def openVMessAEADHeader (key authID : Bytes) : Decoder HeaderError Bytes := do
  let length ← (Decoder.fresh (Decoder.take 18 18)).mapError .readAEAD
  let nonce ← (Decoder.fresh (Decoder.take 8 8)).mapError .readAEAD
  let b ← .lift (opened .openAEAD
    ((headerAead suite key authID nonce kdfSaltConstVMessHeaderPayloadLengthAEADKey).decrypt
      (kdfNonce suite key [kdfSaltConstVMessHeaderPayloadLengthAEADIV, authID, nonce]) length))
  let n ← .lift (mustUint16 b)
  let payload ← (Decoder.fresh (Decoder.take (n + 16).toNat (n + 16).toNat)).mapError .readAEAD
  .lift (opened .openAEAD
    ((headerAead suite key authID nonce kdfSaltConstVMessHeaderPayloadAEADKey).decrypt
      (kdfNonce suite key [kdfSaltConstVMessHeaderPayloadAEADIV, authID, nonce]) payload))

/-- The target of a request.  One that cannot be read is no error by itself, but the checks behind it
let no request pass that has none. -/
def decodeTarget (command : UInt8) : Decoder HeaderError (Option Address × UInt16) :=
  if command = requestCommandMux then pure (some muxCool, 0)
  else if command = requestCommandTCP ∨ command = requestCommandUDP then
    addrParser.readAddressPort.mapError fun _ => .unreadableAddress
  else pure (none, 0)

def decodeFixed (user : υ) (b : Bytes) : RequestHeader υ × Session :=
  (⟨b.getD 0 0, user, b.getD 37 0, b.getD 34 0, parseSecurityType (b.getD 35 0 &&& 0x0f), none, 0⟩,
    ⟨(b.drop 17).take 16, (b.drop 1).take 16, b.getD 33 0⟩)

/-- The checks at the end of a request, with all of its bytes. -/
def checkRequest (b : Bytes) (request : RequestHeader υ) : Outcome HeaderError Unit := do
  Outcome.failIf ((fnv1a (b.take (b.length - 4))).toNat ≠ bytesNumber (b.drop (b.length - 4))) .invalidAuth
  Outcome.failIf (request.address = none) .invalidAddress
  Outcome.failIf (request.security = .unknown ∨ request.security = .auto) .unknownSecurity

/-- `DecodeRequestHeader` on what has been unsealed, up to the checks at the end. -/
def readRequest (server : Server υ) (user : υ) : Decoder HeaderError (RequestHeader υ × Session) := do
  let b ← (Decoder.take bufSize 38).mapError .readRequest
  let fixed := decodeFixed user b
  .lift (Outcome.failIf
    (server.addIfNotExists user fixed.2.requestBodyKey fixed.2.requestBodyIV = false) .duplicatedSession)
  let target ← decodeTarget fixed.1.command
  (Decoder.fill bufSize (b.getD 35 0 >>> 4).toNat).mapError .readPadding
  (Decoder.fill bufSize 4).mapError .readChecksum
  pure ({ fixed.1 with address := target.1, port := target.2 }, fixed.2)

def decodeRequest (server : Server υ) (user : υ) : Decoder HeaderError (RequestHeader υ × Session) := do
  let r ← readRequest server user
  let whole ← .content
  .lift (checkRequest whole r.1)
  pure r

def decodeBytes {ε α : Type} (d : Decoder ε α) (b : Bytes) : Outcome ε α :=
  d ⟨[], .ofBytes b⟩ >>= fun r => .ok r.1

def decodeRequestHeader (server : Server υ) : Decoder HeaderError (RequestHeader υ × Session) := do
  let authID ← (Decoder.take bufSize 16).mapError .readRequest
  let (key, user) ← .lift (server.matchAuthID suite authID server.decoders)
  let data ← openVMessAEADHeader suite key authID
  .lift (decodeBytes (decodeRequest server user) data)

end Decoding

inductive BodyCodec where
  | plain
  | chunkStream (mask : Option (ℕ → UInt16))
  | authenticated (transferType : TransferType) (body : Body)

section Bodies

variable (suite : Suite) {υ : Type}

def sizeParserFor (option : UInt8) : SizeParser :=
  if has option requestOptionChunkMasking then .shake else .plain

def authenticatedSizeParserFor (option : UInt8) : SizeParser :=
  if has option requestOptionAuthenticatedLength then .aead else sizeParserFor option

/-- A body for the ciphers of its chunks and of its sizes. -/
def bodyOf (aead lengthAead : Aead) (iv lengthIV : Bytes) (mask : ℕ → UInt16) (option : UInt8)
    (sizeParser : SizeParser) : Body where
  aead := aead
  iv := iv
  lengthAead := lengthAead
  lengthIV := lengthIV
  mask := mask
  sizeParser := sizeParser
  globalPadding := has option requestOptionGlobalPadding

/-- The body for the keys of a direction; the keys for its sizes are always those of the request. -/
def bodyFor (key iv lengthKey lengthIV : Bytes) (request : RequestHeader υ) :
    Outcome HeaderError BodyCodec := do
  Outcome.failIf (has request.option requestOptionGlobalPadding = true ∧
    has request.option requestOptionChunkMasking = false) .globalPadding
  let authLen := kdf16 suite lengthKey [goString "auth_len"]
  let mask := suite.shake iv
  match request.security with
  | .none =>
    if has request.option requestOptionChunkStream then
      match transferType request.command with
      | .stream =>
        pure (.chunkStream (if has request.option requestOptionChunkMasking then some mask else none))
      | .packet =>
        pure (.authenticated .packet (bodyOf noOpAuthenticator noOpAuthenticator [] [] mask request.option
          (sizeParserFor request.option)))
    else pure .plain
  | .aes128GCM =>
    pure (.authenticated (transferType request.command) (bodyOf (suite.gcm key []) (suite.gcm authLen [])
      iv lengthIV mask request.option (authenticatedSizeParserFor request.option)))
  | .chacha20Poly1305 =>
    pure (.authenticated (transferType request.command)
      (bodyOf (suite.chacha (generateChacha20Poly1305Key suite key))
        (suite.chacha (generateChacha20Poly1305Key suite authLen)) iv lengthIV mask request.option
        (authenticatedSizeParserFor request.option)))
  | _ => .error .security

def encodeRequestBody (session : Session) (request : RequestHeader υ) : Outcome HeaderError BodyCodec :=
  bodyFor suite session.requestBodyKey session.requestBodyIV session.requestBodyKey session.requestBodyIV
    request

def decodeRequestBody (session : Session) (request : RequestHeader υ) : Outcome HeaderError BodyCodec :=
  bodyFor suite session.requestBodyKey session.requestBodyIV session.requestBodyKey session.requestBodyIV
    request

def encodeResponseBody (session : Session) (request : RequestHeader υ) : Outcome HeaderError BodyCodec :=
  bodyFor suite (session.responseBodyKey suite) (session.responseBodyIV suite) session.requestBodyKey
    session.requestBodyIV request

def decodeResponseBody (session : Session) (request : RequestHeader υ) : Outcome HeaderError BodyCodec :=
  bodyFor suite (session.responseBodyKey suite) (session.responseBodyIV suite) session.requestBodyKey
    session.requestBodyIV request

end Bodies

structure CommandSwitchAccount where
  host : Option Address
  port : UInt16
  id : Bytes
  level : UInt8
  validMin : UInt8
  deriving DecidableEq, Repr

structure ResponseHeader where
  option : UInt8
  command : Option CommandSwitchAccount
  deriving DecidableEq, Repr

inductive CommandError where
  | insufficientLength
  | invalidAuth
  | unknownCommand
  deriving DecidableEq, Repr

section Commands

/-- The command with the bytes that `Marshal` of its factory has written for it; nothing if it is too
large. -/
def marshalCommand (cmdID : UInt8) (data : Bytes) : Option Bytes :=
  let length := data.length + 4
  if 255 < length then none
  else some (cmdID :: UInt8.ofNat length :: (numberBytes 4 (fnv1a data).toNat ++ data))

/-- The host in front of a command, if there is one. -/
def unmarshalHost (data : Bytes) (lenHost : ℕ) : Outcome CommandError (Option Address) :=
  if 0 < lenHost then do
    let text ← stringSlice data 1 (1 + lenHost)
    parseAddress text
  else pure none

def unmarshalSwitchAccount (data : Bytes) : Outcome CommandError CommandSwitchAccount := do
  Outcome.failIf (data.length = 0) .insufficientLength
  let first ← stringIndex data 0
  let lenHost := first.toNat
  Outcome.failIf (data.length < lenHost + 1) .insufficientLength
  let host ← unmarshalHost data lenHost
  let portStart := 1 + lenHost
  Outcome.failIf (data.length < portStart + 2) .insufficientLength
  let port ← stringSlice data portStart (portStart + 2)
  let idStart := portStart + 2
  Outcome.failIf (data.length < idStart + 16) .insufficientLength
  let id ← stringSlice data idStart (idStart + 16)
  -- two bytes are skipped
  let levelStart := idStart + 16 + 2
  Outcome.failIf (data.length < levelStart + 1) .insufficientLength
  let level ← stringIndex data levelStart
  let timeStart := levelStart + 1
  Outcome.failIf (data.length < timeStart + 1) .insufficientLength
  let validMin ← stringIndex data timeStart
  pure ⟨host, portFromBytes port, id, level, validMin⟩

def unmarshalCommand (cmdID : UInt8) (data : Bytes) : Outcome CommandError CommandSwitchAccount := do
  Outcome.failIf (data.length ≤ 4) .insufficientLength
  let rest ← stringSlice data 4 data.length
  let auth ← stringSlice data 0 4
  Outcome.failIf ((fnv1a rest).toNat ≠ bytesNumber auth) .invalidAuth
  if cmdID = 1 then unmarshalSwitchAccount rest else .error .unknownCommand

/-- A command that cannot be read is left out. -/
def readCommand (cmdID : UInt8) (data : Bytes) : Outcome HeaderError (Option CommandSwitchAccount) :=
  match unmarshalCommand cmdID data with
  | .ok command => .ok (some command)
  | .error _ => .ok none
  | .panicked => .panicked

end Commands

section Responses

variable (suite : Suite)

def responseAead (session : Session) (keySalt : Bytes) : Aead :=
  suite.gcm (kdf16 suite (session.responseBodyKey suite) [keySalt]) []

def responseNonce (session : Session) (ivSalt : Bytes) : Bytes :=
  kdfNonce suite (session.responseBodyIV suite) [ivSalt]

/-- What `EncodeResponseHeader` seals, for a command with its marshalled bytes. -/
def responseBuffer (session : Session) (option : UInt8) (command : Option (UInt8 × Bytes)) : Bytes :=
  session.responseHeader :: option ::
    (command.bind fun c => marshalCommand c.1 c.2).getD [0, 0]

def encodeResponseHeader (session : Session) (option : UInt8) (command : Option (UInt8 × Bytes)) : Bytes :=
  let data := responseBuffer session option command
  (responseAead suite session kdfSaltConstAEADRespHeaderLenKey).encrypt
      (responseNonce suite session kdfSaltConstAEADRespHeaderLenIV) (twoBytes data.length) ++
    (responseAead suite session kdfSaltConstAEADRespHeaderPayloadKey).encrypt
      (responseNonce suite session kdfSaltConstAEADRespHeaderPayloadIV) data

/-- The command of a response, if it has one. -/
def decodeResponseCommand (cmdID dataLen : UInt8) : Decoder HeaderError (Option CommandSwitchAccount) :=
  if cmdID ≠ 0 then do
    .clear
    (Decoder.fill bufSize dataLen.toNat).mapError .readCommand
    let data ← .content
    .lift (readCommand cmdID data)
  else pure none

def decodeResponse (session : Session) : Decoder HeaderError ResponseHeader := do
  let b ← (Decoder.take bufSize 4).mapError .readResponse
  .lift (Outcome.failIf (b.getD 0 0 ≠ session.responseHeader)
    (.unexpectedResponse session.responseHeader (b.getD 0 0)))
  let command ← decodeResponseCommand (b.getD 2 0) (b.getD 3 0)
  pure ⟨b.getD 1 0, command⟩

/-- `DecodeResponseHeader`; the length of the payload is an integer here. -/
def decodeResponseHeader (session : Session) : Decoder HeaderError ResponseHeader := do
  let length ← (Decoder.fresh (Decoder.take 18 18)).mapError .readLength
  let b ← .lift (opened .decryptLength
    ((responseAead suite session kdfSaltConstAEADRespHeaderLenKey).decrypt
      (responseNonce suite session kdfSaltConstAEADRespHeaderLenIV) length))
  let n ← .lift (mustUint16 b)
  let payload ← (Decoder.fresh (Decoder.take (n.toNat + 16) (n.toNat + 16))).mapError .readData
  let data ← .lift (opened .decryptPayload
    ((responseAead suite session kdfSaltConstAEADRespHeaderPayloadKey).decrypt
      (responseNonce suite session kdfSaltConstAEADRespHeaderPayloadIV) payload))
  .lift (decodeBytes (decodeResponse session) data)

end Responses

structure Account where
  cmdKey : Bytes
  security : SecurityType
  authenticatedLengthExperiment : Bool
  noTerminationSignal : Bool
  deriving DecidableEq, Repr

inductive ProcessError where
  | targetNotSpecified
  deriving DecidableEq, Repr

def shouldEnablePadding (enablePadding : Bool) (s : SecurityType) : Bool :=
  enablePadding || s == .aes128GCM || s == .chacha20Poly1305 || s == .auto

def optionFor (enablePadding : Bool) (account : Account) : UInt8 × SecurityType :=
  let s := account.security
  let option := requestOptionChunkStream
  let option :=
    if s = .aes128GCM ∨ s = .none ∨ s = .chacha20Poly1305
      then option ||| requestOptionChunkMasking else option
  let option :=
    if shouldEnablePadding enablePadding s ∧ has option requestOptionChunkMasking then
      option ||| requestOptionGlobalPadding
    else option
  let option :=
    if s = .zero then (option &&& ~~~requestOptionChunkStream) &&& ~~~requestOptionChunkMasking else option
  let option :=
    if account.authenticatedLengthExperiment then option ||| requestOptionAuthenticatedLength else option
  (option, if s = .zero then .none else s)

/-- The header that `Process` sends for its target; a method call on a nil address fails.  UDP goes through
a multiplexed connection if source ports are to be kept and the port is neither 53 nor 443. -/
def requestFor (enablePadding cone : Bool) (account : Account) (target : Destination) :
    Outcome ProcessError (RequestHeader Bytes) := do
  Outcome.failIf (target.network = .unknown) .targetNotSpecified
  match target.address with
  | none => .panicked
  | some address =>
    let command := commandFor address target
    let option := optionFor enablePadding account
    if command = requestCommandUDP ∧ cone = true ∧ target.port ≠ 53 ∧ target.port ≠ 443 then
      pure ⟨version, account.cmdKey, requestCommandMux, option.1, option.2, some muxCool, 666⟩
    else pure ⟨version, account.cmdKey, command, option.1, option.2, some address, target.port⟩

end FoloXray.Vmess
