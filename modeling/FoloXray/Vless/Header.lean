import FoloXray.Profile.Build
import FoloXray.Protocol.AddressWire
import FoloXray.Protocol.Headers

/-! # The headers of VLESS

`proxy/vless/encoding` and the choice of the request in `proxy/vless/outbound`.  A request names its
user, its flow, a command and, unless it is for a multiplexed connection, the target.  The protocol
buffers of the add-ons come from a library and are a parameter.
-/

namespace FoloXray.Vless

open Foundation Buffers Protocol
open PacketFlow (Destination)
open Profile (Address xrv)

def version : UInt8 := 0

def addrParser : AddressParser :=
  newAddressParser [.addressFamilyByte 1 .ipv4, .addressFamilyByte 2 .domain, .addressFamilyByte 3 .ipv6,
    .portThenAddress]

structure Addons where
  flow : Bytes
  seed : Bytes
  deriving DecidableEq, Repr

structure AddonsProto where
  marshal : Addons → Option Bytes
  unmarshal : Bytes → Option Addons
  /-- The add-ons of Vision fit into a byte's length and are read back. -/
  vision : ∃ w, marshal ⟨xrv, []⟩ = some w ∧ 0 < w.length ∧ w.length ≤ 255 ∧
    unmarshal w = some ⟨xrv, []⟩

/-- The fields of a request header that are on the wire; the user of a request that is to be encoded is
the identifier of its account. -/
structure RequestHeader (υ : Type) where
  version : UInt8
  user : υ
  command : UInt8
  address : Option Address
  port : UInt16
  deriving DecidableEq, Repr

inductive HeaderError where
  | writeVersion (e : PutError)
  | marshalAddons
  | writeAddonsLength (e : PutError)
  | writeCommand (e : PutError)
  | writeAddress (e : AddressError)
  | readVersion (e : FillError)
  | readUserID (e : FillError)
  | invalidUserID
  | readAddonsLength (e : FillError)
  | readAddons (e : FillError)
  | unmarshalAddons
  | readCommand (e : FillError)
  | invalidAddress
  | invalidVersion
  | unexpectedVersion (expected actual : UInt8)
  deriving DecidableEq, Repr

section Encoding

variable (proto : AddonsProto)

def encodeHeaderAddons (addons : Addons) : Encoder HeaderError Unit :=
  if addons.flow = xrv then
    match proto.marshal addons with
    | none => .fail .marshalAddons
    | some bytes => do
      (Encoder.putByte bufSize (UInt8.ofNat bytes.length)).mapError .writeAddonsLength
      .put bufSize bytes
  else (Encoder.putByte bufSize 0).mapError .writeAddonsLength

/-- A method call on a nil address fails. -/
def encodeTarget (request : RequestHeader Bytes) : Encoder HeaderError Unit :=
  if request.command = requestCommandMux then pure ()
  else
    match request.address with
    | none => .panic
    | some address => (addrParser.writeAddressPort address request.port).mapError .writeAddress

def encodeRequestHeader (request : RequestHeader Bytes) (addons : Addons) : Encoder HeaderError Unit := do
  (Encoder.putByte bufSize request.version).mapError .writeVersion
  .put bufSize request.user
  encodeHeaderAddons proto addons
  (Encoder.putByte bufSize request.command).mapError .writeCommand
  encodeTarget request

def encodeResponseHeader (requestVersion : UInt8) (addons : Addons) : Encoder HeaderError Unit := do
  (Encoder.putByte bufSize requestVersion).mapError .writeVersion
  encodeHeaderAddons proto addons

end Encoding

section Decoding

variable (proto : AddonsProto) {υ : Type}

def unmarshalAddons (bytes : Bytes) : Outcome HeaderError Addons :=
  (proto.unmarshal bytes).elim (.error .unmarshalAddons) .ok

def decodeAddonsValue (length : UInt8) : Decoder HeaderError Addons :=
  if length = 0 then pure ⟨[], []⟩
  else do
    .clear
    let bytes ← (Decoder.take bufSize length.toNat).mapError .readAddons
    .lift (unmarshalAddons proto bytes)

def decodeHeaderAddons : Decoder HeaderError Addons := do
  .clear
  let length ← (Decoder.takeByte bufSize).mapError .readAddonsLength
  decodeAddonsValue proto length

/-- A target that cannot be read is no error by itself: it is left out. -/
def decodeTarget (command : UInt8) : Decoder HeaderError (Option Address × UInt16) :=
  if command = requestCommandMux then pure (some muxCool, 0)
  else if command = requestCommandTCP ∨ command = requestCommandUDP then fun s =>
    match addrParser.readAddressPort s with
    | .ok r => .ok r
    | .error _ => .ok ((none, 0), s)
    | .panicked => .panicked
  else pure (none, 0)

def decodeRequest (user : υ) : Decoder HeaderError (RequestHeader υ × Addons) := do
  let addons ← decodeHeaderAddons proto
  .clear
  let command ← (Decoder.takeByte bufSize).mapError .readCommand
  let target ← decodeTarget command
  if target.1 = none then .fail .invalidAddress
  else pure (⟨version, user, command, target.1, target.2⟩, addons)

/-- The first buffer of the reader, which is the one that `DecodeRequestHeader` may look into. -/
def first (s : Intake) : Bytes := s.reader.chunks.headD []

def advanceFirst (n : ℕ) (s : Intake) : Intake :=
  match s.reader with
  | ⟨[], h⟩ => ⟨s.buffer, ⟨[], h⟩⟩
  | ⟨c :: cs, h⟩ => ⟨s.buffer, ⟨if n < c.length then c.drop n :: cs else cs, by
      intro d hd
      split at hd
      · rcases List.mem_cons.mp hd with rfl | hd
        · exact List.ne_nil_of_length_pos (by rw [List.length_drop]; omega)
        · exact h d (List.mem_cons_of_mem c hd)
      · exact h d (List.mem_cons_of_mem c hd)⟩⟩

/-- The version, read from the stream or looked up in the first buffer. -/
def readVersion (isfb : Bool) : Decoder HeaderError UInt8 :=
  if isfb then fun s => .ok ((first s).getD 0 0, s)
  else (Decoder.takeByte bufSize).mapError .readVersion

def readID (isfb : Bool) : Decoder HeaderError Bytes :=
  if isfb then fun s => .ok (((first s).drop 1).take 16, s)
  else do
    .clear
    (Decoder.take bufSize 16).mapError .readUserID

/-- With a user, what has been looked up in the first buffer is taken off it. -/
def takeUser (isfb : Bool) : Decoder HeaderError Unit :=
  if isfb then fun s => .ok ((), advanceFirst 17 s) else pure ()

/-- `DecodeRequestHeader`; an error comes with whether the connection may still fall back to another
handler. -/
def decodeRequestHeader (get : Bytes → Option υ) (isfb : Bool) :
    Decoder (HeaderError × Bool) (RequestHeader υ × Addons) := do
  let v ← (readVersion isfb).mapError (·, false)
  if v = 0 then do
    let id ← (readID isfb).mapError (·, false)
    match get id with
    | none => .fail (.invalidUserID, isfb)
    | some user => do
      (takeUser isfb).mapError (·, false)
      (decodeRequest proto user).mapError (·, false)
  else .fail (.invalidVersion, isfb)

def decodeResponseHeader (requestVersion : UInt8) : Decoder HeaderError Addons := do
  let v ← (Decoder.takeByte bufSize).mapError .readVersion
  if v ≠ requestVersion then .fail (.unexpectedVersion requestVersion v)
  else decodeHeaderAddons proto

end Decoding

structure Account where
  id : Bytes
  flow : Bytes
  deriving DecidableEq, Repr

inductive ProcessError where
  | targetNotSpecified
  | rejectedUDP443
  | onlyTLS
  deriving DecidableEq, Repr

/-- The flow of the account, and whether it allows UDP to port 443. -/
def flowFor (account : Account) : Bytes × Bool :=
  if account.flow = xrv ++ goString "-udp443" then (account.flow.take 16, true) else (account.flow, false)

/-- What Vision refuses; `direct` is whether the connection is one of TLS or of REALITY. -/
def checkFlow (flow : Bytes × Bool) (direct : Bool) (command : UInt8) (port : UInt16) :
    Outcome ProcessError Unit :=
  if flow.1 = xrv then
    if command = requestCommandUDP then Outcome.failIf (flow.2 = false ∧ port = 443) .rejectedUDP443
    else Outcome.failIf (direct = false) .onlyTLS
  else pure ()

/-- UDP goes through a multiplexed connection if the flow is that of Vision, or if source ports are to be
kept and the port is neither 53 nor 443. -/
def throughMux (cone : Bool) (flow : Bytes) (command : UInt8) (port : UInt16) : Prop :=
  command = requestCommandUDP ∧ (flow = xrv ∨ cone = true ∧ port ≠ 53 ∧ port ≠ 443)

instance (cone : Bool) (flow : Bytes) (command : UInt8) (port : UInt16) :
    Decidable (throughMux cone flow command port) :=
  inferInstanceAs (Decidable (_ ∧ _))

/-- The header that `Process` sends for its target; a method call on a nil address fails. -/
def requestFor (cone direct : Bool) (account : Account) (target : Destination) :
    Outcome ProcessError (RequestHeader Bytes × Addons) := do
  Outcome.failIf (target.network = .unknown) .targetNotSpecified
  match target.address with
  | none => .panicked
  | some address => do
    let command := commandFor address target
    let flow := flowFor account
    checkFlow flow direct command target.port
    if throughMux cone flow.1 command target.port then
      pure (⟨version, account.id, requestCommandMux, some muxCool, 666⟩, ⟨flow.1, []⟩)
    else pure (⟨version, account.id, command, some address, target.port⟩, ⟨flow.1, []⟩)

end FoloXray.Vless
