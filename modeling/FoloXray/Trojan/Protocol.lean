import FoloXray.Foundation.Encoding
import FoloXray.Mux.Frame

/-! # The Trojan protocol

`proxy/trojan`: a connection starts with the hash of a password, a command and the target.  Behind that
come the bytes of a stream as they are, or packets, each with its own address and length.
-/

namespace FoloXray.Trojan

open Foundation Buffers Protocol
open Mux (Packet)
open PacketFlow (Destination Network)

def crlf : Bytes := [0x0d, 0x0a]

def addrParser : AddressParser :=
  newAddressParser [.addressFamilyByte 1 .ipv4, .addressFamilyByte 4 .ipv6, .addressFamilyByte 3 .domain]

def maxLength : ℕ := 8192

def commandTCP : UInt8 := 1
def commandUDP : UInt8 := 3

/-- The key of an account stands in the first 56 bytes of its connections. -/
structure MemoryAccount where
  password : Bytes
  key : Bytes
  length_key : key.length = 56

/-- `AsAccount`, where `sha224` is the hash of the standard library. -/
def asAccount (sha224 : Bytes → Vector UInt8 28) (password : Bytes) : MemoryAccount where
  password := password
  key := hexEncodeToString (sha224 password).toList
  length_key := by
    rw [hexEncodeToString, List.length_flatMap]
    simp

/-- `WriteAddressPort` for a destination; a method call on a nil address fails. -/
def writeDestination (d : Destination) : Encoder AddressError Unit :=
  match d.address with
  | none => .panic
  | some address => addrParser.writeAddressPort address d.port

inductive WriteError where
  | command (e : PutError)
  | address (e : AddressError)
  deriving DecidableEq, Repr

/-- A writer puts the header in front of the first bytes that are written. -/
structure ConnWriter where
  target : Destination
  account : MemoryAccount
  headerSent : Bool

namespace ConnWriter

variable (c : ConnWriter)

def command : UInt8 := if c.target.network = .udp then commandUDP else commandTCP

def header : Encoder WriteError Unit := do
  .put bufSize c.account.key
  .put bufSize crlf
  (Encoder.putByte bufSize c.command).mapError .command
  (writeDestination c.target).mapError .address
  .put bufSize crlf

/-- `Write`: what is handed on, and the writer behind it. -/
def write (p : Bytes) : Outcome WriteError (Bytes × ConnWriter) :=
  if c.headerSent then .ok (p, c)
  else do
    let header ← c.header.run
    pure (header ++ p, { c with headerSent := true })

end ConnWriter

def writeEach {α : Type} (f : ConnWriter → α → Outcome WriteError (Bytes × ConnWriter)) :
    ConnWriter → List α → Outcome WriteError (Bytes × ConnWriter)
  | c, [] => .ok ([], c)
  | c, x :: xs => do
    let (out, c) ← f c x
    let (out', c) ← writeEach f c xs
    pure (out ++ out', c)

namespace ConnWriter

variable (c : ConnWriter)

/-- `WriteMultiBuffer`, which passes over empty buffers. -/
def writeMultiBuffer (mb : List Packet) : Outcome WriteError (Bytes × ConnWriter) :=
  writeEach (fun c b => if b.bytes = [] then .ok ([], c) else c.write b.bytes) c mb

end ConnWriter

/-- The buffer of a packet.  What does not fit into it is left out, the length is that of the whole
payload. -/
def packetBuffer (payload : Bytes) (dest : Destination) : Encoder AddressError Unit := do
  writeDestination dest
  .put bufSize (twoBytes payload.length)
  .put bufSize crlf
  .put bufSize payload

def writePacket (c : ConnWriter) (payload : Bytes) (dest : Destination) :
    Outcome WriteError (Bytes × ConnWriter) := do
  let buffer ← (packetBuffer payload dest).run.mapError .address
  c.write buffer

/-- `WriteMultiBuffer` of a packet writer over `c` with the target of `c`. -/
def writePackets (c : ConnWriter) (mb : List Packet) : Outcome WriteError (Bytes × ConnWriter) :=
  writeEach (fun c b => writePacket c b.bytes (b.udp.getD c.target)) c mb

def writeBody (c : ConnWriter) (mb : List Packet) : Outcome WriteError (Bytes × ConnWriter) :=
  if c.target.network = .udp then writePackets c mb else c.writeMultiBuffer mb

def isEmpty (mb : List Packet) : Bool := mb.all fun b => b.bytes = []

/-- The loop of `Copy`, over what the reader gives. -/
def copy (c : ConnWriter) (mbs : List (List Packet)) : Outcome WriteError (Bytes × ConnWriter) :=
  writeEach (fun c mb => if isEmpty mb then .ok ([], c) else writeBody c mb) c mbs

/-- What `postRequest` sends, where `first` is what has come in time to be sent with the header. -/
def postRequest (account : MemoryAccount) (target : Destination) (first : Option (List Packet))
    (mbs : List (List Packet)) : Outcome WriteError Bytes := do
  let c : ConnWriter := ⟨target, account, false⟩
  let (out, c) ← first.elim (.ok ([], c)) (writeBody c)
  -- the header is sent now if there was nothing to send with it
  let (out', c) ← c.write []
  let (out'', _) ← copy c mbs
  pure (out ++ (out' ++ out''))

inductive ParseError where
  | userHash (e : FillError)
  | crlf (e : FillError)
  | command (e : FillError)
  | addressAndPort (e : AddressError)
  | payloadLength (e : FillError)
  | oversizePayload
  | payload (e : FillError)
  deriving DecidableEq, Repr

open Decoder

/-- `ParseHeader`, which gives the target. -/
def parseHeader : Decoder ParseError Destination := do
  let _ ← (fresh (take 56 56)).mapError .userHash
  let _ ← (fresh (take 2 2)).mapError .crlf
  let command ← (fresh (take 1 1)).mapError .command
  let network : Network := if command.headD 0 = commandUDP then .udp else .tcp
  let (addr, port) ← (fresh addrParser.readAddressPort).mapError .addressAndPort
  let _ ← (fresh (take 2 2)).mapError .crlf
  pure ⟨addr, port, network⟩

/-- The loop over the payload: a packet longer than a buffer would be several. -/
def readPayload (dest : Destination) (remain : ℕ) : Decoder ParseError (List Packet) :=
  if remain = 0 then pure []
  else do
    let length := min bufSize remain
    let bytes ← (fresh (take bufSize length)).mapError .payload
    let rest ← readPayload dest (remain - length)
    pure (⟨some dest, bytes⟩ :: rest)
termination_by remain
decreasing_by
  have hpos : 0 < bufSize := by decide
  omega

def readMultiBuffer : Decoder ParseError (List Packet) := do
  let (addr, port) ← (fresh addrParser.readAddressPort).mapError .addressAndPort
  let remain ← takeUint16.mapError .payloadLength
  if remain > maxLength then .fail .oversizePayload
  else do
    let _ ← (fresh (take 2 2)).mapError .crlf
    readPayload ⟨addr, port, .udp⟩ remain

end FoloXray.Trojan
