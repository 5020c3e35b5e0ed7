import FoloXray.Protocol.AddressWire
import FoloXray.Protocol.Headers

/-! # The frames of a multiplexed connection

`common/mux`: a frame has a length, a session, a status and an option, then the target of a new session
or the address that a packet is from or for, and then the data, if the option says so.
-/

namespace FoloXray.Mux

open Foundation Buffers Protocol
open PacketFlow (Destination Network)

def sessionStatusNew : UInt8 := 0x01
def sessionStatusKeep : UInt8 := 0x02
def sessionStatusEnd : UInt8 := 0x03

def optionData : UInt8 := 0x01
def optionError : UInt8 := 0x02

def targetNetworkTCP : UInt8 := 0x01
def targetNetworkUDP : UInt8 := 0x02

def addrParser : AddressParser :=
  newAddressParser [.addressFamilyByte 1 .ipv4, .addressFamilyByte 2 .domain, .addressFamilyByte 3 .ipv6,
    .portThenAddress]

def noDestination : Destination := ⟨none, 0, .unknown⟩

def noGlobalID : Bytes := List.replicate 8 0

structure FrameMetadata where
  target : Destination
  sessionID : UInt16
  option : UInt8
  sessionStatus : UInt8
  globalID : Bytes
  deriving DecidableEq, Repr

/-- A buffer, and the address that its packet is from or for. -/
structure Packet where
  udp : Option Destination
  bytes : Bytes
  deriving DecidableEq, Repr

/-- `WriteAddressPort` for a destination; a method call on a nil address fails. -/
def writeDestination (d : Destination) : Encoder AddressError Unit :=
  match d.address with
  | none => .panic
  | some address => addrParser.writeAddressPort address d.port

namespace FrameMetadata

variable (f : FrameMetadata)

def writeNetwork : Encoder AddressError Unit :=
  match f.target.network with
  | .tcp => (Encoder.putByte bufSize targetNetworkTCP).must
  | .udp => (Encoder.putByte bufSize targetNetworkUDP).must
  | _ => pure ()

def writeGlobalID (udp : Option Destination) : Encoder AddressError Unit :=
  if udp = none then pure () else .put bufSize f.globalID

/-- The target of a new session, or the address of the frame's buffer. -/
def writeTarget (udp : Option Destination) : Encoder AddressError Unit :=
  if f.sessionStatus = sessionStatusNew then do
    f.writeNetwork
    writeDestination f.target
    f.writeGlobalID udp
  else
    match udp with
    | none => pure ()
    | some d => do
      (Encoder.putByte bufSize targetNetworkUDP).ignore
      (writeDestination d).ignore

/-- `WriteTo` a buffer whose packet has the given address. -/
def writeTo (udp : Option Destination) : Encoder AddressError Unit :=
  Encoder.withLength bufSize do
    .extend bufSize (twoBytes f.sessionID.toNat)
    (Encoder.putByte bufSize f.sessionStatus).must
    (Encoder.putByte bufSize f.option).must
    f.writeTarget udp

end FrameMetadata

inductive FrameError where
  | read (e : FillError)
  | invalidMetaLen (length : ℕ)
  | insufficientBuffer (length : ℕ)
  | addressAndPort (e : AddressError)
  | unknownNetwork (network : UInt8)
  | packetTooLarge (size : ℕ)
  deriving DecidableEq, Repr

/-- The address at the front of a buffer, and what is left of the buffer. -/
def readDestination (b : Bytes) : Outcome FrameError (Option Profile.Address × UInt16 × Bytes) := do
  let r ← (addrParser.readAddressPort ⟨[], .ofBytes b⟩).mapError .addressAndPort
  pure (r.1.1, r.1.2, r.2.reader.bytes)

def targetNetwork (network : UInt8) : Outcome FrameError Network :=
  if network = targetNetworkTCP then .ok .tcp
  else if network = targetNetworkUDP then .ok .udp
  else .error (.unknownNetwork network)

/-- The target behind the fixed fields, and what is left of the buffer. -/
def unmarshalTarget (b : Bytes) : Outcome FrameError (Destination × Bytes) :=
  let status := b.getD 2 0
  let network := b.getD 4 0
  if status = sessionStatusNew ∨
      status = sessionStatusKeep ∧ 4 < b.length ∧ network = targetNetworkUDP then
    if b.length < 8 then .error (.insufficientBuffer b.length)
    else do
      let (address, port, rest) ← readDestination (b.drop 5)
      let network ← targetNetwork network
      pure (⟨address, port, network⟩, rest)
  else pure (noDestination, b)

def unmarshalFromBuffer (b : Bytes) : Outcome FrameError FrameMetadata :=
  if b.length < 4 then .error (.insufficientBuffer b.length)
  else do
    let (target, rest) ← unmarshalTarget b
    let status := b.getD 2 0
    let option := b.getD 3 0
    let globalID :=
      if status = sessionStatusNew ∧ option &&& optionData ≠ 0 ∧ target.network = .udp ∧ 8 ≤ rest.length
      then rest.take 8
      else noGlobalID
    pure ⟨target, UInt16.ofNat ((b.getD 0 0).toNat * 256 + (b.getD 1 0).toNat), option, status, globalID⟩

def unmarshalOfLength (metaLen : ℕ) : Decoder FrameError FrameMetadata :=
  if 512 < metaLen then .fail (.invalidMetaLen metaLen)
  else do
    let b ← (Decoder.fresh (Decoder.take bufSize metaLen)).mapError .read
    .lift (unmarshalFromBuffer b)

def unmarshal : Decoder FrameError FrameMetadata := do
  let metaLen ← Decoder.takeUint16.mapError .read
  unmarshalOfLength metaLen

/-- `ReadMultiBuffer` of a packet reader whose frame has the given target. -/
def readPacket (dest : Destination) : Decoder FrameError Packet := do
  let size ← Decoder.takeUint16.mapError .read
  if bufSize < size then .fail (.packetTooLarge size)
  else do
    let bytes ← (Decoder.fresh (Decoder.take bufSize size)).mapError .read
    pure ⟨if dest.network = .udp then some dest else none, bytes⟩

/-- A frame of a session that carries packets, and the packet in it. -/
def readSessionFrame : Decoder FrameError (FrameMetadata × Option Packet) := do
  let frame ← unmarshal
  if frame.option &&& optionData ≠ 0 then do
    let packet ← readPacket frame.target
    pure (frame, some packet)
  else pure (frame, none)

structure Writer where
  dest : Destination
  id : UInt16
  followup : Bool
  hasError : Bool
  transferType : TransferType
  globalID : Bytes
  deriving DecidableEq, Repr

def newResponseWriter (id : UInt16) (transferType : TransferType) : Writer :=
  ⟨noDestination, id, true, false, transferType, noGlobalID⟩

/-- `SplitSize`: what is left, and at most `size` bytes of the front. -/
def splitFront (size : ℕ) : List Packet → List Packet × List Packet
  | [] => ([], [])
  | b :: mb =>
    if size < b.bytes.length then (b :: mb, [])
    else
      let r := splitFront (size - b.bytes.length) mb
      (r.1, b :: r.2)

def splitSize (size : ℕ) : List Packet → List Packet × List Packet
  | [] => ([], [])
  | b :: mb =>
    if size < b.bytes.length then
      (⟨b.udp, b.bytes.drop size⟩ :: mb, [⟨none, b.bytes.take size⟩])
    else splitFront size (b :: mb)

/-- What the next frame of the writer carries: of a stream as much as a buffer holds, and otherwise the
next packet. -/
def nextChunk (transferType : TransferType) (mb : List Packet) : List Packet × List Packet :=
  match transferType with
  | .stream => splitSize bufSize mb
  | .packet => (mb.drop 1, mb.take 1)

/-- What is still to be written, counting each buffer as a byte. -/
def weight (mb : List Packet) : ℕ := (mb.map fun b => b.bytes.length + 1).sum

@[simp] theorem weight_nil : weight [] = 0 := rfl

@[simp] theorem weight_cons (b : Packet) (mb : List Packet) :
    weight (b :: mb) = b.bytes.length + 1 + weight mb := rfl

theorem weight_splitFront_le (size : ℕ) (mb : List Packet) : weight (splitFront size mb).1 ≤ weight mb := by
  induction mb generalizing size with
  | nil => exact le_rfl
  | cons b mb ih =>
    unfold splitFront
    split
    · exact le_rfl
    · have := ih (size - b.bytes.length)
      simp only [weight_cons]
      omega

theorem weight_nextChunk_lt (transferType : TransferType) {mb : List Packet} (h : mb ≠ []) :
    weight (nextChunk transferType mb).1 < weight mb := by
  obtain ⟨b, mb, rfl⟩ := List.exists_cons_of_ne_nil h
  cases transferType with
  | packet =>
    simp only [nextChunk, List.drop_succ_cons, List.drop_zero, weight_cons]
    omega
  | stream =>
    unfold nextChunk splitSize
    by_cases hlong : bufSize < b.bytes.length
    · have hpos : 0 < bufSize := by decide
      simp only [hlong, if_true, weight_cons, List.length_drop]
      omega
    · have := weight_splitFront_le (bufSize - b.bytes.length) mb
      simp only [hlong, if_false, splitFront, weight_cons]
      omega

namespace Writer

def getNextFrameMeta (w : Writer) : FrameMetadata × Writer :=
  if w.followup then (⟨w.dest, w.id, 0, sessionStatusKeep, w.globalID⟩, w)
  else (⟨w.dest, w.id, 0, sessionStatusNew, w.globalID⟩, { w with followup := true })

def writeMetaOnly (w : Writer) : (Outcome AddressError Unit × Bytes) × Writer :=
  let r := w.getNextFrameMeta
  match r.1.writeTo none [] with
  | (.ok (), b) => ((.ok (), b), r.2)
  | (e, _) => ((e, []), r.2)

/-- `writeMetaWithFrame`; the frame has the address of the only buffer in it. -/
def writeMetaWithFrame (frame : FrameMetadata) (data : List Packet) : Outcome AddressError Unit × Bytes :=
  let udp := match data with
    | [b] => b.udp
    | _ => none
  let bytes := data.flatMap Packet.bytes
  match (do frame.writeTo udp; .put bufSize (twoBytes bytes.length) : Encoder AddressError Unit) [] with
  | (.ok (), b) => (.ok (), b ++ bytes)
  | (e, _) => (e, [])

def writeData (w : Writer) (data : List Packet) : (Outcome AddressError Unit × Bytes) × Writer :=
  let r := w.getNextFrameMeta
  (writeMetaWithFrame { r.1 with option := optionData } data, r.2)

def writeChunks (w : Writer) (mb : List Packet) : (Outcome AddressError Unit × Bytes) × Writer :=
  if _hempty : mb.all fun b => b.bytes = [] then ((.ok (), []), w)
  else
    let chunk := nextChunk w.transferType mb
    match w.writeData chunk.2 with
    | ((.ok (), b), w') =>
      let r := w'.writeChunks chunk.1
      ((r.1.1, b ++ r.1.2), r.2)
    | r => r
termination_by weight mb
decreasing_by
  apply weight_nextChunk_lt
  rintro rfl
  exact _hempty rfl

def writeMultiBuffer (w : Writer) (mb : List Packet) : (Outcome AddressError Unit × Bytes) × Writer :=
  if mb.all fun b => b.bytes = [] then w.writeMetaOnly else w.writeChunks mb

def close (w : Writer) : Outcome AddressError Unit × Bytes :=
  let frame : FrameMetadata :=
    ⟨noDestination, w.id, if w.hasError then optionError else 0, sessionStatusEnd, noGlobalID⟩
  match (frame.writeTo none).must [] with
  | (.ok (), b) => (.ok (), b)
  | (e, _) => (e, [])

end Writer

end FoloXray.Mux
