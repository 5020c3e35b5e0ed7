import FoloXray.Foundation.Stream

/-! # PacketFlow v1 framing

The codec of `folotun/frame.go`: packet inspection, the twelve-byte header, the reader that
validates one frame and the full-write loop. Go slices are byte lists; each index below is
read after the length check that bounds it.
-/

namespace FoloXray.PacketFlow
open Foundation

def magic0 : UInt8 := 0x46
def magic1 : UInt8 := 0x50
def version : UInt8 := 1
def headerSize : ℕ := 12
def maxPacketSize : ℕ := 65535
def ipv4Family : UInt8 := 4
def ipv6Family : UInt8 := 6

structure Packet where
  family : UInt8
  protocol : UInt8
  payload : Bytes
  deriving DecidableEq, Repr

inductive FrameError where
  | read (e : ReadError)
  | packetLength (n : ℕ)
  | ipv4Short
  | ipv4HeaderLength
  | ipv4Length (total length : ℕ)
  | ipv6Short
  | ipv6Length (total length : ℕ)
  | ipVersion
  | magic
  | frameVersion (v : UInt8)
  | reserved
  | frameLength (n : ℕ)
  | metadata
  deriving DecidableEq, Repr

def byteAt (b : Bytes) (i : ℕ) : UInt8 := b.getD i 0

def uint16At (b : Bytes) (i : ℕ) : ℕ :=
  (byteAt b i).toNat * 2 ^ 8 + (byteAt b (i + 1)).toNat

def uint32At (b : Bytes) (i : ℕ) : ℕ :=
  (byteAt b i).toNat * 2 ^ 24 + (byteAt b (i + 1)).toNat * 2 ^ 16 +
    (byteAt b (i + 2)).toNat * 2 ^ 8 + (byteAt b (i + 3)).toNat

/-- The bytes `binary.BigEndian.PutUint32` stores; each is reduced modulo `2 ^ 8`. -/
def putUint32 (n : ℕ) : Bytes :=
  [.ofNat (n / 2 ^ 24), .ofNat (n / 2 ^ 16), .ofNat (n / 2 ^ 8), .ofNat n]

def inspectPacket (payload : Bytes) : Except FrameError Packet :=
  if payload.length = 0 ∨ payload.length > maxPacketSize then
    .error (.packetLength payload.length)
  else if byteAt payload 0 >>> 4 = ipv4Family then
    if payload.length < 20 then .error .ipv4Short
    else
      let headerLength := (byteAt payload 0 &&& 0x0f).toNat * 4
      if headerLength < 20 ∨ headerLength > payload.length then .error .ipv4HeaderLength
      else
        let total := uint16At payload 2
        if total ≠ payload.length then .error (.ipv4Length total payload.length)
        else .ok ⟨ipv4Family, byteAt payload 9, payload⟩
  else if byteAt payload 0 >>> 4 = ipv6Family then
    if payload.length < 40 then .error .ipv6Short
    else
      let payloadSize := uint16At payload 4
      if payloadSize + 40 ≠ payload.length then
        .error (.ipv6Length (payloadSize + 40) payload.length)
      else .ok ⟨ipv6Family, byteAt payload 6, payload⟩
  else .error .ipVersion

/-- The header bytes `EncodeFrame` stores before the payload; the flags and the sequence stay
zero. -/
def frameHeader (packet : Packet) : Bytes :=
  [magic0, magic1, version, packet.family, packet.protocol, 0] ++
    putUint32 packet.payload.length ++ [0, 0]

def encodeFrame (payload : Bytes) : Except FrameError Bytes :=
  match inspectPacket payload with
  | .error e => .error e
  | .ok packet => .ok (frameHeader packet ++ packet.payload)

def readFrame (r : ByteReader) : Except FrameError Packet × ByteReader :=
  match readFull headerSize r with
  | (.error e, r) => (.error (.read e), r)
  | (.ok header, r) =>
    if byteAt header 0 ≠ magic0 ∨ byteAt header 1 ≠ magic1 then (.error .magic, r)
    else if byteAt header 2 ≠ version then (.error (.frameVersion (byteAt header 2)), r)
    else if byteAt header 5 ≠ 0 ∨ byteAt header 10 ≠ 0 ∨ byteAt header 11 ≠ 0 then
      (.error .reserved, r)
    else
      let length := uint32At header 6
      if length = 0 ∨ length > maxPacketSize then (.error (.frameLength length), r)
      else
        match readFull length r with
        | (.error e, r) => (.error (.read e), r)
        | (.ok payload, r) =>
          match inspectPacket payload with
          | .error e => (.error e, r)
          | .ok packet =>
            if packet.family ≠ byteAt header 3 ∨ packet.protocol ≠ byteAt header 4 then
              (.error .metadata, r)
            else (.ok packet, r)

inductive WriteError (ε : Type*) where
  | frame (e : FrameError)
  | invalidCount (n : ℤ)
  | writer (e : ε)
  | shortWrite

/-- How a write ended: its error, the bytes the writer accepted and the writer's state. -/
structure WriteOutcome (σ ε : Type*) where
  error : Option (WriteError ε)
  accepted : Bytes
  state : σ

section Writing
variable {σ ε : Type*} (w : ByteWriter σ ε)

/-- The full-write loop. The count is checked before the error and the error before zero. -/
def writeAll (s : σ) (payload : Bytes) : WriteOutcome σ ε :=
  if _hpayload : payload = [] then ⟨none, [], s⟩
  else
    let written := (w.write s payload).1.1
    let s' := (w.write s payload).2
    if _hcount : written < 0 ∨ written > payload.length then
      ⟨some (.invalidCount written), payload.take written.toNat, s'⟩
    else
      match (w.write s payload).1.2 with
      | some e => ⟨some (.writer e), payload.take written.toNat, s'⟩
      | none =>
        if _hzero : written = 0 then ⟨some .shortWrite, [], s'⟩
        else
          let rest := writeAll s' (payload.drop written.toNat)
          { rest with accepted := payload.take written.toNat ++ rest.accepted }
termination_by payload.length
decreasing_by
  have := List.length_pos_of_ne_nil _hpayload
  rw [List.length_drop]
  omega

def writeFrame (s : σ) (payload : Bytes) : WriteOutcome σ ε :=
  match encodeFrame payload with
  | .error e => ⟨some (.frame e), [], s⟩
  | .ok frame => writeAll w s frame

end Writing

end FoloXray.PacketFlow
