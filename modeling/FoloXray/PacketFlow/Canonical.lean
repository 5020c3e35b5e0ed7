import FoloXray.Foundation.PrefixCode
import FoloXray.PacketFlow.RoundTrip

/-! # One byte sequence for each packet

`ReadFrame` is the exact inverse of `EncodeFrame`: it accepts the encoded frames and nothing else.
The frames form a prefix-free code, so a stream is cut into frames in one way only.
-/

namespace FoloXray.PacketFlow
open Foundation

def IsFrame (frame : Bytes) : Prop := ∃ payload, encodeFrame payload = .ok frame

theorem IsFrame.ne_nil {frame : Bytes} (h : IsFrame frame) : frame ≠ [] := by
  rcases h with ⟨payload, h⟩
  rcases encodeFrame_ok.mp h with ⟨packet, -, rfl⟩
  simp [frameHeader]

/-- A successful `ReadFrame` took the encoding of its own packet off the stream. -/
theorem readFrame_takes_encoding {r r' : ByteReader} {packet : Packet}
    (h : readFrame r = (.ok packet, r')) :
    ∃ frame, encodeFrame packet.payload = .ok frame ∧ r.bytes = frame ++ r'.bytes := by
  have hread := readFrame_ok h
  exact ⟨_, encodeFrame_ok.mpr ⟨packet, hread.1, rfl⟩, hread.2⟩

/-- A stream that begins with an encoded frame is read up to the end of that frame. -/
theorem readFrame_of_isFrame {r : ByteReader} {payload frame rest : Bytes}
    (h : encodeFrame payload = .ok frame) (hr : r.bytes = frame ++ rest) :
    ∃ packet r', readFrame r = (.ok packet, r') ∧ packet.payload = payload ∧ r'.bytes = rest := by
  rcases encodeFrame_ok.mp h with ⟨packet, hinspect, rfl⟩
  rcases readFrame_frame hinspect (hr.trans (List.append_assoc ..)) with ⟨r', hread, hrest⟩
  exact ⟨packet, r', hread, (inspectPacket_ok hinspect).1, hrest⟩

/-- The reader decides where a frame ends, so no frame continues another. -/
theorem isFrame_prefixFree : PrefixFree IsFrame := by
  intro v w hv hw hvw
  rcases hvw with ⟨tail, hw'⟩
  have hne : w ≠ [] := hw.ne_nil
  rcases hv with ⟨p, hv⟩
  rcases hw with ⟨q, hw⟩
  let r : ByteReader := ⟨[w], by simpa using hne⟩
  have hbytes : r.bytes = w := by simp [r, ByteReader.bytes]
  have hwhole : r.bytes = w ++ [] := by simp [hbytes]
  rcases readFrame_of_isFrame hv (hbytes.trans hw'.symm) with ⟨a, r₁, ha, -, hr₁⟩
  rcases readFrame_of_isFrame hw hwhole with ⟨b, r₂, hb, -, hr₂⟩
  rw [ha] at hb
  cases hb
  rw [hr₁] at hr₂
  simpa [hr₂] using hw'

/-- The consumed bytes are determined by the packet that was read. -/
theorem readFrame_consumed_unique {r₁ r₁' r₂ r₂' : ByteReader} {packet : Packet} {b₁ b₂ : Bytes}
    (h₁ : readFrame r₁ = (.ok packet, r₁')) (h₂ : readFrame r₂ = (.ok packet, r₂'))
    (hb₁ : r₁.bytes = b₁ ++ r₁'.bytes) (hb₂ : r₂.bytes = b₂ ++ r₂'.bytes) : b₁ = b₂ := by
  rcases readFrame_takes_encoding h₁ with ⟨frame₁, he₁, hf₁⟩
  rcases readFrame_takes_encoding h₂ with ⟨frame₂, he₂, hf₂⟩
  rw [he₁] at he₂
  cases he₂
  rw [hb₁] at hf₁
  rw [hb₂] at hf₂
  rw [List.append_cancel_right hf₁, List.append_cancel_right hf₂]

/-- PacketFlow decoding is canonical.  A successful `ReadFrame` consumed exactly the encoding of the
payload it returns and left the rest of the stream unread; the streams it accepts whole are the
encoded frames, however they are chunked; a packet determines the bytes it was read from; and no
frame is a proper beginning of another. -/
theorem packetFlow_canonical :
    (∀ (r r' : ByteReader) (packet : Packet), readFrame r = (.ok packet, r') →
      ∃ frame, encodeFrame packet.payload = .ok frame ∧ r.bytes = frame ++ r'.bytes) ∧
    (∀ r : ByteReader, (∃ packet r', readFrame r = (.ok packet, r') ∧ r'.bytes = []) ↔
      ∃ payload, encodeFrame payload = .ok r.bytes) ∧
    (∀ (r₁ r₁' r₂ r₂' : ByteReader) (packet : Packet) (b₁ b₂ : Bytes),
      readFrame r₁ = (.ok packet, r₁') → readFrame r₂ = (.ok packet, r₂') →
      r₁.bytes = b₁ ++ r₁'.bytes → r₂.bytes = b₂ ++ r₂'.bytes → b₁ = b₂) ∧
    (∀ payload₁ payload₂ frame₁ frame₂, encodeFrame payload₁ = .ok frame₁ →
      encodeFrame payload₂ = .ok frame₂ → frame₁ <+: frame₂ → frame₁ = frame₂) := by
  constructor
  · exact fun _ _ _ h => readFrame_takes_encoding h
  constructor
  · intro r
    constructor
    · rintro ⟨packet, r', h, hrest⟩
      rcases readFrame_takes_encoding h with ⟨frame, hframe, hbytes⟩
      rw [hrest, List.append_nil] at hbytes
      exact ⟨packet.payload, by rw [hbytes, hframe]⟩
    · rintro ⟨payload, h⟩
      have hwhole : r.bytes = r.bytes ++ [] := by simp
      rcases readFrame_of_isFrame h hwhole with ⟨packet, r', hr, -, hrest⟩
      exact ⟨packet, r', hr, hrest⟩
  constructor
  · exact fun _ _ _ _ _ _ _ h₁ h₂ hb₁ hb₂ => readFrame_consumed_unique h₁ h₂ hb₁ hb₂
  · exact fun p q _ _ hp hq h => isFrame_prefixFree _ _ ⟨p, hp⟩ ⟨q, hq⟩ h

end FoloXray.PacketFlow
