import FoloXray.PacketFlow.Codec

/-! # Streams of frames

Reading frames until the first error, and writing a list of payloads one after the other.
Any prefix of the encoded stream, cut into any chunks, gives back exactly the packets whose
frames lie wholly inside it.
-/

namespace FoloXray.PacketFlow
open Foundation

theorem readFrame_consumes {r r' : ByteReader} {packet : Packet}
    (h : readFrame r = (.ok packet, r')) : r'.bytes.length < r.bytes.length := by
  obtain ⟨-, hbytes⟩ := readFrame_ok h
  rw [hbytes]
  simp only [List.length_append, frameHeader_length, headerSize]
  omega

/-- `ReadFrame` called again and again: the packets it returns and the error that ends it. -/
def readFrames (r : ByteReader) : List Packet × FrameError :=
  match _h : readFrame r with
  | (.error e, _) => ([], e)
  | (.ok packet, r') => (packet :: (readFrames r').1, (readFrames r').2)
termination_by r.bytes.length
decreasing_by all_goals exact readFrame_consumes _h

theorem readFrames_of_error {r r' : ByteReader} {e : FrameError}
    (h : readFrame r = (.error e, r')) : readFrames r = ([], e) := by
  rw [readFrames]
  split
  · rename_i heq
    rw [h] at heq
    cases heq
    rfl
  · rename_i heq
    rw [h] at heq
    cases heq

theorem readFrames_of_ok {r r' : ByteReader} {packet : Packet}
    (h : readFrame r = (.ok packet, r')) :
    readFrames r = (packet :: (readFrames r').1, (readFrames r').2) := by
  rw [readFrames]
  split
  · rename_i heq
    rw [h] at heq
    cases heq
  · rename_i heq
    rw [h] at heq
    cases heq
    rfl

/-- The bytes `EncodeFrame` gives for one payload; nothing for a refused one. -/
def frameBytes (payload : Bytes) : Bytes :=
  match encodeFrame payload with
  | .ok frame => frame
  | .error _ => []

def frameStream (payloads : List Bytes) : Bytes := payloads.flatMap frameBytes

theorem frameBytes_of_inspect {payload : Bytes} {packet : Packet}
    (h : inspectPacket payload = .ok packet) :
    frameBytes payload = frameHeader packet ++ payload := by
  rw [frameBytes, encodeFrame_ok.mpr ⟨packet, h, rfl⟩]

theorem readFrames_nil {r : ByteReader} (hr : r.bytes = []) :
    readFrames r = ([], .read .eof) := by
  obtain ⟨r', hread, -⟩ := readFull_short (n := headerSize) (r := r) (by simp [hr, headerSize])
  have hframe : readFrame r = (.error (.read .eof), r') := by simp [readFrame, hread, hr]
  exact readFrames_of_error hframe

/-- The packets read from a prefix are those of the frames wholly inside it. -/
theorem readFrames_prefix {payloads : List Bytes} {cut : Bytes} {r : ByteReader}
    (hps : ∀ p ∈ payloads, ∃ packet, inspectPacket p = .ok packet)
    (hcut : cut <+: frameStream payloads) (hr : r.bytes = cut) :
    ∃ k packets e, k ≤ payloads.length ∧ frameStream (payloads.take k) <+: cut ∧
      (k < payloads.length → ¬ frameStream (payloads.take (k + 1)) <+: cut) ∧
      (payloads.take k).map inspectPacket = packets.map .ok ∧
      readFrames r = (packets, e) := by
  induction payloads generalizing cut r with
  | nil =>
    have hnil : cut = [] := List.prefix_nil.mp hcut
    exact ⟨0, [], .read .eof, le_rfl, by simp [frameStream], by simp, rfl,
      readFrames_nil (hr.trans hnil)⟩
  | cons p ps ih =>
    obtain ⟨packet, hp⟩ := hps p List.mem_cons_self
    have hframe := frameBytes_of_inspect hp
    have hstream (k : ℕ) : frameStream ((p :: ps).take (k + 1)) =
        frameHeader packet ++ p ++ frameStream (ps.take k) := by
      simp [frameStream, hframe]
    have hwhole : frameStream (p :: ps) = frameHeader packet ++ p ++ frameStream ps := by
      simp [frameStream, hframe]
    rw [hwhole] at hcut
    by_cases hlen : (frameHeader packet ++ p).length ≤ cut.length
    · obtain ⟨rest, rfl⟩ : frameHeader packet ++ p <+: cut :=
        List.prefix_of_prefix_length_le (List.prefix_append _ _) hcut hlen
      obtain ⟨r', hread, hr'⟩ := readFrame_frame hp (hr.trans (List.append_assoc ..))
      have hrest : rest <+: frameStream ps := (List.prefix_append_right_inj _).mp hcut
      obtain ⟨k, packets, e, hk, hin, hout, hmap, hreads⟩ :=
        ih (fun q hq => hps q (List.mem_cons_of_mem p hq)) hrest hr'
      refine ⟨k + 1, packet :: packets, e, by simpa using hk, ?_, ?_, ?_, ?_⟩
      · rw [hstream]
        exact (List.prefix_append_right_inj _).mpr hin
      · intro hlt hpre
        rw [hstream] at hpre
        exact hout (by simpa using hlt) ((List.prefix_append_right_inj _).mp hpre)
      · simp [hp, hmap]
      · rw [readFrames_of_ok hread, hreads]
    · have hinside : cut <+: frameHeader packet ++ p :=
        List.prefix_of_prefix_length_le hcut (List.prefix_append _ _) (by omega)
      obtain ⟨e, r', hread⟩ := readFrame_cut hp hr hinside (by omega)
      refine ⟨0, [], e, Nat.zero_le _, by simp [frameStream], ?_, rfl, readFrames_of_error hread⟩
      intro _ hpre
      rw [hstream] at hpre
      have := hpre.length_le
      simp only [List.take_zero, List.length_append, frameStream, List.flatMap_nil,
        List.length_nil] at this hlen
      omega

/-- `WriteFrame` for each payload in turn, stopping at the first error. -/
def writeFrames {σ ε : Type*} (w : ByteWriter σ ε) : σ → List Bytes → WriteOutcome σ ε
  | s, [] => ⟨none, [], s⟩
  | s, p :: ps =>
    let first := writeFrame w s p
    match first.error with
    | some _ => first
    | none =>
      let rest := writeFrames w first.state ps
      { rest with accepted := first.accepted ++ rest.accepted }

end FoloXray.PacketFlow
