import FoloXray.PacketFlow.Codec

/-! # Streams that end inside a frame

`ReadFrame` reads a frame in two parts, and `io.ReadFull` reports an end of stream before the first byte
of either part as `io.EOF`.  So a stream that ends exactly between a header and its payload looks like a
stream that ends between two frames.
-/

namespace FoloXray.PacketFlow
open Foundation

/-- The header passes every check that `ReadFrame` makes before it reads the payload. -/
structure HeaderAccepted (header : Bytes) : Prop where
  magic : byteAt header 0 = magic0 ∧ byteAt header 1 = magic1
  version : byteAt header 2 = version
  reserved : byteAt header 5 = 0 ∧ byteAt header 10 = 0 ∧ byteAt header 11 = 0
  length : uint32At header 6 ≠ 0 ∧ uint32At header 6 ≤ maxPacketSize

def HeaderOnly (data : Bytes) : Prop := data.length = headerSize ∧ HeaderAccepted data

theorem inspectPacket_error {payload : Bytes} {e : FrameError} (h : inspectPacket payload = .error e)
    (r : ReadError) : e ≠ .read r := by
  rintro rfl
  dsimp only [inspectPacket] at h
  split_ifs at h <;> cases h

section Reading

variable {r r₁ : ByteReader} {header : Bytes}

/-- A header that is refused gives an error of its own. -/
theorem readFrame_refused (hheader : readFull headerSize r = (.ok header, r₁))
    (h : ¬ HeaderAccepted header) (e : ReadError) : (readFrame r).1 ≠ .error (.read e) := by
  unfold readFrame
  rw [hheader]
  dsimp only
  split
  · nofun
  · rename_i hmagic
    split
    · nofun
    · rename_i hversion
      split
      · nofun
      · rename_i hreserved
        split
        · nofun
        · rename_i hlength
          exfalso
          apply h
          simp only [not_or, not_not, not_lt] at hmagic hversion hreserved hlength
          exact ⟨hmagic, hversion, hreserved, hlength⟩

/-- After an accepted header an end of stream is reported as the payload meets it. -/
theorem readFrame_accepted (hheader : readFull headerSize r = (.ok header, r₁))
    (h : HeaderAccepted header) (e : ReadError) :
    (readFrame r).1 = .error (.read e) ↔ (readFull (uint32At header 6) r₁).1 = .error e := by
  have hmagic : ¬ (byteAt header 0 ≠ magic0 ∨ byteAt header 1 ≠ magic1) := by
    rw [not_or, not_not, not_not]
    exact h.magic
  have hreserved : ¬ (byteAt header 5 ≠ 0 ∨ byteAt header 10 ≠ 0 ∨ byteAt header 11 ≠ 0) := by
    rw [not_or, not_or, not_not, not_not, not_not]
    exact h.reserved
  have hlength : ¬ (uint32At header 6 = 0 ∨ uint32At header 6 > maxPacketSize) := by
    rw [not_or, not_lt]
    exact h.length
  unfold readFrame
  rw [hheader]
  dsimp only
  rw [if_neg hmagic, if_neg (not_not_intro h.version), if_neg hreserved, if_neg hlength]
  cases readFull (uint32At header 6) r₁ with
  | mk result r₂ =>
    cases result with
    | error e' => simp
    | ok payload =>
      simp only [reduceCtorEq, iff_false]
      split
      · rename_i e' hinspect
        intro heq
        simp only [Except.error.injEq] at heq
        exact inspectPacket_error hinspect e heq
      · split
        · nofun
        · nofun

theorem readFull_eof_iff {n : ℕ} (hn : 0 < n) : (readFull n r).1 = .error .eof ↔ r.bytes = [] := by
  by_cases hlen : r.bytes.length < n
  · rcases readFull_short hlen with ⟨r', hread, -⟩
    rw [hread]
    by_cases hempty : r.bytes = [] <;> simp [hempty]
  · rcases readFull_enough (not_lt.mp hlen) with ⟨r', hread, -⟩
    rw [hread]
    constructor
    · nofun
    · intro hempty
      rw [hempty, List.length_nil] at hlen
      exact absurd hn hlen

end Reading

/-- `ReadFrame` reports `io.EOF` on an empty stream and on one that ends right behind an accepted
header, however the stream is cut into chunks. -/
theorem readFrame_eof {r : ByteReader} :
    (readFrame r).1 = .error (.read .eof) ↔ r.bytes = [] ∨ HeaderOnly r.bytes := by
  by_cases hlen : r.bytes.length < headerSize
  · have hnot : ¬ HeaderOnly r.bytes := fun h => absurd h.1 hlen.ne
    rw [or_iff_left hnot, ← readFull_eof_iff (show 0 < headerSize by decide)]
    rcases readFull_short hlen with ⟨r₁, hread, -⟩
    rw [readFrame, hread]
    simp
  · rcases readFull_enough (not_lt.mp hlen) with ⟨r₁, hread, hrest⟩
    have hne : r.bytes ≠ [] := by
      intro hempty
      rw [hempty] at hlen
      exact hlen (by decide)
    rw [or_iff_right hne]
    by_cases haccepted : HeaderAccepted (r.bytes.take headerSize)
    · rw [readFrame_accepted hread haccepted,
        readFull_eof_iff (Nat.pos_of_ne_zero haccepted.length.1), hrest, List.drop_eq_nil_iff]
      constructor
      · intro hle
        rw [List.take_of_length_le hle] at haccepted
        exact ⟨le_antisymm hle (not_lt.mp hlen), haccepted⟩
      · exact fun h => h.1.le
    · refine iff_of_false (readFrame_refused hread haccepted .eof) ?_
      rintro ⟨heq, h⟩
      rw [List.take_of_length_le heq.le] at haccepted
      exact haccepted h

theorem headerAccepted_frameHeader {payload : Bytes} {packet : Packet}
    (h : inspectPacket payload = .ok packet) : HeaderAccepted (frameHeader packet) := by
  rcases inspectPacket_ok h with ⟨hpayload, hpos, hmax⟩
  have hlength := uint32At_frameHeader packet (by rw [hpayload]; exact hmax.trans_lt (by decide))
  rw [hpayload] at hlength
  refine ⟨⟨rfl, rfl⟩, rfl, ⟨rfl, rfl, rfl⟩, ?_⟩
  rw [hlength]
  exact ⟨hpos.ne', hmax⟩

/-- A cut of a written frame is an accepted header exactly if it ends where the header does. -/
theorem headerOnly_cut {payload frame cut : Bytes} (h : encodeFrame payload = .ok frame)
    (hcut : cut <+: frame) : HeaderOnly cut ↔ cut.length = headerSize := by
  rcases encodeFrame_ok.mp h with ⟨packet, hinspect, rfl⟩
  refine ⟨And.left, fun hlen => ⟨hlen, ?_⟩⟩
  have hheader : cut = frameHeader packet := by
    rw [List.prefix_iff_eq_take.mp hcut, hlen]
    exact List.take_left' (frameHeader_length packet)
  rw [hheader]
  exact headerAccepted_frameHeader hinspect

/-- So `io.EOF` stands for an empty stream exactly if the stream is not an accepted header alone, and
of a written frame that is cut short the reader reports a clean end exactly if nothing or the whole
header is left. -/
theorem readFrame_eof_boundary (r : ByteReader) :
    (((readFrame r).1 = .error (.read .eof) ↔ r.bytes = []) ↔ ¬ HeaderOnly r.bytes) ∧
      ∀ payload frame, encodeFrame payload = .ok frame → r.bytes <+: frame → r.bytes ≠ frame →
        ∃ e, (readFrame r).1 = .error e ∧
          (e = .read .eof ↔ r.bytes = [] ∨ r.bytes.length = headerSize) := by
  constructor
  · rw [readFrame_eof]
    constructor
    · intro hempty honly
      have hnil := hempty.mp (.inr honly)
      rw [hnil] at honly
      exact absurd honly.1 (by decide)
    · intro hnot
      rw [or_iff_left hnot]
  · intro payload frame hencode hcut hne
    rw [← headerOnly_cut hencode hcut, ← readFrame_eof]
    rcases encodeFrame_ok.mp hencode with ⟨packet, hinspect, rfl⟩
    have hshort := lt_of_le_of_ne hcut.length_le fun heq => hne (hcut.eq_of_length heq)
    rcases readFrame_cut hinspect rfl hcut hshort with ⟨e, r', hread⟩
    refine ⟨e, by rw [hread], ?_⟩
    rw [hread]
    simp

/-- The header of a frame with a payload of 20 bytes, and nothing behind it. -/
def headerAlone : ByteReader := ⟨[[0x46, 0x50, 1, 4, 17, 0, 0, 0, 0, 20, 0, 0]], by simp⟩

/-- Twelve bytes of a frame were read, and a clean end is reported. -/
theorem clean_end_behind_header :
    (readFrame headerAlone).1 = .error (.read .eof) ∧ headerAlone.bytes.length = 12 := by
  have honly : HeaderOnly headerAlone.bytes :=
    ⟨rfl, ⟨by decide, by decide, by decide, by decide⟩⟩
  exact ⟨readFrame_eof.mpr (.inr honly), rfl⟩

def headerPacket : Bytes := [0x45, 0, 0, 20, 0, 0, 0, 0, 64, 17, 0, 0, 1, 2, 3, 4, 5, 6, 7, 8]

/-- A stream that is cut inside its header, and the frame of the packet cut behind its header. -/
theorem readFrame_eof_boundary_cuts :
    ((readFrame ⟨[[0x46]], by simp⟩).1 = .error (.read .eof) ↔ ([0x46] : Bytes) = []) ∧
      encodeFrame headerPacket = .ok (headerAlone.bytes ++ headerPacket) ∧
      (readFrame headerAlone).1 = .error (.read .eof) := by
  have hframe : encodeFrame headerPacket = .ok (headerAlone.bytes ++ headerPacket) := by decide
  refine ⟨(readFrame_eof_boundary ⟨[[0x46]], by simp⟩).1.mpr fun h => absurd h.1 (by decide), hframe, ?_⟩
  obtain ⟨e, hread, heof⟩ := (readFrame_eof_boundary headerAlone).2 headerPacket _ hframe
    (List.prefix_append _ _) (by decide)
  rw [hread, heof.mpr (.inr rfl)]

end FoloXray.PacketFlow
