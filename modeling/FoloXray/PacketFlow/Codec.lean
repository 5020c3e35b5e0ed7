import FoloXray.PacketFlow.Frame

/-! # One frame, read and written

`ReadFrame` accepts exactly the bytes `EncodeFrame` produces and leaves the rest of the
stream unread; on a stream that ends inside a frame it fails. The write loop hands a
progressing writer every byte once.
-/

namespace FoloXray.PacketFlow
open Foundation

theorem inspectPacket_ok {payload : Bytes} {packet : Packet}
    (h : inspectPacket payload = .ok packet) :
    packet.payload = payload ∧ 0 < payload.length ∧ payload.length ≤ maxPacketSize := by
  unfold inspectPacket at h
  split at h
  · cases h
  · rename_i hlen
    have hbounds : 0 < payload.length ∧ payload.length ≤ maxPacketSize := by omega
    split at h
    · split at h
      · cases h
      · dsimp only at h
        split at h
        · cases h
        · split at h
          · cases h
          · cases h
            exact ⟨rfl, hbounds⟩
    · split at h
      · split at h
        · cases h
        · dsimp only at h
          split at h
          · cases h
          · cases h
            exact ⟨rfl, hbounds⟩
      · cases h

theorem encodeFrame_ok {payload frame : Bytes} :
    encodeFrame payload = .ok frame ↔
      ∃ packet, inspectPacket payload = .ok packet ∧ frame = frameHeader packet ++ payload := by
  unfold encodeFrame
  cases h : inspectPacket payload with
  | error e => simp
  | ok packet =>
    have hp := (inspectPacket_ok h).1
    simp [hp, eq_comm]

@[simp] theorem frameHeader_length (packet : Packet) :
    (frameHeader packet).length = headerSize := rfl

/-- The stored length survives the round trip through its four bytes. -/
theorem uint32At_frameHeader (packet : Packet) (h : packet.payload.length < 2 ^ 32) :
    uint32At (frameHeader packet) 6 = packet.payload.length := by
  simp only [uint32At, byteAt, frameHeader, putUint32, List.cons_append, List.nil_append,
    List.getD_cons_succ, List.getD_cons_zero, UInt8.toNat_ofNat']
  omega

theorem putUint32_spelled (a b c d : UInt8) :
    putUint32 (a.toNat * 2 ^ 24 + b.toNat * 2 ^ 16 + c.toNat * 2 ^ 8 + d.toNat) = [a, b, c, d] := by
  have ha := a.toNat_lt
  have hb := b.toNat_lt
  have hc := c.toNat_lt
  have hd := d.toNat_lt
  simp only [putUint32, List.cons.injEq, and_true]
  refine ⟨?_, ?_, ?_, ?_⟩
  · apply UInt8.toNat_inj.mp
    rw [UInt8.toNat_ofNat']
    omega
  · apply UInt8.toNat_inj.mp
    rw [UInt8.toNat_ofNat']
    omega
  · apply UInt8.toNat_inj.mp
    rw [UInt8.toNat_ofNat']
    omega
  · apply UInt8.toNat_inj.mp
    rw [UInt8.toNat_ofNat']
    omega

theorem eq_of_length_headerSize {header : Bytes} (h : header.length = headerSize) :
    header = [byteAt header 0, byteAt header 1, byteAt header 2, byteAt header 3,
      byteAt header 4, byteAt header 5] ++
      [byteAt header 6, byteAt header 7, byteAt header 8, byteAt header 9] ++
      [byteAt header 10, byteAt header 11] := by
  match header, h with
  | [_, _, _, _, _, _, _, _, _, _, _, _], _ => rfl

/-- A header that passes every check is the header of the packet it announces. -/
theorem frameHeader_of_checks {header : Bytes} {packet : Packet}
    (hlen : header.length = headerSize)
    (hmagic : byteAt header 0 = magic0 ∧ byteAt header 1 = magic1)
    (hversion : byteAt header 2 = version)
    (hreserved : byteAt header 5 = 0 ∧ byteAt header 10 = 0 ∧ byteAt header 11 = 0)
    (hpayload : packet.payload.length = uint32At header 6)
    (hmeta : packet.family = byteAt header 3 ∧ packet.protocol = byteAt header 4) :
    header = frameHeader packet := by
  rw [eq_of_length_headerSize hlen, frameHeader, hpayload, uint32At, putUint32_spelled,
    hmagic.1, hmagic.2, hversion, hreserved.1, hreserved.2.1, hreserved.2.2, hmeta.1, hmeta.2]

theorem readFull_ok {n : ℕ} {r r' : ByteReader} {got : Bytes} (h : readFull n r = (.ok got, r')) :
    got.length = n ∧ r.bytes = got ++ r'.bytes := by
  by_cases hn : n ≤ r.bytes.length
  · obtain ⟨u, hu, hrest⟩ := readFull_enough hn
    rw [hu] at h
    obtain ⟨rfl, rfl⟩ : r.bytes.take n = got ∧ u = r' := by simpa using h
    rw [hrest, List.take_append_drop, List.length_take]
    exact ⟨by omega, rfl⟩
  · obtain ⟨u, hu, -⟩ := readFull_short (not_le.mp hn)
    rw [hu] at h
    cases h

/-- A successful `ReadFrame` consumed exactly one encoded frame and left the rest unread. -/
theorem readFrame_ok {r r' : ByteReader} {packet : Packet} (h : readFrame r = (.ok packet, r')) :
    inspectPacket packet.payload = .ok packet ∧
      r.bytes = frameHeader packet ++ packet.payload ++ r'.bytes := by
  unfold readFrame at h
  split at h
  · cases h
  · rename_i header r₁ hheader
    obtain ⟨hlen, hbytes⟩ := readFull_ok hheader
    split at h
    · cases h
    · rename_i hmagic
      split at h
      · cases h
      · rename_i hversion
        split at h
        · cases h
        · rename_i hreserved
          dsimp only at h
          split at h
          · cases h
          · split at h
            · cases h
            · rename_i payload r₂ hpayload
              obtain ⟨hplen, hpbytes⟩ := readFull_ok hpayload
              split at h
              · cases h
              · rename_i inspected hinspect
                split at h
                · cases h
                · rename_i hmeta
                  cases h
                  obtain ⟨rfl, -, -⟩ := inspectPacket_ok hinspect
                  have heq : header = frameHeader packet := by
                    apply frameHeader_of_checks hlen
                    · tauto
                    · tauto
                    · tauto
                    · exact hplen
                    · tauto
                  refine ⟨hinspect, ?_⟩
                  rw [hbytes, hpbytes, heq, List.append_assoc]

/-- A frame at the head of the stream is read back whole. -/
theorem readFrame_frame {packet : Packet} {payload rest : Bytes} {r : ByteReader}
    (hinspect : inspectPacket payload = .ok packet)
    (hr : r.bytes = frameHeader packet ++ (payload ++ rest)) :
    ∃ r', readFrame r = (.ok packet, r') ∧ r'.bytes = rest := by
  obtain ⟨rfl, hpos, hmax⟩ := inspectPacket_ok hinspect
  obtain ⟨r₁, hheader, hr₁⟩ := readFull_enough (n := headerSize) (r := r) (by simp [hr])
  have htake : r.bytes.take headerSize = frameHeader packet := by
    rw [hr]
    exact List.take_left' (frameHeader_length packet)
  have hdrop : r.bytes.drop headerSize = packet.payload ++ rest := by
    rw [hr]
    exact List.drop_left' (frameHeader_length packet)
  rw [htake] at hheader
  rw [hdrop] at hr₁
  have hlength := uint32At_frameHeader packet (hmax.trans_lt (by decide))
  obtain ⟨r₂, hpayload, hr₂⟩ :=
    readFull_enough (n := packet.payload.length) (r := r₁) (by simp [hr₁])
  rw [hr₁, List.take_left' rfl] at hpayload
  rw [hr₁, List.drop_left' rfl] at hr₂
  refine ⟨r₂, ?_, hr₂⟩
  have hfields : byteAt (frameHeader packet) 0 = magic0 ∧ byteAt (frameHeader packet) 1 = magic1 ∧
      byteAt (frameHeader packet) 2 = version ∧
      byteAt (frameHeader packet) 3 = packet.family ∧
      byteAt (frameHeader packet) 4 = packet.protocol ∧ byteAt (frameHeader packet) 5 = 0 ∧
      byteAt (frameHeader packet) 10 = 0 ∧ byteAt (frameHeader packet) 11 = 0 :=
    ⟨rfl, rfl, rfl, rfl, rfl, rfl, rfl, rfl⟩
  obtain ⟨h0, h1, h2, h3, h4, h5, h10, h11⟩ := hfields
  have hrange : ¬ (packet.payload.length = 0 ∨ packet.payload.length > maxPacketSize) := by omega
  simp only [readFrame, hheader, h0, h1, h2, h3, h4, h5, h10, h11, hlength, hpayload, hinspect,
    ne_eq, not_true_eq_false, or_self, if_false, if_neg hrange]

theorem readFrame_cut {packet : Packet} {payload cut : Bytes} {r : ByteReader}
    (hinspect : inspectPacket payload = .ok packet) (hr : r.bytes = cut)
    (hcut : cut <+: frameHeader packet ++ payload)
    (hshort : cut.length < (frameHeader packet ++ payload).length) :
    ∃ e r', readFrame r = (.error e, r') := by
  cases h : readFrame r with
  | mk result r' =>
    cases result with
    | error e => exact ⟨e, r', rfl⟩
    | ok other =>
      exfalso
      obtain ⟨hother, hbytes⟩ := readFrame_ok h
      obtain ⟨hpayload, -, hmax⟩ := inspectPacket_ok hinspect
      obtain ⟨-, -, hmax'⟩ := inspectPacket_ok hother
      rw [hr] at hbytes
      rw [hbytes, List.append_assoc] at hcut
      obtain ⟨tail, htail⟩ := hcut
      rw [List.append_assoc] at htail
      obtain ⟨hheader, hrest⟩ := List.append_inj htail rfl
      have hlen : other.payload.length = payload.length := by
        have hl := uint32At_frameHeader other (hmax'.trans_lt (by decide))
        rw [hheader, uint32At_frameHeader packet (by rw [hpayload]; exact hmax.trans_lt (by decide)),
          hpayload] at hl
        exact hl.symm
      rw [hbytes] at hshort
      simp only [List.length_append, frameHeader_length] at hshort
      omega

/-- The loop ends without an error exactly having handed over the whole buffer. -/
theorem writeAll_progresses {σ ε : Type*} {w : ByteWriter σ ε} (hw : w.Progresses) (s : σ)
    (payload : Bytes) :
    (writeAll w s payload).error = none ∧ (writeAll w s payload).accepted = payload := by
  fun_induction writeAll w s payload with
  | case1 s => exact ⟨rfl, rfl⟩
  | case2 s payload hne written s' hbad =>
    have := hw s payload hne
    omega
  | case3 s payload hne written s' hcount e herr =>
    rw [(hw s payload hne).1] at herr
    cases herr
  | case4 s payload hne written s' hcount herr hzero =>
    have := hw s payload hne
    omega
  | case5 s payload hne written s' hcount herr hpos rest ih =>
    exact ⟨ih.1, by rw [ih.2, List.take_append_drop]⟩

theorem writeFrame_progresses {σ ε : Type*} {w : ByteWriter σ ε} (hw : w.Progresses) (s : σ)
    {payload frame : Bytes} (h : encodeFrame payload = .ok frame) :
    (writeFrame w s payload).error = none ∧ (writeFrame w s payload).accepted = frame := by
  simp only [writeFrame, h]
  exact writeAll_progresses hw s frame

end FoloXray.PacketFlow
