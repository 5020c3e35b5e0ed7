import FoloXray.Xudp.Uplink

/-! # The packets that come back

The other side answers with frames of the session: one for each packet, and some with nothing in them.
The packet reader goes over the latter, gives the packets in their order, and ends with the frame that
ends the session.
-/

namespace FoloXray.Xudp

open Foundation Buffers Protocol Mux Decoder Encoder
open PacketFlow (Destination Network)

def fieldsWord (id : UInt16) (status option : UInt8) (udp : Option Destination) : Bytes :=
  twoBytes id.toNat ++ ([status, option] ++ udp.elim [] fun d => 2 :: addrParser.destWord d)

@[simp] theorem getD_two_fieldsWord (id : UInt16) (status option : UInt8) (udp : Option Destination) :
    (fieldsWord id status option udp).getD 2 0 = status := rfl

@[simp] theorem getD_three_fieldsWord (id : UInt16) (status option : UInt8) (udp : Option Destination) :
    (fieldsWord id status option udp).getD 3 0 = option := rfl

def metaWord (id : UInt16) (status option : UInt8) (udp : Option Destination) : Bytes :=
  twoBytes (fieldsWord id status option udp).length ++ fieldsWord id status option udp

theorem length_fieldsWord {udp : Option Destination} (hudp : Sourced udp) (id : UInt16)
    (status option : UInt8) :
    4 ≤ (fieldsWord id status option udp).length ∧ (fieldsWord id status option udp).length ≤ 264 := by
  unfold fieldsWord
  cases udp with
  | none =>
    simp only [twoBytes, Option.elim_none, List.length_append, List.length_cons, List.length_nil]
    omega
  | some d =>
    have hdest := length_destWord_le addrParser (hudp d rfl).2
    simp only [twoBytes, Option.elim_some, List.length_append, List.length_cons, List.length_nil]
    omega

theorem writeDestination_ignore {d : Destination} (h : Reachable d) :
    Emits bufSize ((Mux.writeDestination d).ignore : Encoder AddressError Unit) (addrParser.destWord d) := by
  obtain ⟨a, haddress, hemits⟩ := emits_destWord (p := addrParser) (by decide) h
  rw [Mux.writeDestination, haddress]
  exact hemits.ignore

/-- A frame that opens no session has at most the address of its packet. -/
theorem emits_writeTo {f : FrameMetadata} (hstatus : f.sessionStatus ≠ sessionStatusNew)
    {udp : Option Destination} (hudp : Sourced udp) :
    Emits bufSize (f.writeTo udp) (metaWord f.sessionID f.sessionStatus f.option udp) := by
  have htarget : Emits bufSize (f.writeTarget udp) (udp.elim [] fun d => 2 :: addrParser.destWord d) := by
    unfold FrameMetadata.writeTarget
    rw [if_neg hstatus]
    cases udp with
    | none => exact emits_nil
    | some d => exact (emits_putByte 2).ignore.seq (writeDestination_ignore (hudp d rfl).2)
  exact Emits.withLength ((emits_extend _).seq
    ((emits_putByte f.sessionStatus).must.seq ((emits_putByte f.option).must.seq htarget)))

def packetWord (id : UInt16) (b : Packet) : Bytes :=
  metaWord id sessionStatusKeep optionData b.udp ++ (twoBytes b.bytes.length ++ b.bytes)

section Reading

variable {cap : ℕ} {id : UInt16}

theorem accepts_readFields {fields : Bytes} (hfour : 4 ≤ fields.length) (hroom : fields.length ≤ bufSize) :
    Accepts cap (readFields fields.length) fields fields := by
  unfold readFields
  rw [if_neg (by omega)]
  exact (accepts_fresh_take rfl hroom).mapError _

theorem readSource_fieldsWord {udp : Option Destination} (hudp : Sourced udp) (status option : UInt8) :
    readSource (fieldsWord id status option udp) = .ok udp := by
  unfold fieldsWord readSource twoBytes
  cases udp with
  | none => rfl
  | some d =>
    obtain ⟨hnetwork, hd⟩ := hudp d rfl
    have hshape : d = ⟨d.address, d.port, .udp⟩ := by
      rw [← hnetwork]
    obtain ⟨t, hread, -⟩ := readAddressPort_destWord hd []
    rw [List.append_nil] at hread
    simp only [Option.elim_some, List.cons_append, List.nil_append, List.getD_cons_succ,
      List.getD_cons_zero, List.length_cons, List.drop_succ_cons, List.drop_zero]
    rw [if_pos ⟨by omega, trivial⟩, hread]
    conv_rhs => rw [hshape]
    rfl

/-- A packet comes out of its frame, unless it is empty. -/
theorem accepts_packetWord {b : Packet} (hudp : Sourced b.udp) (hlen : b.bytes.length ≤ bufSize) :
    Accepts cap readFrame (packetWord id b) (if b.bytes = [] then none else some b) := by
  obtain ⟨hfour, hsmall⟩ := length_fieldsWord hudp id sessionStatusKeep optionData
  have hsize : bufSize = 8192 := rfl
  have hbody : Accepts cap (readBody (fieldsWord id sessionStatusKeep optionData b.udp))
      (twoBytes b.bytes.length ++ b.bytes) (if b.bytes = [] then none else some b) := by
    unfold readBody
    rw [getD_two_fieldsWord, if_pos (show sessionStatusKeep = 2 from rfl)]
    refine (accepts_lift (readSource_fieldsWord hudp _ _)).bind_silent ?_
    refine ((accepts_takeUint16 (by omega)).mapError _).bind ?_
    unfold readPayload
    by_cases hempty : b.bytes = []
    · rw [if_pos (List.length_eq_zero_iff.mpr hempty), if_pos hempty, hempty]
      exact accepts_pure none
    · rw [if_neg (fun h => hempty (List.length_eq_zero_iff.mp h)), if_neg hempty]
      exact ((accepts_fresh_take rfl hlen).mapError _).bind_pure (accepts_pure _)
  unfold packetWord metaWord
  rw [List.append_assoc]
  refine ((accepts_takeUint16 (by omega)).mapError _).bind ?_
  exact (accepts_readFields hfour (by omega)).bind hbody

theorem accepts_metaWord : Accepts cap readFrame (metaWord id sessionStatusKeep 0 none) none := by
  have hnone : Sourced none := fun d hd => by cases hd
  obtain ⟨hfour, hsmall⟩ := length_fieldsWord hnone id sessionStatusKeep 0
  have hsize : bufSize = 8192 := rfl
  unfold metaWord
  refine ((accepts_takeUint16 (by omega)).mapError _).bind ?_
  refine (accepts_readFields hfour (by omega)).bind_pure ?_
  exact (accepts_lift (readSource_fieldsWord hnone _ _)).bind_silent (accepts_pure none)

theorem readFrame_endWord {option : UInt8} {s : Intake} {rest : Bytes}
    (hbytes : s.reader.bytes = metaWord id sessionStatusEnd option none ++ rest)
    (hroom : s.buffer.length + (metaWord id sessionStatusEnd option none).length ≤ cap) :
    readFrame s = .error ioEOF := by
  have hnone : Sourced none := fun d hd => by cases hd
  obtain ⟨hfour, hsmall⟩ := length_fieldsWord hnone id sessionStatusEnd option
  have hsize : bufSize = 8192 := rfl
  unfold metaWord at hbytes hroom
  rw [List.length_append] at hroom
  rw [List.append_assoc] at hbytes
  have hlength : Accepts cap (Decoder.takeUint16.mapError ReadError.read) _ _ :=
    (accepts_takeUint16 (v := (fieldsWord id sessionStatusEnd option none).length) (by omega)).mapError _
  obtain ⟨t, hl, ht, hroom'⟩ := hlength s _ hbytes (by omega)
  have hread : Accepts cap (readFields (fieldsWord id sessionStatusEnd option none).length) _ _ :=
    accepts_readFields hfour (by omega)
  obtain ⟨u, hfields, -⟩ := hread t rest ht (by omega)
  rw [readFrame, bind_apply, hl, Outcome.ok_bind, bind_apply, hfields]
  rfl

end Reading

section Rounds

variable {cap : ℕ} {w w' : Bytes} {p : Packet}

theorem accepts_of_packet (h : Accepts cap readFrame w (some p)) :
    Accepts cap (readMultiBuffer : Decoder ReadError Packet) w p := by
  intro s rest hbytes hroom
  obtain ⟨t, hread, ht⟩ := h s rest hbytes hroom
  exact ⟨t, readMultiBuffer_of_packet hread, ht⟩

theorem accepts_skip (h : Accepts cap readFrame w none)
    (h' : Accepts cap (readMultiBuffer : Decoder ReadError Packet) w' p) :
    Accepts cap (readMultiBuffer : Decoder ReadError Packet) (w ++ w') p := by
  intro s rest hbytes hroom
  rw [List.append_assoc] at hbytes
  rw [List.length_append] at hroom ⊢
  obtain ⟨t, hread, ht, hroom'⟩ := h s (w' ++ rest) hbytes (by omega)
  obtain ⟨u, hpacket, hu, hroom''⟩ := h' t rest ht (by omega)
  exact ⟨u, (readMultiBuffer_of_none hread).trans hpacket, hu, by omega⟩

/-- The frames up to the last packet, cut behind each packet, and the frames without one behind it. -/
theorem exists_packets {ws : List Bytes} {rs : List (Option Packet)}
    (h : List.Forall₂ (Accepts cap readFrame) ws rs) :
    ∃ fronts tail : List Bytes, ws.flatten = fronts.flatten ++ tail.flatten ∧
      List.Forall₂ (Accepts cap (readMultiBuffer : Decoder ReadError Packet)) fronts (rs.filterMap id) ∧
      ∀ w ∈ tail, Accepts cap readFrame w none := by
  induction h with
  | nil => exact ⟨[], [], rfl, .nil, by simp⟩
  | @cons w r ws rs hfirst _ ih =>
    obtain ⟨fronts, tail, hflat, hpackets, htail⟩ := ih
    cases r with
    | some p =>
      refine ⟨w :: fronts, tail, ?_, .cons (accepts_of_packet hfirst) hpackets, htail⟩
      rw [List.flatten_cons, List.flatten_cons, hflat, List.append_assoc]
    | none =>
      rw [List.filterMap_cons_none rfl]
      generalize rs.filterMap id = ps at hpackets ⊢
      cases hpackets with
      | nil =>
        refine ⟨[], w :: tail, ?_, .nil, List.forall_mem_cons.mpr ⟨hfirst, htail⟩⟩
        rw [List.flatten_cons, List.flatten_cons, hflat]
        rfl
      | @cons front p fronts ps hfront hrest =>
        refine ⟨(w ++ front) :: fronts, tail, ?_, .cons (accepts_skip hfirst hfront) hrest, htail⟩
        simp only [List.flatten_cons, hflat, List.append_assoc]

theorem readMultiBuffer_end {id : UInt16} {option : UInt8} {tail : List Bytes}
    (htail : ∀ w ∈ tail, Accepts cap readFrame w none) {s : Intake} {rest : Bytes}
    (hbytes : s.reader.bytes = tail.flatten ++ (metaWord id sessionStatusEnd option none ++ rest))
    (hroom : s.buffer.length + tail.flatten.length + (metaWord id sessionStatusEnd option none).length
      ≤ cap) :
    readMultiBuffer s = .error ioEOF := by
  induction tail generalizing s with
  | nil => exact readMultiBuffer_of_error (readFrame_endWord hbytes hroom)
  | cons w tail ih =>
    obtain ⟨hw, htail⟩ := List.forall_mem_cons.mp htail
    rw [List.flatten_cons, List.append_assoc] at hbytes
    rw [List.flatten_cons, List.length_append] at hroom
    obtain ⟨t, hread, ht, hroom'⟩ := hw s _ hbytes (by omega)
    rw [readMultiBuffer_of_none hread]
    exact ih htail ht (by omega)

end Rounds

section Session

variable {w : Mux.Writer}

structure Answers (w : Mux.Writer) : Prop where
  followup : w.followup = true
  transferType : w.transferType = .packet

/-- A packet that fits into a buffer, with an address that survives the wire. -/
def Answerable (b : Packet) : Prop := b.bytes.length ≤ bufSize ∧ Sourced b.udp

theorem keep_ne_new : sessionStatusKeep ≠ sessionStatusNew := by decide

theorem writeMetaOnly_eq (hw : Answers w) :
    w.writeMetaOnly = ((.ok (), metaWord w.id sessionStatusKeep 0 none), w) := by
  have hnone : Sourced none := fun d hd => by cases hd
  have hlen := (length_fieldsWord hnone w.id sessionStatusKeep 0).2
  have hemit := emits_writeTo (f := ⟨w.dest, w.id, 0, sessionStatusKeep, w.globalID⟩) keep_ne_new hnone []
    (by
      simp only [metaWord, twoBytes, List.length_append, List.length_cons, List.length_nil, bufSize]
      omega)
  rw [Mux.Writer.writeMetaOnly, Mux.Writer.getNextFrameMeta, if_pos hw.followup]
  simp only [hemit]
  rfl

theorem writeData_eq (hw : Answers w) {b : Packet} (hb : Answerable b) :
    w.writeData [b] = ((.ok (), packetWord w.id b), w) := by
  have hlen := (length_fieldsWord hb.2 w.id sessionStatusKeep optionData).2
  have hemit := (emits_writeTo (f := ⟨w.dest, w.id, optionData, sessionStatusKeep, w.globalID⟩)
    keep_ne_new hb.2).seq (emits_put (twoBytes b.bytes.length)) [] (by
      simp only [metaWord, twoBytes, List.length_append, List.length_cons, List.length_nil, bufSize]
      omega)
  have hsingle : [b].flatMap Packet.bytes = b.bytes := by
    rw [List.flatMap_singleton]
  rw [Mux.Writer.writeData, Mux.Writer.getNextFrameMeta, if_pos hw.followup]
  unfold Mux.Writer.writeMetaWithFrame
  dsimp only
  rw [hsingle, hemit]
  dsimp only
  rw [List.nil_append, packetWord, List.append_assoc]

def solid (mb : List Packet) : List Packet := mb.filter fun b => b.bytes ≠ []

/-- A call writes frames, out of which the packets come that have something in them. -/
theorem writeChunks_spec (hw : Answers w) {mb : List Packet} (hmb : ∀ b ∈ mb, Answerable b) :
    ∃ (ws : List Bytes) (rs : List (Option Packet)), w.writeChunks mb = ((.ok (), ws.flatten), w) ∧
      rs.filterMap id = solid mb ∧ ∀ cap, List.Forall₂ (Accepts cap readFrame) ws rs := by
  induction mb with
  | nil =>
    refine ⟨[], [], ?_, rfl, fun _ => .nil⟩
    rw [Mux.Writer.writeChunks]
    rfl
  | cons b mb ih =>
    obtain ⟨hb, hmb⟩ := List.forall_mem_cons.mp hmb
    rw [Mux.Writer.writeChunks]
    by_cases hempty : (b :: mb).all (fun b => b.bytes = []) = true
    · refine ⟨[], [], ?_, ?_, fun _ => .nil⟩
      · rw [dif_pos hempty]
        rfl
      · have hnone : solid (b :: mb) = [] := by
          rw [solid, List.filter_eq_nil_iff]
          intro c hc
          have := List.all_eq_true.mp hempty c hc
          simpa using this
        rw [hnone]
        rfl
    · obtain ⟨ws, rs, hwrite, hsolid, hread⟩ := ih hmb
      refine ⟨packetWord w.id b :: ws, (if b.bytes = [] then none else some b) :: rs, ?_, ?_, ?_⟩
      · rw [dif_neg hempty]
        simp only [nextChunk, hw.transferType, List.take_succ_cons, List.take_zero, List.drop_succ_cons,
          List.drop_zero, writeData_eq hw hb, hwrite, List.flatten_cons]
      · by_cases hnil : b.bytes = []
        · rw [if_pos hnil, List.filterMap_cons_none rfl, hsolid]
          simp [solid, hnil]
        · have hcons : (some b :: rs).filterMap id = b :: rs.filterMap id := rfl
          rw [if_neg hnil, hcons, hsolid]
          simp [solid, hnil]
      · exact fun cap => .cons (accepts_packetWord hb.2 hb.1) (hread cap)

theorem writeMultiBuffer_spec (hw : Answers w) {mb : List Packet} (hmb : ∀ b ∈ mb, Answerable b) :
    ∃ (ws : List Bytes) (rs : List (Option Packet)), w.writeMultiBuffer mb = ((.ok (), ws.flatten), w) ∧
      rs.filterMap id = solid mb ∧ ∀ cap, List.Forall₂ (Accepts cap readFrame) ws rs := by
  unfold Mux.Writer.writeMultiBuffer
  by_cases hempty : mb.all (fun b => b.bytes = []) = true
  · rw [if_pos hempty, writeMetaOnly_eq hw]
    refine ⟨[metaWord w.id sessionStatusKeep 0 none], [none], ?_, ?_, ?_⟩
    · rw [List.flatten_singleton]
    · have hnone : solid mb = [] := by
        rw [solid, List.filter_eq_nil_iff]
        intro c hc
        have := List.all_eq_true.mp hempty c hc
        simpa using this
      rw [hnone]
      rfl
    · exact fun cap => .cons accepts_metaWord .nil
  · rw [if_neg hempty]
    exact writeChunks_spec hw hmb

def writeCalls (w : Mux.Writer) : List (List Packet) → (Outcome AddressError Unit × Bytes) × Mux.Writer
  | [] => ((.ok (), []), w)
  | mb :: mbs =>
    match w.writeMultiBuffer mb with
    | ((.ok (), bytes), w') =>
      let r := writeCalls w' mbs
      ((r.1.1, bytes ++ r.1.2), r.2)
    | r => r

theorem writeCalls_spec (hw : Answers w) {mbs : List (List Packet)}
    (hmbs : ∀ mb ∈ mbs, ∀ b ∈ mb, Answerable b) :
    ∃ (ws : List Bytes) (rs : List (Option Packet)), writeCalls w mbs = ((.ok (), ws.flatten), w) ∧
      rs.filterMap id = mbs.flatMap solid ∧ ∀ cap, List.Forall₂ (Accepts cap readFrame) ws rs := by
  induction mbs with
  | nil => exact ⟨[], [], rfl, rfl, fun _ => .nil⟩
  | cons mb mbs ih =>
    obtain ⟨hmb, hmbs⟩ := List.forall_mem_cons.mp hmbs
    obtain ⟨ws, rs, hwrite, hsolid, hread⟩ := writeMultiBuffer_spec hw hmb
    obtain ⟨ws', rs', hwrites, hsolids, hreads⟩ := ih hmbs
    refine ⟨ws ++ ws', rs ++ rs', ?_, ?_, ?_⟩
    · simp only [writeCalls, hwrite, hwrites, List.flatten_append]
    · rw [List.filterMap_append, hsolid, hsolids, List.flatMap_cons]
    · exact fun cap => List.rel_append (hread cap) (hreads cap)

theorem close_eq (w : Mux.Writer) :
    w.close = (.ok (), metaWord w.id sessionStatusEnd (if w.hasError then optionError else 0) none) := by
  have hnone : Sourced none := fun d hd => by cases hd
  have hstatus : sessionStatusEnd ≠ sessionStatusNew := by decide
  have hlen := (length_fieldsWord hnone w.id sessionStatusEnd (if w.hasError then optionError else 0)).2
  have hmeta : Emits bufSize (Encoder.must (FrameMetadata.writeTo ⟨noDestination, w.id,
      if w.hasError then optionError else 0, sessionStatusEnd, noGlobalID⟩ none) : Encoder AddressError Unit)
      (metaWord w.id sessionStatusEnd (if w.hasError then optionError else 0) none) :=
    (emits_writeTo hstatus hnone).must
  have hemit := hmeta [] (by
    simp only [metaWord, twoBytes, List.length_append, List.length_cons, List.length_nil, bufSize] at hlen ⊢
    omega)
  simp only [Mux.Writer.close, hemit]
  rfl

end Session

/-- The packets that the other side answers with come back in the order and in the pieces that they were
written in, each with the address it is from; only empty ones are lost.  Behind the last of them comes the
end of the session as the end of file. -/
theorem xudp_downlink (id : UInt16) {mbs : List (List Packet)} (hmbs : ∀ mb ∈ mbs, ∀ b ∈ mb, Answerable b) :
    ∃ wire w final, writeCalls (newResponseWriter id .packet) mbs = ((.ok (), wire), w) ∧
      w.close = (.ok (), final) ∧
      ∀ (r : ByteReader) (rest : Bytes), r.bytes = wire ++ (final ++ rest) →
        ∃ t, times readMultiBuffer (mbs.flatMap solid).length ⟨[], r⟩ =
            .ok (mbs.flatMap solid, t) ∧ readMultiBuffer t = .error ioEOF := by
  have hanswers : Answers (newResponseWriter id .packet) := ⟨rfl, rfl⟩
  obtain ⟨ws, rs, hwrites, hsolid, hreads⟩ := writeCalls_spec hanswers hmbs
  have hclose : (newResponseWriter id .packet).close = (.ok (), metaWord id sessionStatusEnd 0 none) :=
    close_eq _
  refine ⟨ws.flatten, _, _, hwrites, hclose, ?_⟩
  intro r rest hbytes
  obtain ⟨fronts, tail, hflat, hpackets, htail⟩ := exists_packets
    (hreads (ws.flatten.length + (metaWord id sessionStatusEnd 0 none).length))
  rw [hsolid] at hpackets
  have hwhole := congrArg List.length hflat
  rw [List.length_append] at hwhole
  rw [hflat, List.append_assoc] at hbytes
  obtain ⟨t, hread, ht, hroom⟩ := accepts_times hpackets ⟨[], r⟩ _ hbytes (by
    rw [List.length_nil]
    omega)
  rw [List.length_nil] at hroom
  exact ⟨t, hread, readMultiBuffer_end htail ht (by omega)⟩

theorem xudp_downlink_resolver :
    ∃ wire w final, writeCalls (newResponseWriter 0 .packet) [[], [⟨some resolver, [5]⟩, ⟨none, []⟩]] =
        ((.ok (), wire), w) ∧
      w.close = (.ok (), final) ∧
      ∀ (r : ByteReader) (rest : Bytes), r.bytes = wire ++ (final ++ rest) →
        ∃ t, times readMultiBuffer 1 ⟨[], r⟩ =
            .ok ([⟨some resolver, [5]⟩], t) ∧ readMultiBuffer t = .error ioEOF := by
  refine xudp_downlink 0 ?_
  intro mb hmb b hb
  have hcases : b = ⟨some resolver, [5]⟩ ∨ b = ⟨none, []⟩ := by
    simp only [List.mem_cons, List.not_mem_nil, or_false] at hmb
    rcases hmb with rfl | rfl
    · cases hb
    · simpa using hb
  rcases hcases with rfl | rfl
  · refine ⟨by decide, ?_⟩
    rintro d hd
    cases hd
    exact ⟨rfl, reachable_resolver⟩
  · exact ⟨by decide, fun d hd => by cases hd⟩

end FoloXray.Xudp
