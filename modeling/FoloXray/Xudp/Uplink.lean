import FoloXray.Xudp.Packets

/-! # The packets that arrive on the other side

The frames that the packet writer makes are those of one session of a multiplexed connection.  The other
side takes a new session with the destination out of the first of them, and out of each later one a
packet of that session.
-/

namespace FoloXray.Xudp

open Foundation Buffers Protocol Mux Decoder Encoder
open PacketFlow (Destination Network)

theorem emits_writeDestination {d : Destination} (h : Reachable d) :
    Emits bufSize (writeDestination d) (addrParser.destWord d) := by
  obtain ⟨a, haddress, hemits⟩ := emits_destWord (p := addrParser) (by decide) h
  rw [writeDestination, haddress]
  exact hemits.ignore

/-- A destination is read back from the front of a buffer. -/
theorem readAddressPort_destWord {d : Destination} (h : Reachable d) (rest : Bytes) :
    ∃ t, addrParser.readAddressPort ⟨[], .ofBytes (addrParser.destWord d ++ rest)⟩ =
        .ok ((d.address, d.port), t) ∧
      t.reader.bytes = rest := by
  have hlen := length_destWord_le addrParser h
  obtain ⟨t, hread, ht, -⟩ := accepts_destWord (p := addrParser) (by decide) h
    ⟨[], .ofBytes (addrParser.destWord d ++ rest)⟩ rest (ByteReader.bytes_ofBytes _) (by
      simp only [List.length_nil, bufSize]
      omega)
  exact ⟨t, hread, ht⟩

theorem readDestination_destWord {d : Destination} (h : Reachable d) (rest : Bytes) :
    readDestination (addrParser.destWord d ++ rest) = .ok (d.address, d.port, rest) := by
  obtain ⟨t, hread, ht⟩ := readAddressPort_destWord h rest
  have hsame : Mux.addrParser = addrParser := rfl
  rw [readDestination, hsame, hread]
  simp [Outcome.mapError, ht]

namespace PacketWriter

variable {w : PacketWriter} {udp : Option Destination}

def headWord (w : PacketWriter) (udp : Option Destination) : Bytes :=
  if w.dest.network = .udp then
    [1, 1, 2] ++ addrParser.destWord w.dest ++ if udp = none then [] else w.globalID
  else [2, 1] ++ udp.elim [] fun d => 2 :: addrParser.destWord d

def frameWord (w : PacketWriter) (b : Packet) : Bytes :=
  twoBytes (2 + (w.headWord b.udp).length) ++ ([0, 0] ++ w.headWord b.udp) ++
    (twoBytes b.bytes.length ++ b.bytes)

/-- The writer can name the destination of its session, until the session is open. -/
def Ready (w : PacketWriter) : Prop := w.dest.network = .udp → Reachable w.dest

theorem ready_opened (w : PacketWriter) : w.opened.Ready := fun h => by cases h

theorem length_headWord_le (hw : w.Ready) (hudp : Sourced udp) : (w.headWord udp).length ≤ 270 := by
  unfold headWord
  split
  · rename_i hnetwork
    have hdest := length_destWord_le addrParser (hw hnetwork)
    have hglobal := w.length_globalID
    split <;> simp only [List.length_append, List.length_cons, List.length_nil] <;> omega
  · cases udp with
    | none => decide
    | some d =>
      have hdest := length_destWord_le addrParser (hudp d rfl).2
      simp only [Option.elim_some, List.length_append, List.length_cons, List.length_nil]
      omega

theorem emits_writeByte (c : UInt8) : Emits bufSize (writeByte c) [c] := (emits_putByte c).ignore

theorem emits_writeHead (hw : w.Ready) (hudp : Sourced udp) :
    Emits bufSize (w.writeHead udp) (w.headWord udp) := by
  unfold writeHead headWord
  by_cases hnetwork : w.dest.network = .udp
  · rw [if_pos hnetwork, if_pos hnetwork, List.append_assoc]
    refine (emits_writeByte 1).seq ((emits_writeByte 1).seq ((emits_writeByte 2).seq ?_))
    refine (emits_writeDestination (hw hnetwork)).seq ?_
    unfold writeGlobalID
    split
    · exact emits_nil
    · exact emits_put _
  · rw [if_neg hnetwork, if_neg hnetwork]
    refine (emits_writeByte 2).seq ((emits_writeByte 1).seq ?_)
    cases udp with
    | none => exact emits_nil
    | some d => exact (emits_writeByte 2).seq (emits_writeDestination (hudp d rfl).2)

theorem emits_writeBody (bytes : Bytes) :
    Emits bufSize (writeBody bytes) (twoBytes bytes.length ++ bytes) :=
  (emits_writeByte _).seq ((emits_writeByte _).seq (emits_put bytes))

/-- A packet that is not passed over fits into a buffer together with its fields. -/
theorem writeFrame_eq (hw : w.Ready) {b : Packet} (hudp : Sourced b.udp) (hb : skips b = false) :
    w.writeFrame b [] = (.ok (), w.frameWord b) := by
  have hhead := length_headWord_le hw hudp
  have hlen : b.bytes.length + 666 ≤ bufSize := by
    simp only [skips, Bool.or_eq_false_iff, decide_eq_false_iff_not] at hb
    omega
  have hzeros : (put bufSize [0, 0, 0, 0] : Encoder AddressError Unit) [] = (.ok (), [0, 0, 0, 0]) := rfl
  have hfields := emits_writeHead hw hudp [0, 0, 0, 0] (by
    simp only [List.length_cons, List.length_nil, bufSize] at hlen ⊢
    omega)
  have hset : setLength ([0, 0, 0, 0] ++ w.headWord b.udp) =
      (.ok (), twoBytes (2 + (w.headWord b.udp).length) ++ ([0, 0] ++ w.headWord b.udp)) := by
    have hlength : ([0, 0, 0, 0] ++ w.headWord b.udp).length - 2 = 2 + (w.headWord b.udp).length := by
      simp only [List.length_append, List.length_cons, List.length_nil]
      omega
    simp only [setLength, hlength]
    rfl
  have hbody := emits_writeBody b.bytes
    (twoBytes (2 + (w.headWord b.udp).length) ++ ([0, 0] ++ w.headWord b.udp)) (by
      simp only [twoBytes, List.length_append, List.length_cons, List.length_nil, bufSize] at hlen ⊢
      omega)
  have hrun : w.writeFrame b [] = Encoder.bind (put bufSize [0, 0, 0, 0]) (fun _ =>
      Encoder.bind (w.writeHead b.udp) fun _ => Encoder.bind setLength fun _ => writeBody b.bytes) [] := rfl
  rw [hrun, Encoder.bind, hzeros]
  simp only [Encoder.bind, hfields, hset]
  exact hbody

/-- What the other side takes out of the frame of a packet. -/
def arrival (w : PacketWriter) (b : Packet) : FrameMetadata × Option Packet :=
  if w.dest.network = .udp then
    (⟨w.dest, 0, optionData, sessionStatusNew, if b.udp = none then noGlobalID else w.globalID⟩,
      some ⟨some w.dest, b.bytes⟩)
  else (⟨b.udp.getD noDestination, 0, optionData, sessionStatusKeep, noGlobalID⟩, some b)

theorem unmarshal_new {d : Destination} (hd : Reachable d) (hnetwork : d.network = .udp) {rest : Bytes} :
    unmarshalFromBuffer (0 :: 0 :: 1 :: 1 :: 2 :: (addrParser.destWord d ++ rest)) =
      .ok ⟨d, 0, optionData, sessionStatusNew, if 8 ≤ rest.length then rest.take 8 else noGlobalID⟩ := by
  have hlen := le_length_destWord addrParser hd
  have hshape : d = ⟨d.address, d.port, .udp⟩ := by
    rw [← hnetwork]
  have htarget : unmarshalTarget (0 :: 0 :: 1 :: 1 :: 2 :: (addrParser.destWord d ++ rest)) =
      .ok (d, rest) := by
    unfold unmarshalTarget
    simp only [List.getD_cons_succ, List.getD_cons_zero, List.drop_succ_cons, List.drop_zero]
    rw [if_pos (.inl rfl), if_neg (by simp only [List.length_cons, List.length_append]; omega),
      readDestination_destWord hd]
    conv_rhs => rw [hshape]
    rfl
  have hlong : ¬ (0 :: 0 :: 1 :: 1 :: 2 :: (addrParser.destWord d ++ rest)).length < 4 := by
    simp only [List.length_cons]
    omega
  have hoption : (1 : UInt8) &&& optionData ≠ 0 := by decide
  rw [unmarshalFromBuffer, if_neg hlong, htarget, Outcome.ok_bind]
  simp only [List.getD_cons_succ, List.getD_cons_zero, hnetwork, sessionStatusNew, hoption, true_and,
    ne_eq, not_false_eq_true]
  rfl

theorem unmarshal_keep {udp : Option Destination} (hudp : Sourced udp) :
    unmarshalFromBuffer (0 :: 0 :: 2 :: 1 :: udp.elim [] fun d => 2 :: addrParser.destWord d) =
      .ok ⟨udp.getD noDestination, 0, optionData, sessionStatusKeep, noGlobalID⟩ := by
  cases udp with
  | none => rfl
  | some d =>
    obtain ⟨hnetwork, hd⟩ := hudp d rfl
    have hlen := le_length_destWord addrParser hd
    have hshape : d = ⟨d.address, d.port, .udp⟩ := by
      rw [← hnetwork]
    have htarget : unmarshalTarget (0 :: 0 :: 2 :: 1 :: 2 :: addrParser.destWord d) = .ok (d, []) := by
      have hread := readDestination_destWord hd []
      rw [List.append_nil] at hread
      unfold unmarshalTarget
      simp only [List.getD_cons_succ, List.getD_cons_zero, List.drop_succ_cons, List.drop_zero]
      rw [if_pos (.inr ⟨rfl, by simp only [List.length_cons]; omega, rfl⟩),
        if_neg (by simp only [List.length_cons]; omega), hread]
      conv_rhs => rw [hshape]
      rfl
    have hlong : ¬ (0 :: 0 :: 2 :: 1 :: 2 :: addrParser.destWord d).length < 4 := by
      simp only [List.length_cons]
      omega
    have hnew : (2 : UInt8) ≠ sessionStatusNew := by decide
    rw [Option.elim_some, unmarshalFromBuffer, if_neg hlong, htarget, Outcome.ok_bind]
    simp only [List.getD_cons_succ, List.getD_cons_zero, hnew, false_and, if_false]
    rfl

theorem unmarshal_fields (hw : w.Ready) {b : Packet} (hudp : Sourced b.udp) :
    unmarshalFromBuffer ([0, 0] ++ w.headWord b.udp) = .ok (w.arrival b).1 := by
  unfold headWord arrival
  by_cases hnetwork : w.dest.network = .udp
  · rw [if_pos hnetwork, if_pos hnetwork]
    refine (unmarshal_new (hw hnetwork) hnetwork).trans ?_
    cases b.udp with
    | none => rfl
    | some d =>
      have hlen := w.length_globalID
      simp only [reduceCtorEq, if_false, hlen, le_refl, if_true, List.take_of_length_le hlen.le]
  · rw [if_neg hnetwork, if_neg hnetwork]
    exact unmarshal_keep hudp

/-- The frame of a packet is read as a frame of the session, with the packet in it. -/
theorem accepts_frameWord {cap : ℕ} (hw : w.Ready) {b : Packet} (hudp : Sourced b.udp)
    (hb : skips b = false) : Accepts cap readSessionFrame (w.frameWord b) (w.arrival b) := by
  have hhead := length_headWord_le hw hudp
  have hlen : b.bytes.length + 666 ≤ bufSize := by
    simp only [skips, Bool.or_eq_false_iff, decide_eq_false_iff_not] at hb
    omega
  have hsmall : bufSize = 8192 := rfl
  have hframe : Accepts cap unmarshal
      (twoBytes (2 + (w.headWord b.udp).length) ++ ([0, 0] ++ w.headWord b.udp)) (w.arrival b).1 := by
    refine ((accepts_takeUint16 (by omega)).mapError _).bind ?_
    unfold unmarshalOfLength
    rw [if_neg (by omega)]
    refine ((accepts_fresh_take ?_ (by omega)).mapError _).bind_pure (accepts_lift (unmarshal_fields hw hudp))
    simp only [List.length_append, List.length_cons, List.length_nil]
  have hpacket : Accepts cap (readPacket (w.arrival b).1.target) (twoBytes b.bytes.length ++ b.bytes)
      ⟨if (w.arrival b).1.target.network = .udp then some (w.arrival b).1.target else none, b.bytes⟩ := by
    refine ((accepts_takeUint16 (by omega)).mapError _).bind ?_
    rw [if_neg (by omega)]
    exact ((accepts_fresh_take rfl (by omega)).mapError _).bind_pure (accepts_pure _)
  have hdata : (w.arrival b).1.option &&& optionData ≠ 0 := by
    have hbit : optionData &&& optionData ≠ 0 := by decide
    unfold arrival
    split <;> exact hbit
  have hresult : w.arrival b = ((w.arrival b).1,
      some ⟨if (w.arrival b).1.target.network = .udp then some (w.arrival b).1.target else none,
        b.bytes⟩) := by
    unfold arrival
    split
    · rfl
    · obtain ⟨udp, bytes⟩ := b
      cases udp with
      | none => rfl
      | some d =>
        have hnetwork := (hudp d rfl).1
        simp only [Option.getD_some, hnetwork, if_true]
  rw [hresult]
  refine hframe.bind ?_
  rw [if_pos hdata]
  exact hpacket.bind_pure (accepts_pure _)

/-- `WriteMultiBuffer` call by call: all that is handed on. -/
def writeCalls (w : PacketWriter) : List (List Packet) → Outcome AddressError (List Bytes) × PacketWriter
  | [] => (.ok [], w)
  | mb :: mbs =>
    let r := w.writeMultiBuffer mb
    let r' := r.2.writeCalls mbs
    (r.1 >>= fun ebs => r'.1 >>= fun ebs' => .ok (ebs ++ ebs'), r'.2)

/-- What the other side takes out of the frames of the packets. -/
def arrivals : PacketWriter → List Packet → List (FrameMetadata × Option Packet)
  | _, [] => []
  | w, b :: bs => w.arrival b :: arrivals w.opened bs

def behind (w : PacketWriter) (bs : List Packet) : PacketWriter := if bs = [] then w else w.opened

theorem arrivals_append (w : PacketWriter) (bs bs' : List Packet) :
    arrivals w (bs ++ bs') = arrivals w bs ++ arrivals (w.behind bs) bs' := by
  induction bs generalizing w with
  | nil => rfl
  | cons b bs ih =>
    have hbehind : w.opened.behind bs = w.behind (b :: bs) := by
      unfold behind
      split <;> rfl
    simp only [List.cons_append, arrivals, ih, hbehind]

theorem length_arrivals (w : PacketWriter) (bs : List Packet) : (arrivals w bs).length = bs.length := by
  induction bs generalizing w with
  | nil => rfl
  | cons b bs ih => rw [arrivals, List.length_cons, List.length_cons, ih]

def kept (mb : List Packet) : List Packet := mb.filter fun b => !skips b

theorem ready_behind (hw : w.Ready) (bs : List Packet) : (w.behind bs).Ready := by
  unfold behind
  split
  · exact hw
  · exact w.ready_opened

theorem writeMultiBuffer_spec (hw : w.Ready) {mb : List Packet} (hudp : ∀ b ∈ mb, Sourced b.udp) :
    ∃ ebs, w.writeMultiBuffer mb = (.ok ebs, w.behind (kept mb)) ∧
      ∀ cap, List.Forall₂ (Accepts cap readSessionFrame) ebs (arrivals w (kept mb)) := by
  induction mb generalizing w with
  | nil => exact ⟨[], rfl, fun _ => .nil⟩
  | cons b mb ih =>
    obtain ⟨hb, hmb⟩ := List.forall_mem_cons.mp hudp
    cases hskip : skips b with
    | true =>
      obtain ⟨ebs, hwrite, harrive⟩ := ih hw hmb
      have hkept : kept (b :: mb) = kept mb := by simp [kept, hskip]
      rw [hkept]
      refine ⟨ebs, ?_, harrive⟩
      rw [writeMultiBuffer, if_pos hskip, hwrite]
    | false =>
      obtain ⟨ebs, hwrite, harrive⟩ := ih w.ready_opened hmb
      have hkept : kept (b :: mb) = b :: kept mb := by simp [kept, hskip]
      have hbehind : w.opened.behind (kept mb) = w.behind (b :: kept mb) := by
        unfold behind
        split <;> rfl
      rw [hkept]
      refine ⟨w.frameWord b :: ebs, ?_, fun cap => .cons (accepts_frameWord hw hb hskip) (harrive cap)⟩
      rw [writeMultiBuffer, if_neg (by rw [hskip]; exact Bool.false_ne_true), writeFrame_eq hw hb hskip]
      simp only [hwrite, hbehind]
      rfl

theorem writeCalls_spec (hw : w.Ready) {mbs : List (List Packet)}
    (hudp : ∀ mb ∈ mbs, ∀ b ∈ mb, Sourced b.udp) :
    ∃ ebs w', w.writeCalls mbs = (.ok ebs, w') ∧
      ∀ cap, List.Forall₂ (Accepts cap readSessionFrame) ebs (arrivals w (mbs.flatMap kept)) := by
  induction mbs generalizing w with
  | nil => exact ⟨[], w, rfl, fun _ => .nil⟩
  | cons mb mbs ih =>
    obtain ⟨hmb, hmbs⟩ := List.forall_mem_cons.mp hudp
    obtain ⟨ebs, hwrite, harrive⟩ := writeMultiBuffer_spec hw hmb
    obtain ⟨ebs', w', hwrites, harrives⟩ := ih (ready_behind hw (kept mb)) hmbs
    refine ⟨ebs ++ ebs', w', ?_, ?_⟩
    · simp only [writeCalls, hwrite, hwrites]
      rfl
    · intro cap
      rw [List.flatMap_cons, arrivals_append]
      exact List.rel_append (harrive cap) (harrives cap)

end PacketWriter

/-- The packets of a session arrive in the order and in the pieces that they were written in, without those
that are empty or too long.  The first of them opens a session with the destination, under the global
identifier if the packet has an address, and each later one belongs to it, with the address that it has. -/
theorem xudp_uplink {w : PacketWriter} (hw : w.Ready) {mbs : List (List Packet)}
    (hudp : ∀ mb ∈ mbs, ∀ b ∈ mb, Sourced b.udp) :
    ∃ ebs w', w.writeCalls mbs = (.ok ebs, w') ∧
      ∀ (r : ByteReader) (rest : Bytes), r.bytes = ebs.flatten ++ rest →
        ∃ t, readSessionFrame.times (mbs.flatMap PacketWriter.kept).length ⟨[], r⟩ =
            .ok (w.arrivals (mbs.flatMap PacketWriter.kept), t) ∧ t.reader.bytes = rest := by
  obtain ⟨ebs, w', hwrites, harrives⟩ := PacketWriter.writeCalls_spec hw hudp
  refine ⟨ebs, w', hwrites, ?_⟩
  intro r rest hbytes
  have hlength : (w.arrivals (mbs.flatMap PacketWriter.kept)).length =
      (mbs.flatMap PacketWriter.kept).length :=
    PacketWriter.length_arrivals w _
  obtain ⟨t, hread, ht, -⟩ := accepts_times (harrives ebs.flatten.length) ⟨[], r⟩ rest hbytes (by
    rw [List.length_nil, Nat.zero_add])
  rw [hlength] at hread
  exact ⟨t, hread, ht⟩

def resolverWriter : PacketWriter := ⟨resolver, List.replicate 8 7, rfl⟩

theorem xudp_uplink_resolver :
    ∃ ebs w', resolverWriter.writeCalls [[⟨some resolver, [5]⟩, ⟨none, []⟩], [⟨none, [6]⟩]] =
        (.ok ebs, w') ∧
      ∀ (r : ByteReader) (rest : Bytes), r.bytes = ebs.flatten ++ rest →
        ∃ t, readSessionFrame.times 2 ⟨[], r⟩ =
            .ok ([(⟨resolver, 0, 1, 1, List.replicate 8 7⟩, some ⟨some resolver, [5]⟩),
              (⟨noDestination, 0, 1, 2, noGlobalID⟩, some ⟨none, [6]⟩)], t) ∧ t.reader.bytes = rest := by
  refine xudp_uplink (fun _ => reachable_resolver) ?_
  intro mb hmb b hb d hd
  have hresolver : d = resolver := by
    simp only [List.mem_cons, List.not_mem_nil, or_false] at hmb
    rcases hmb with rfl | rfl
    · simp only [List.mem_cons, List.not_mem_nil, or_false] at hb
      rcases hb with rfl | rfl
      · exact (Option.some.inj hd).symm
      · cases hd
    · rw [List.mem_singleton.mp hb] at hd
      cases hd
  rw [hresolver]
  exact ⟨rfl, reachable_resolver⟩

end FoloXray.Xudp
