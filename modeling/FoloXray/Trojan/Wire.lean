import FoloXray.Trojan.Protocol

/-! # What arrives of a Trojan connection

The header goes out once, in front of everything.  The bytes of a stream arrive as they were written, and
so do packets whose frames fit into a buffer.  A longer frame is cut off while it announces its full
length: the other side takes the missing bytes out of the frames behind it.
-/

namespace FoloXray.Trojan

open Foundation Buffers Protocol Decoder Encoder
open Mux (Packet)
open PacketFlow (Destination Network)

section Destinations

variable {d : Destination}

theorem emits_writeDestination (h : Reachable d) :
    Emits bufSize (writeDestination d) (addrParser.destWord d) := by
  obtain ⟨a, haddress, hemits⟩ := emits_destWord (p := addrParser) (by decide) h
  rw [writeDestination, haddress]
  exact hemits

theorem accepts_destination {cap : ℕ} (h : Reachable d) :
    Accepts cap (fresh addrParser.readAddressPort) (addrParser.destWord d) (d.address, d.port) := by
  have hlen := length_destWord_le addrParser h
  exact (accepts_destWord (by decide) h).fresh (by
    simp only [bufSize]
    omega)

theorem accepts_crlf {cap : ℕ} : Accepts cap (fresh (take 2 2)) crlf crlf := accepts_fresh_take rfl le_rfl

end Destinations

def frameWord (payload : Bytes) (dest : Destination) : Bytes :=
  addrParser.destWord dest ++ (twoBytes payload.length ++ (crlf ++ payload))

theorem length_frameWord (payload : Bytes) (dest : Destination) :
    (frameWord payload dest).length = (addrParser.destWord dest).length + 4 + payload.length := by
  simp only [frameWord, twoBytes, crlf, List.length_append, List.length_cons, List.length_nil]
  omega

/-- A frame is cut off at the end of its buffer. -/
theorem packetBuffer_run {dest : Destination} (h : Reachable dest) (payload : Bytes) :
    (packetBuffer payload dest).run = .ok ((frameWord payload dest).take bufSize) := by
  refine (emits_writeDestination h).run_cuts ?_ ((cuts_put _).seq ((cuts_put _).seq (cuts_put _)))
  have hlen := length_destWord_le addrParser h
  simp only [bufSize]
  omega

/-- What is read of a packet from the destination; nothing if it is empty. -/
def arrival (dest : Destination) (payload : Bytes) : List Packet :=
  if payload = [] then [] else [⟨some ⟨dest.address, dest.port, .udp⟩, payload⟩]

theorem accepts_readPayload {cap : ℕ} {dest : Destination} {payload : Bytes}
    (hlen : payload.length ≤ bufSize) :
    Accepts cap (readPayload ⟨dest.address, dest.port, .udp⟩ payload.length) payload
      (arrival dest payload) := by
  have hdone : readPayload ⟨dest.address, dest.port, .udp⟩ 0 = pure [] := by
    rw [readPayload, if_pos rfl]
  unfold arrival
  by_cases hnil : payload = []
  · rw [if_pos hnil, hnil, List.length_nil, hdone]
    exact accepts_pure []
  · have hne : payload.length ≠ 0 := fun h => hnil (List.length_eq_zero_iff.mp h)
    rw [if_neg hnil, readPayload, if_neg hne, min_eq_right hlen]
    dsimp only
    rw [Nat.sub_self, hdone]
    exact ((accepts_fresh_take rfl hlen).mapError _).bind_pure (accepts_pure _)

/-- The reader takes as many bytes as the frame announces, whatever frame they are of. -/
theorem accepts_readMultiBuffer {cap : ℕ} {dest : Destination} (h : Reachable dest) {payload : Bytes}
    (hlen : payload.length ≤ bufSize) :
    Accepts cap readMultiBuffer (frameWord payload dest) (arrival dest payload) := by
  have hsize : bufSize = maxLength := rfl
  have hmax : maxLength = 8192 := rfl
  refine ((accepts_destination h).mapError _).bind ?_
  refine ((accepts_takeUint16 (by omega)).mapError _).bind ?_
  rw [if_neg (by omega)]
  exact (accepts_crlf.mapError _).bind (accepts_readPayload hlen)

namespace ConnWriter

variable {c : ConnWriter}

def headerWord (c : ConnWriter) : Bytes :=
  c.account.key ++ (crlf ++ ([c.command] ++ (addrParser.destWord c.target ++ crlf)))

theorem header_run (h : Reachable c.target) : c.header.run = .ok c.headerWord := by
  have hemits : Emits bufSize c.header c.headerWord :=
    (emits_put _).seq ((emits_put _).seq (((emits_putByte _).mapError _).seq
      (((emits_writeDestination h).mapError _).seq (emits_put _))))
  refine hemits.run ?_
  have hlen := length_destWord_le addrParser h
  simp only [headerWord, c.account.length_key, crlf, bufSize, List.length_append, List.length_cons,
    List.length_nil]
  omega

def seen (c : ConnWriter) : Destination :=
  ⟨c.target.address, c.target.port, if c.target.network = .udp then .udp else .tcp⟩

theorem accepts_parseHeader {cap : ℕ} (h : Reachable c.target) :
    Accepts cap parseHeader c.headerWord c.seen := by
  refine ((accepts_fresh_take c.account.length_key le_rfl).mapError _).bind ?_
  refine (accepts_crlf.mapError _).bind ?_
  refine ((accepts_fresh_take (List.length_singleton) le_rfl).mapError _).bind ?_
  refine ((accepts_destination h).mapError _).bind ?_
  refine (accepts_crlf.mapError _).bind_pure ?_
  have hnetwork : (if [c.command].headD 0 = commandUDP then Network.udp else .tcp) = c.seen.network := by
    unfold command seen
    by_cases hudp : c.target.network = .udp
    · simp only [hudp, if_true, List.headD_cons]
    · simp only [hudp, if_false, List.headD_cons]
      rfl
  rw [hnetwork]
  exact accepts_pure _

/-- The header, if it is still to be sent. -/
def lead (c : ConnWriter) : Bytes := if c.headerSent then [] else c.headerWord

def withSent (c : ConnWriter) (headerSent : Bool) : ConnWriter := { c with headerSent := headerSent }

/-- What is handed on is `body`, behind the header if that was still to be sent; the header may still be
to be sent if nothing is handed on. -/
def Sends (c : ConnWriter) (r : Outcome WriteError (Bytes × ConnWriter)) (body : Bytes) : Prop :=
  ∃ out sent, r = .ok (out, c.withSent sent) ∧ out ++ (c.withSent sent).lead = c.lead ++ body ∧
    (c.headerSent = true → sent = true)

theorem sends_nothing (c : ConnWriter) : c.Sends (.ok ([], c)) [] :=
  ⟨[], c.headerSent, rfl, (List.append_nil _).symm, id⟩

theorem write_eq (h : Reachable c.target) (p : Bytes) :
    c.write p = .ok (c.lead ++ p, c.withSent true) := by
  cases hsent : c.headerSent with
  | true =>
    have hsame : c.withSent true = c := by
      rw [withSent, ← hsent]
    rw [write, if_pos hsent, lead, if_pos hsent, hsame, List.nil_append]
  | false =>
    rw [write, hsent, header_run h, lead, hsent]
    rfl

theorem sends_write (h : Reachable c.target) (p : Bytes) : c.Sends (c.write p) p :=
  ⟨c.lead ++ p, true, write_eq h p, List.append_nil _, fun _ => rfl⟩

/-- A writer that has got further sends the same to the same target. -/
theorem Sends.seq {r : Outcome WriteError (Bytes × ConnWriter)} {body body' : Bytes} (h : c.Sends r body)
    {f : ConnWriter → Outcome WriteError (Bytes × ConnWriter)}
    (h' : ∀ sent, (c.withSent sent).Sends (f (c.withSent sent)) body') :
    c.Sends (r >>= fun p => f p.2 >>= fun p' => .ok (p.1 ++ p'.1, p'.2)) (body ++ body') := by
  obtain ⟨out, sent, rfl, hout, hmono⟩ := h
  obtain ⟨out', sent', hf, hout', hmono'⟩ := h' sent
  refine ⟨out ++ out', sent', ?_, ?_, fun hsent => hmono' (hmono hsent)⟩
  · rw [Outcome.ok_bind, hf, Outcome.ok_bind]
    rfl
  · have hsame : (c.withSent sent').lead = ((c.withSent sent).withSent sent').lead := rfl
    rw [List.append_assoc, hsame, hout', ← List.append_assoc, hout, List.append_assoc]

theorem sends_writeEach {α : Type} {f : ConnWriter → α → Outcome WriteError (Bytes × ConnWriter)}
    {word : α → Bytes} {xs : List α}
    (hf : ∀ x ∈ xs, ∀ sent, (c.withSent sent).Sends (f (c.withSent sent) x) (word x)) :
    ∀ sent, (c.withSent sent).Sends (writeEach f (c.withSent sent) xs) (xs.flatMap word) := by
  induction xs with
  | nil => exact fun sent => sends_nothing _
  | cons x xs ih =>
    intro sent
    obtain ⟨hx, hxs⟩ := List.forall_mem_cons.mp hf
    exact Sends.seq (f := fun c => writeEach f c xs) (hx sent) (ih hxs)

end ConnWriter

/-- A packet whose frame fits into a buffer, for its own address or for that of the connection. -/
structure Fits (target : Destination) (b : Packet) : Prop where
  reachable : Reachable (b.udp.getD target)
  length_le : (addrParser.destWord (b.udp.getD target)).length + 4 + b.bytes.length ≤ bufSize

def bodyWord (target : Destination) (b : Packet) : Bytes :=
  if target.network = .udp then frameWord b.bytes (b.udp.getD target) else b.bytes

variable {c : ConnWriter} {mb : List Packet}

theorem sends_writeBody (h : Reachable c.target)
    (hfits : c.target.network = .udp → ∀ b ∈ mb, Fits c.target b) (sent : Bool) :
    (c.withSent sent).Sends (writeBody (c.withSent sent) mb) (mb.flatMap (bodyWord c.target)) := by
  have htarget (s : Bool) : (c.withSent s).target = c.target := rfl
  unfold writeBody
  by_cases hudp : c.target.network = .udp
  · rw [htarget, if_pos hudp]
    refine ConnWriter.sends_writeEach ?_ sent
    intro b hb s
    obtain ⟨hreach, hlen⟩ := hfits hudp b hb
    rw [← length_frameWord] at hlen
    rw [htarget, writePacket, packetBuffer_run hreach, List.take_of_length_le hlen, bodyWord, if_pos hudp]
    exact ConnWriter.sends_write (c := c.withSent s) h _
  · rw [htarget, if_neg hudp]
    refine ConnWriter.sends_writeEach ?_ sent
    intro b _ s
    rw [bodyWord, if_neg hudp]
    by_cases hnil : b.bytes = []
    · rw [if_pos hnil, hnil]
      exact ConnWriter.sends_nothing _
    · rw [if_neg hnil]
      exact ConnWriter.sends_write (c := c.withSent s) h _

def copied (first : Option (List Packet)) (mbs : List (List Packet)) : List Packet :=
  first.getD [] ++ (mbs.filter fun mb => !isEmpty mb).flatten

theorem mem_copied {mbs : List (List Packet)} (hmb : mb ∈ mbs) (hempty : isEmpty mb = false) {b : Packet}
    (hb : b ∈ mb) : b ∈ copied none mbs := by
  refine List.mem_flatten.mpr ⟨mb, List.mem_filter.mpr ⟨hmb, ?_⟩, hb⟩
  rw [hempty]
  rfl

theorem flatMap_copied (f : Packet → Bytes) (mbs : List (List Packet)) :
    (copied none mbs).flatMap f = mbs.flatMap fun mb => if isEmpty mb then [] else mb.flatMap f := by
  unfold copied
  rw [Option.getD_none, List.nil_append]
  induction mbs with
  | nil => rfl
  | cons mb mbs ih =>
    cases hempty : isEmpty mb with
    | true => simp [hempty, ih]
    | false => simp [hempty, ih]

theorem sends_copy (h : Reachable c.target) {mbs : List (List Packet)}
    (hfits : c.target.network = .udp → ∀ b ∈ copied none mbs, Fits c.target b) (sent : Bool) :
    (c.withSent sent).Sends (copy (c.withSent sent) mbs) ((copied none mbs).flatMap (bodyWord c.target)) := by
  rw [flatMap_copied]
  refine ConnWriter.sends_writeEach ?_ sent
  intro mb hmb s
  cases hempty : isEmpty mb with
  | true => exact ConnWriter.sends_nothing _
  | false =>
    exact sends_writeBody h (fun hudp b hb => hfits hudp b (mem_copied hmb hempty hb)) s

theorem postRequest_eq {account : MemoryAccount} {target : Destination} (h : Reachable target)
    {first : Option (List Packet)} {mbs : List (List Packet)}
    (hfits : target.network = .udp → ∀ b ∈ copied first mbs, Fits target b) :
    postRequest account target first mbs =
      .ok (ConnWriter.headerWord ⟨target, account, false⟩ ++
        (copied first mbs).flatMap (bodyWord target)) := by
  have hfirst : (ConnWriter.mk target account false).Sends
      (first.elim (.ok ([], ⟨target, account, false⟩)) (writeBody ⟨target, account, false⟩))
      ((first.getD []).flatMap (bodyWord target)) := by
    cases first with
    | none => exact ConnWriter.sends_nothing _
    | some mb =>
      exact sends_writeBody (c := ⟨target, account, false⟩) h
        (fun hudp b hb => hfits hudp b (List.mem_append_left _ hb)) false
  obtain ⟨out, sent, hrun, hout, -⟩ := hfirst
  have hwrite := ConnWriter.write_eq (c := ⟨target, account, sent⟩) h []
  obtain ⟨out', sent', hcopy, hout', hmono⟩ := sends_copy (c := ⟨target, account, true⟩) h
    (fun hudp b hb => hfits hudp b (List.mem_append_right _ hb)) true
  -- the header has gone out by now
  obtain rfl : sent' = true := hmono rfl
  have hbody : out' = (copied none mbs).flatMap (bodyWord target) := (List.append_nil out').symm.trans hout'
  have hsplit : copied first mbs = first.getD [] ++ copied none mbs := rfl
  have hlead : ConnWriter.lead ⟨target, account, false⟩ =
      ConnWriter.headerWord ⟨target, account, false⟩ := rfl
  rw [hsplit, List.flatMap_append, ← List.append_assoc, ← hlead, ← hout, ← hbody]
  unfold postRequest
  dsimp only
  rw [hrun, Outcome.ok_bind]
  dsimp only [ConnWriter.withSent] at hcopy ⊢
  rw [hwrite, Outcome.ok_bind]
  dsimp only [ConnWriter.withSent]
  rw [hcopy, Outcome.ok_bind, List.append_nil, List.append_assoc]
  rfl

/-- A request for a target that can be named, with packets whose frames fit: whether or not something came
in time to be sent with the header, the other side finds the key of the account in front, reads the target,
and behind it the bytes of the stream or one packet after another. -/
theorem trojan_request_arrives {account : MemoryAccount} {target : Destination} (h : Reachable target)
    {first : Option (List Packet)} {mbs : List (List Packet)}
    (hfits : target.network = .udp → ∀ b ∈ copied first mbs, Fits target b) :
    ∃ w, postRequest account target first mbs = .ok w ∧ w.take 58 = account.key ++ crlf ∧
      ∀ (r : ByteReader) (rest : Bytes), r.bytes = w ++ rest →
        ∃ t, parseHeader ⟨[], r⟩ = .ok (ConnWriter.seen ⟨target, account, false⟩, t) ∧
          if target.network = .udp then
            ∃ t', readMultiBuffer.times (copied first mbs).length t =
                .ok ((copied first mbs).map fun b => arrival (b.udp.getD target) b.bytes, t') ∧
              t'.reader.bytes = rest
          else t.reader.bytes = (copied first mbs).flatMap (·.bytes) ++ rest := by
  refine ⟨_, postRequest_eq h hfits, ?_, ?_⟩
  · rw [ConnWriter.headerWord, ← List.append_assoc account.key, List.append_assoc]
    exact List.take_left' (by rw [List.length_append, account.length_key]; rfl)
  · intro r rest hbytes
    rw [List.append_assoc] at hbytes
    have hheader (cap : ℕ) : Accepts cap parseHeader (ConnWriter.headerWord ⟨target, account, false⟩)
        (ConnWriter.seen ⟨target, account, false⟩) := ConnWriter.accepts_parseHeader h
    obtain ⟨t, hparse, ht⟩ := exists_run (s := ⟨[], r⟩) hheader hbytes
    refine ⟨t, hparse, ?_⟩
    by_cases hudp : target.network = .udp
    · rw [if_pos hudp]
      have hall (cap : ℕ) : List.Forall₂ (Accepts cap readMultiBuffer)
          ((copied first mbs).map (bodyWord target))
          ((copied first mbs).map fun b => arrival (b.udp.getD target) b.bytes) := by
        rw [List.forall₂_map_left_iff, List.forall₂_map_right_iff, List.forall₂_same]
        intro b hb
        obtain ⟨hreach, hlen⟩ := hfits hudp b hb
        rw [bodyWord, if_pos hudp]
        exact accepts_readMultiBuffer hreach (by omega)
      rw [List.flatMap_def] at ht
      obtain ⟨t', hread, ht'⟩ := exists_run (fun cap => accepts_times (hall cap)) ht
      rw [List.length_map] at hread
      exact ⟨t', hread, ht'⟩
    · rw [if_neg hudp, ht]
      congr 2
      funext b
      rw [bodyWord, if_neg hudp]

def passwordHash : Vector UInt8 28 :=
  ⟨#[0xd6, 0x3d, 0xc9, 0x19, 0xe2, 0x01, 0xd7, 0xbc, 0x4c, 0x82, 0x56, 0x30, 0xd2, 0xcf, 0x25, 0xfd,
    0xc9, 0x3d, 0x4b, 0x2f, 0x0d, 0x46, 0x70, 0x6d, 0x29, 0x03, 0x8d, 0x01], rfl⟩

def plainAccount : MemoryAccount := asAccount (fun _ => passwordHash) (goString "password")

theorem trojan_request_arrives_resolver :
    ∃ w, postRequest plainAccount resolver none [[⟨none, []⟩], [⟨none, [5]⟩, ⟨none, []⟩]] = .ok w ∧
      w.take 58 = plainAccount.key ++ crlf ∧
      ∀ (r : ByteReader) (rest : Bytes), r.bytes = w ++ rest →
        ∃ t, parseHeader ⟨[], r⟩ = .ok (resolver, t) ∧
          ∃ t', readMultiBuffer.times 2 t = .ok ([[⟨some resolver, [5]⟩], []], t') ∧
            t'.reader.bytes = rest := by
  refine trojan_request_arrives reachable_resolver ?_
  intro _ b hb
  have hdest : b.udp = none ∧ b.bytes.length ≤ 1 := by
    revert b
    decide
  refine ⟨?_, ?_⟩
  · rw [hdest.1]
    exact reachable_resolver
  · have hword : (addrParser.destWord resolver).length = 7 := rfl
    rw [hdest.1, Option.getD_none, hword]
    simp only [bufSize]
    omega

/-- A packet that is too large for its frame is sent without its end, with its full length.  The other side
makes up for the missing bytes out of what is sent next, and goes on in the middle of that. -/
theorem oversize_packet_shifts {c : ConnWriter} (hsent : c.headerSent = true) {dest : Destination}
    (h : Reachable dest) {payload : Bytes} (hlen : payload.length ≤ bufSize)
    (hover : bufSize < (addrParser.destWord dest).length + 4 + payload.length) :
    ∃ w missing, writePacket c payload dest = .ok (w, c) ∧ 0 < missing ∧
      w.length + missing = (frameWord payload dest).length ∧
      ∀ (r : ByteReader) (next : Bytes), r.bytes = w ++ next → missing ≤ next.length →
        ∃ t, readMultiBuffer ⟨[], r⟩ = .ok ([⟨some ⟨dest.address, dest.port, .udp⟩,
            payload.take (payload.length - missing) ++ next.take missing⟩], t) ∧
          t.reader.bytes = next.drop missing := by
  have hword := length_destWord_le addrParser h
  have hsize : bufSize = 8192 := rfl
  have hframe := length_frameWord payload dest
  obtain ⟨missing, hmissing⟩ : ∃ missing, (frameWord payload dest).length = bufSize + missing :=
    ⟨_, (Nat.add_sub_of_le (by omega)).symm⟩
  have hcut : (frameWord payload dest).take bufSize = addrParser.destWord dest ++ (twoBytes payload.length ++
      (crlf ++ payload.take (payload.length - missing))) := by
    have hfour : ((twoBytes payload.length).length = 2) ∧ crlf.length = 2 := ⟨rfl, rfl⟩
    rw [frameWord, List.take_append, List.take_append, List.take_append,
      List.take_of_length_le (by omega : (addrParser.destWord dest).length ≤ bufSize),
      List.take_of_length_le (by omega), List.take_of_length_le (by omega)]
    congr 4
    omega
  refine ⟨(frameWord payload dest).take bufSize, missing, ?_, by omega, ?_, ?_⟩
  · rw [writePacket, packetBuffer_run h]
    exact if_pos hsent
  · rw [List.length_take]
    omega
  · intro r next hbytes hnext
    have hdata : (payload.take (payload.length - missing) ++ next.take missing).length = payload.length := by
      rw [List.length_append, List.length_take, List.length_take]
      omega
    have hwire : r.bytes = frameWord (payload.take (payload.length - missing) ++ next.take missing) dest ++
        next.drop missing := by
      rw [hbytes, hcut, frameWord, hdata]
      simp only [List.append_assoc, List.take_append_drop]
    have hfits : (payload.take (payload.length - missing) ++ next.take missing).length ≤ bufSize :=
      hdata.trans_le hlen
    obtain ⟨t, hread, ht⟩ := exists_run (s := ⟨[], r⟩) (fun _ => accepts_readMultiBuffer h hfits) hwire
    refine ⟨t, ?_, ht⟩
    have hne : payload.take (payload.length - missing) ++ next.take missing ≠ [] := by
      intro hnil
      rw [hnil, List.length_nil] at hdata
      omega
    rw [hread, arrival, if_neg hne]

theorem oversize_packet_shifts_resolver :
    ∃ w missing, writePacket ⟨resolver, plainAccount, true⟩ (List.replicate 8190 0) resolver =
        .ok (w, ⟨resolver, plainAccount, true⟩) ∧ 0 < missing ∧
      w.length + missing = (frameWord (List.replicate 8190 0) resolver).length ∧
      ∀ (r : ByteReader) (next : Bytes), r.bytes = w ++ next → missing ≤ next.length →
        ∃ t, readMultiBuffer ⟨[], r⟩ = .ok ([⟨some resolver, (List.replicate 8190 0).take
            ((List.replicate 8190 (0 : UInt8)).length - missing) ++ next.take missing⟩], t) ∧
          t.reader.bytes = next.drop missing := by
  have hword : (addrParser.destWord resolver).length = 7 := rfl
  refine oversize_packet_shifts rfl reachable_resolver ?_ ?_
  · rw [List.length_replicate]
    decide
  · rw [List.length_replicate, hword]
    decide

section Safety

/-- What a read may give: nothing, or one packet that is not empty and fits into a buffer, from a UDP address
that survives the wire. -/
def SoundRead (mb : List Packet) : Prop :=
  mb = [] ∨ ∃ a port bytes, mb = [⟨some ⟨some a, port, .udp⟩, bytes⟩] ∧ Portable a ∧ bytes ≠ [] ∧
    bytes.length ≤ bufSize

theorem ensures_readPayload {a : Profile.Address} (ha : Portable a) (port : UInt16) {remain : ℕ}
    (hremain : remain ≤ bufSize) (s : Intake) :
    Ensures (readPayload ⟨some a, port, .udp⟩ remain) s fun mb _ => SoundRead mb := by
  rw [readPayload]
  by_cases hzero : remain = 0
  · rw [if_pos hzero]
    exact ensures_pure (.inl rfl)
  · rw [if_neg hzero, min_eq_right hremain]
    refine ((ensures_fresh_take bufSize remain s).mapError _).bind ?_
    rintro bytes t ⟨hlen, -, -⟩
    have hdone : readPayload ⟨some a, port, .udp⟩ (remain - remain) = pure [] := by
      rw [Nat.sub_self, readPayload, if_pos rfl]
    rw [hdone]
    refine ensures_pure (.inr ⟨a, port, bytes, rfl, ha, ?_, by omega⟩)
    exact List.ne_nil_of_length_pos (by omega)

theorem ensures_readMultiBuffer (s : Intake) : Ensures readMultiBuffer s fun mb _ => SoundRead mb := by
  refine ((ensures_readAddressPort addrParser ⟨[], s.reader⟩).fresh.mapError _).bind ?_
  rintro ⟨address, port⟩ t ⟨-, u, -, a, hget, ha⟩
  obtain rfl : address = some a := hget
  refine ((ensures_takeUint16 t).mapError _).bind ?_
  intro remain t₁ _
  by_cases hlong : remain > maxLength
  · simp only [hlong, if_true]
    exact ensures_fail _
  · simp only [hlong, if_false]
    refine ((ensures_fresh_take 2 2 t₁).mapError _).bind ?_
    intro _ t₂ _
    exact ensures_readPayload ha port (not_lt.mp hlong) t₂

/-- Whatever a server sends, in whatever chunks it comes and however often it is read: no read panics, and
each gives nothing or one packet that the tunnel can pass on. -/
theorem trojan_packets_sound (n : ℕ) (s : Intake) :
    readMultiBuffer.times n s ≠ .panicked ∧
      ∀ mbs t, readMultiBuffer.times n s = .ok (mbs, t) → ∀ mb ∈ mbs, SoundRead mb := by
  have htimes := ensures_times ensures_readMultiBuffer n s
  exact ⟨htimes.ne_panicked, fun mbs t hread => htimes.of_ok hread⟩

end Safety

end FoloXray.Trojan
