import FoloXray.Vision.WriterStream
import FoloXray.Vision.ReaderStream

/-! # Through Vision and back

Whatever the writer pads, wherever the buffers of the reader end, and whatever both directions of the two
connections find out about the traffic between the calls, the reader gives back what was written, and the
two ends agree on when to switch to direct copying.
-/

namespace FoloXray.Vision

open Foundation Buffers Unpadder

def opened : Unpadder := ⟨5, -1, -1, commandPaddingContinue⟩

theorem ready_opened : opened.Ready := ⟨rfl, by decide, by decide⟩

/-- Behind the identifier the wire decodes to what was written, with the switch of the writer. -/
theorem VisionWriter.Wrote.decodes {uuid input wire : Bytes} {w : VisionWriter}
    (h : Wrote uuid input wire w) :
    (wire = [] ∧ input = [] ∧ w.writerSwitchToDirectCopy = false) ∨
      ∃ body, wire = uuid ++ body ∧ (transduce absorb opened body).2 = input ∧
        ((transduce absorb opened body).1.isInitial &&
          (transduce absorb opened body).1.currentCommand == commandPaddingDirect) =
            w.writerSwitchToDirectCopy := by
  have hends {command : UInt8} (hcommand : command ≠ commandPaddingContinue)
      (hend : Ends uuid command input wire) :
      ∃ body, wire = uuid ++ body ∧
        transduce absorb opened body = (⟨-1, -1, -1, command⟩, input) := by
    obtain ⟨bs, last, raw, hbs, rfl, rfl, rfl⟩ := hend
    exact ⟨_, rfl, transduce_session raw ready_opened hbs hcommand⟩
  cases hpadding : w.isPadding with
  | true =>
    obtain ⟨hswitch, ⟨-, hinput, hwire⟩ | ⟨-, bs, hbs, rfl, rfl⟩⟩ := h.goes hpadding
    · exact .inl ⟨hwire, hinput, hswitch⟩
    · obtain ⟨hready, hcontents⟩ := transduce_continues ready_opened hbs
      refine .inr ⟨_, rfl, hcontents, ?_⟩
      rw [not_isInitial (by rw [hready.command]; decide), hswitch, Bool.false_and]
  | false =>
    rcases h.ends hpadding with ⟨hswitch, hend⟩ | ⟨hswitch, hend⟩
    · obtain ⟨body, hwire, hbody⟩ := hends (by decide) hend
      exact .inr ⟨body, hwire, by rw [hbody], by rw [hbody, hswitch]; rfl⟩
    · obtain ⟨body, hwire, hbody⟩ := hends (by decide) hend
      exact .inr ⟨body, hwire, by rw [hbody], by rw [hbody, hswitch]; rfl⟩

namespace VisionReader

/-- The first buffer shows the identifier and the command bytes at once, and the reads behind it are
orderly. -/
def Admissible (userUUID : Bytes) : List (List Bytes) → Prop
  | [] => True
  | [] :: _ => False
  | (b :: bs) :: mbs => 21 ≤ b.length ∧ Orderly userUUID opened ((b.drop 16 :: bs) :: mbs)

theorem keeps_new (uuid : Bytes) : (newVisionReader (newTrafficState uuid)).Keeps where
  proper := .inl rfl
  within _ := rfl
  switch := rfl

theorem reads_admissible {uuid body : Bytes} (huuid : uuid.length = 16) {c : ReadCall}
    {cs : List ReadCall} (hcs : ∀ c' ∈ c :: cs, c'.Regular)
    (hadmissible : Admissible uuid ((c :: cs).map fun c => c.mb.map Buffer.bytes))
    (hbody : readBytes (c :: cs) = uuid ++ body) :
    ∃ got r, (newVisionReader (newTrafficState uuid)).readCalls (c :: cs) = some (got, r) ∧
      Done (newVisionReader (newTrafficState uuid)) got r (transduce absorb opened body) := by
  obtain ⟨filter, fresh, mb⟩ := c
  cases mb with
  | nil => exact absurd hadmissible id
  | cons b mb =>
    obtain ⟨hlen, hmb, hcut, hrest⟩ := hadmissible
    have hc := hcs _ List.mem_cons_self
    -- the identifier is inside the first buffer
    have hsplit : b.bytes.take 16 ++ (b.bytes.drop 16 ++ flat mb ++ readBytes cs) = uuid ++ body := by
      rw [← hbody, readBytes_cons, flat_cons, ← List.append_assoc, ← List.append_assoc,
        List.take_append_drop]
    have hsixteen : (b.bytes.take 16).length = uuid.length := by
      rw [List.length_take, huuid]
      exact Nat.min_eq_left (by omega)
    obtain ⟨hfront, hback⟩ := List.append_inj hsplit hsixteen
    have hopens : opens uuid b.bytes = true := by
      rw [opens, hfront]
      simp [hlen]
    obtain ⟨mb', r₁, hcall, hdone⟩ := readCall_of_unpad hc
      (((keeps_new uuid).withFilter filter).unpad_first fresh hc.buffers rfl rfl hopens hmb.2 hcut)
    obtain ⟨outs, r', hcalls, hdone'⟩ := hdone.keeps.reads
      (fun c' hc' => hcs c' (List.mem_cons_of_mem _ hc'))
      (by rw [hdone.userUUID, hdone.unpadder]; exact hrest)
    rw [← hback]
    exact Done.cons hcall hdone hcalls hdone'

/-- Reads whose first buffer is long enough hold more than the identifier. -/
theorem Admissible.length_le {uuid : Bytes} {c : ReadCall} {cs : List ReadCall}
    (h : Admissible uuid ((c :: cs).map fun c => c.mb.map Buffer.bytes)) :
    16 < (readBytes (c :: cs)).length := by
  obtain ⟨filter, fresh, mb⟩ := c
  cases mb with
  | nil => exact absurd h id
  | cons b mb =>
    have hlen := h.1
    rw [readBytes_cons, flat_cons, List.length_append, List.length_append]
    omega

end VisionReader

def written (cs : List VisionWriter.WriteCall) : Bytes := (cs.map fun c => multiBytes c.mb).flatten

/-- The writer never panics.  If the reads are cut out of what it puts on the wire, the reader does not
either, and gives a front part of what was written; once it has the whole wire, it has given all of it,
and its switch to direct copying stands where the switch of the writer stands. -/
theorem vision_round_trip {uuid : Bytes} (huuid : uuid.length = 16)
    {writes : List VisionWriter.WriteCall} (hwrites : ∀ c ∈ writes, c.Regular)
    {reads : List VisionReader.ReadCall} (hreads : ∀ c ∈ reads, c.Regular)
    (hadmissible : VisionReader.Admissible uuid (reads.map fun c => c.mb.map Buffer.bytes)) :
    ∃ wire w, (newVisionWriter (newTrafficState uuid)).writeCalls writes = some (wire, w) ∧
      (VisionReader.readBytes reads <+: multiBytes wire →
        ∃ got r, (newVisionReader (newTrafficState uuid)).readCalls reads = some (got, r) ∧
          flat got <+: written writes ∧
          (VisionReader.readBytes reads = multiBytes wire →
            flat got = written writes ∧
              r.readerSwitchToDirectCopy = w.writerSwitchToDirectCopy)) := by
  obtain ⟨wire, w, hrun, hwrote⟩ := (VisionWriter.wrote_new uuid).calls huuid.le hwrites
  have hwire := hwrote.decodes
  simp only [List.nil_append] at hwire
  refine ⟨wire, w, hrun, ?_⟩
  rintro ⟨later, hlater⟩
  cases reads with
  | nil =>
    refine ⟨[], _, rfl, List.nil_prefix, ?_⟩
    intro hempty
    rcases hwire with ⟨-, hinput, hswitch⟩ | ⟨body, hbody, -⟩
    · exact ⟨hinput.symm, hswitch.symm⟩
    · rw [← hempty] at hbody
      have huuid' : uuid = [] := (List.append_eq_nil_iff.mp hbody.symm).1
      rw [huuid'] at huuid
      cases huuid
  | cons c cs =>
    have hmore := hadmissible.length_le
    obtain ⟨body, hbody, hinput, hswitch⟩ := hwire.resolve_left (fun hnothing => by
      rw [hnothing.1] at hlater
      rw [(List.append_eq_nil_iff.mp hlater).1] at hmore
      cases hmore)
    -- the reads have the identifier and a front part of what is behind it
    rw [hbody] at hlater
    obtain ⟨x, hx, -⟩ | ⟨front, hfront, hrest⟩ := List.append_eq_append_iff.mp hlater
    · rw [hx, List.length_append] at huuid
      omega
    · obtain ⟨got, r, hgot, hdone⟩ := VisionReader.reads_admissible huuid hreads hadmissible hfront
      refine ⟨got, r, hgot, ?_, ?_⟩
      · refine ⟨(transduce absorb (transduce absorb opened front).1 later).2, ?_⟩
        rw [hdone.out, written, ← hinput, hrest, transduce_append]
      · intro hall
        have hsame : front = body := by
          rw [hbody, hfront] at hall
          exact List.append_cancel_left hall
        rw [← hsame] at hinput hswitch
        exact ⟨hdone.out.trans hinput, by rw [hdone.keeps.switch, hdone.unpadder, hswitch]⟩

section Hello

/-- Storage that the pool has never given out before. -/
def cleared : Storage := ⟨List.replicate bufSize 0, List.length_replicate ..⟩

theorem cleared_cap (bytes : Bytes) : 301 ≤ (⟨bytes, cleared.bytes⟩ : Buffer).cap := by
  rw [Buffer.cap, cleared.length_eq, bufSize]
  omega

def helloWrite : VisionWriter.WriteCall where
  filter := (newTrafficState []).filter
  chance _ := ⟨0, 0, cleared⟩
  fresh _ := cleared
  mb := [some ⟨[104, 101, 108, 108, 111], cleared.bytes⟩]

def sevens : Bytes := List.replicate 16 7

/-- The two buffers of a read that has the whole wire, the first one cut inside the content. -/
def helloRead : VisionReader.ReadCall where
  filter := (newTrafficState []).filter
  fresh _ := cleared
  mb := [⟨sevens ++ [0, 0, 5, 0, 0, 104], cleared.bytes⟩,
    ⟨[101, 108, 108, 111], cleared.bytes⟩]

theorem helloRead_regular : ∀ c ∈ [helloRead], c.Regular := by
  intro c hc
  obtain rfl := List.mem_singleton.mp hc
  refine ⟨?_, by simp [helloRead]⟩
  intro b hb
  simp only [helloRead, List.mem_cons, List.not_mem_nil, or_false] at hb
  rcases hb with rfl | rfl <;> exact ⟨by decide, cleared_cap _⟩

theorem helloRead_admissible :
    VisionReader.Admissible sevens ([helloRead].map fun c => c.mb.map Buffer.bytes) :=
  ⟨by decide, ⟨fun h => absurd h (by decide), fun h => absurd h (by decide), trivial⟩, by decide, trivial⟩

theorem helloWrite_wire : ∃ spare w, (newVisionWriter (newTrafficState sevens)).writeCalls [helloWrite] =
    some ([some ⟨VisionReader.readBytes [helloRead], spare⟩], w) := by
  obtain ⟨padding, spare, hnil, hpad⟩ := xtlsPadding_eq ⟨0, 0, cleared⟩
    (b := some ⟨[104, 101, 108, 108, 111], cleared.bytes⟩) commandPaddingContinue false (by decide)
    (show sevens.length ≤ 16 by decide) (p := 0) rfl
  rw [List.length_eq_zero_iff.mp hnil] at hpad
  refine ⟨spare, ⟨⟨7, false, false, false, 0, -1⟩, true, false, []⟩, ?_⟩
  simp [VisionWriter.writeCalls, VisionWriter.writeCall, VisionWriter.writeMultiBuffer, helloWrite,
    newTrafficState, newVisionWriter, Filter.filterTraffic, Filter.xtlsFilterTls, Filter.noteHello,
    Filter.lookForTls13, VisionWriter.padMultiBuffer, VisionWriter.padLoop, reshapeMultiBuffer,
    VisionWriter.isApplicationData, hpad, entryBytes, bufSize]
  rfl

theorem vision_round_trip_hello :
    ∃ got r, (newVisionReader (newTrafficState sevens)).readCalls [helloRead] = some (got, r) ∧
      flat got = [104, 101, 108, 108, 111] := by
  obtain ⟨spare, w, hwrite⟩ := helloWrite_wire
  have hwrites : ∀ c ∈ [helloWrite], c.Regular := by
    intro c hc
    obtain rfl := List.mem_singleton.mp hc
    refine ⟨⟨by decide, by decide⟩, by simp [helloWrite, entryBytes, bufSize], ?_⟩
    intro b hb
    simp only [helloWrite, List.mem_singleton, Option.some.injEq] at hb
    rw [hb]
    exact cleared_cap _
  obtain ⟨wire, w', hrun, hback⟩ := vision_round_trip (show sevens.length = 16 from rfl) hwrites
    helloRead_regular helloRead_admissible
  rw [hwrite] at hrun
  cases hrun
  obtain ⟨got, r, hgot, -, hall⟩ := hback (by simp [entryBytes])
  exact ⟨got, r, hgot, (hall (by simp [entryBytes])).1⟩

end Hello

namespace VisionReader

/-- Buffers that leave the reader inside a block do not come to the end of a stream on their way. -/
theorem unmarked_of_inside (uuid : Bytes) {s : Unpadder} {bs : List Bytes}
    (h : (transduce absorb s bs.flatten).1.isInitial = false) : Unmarked uuid s bs := by
  induction bs generalizing s with
  | nil => trivial
  | cons b bs ih =>
    rw [List.flatten_cons, transduce_append] at h
    refine ⟨?_, ih h⟩
    intro hinitial
    rw [transduce_initial hinitial, transduce_initial hinitial, hinitial] at h
    cases h

/-- A read that ends right behind the command byte of a block for direct copying throws the switch at
once, with the lengths, the content and the padding of the block still to come. -/
theorem switches_inside_block {r : VisionReader} (h : r.Keeps) (hready : r.unpadder.Ready)
    {bs : List Block} (hbs : ∀ b ∈ bs, b.command = commandPaddingContinue) {c : ReadCall}
    (hc : c.Regular) (hbytes : flat c.mb = encodeBlocks bs ++ [commandPaddingDirect]) :
    ∃ got r', r.readCall c = some (got, r') ∧ flat got = contents bs ∧
      r'.readerSwitchToDirectCopy = true ∧ r'.unpadder.remainingCommand = 4 := by
  -- the counters behind the command byte: the lengths are those of a block that is over
  obtain ⟨hafter, hcontents⟩ := transduce_continues hready hbs
  generalize hs : (transduce absorb r.unpadder (encodeBlocks bs)).1 = s at hafter
  obtain ⟨hfive, hcontent, hpadding⟩ := hafter
  have hcommand : absorb s commandPaddingDirect =
      ({ s with currentCommand := commandPaddingDirect, remainingCommand := 4 }, []) := by
    rw [absorb_command (by omega), settle_of_command]
    · simp [command, hfive]
    · simp [command, hfive]
  have hresult : transduce absorb r.unpadder (flat c.mb) =
      ({ s with currentCommand := commandPaddingDirect, remainingCommand := 4 }, contents bs) := by
    rw [hbytes, transduce_append, hs, hcontents, transduce_cons, hcommand]
    simp
  -- the read itself
  have hwithin := h.within hready.inside
  have hunmarked : Unmarked r.userUUID r.unpadder (c.mb.map Buffer.bytes) :=
    unmarked_of_inside _ (by
      change (transduce absorb r.unpadder (flat c.mb)).1.isInitial = false
      rw [hresult]
      rfl)
  obtain ⟨mb', hmb', hflat, hcaps⟩ := unpadAll_spec c.fresh 0 h.proper hc.buffers hunmarked
  rw [hresult] at hmb' hflat
  have hunpad : { r with filter := c.filter }.unpad c.fresh c.mb = some (mb', { r with
      filter := c.filter
      withinPaddingBuffers := false
      readerSwitchToDirectCopy := true
      unpadder := { s with currentCommand := commandPaddingDirect, remainingCommand := 4 } }) := by
    rw [unpad, if_pos (by simp [hwithin]), hmb', Option.map_some]
    simp [setFlags, commandPaddingDirect, commandPaddingEnd, commandPaddingContinue, hcontent, hpadding]
  obtain ⟨f, hcall⟩ := readCall_eq hc hunpad hcaps
  exact ⟨mb', _, hcall, hflat, rfl, rfl⟩

def markBlock : Block := ⟨commandPaddingContinue, [33], [], by decide, by decide⟩

/-- One more block, and the command byte of the one behind it. -/
def commandRead : ReadCall where
  filter := (newTrafficState []).filter
  fresh _ := cleared
  mb := [⟨[0, 0, 1, 0, 0, 33, commandPaddingDirect], cleared.bytes⟩]

theorem readCalls_concat {r r₁ r' : VisionReader} {cs : List ReadCall} {c : ReadCall}
    {out got : List Buffer} (h : r.readCalls cs = some (out, r₁))
    (hc : r₁.readCall c = some (got, r')) : r.readCalls (cs ++ [c]) = some (out ++ got, r') := by
  induction cs generalizing r out with
  | nil =>
    cases h
    simp [readCalls, hc]
  | cons c₀ cs ih =>
    simp only [readCalls, bind, Option.bind_eq_some_iff] at h
    obtain ⟨⟨out₀, r₀⟩, hfirst, ⟨outs, r₂⟩, hrest, hlast⟩ := h
    cases hlast
    simp [readCalls, hfirst, ih hrest]

theorem switches_behind_hello :
    ∃ got r, (newVisionReader (newTrafficState sevens)).readCalls [helloRead, commandRead] = some (got, r) ∧
      flat got = [104, 101, 108, 108, 111, 33] ∧ r.readerSwitchToDirectCopy = true ∧
      r.unpadder.remainingCommand = 4 := by
  have hwire : readBytes [helloRead] = sevens ++ [0, 0, 5, 0, 0, 104, 101, 108, 108, 111] := rfl
  have hbody : transduce absorb opened [0, 0, 5, 0, 0, 104, 101, 108, 108, 111] =
      (⟨5, 0, 0, commandPaddingContinue⟩, [104, 101, 108, 108, 111]) := by decide +kernel
  obtain ⟨hello, r, hfirst, hdone⟩ := reads_admissible (show sevens.length = 16 from rfl)
    helloRead_regular helloRead_admissible hwire
  rw [hbody] at hdone
  have hready : r.unpadder.Ready := by
    rw [hdone.unpadder]
    exact ⟨rfl, by decide, by decide⟩
  have hregular : commandRead.Regular := by
    refine ⟨?_, by simp [commandRead]⟩
    intro b hb
    obtain rfl := List.mem_singleton.mp hb
    exact ⟨by decide, cleared_cap _⟩
  obtain ⟨got, r', hsecond, hgot, hswitch, hcommand⟩ := switches_inside_block hdone.keeps hready
    (show ∀ b ∈ [markBlock], b.command = commandPaddingContinue by simp [markBlock]) hregular
    (by decide +kernel)
  have hboth := readCalls_concat hfirst hsecond
  rw [List.singleton_append] at hboth
  refine ⟨hello ++ got, r', hboth, ?_, hswitch, hcommand⟩
  rw [flat_append, hdone.out, hgot]
  rfl

end VisionReader

end FoloXray.Vision
