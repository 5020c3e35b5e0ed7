import FoloXray.Vision.Writer

/-! # What the writer of Vision puts on the wire

Over any number of calls the writer puts out the identifier, blocks that go on, one block that ends the
padding, and then the stream as it is.  The content of the blocks with the rest is what was written, and
the last block announces direct copying exactly if the connection is then switched to it.
-/

namespace FoloXray.Vision

open Foundation Buffers

/-- The padding is never negative, and leaves room for the identifier and the command bytes. -/
theorem paddingLength_bounds (chance : Chance) {n : ℕ} (long : Bool) (h : n ≤ bufSize - 21) :
    0 ≤ paddingLength chance n long ∧ paddingLength chance n long ≤ (bufSize : ℤ) - 21 - n := by
  have hsize : bufSize = 8192 := rfl
  constructor
  · rw [paddingLength]
    refine le_min ?_ (by omega)
    split
    · next hshort =>
      simp only [Bool.and_eq_true, decide_eq_true_eq] at hshort
      omega
    · omega
  · exact min_le_right _ _

/-- The four pieces go into the storage one behind the other. -/
theorem xtlsPadding_eq (chance : Chance) {b : Option Buffer} (command : UInt8) {userUUID : Bytes}
    (long : Bool) (hb : (entryBytes b).length ≤ bufSize - 21) (huuid : userUUID.length ≤ 16) {p : ℕ}
    (hp : paddingLength chance (entryBytes b).length long = p) :
    ∃ padding spare : Bytes, padding.length = p ∧ xtlsPadding chance b command userUUID long =
      some ⟨userUUID ++ (command :: (twoBytes (entryBytes b).length ++ twoBytes p)) ++ entryBytes b ++
        padding, spare⟩ := by
  let spare := ((chance.storage.bytes.drop userUUID.length).drop 5).drop (entryBytes b).length
  have hsize : bufSize = 8192 := rfl
  have hroom := (paddingLength_bounds chance long hb).2
  have hstorage := chance.storage.length_eq
  have hspare : spare.length = bufSize - userUUID.length - 5 - (entryBytes b).length := by
    simp only [spare, List.length_drop, hstorage]
  let header := command :: (twoBytes (entryBytes b).length ++ twoBytes p)
  have huser : (Buffer.new chance.storage).write userUUID =
      ⟨userUUID, chance.storage.bytes.drop userUUID.length⟩ :=
    Buffer.write_of_le (by simp only [Buffer.new]; omega)
  have hheader : Buffer.write ⟨userUUID, chance.storage.bytes.drop userUUID.length⟩ header =
      ⟨userUUID ++ header, (chance.storage.bytes.drop userUUID.length).drop 5⟩ :=
    Buffer.write_of_le (by simp only [List.length_drop, header, twoBytes, List.length_cons,
      List.length_append, List.length_nil]; omega)
  have hcontent : Buffer.write ⟨userUUID ++ header, (chance.storage.bytes.drop userUUID.length).drop 5⟩
      (entryBytes b) = ⟨userUUID ++ header ++ entryBytes b, spare⟩ :=
    Buffer.write_of_le (by simp only [List.length_drop]; omega)
  refine ⟨spare.take p, spare.drop p, ?_, ?_⟩
  · rw [List.length_take, hspare]
    omega
  · simp only [xtlsPadding, entryLen_eq, hp, Int.toNat_natCast]
    rw [huser, hheader, hcontent]
    exact Buffer.extend_of_le (by simp only [hspare]; omega)

/-- A padded buffer is the identifier and one block around the content. -/
theorem xtlsPadding_block (chance : Chance) {b : Option Buffer} (command : UInt8) {userUUID : Bytes}
    (long : Bool) (hb : (entryBytes b).length ≤ bufSize - 21) (huuid : userUUID.length ≤ 16) :
    ∃ (block : Block) (nb : Buffer), xtlsPadding chance b command userUUID long = some nb ∧
      nb.bytes = userUUID ++ block.encode ∧ block.command = command ∧ block.content = entryBytes b := by
  have hsize : bufSize = 8192 := rfl
  obtain ⟨hpos, hroom⟩ := paddingLength_bounds chance long hb
  obtain ⟨p, hp⟩ := Int.eq_ofNat_of_zero_le hpos
  obtain ⟨padding, spare, hpadding, heq⟩ := xtlsPadding_eq chance command long hb huuid hp
  refine ⟨⟨command, entryBytes b, padding, by omega, by omega⟩, _, heq, ?_, rfl, rfl⟩
  simp only [Block.encode, Block.header, hpadding, List.append_assoc]

theorem reshapeIndex_bounds (content : Bytes) :
    21 ≤ reshapeIndex content ∧ reshapeIndex content ≤ bufSize - 21 := by
  have hsize : bufSize = 8192 := rfl
  rw [reshapeIndex]
  split
  · split <;> omega
  · omega

/-- Every entry behind the reshaping has room for the identifier and the command bytes, and the content
is the same. -/
theorem reshapeEntry_spec (storage : Storage) {b : Option Buffer}
    (hb : (entryBytes b).length ≤ bufSize) :
    (∀ b' ∈ reshapeEntry storage b, (entryBytes b').length ≤ bufSize - 21) ∧
      multiBytes (reshapeEntry storage b) = entryBytes b := by
  have hsize : bufSize = 8192 := rfl
  have hstorage := storage.length_eq
  cases b with
  | none => simp [reshapeEntry, entryBytes]
  | some b =>
    rw [reshapeEntry]
    change b.bytes.length ≤ bufSize at hb
    split
    · obtain ⟨hlo, hhi⟩ := reshapeIndex_bounds b.bytes
      have hwrite : (Buffer.new storage).write (b.bytes.drop (reshapeIndex b.bytes)) =
          ⟨b.bytes.drop (reshapeIndex b.bytes),
            storage.bytes.drop (b.bytes.drop (reshapeIndex b.bytes)).length⟩ :=
        Buffer.write_of_le (by simp only [Buffer.new, List.length_drop]; omega)
      dsimp only
      rw [hwrite]
      constructor
      · intro b' hb'
        simp only [List.mem_cons, List.not_mem_nil, or_false] at hb'
        rcases hb' with rfl | rfl
        · simp only [entryBytes, Option.elim_some, List.length_take]
          omega
        · simp only [entryBytes, Option.elim_some, List.length_drop]
          omega
      · simp [entryBytes]
    · constructor
      · intro b' hb'
        obtain rfl := List.mem_singleton.mp hb'
        simp only [entryBytes, Option.elim_some]
        omega
      · simp

theorem reshapeMultiBuffer_spec (fresh : ℕ → Storage) {mb : MultiBuffer}
    (hmb : ∀ b ∈ mb, (entryBytes b).length ≤ bufSize) :
    (∀ b ∈ reshapeMultiBuffer fresh mb, (entryBytes b).length ≤ bufSize - 21) ∧
      multiBytes (reshapeMultiBuffer fresh mb) = multiBytes mb := by
  have hsize : bufSize = 8192 := rfl
  rw [reshapeMultiBuffer]
  split
  · next hshort =>
    refine ⟨?_, rfl⟩
    intro b hb
    have hlen := List.all_eq_true.mp hshort b hb
    simp only [entryLen_eq, decide_eq_true_eq] at hlen
    omega
  · next hlong =>
    clear hlong
    generalize 0 = i
    constructor
    · intro b hb
      simp only [List.mem_flatten, List.mem_map] at hb
      obtain ⟨_, ⟨⟨b', j⟩, hmem, rfl⟩, hb⟩ := hb
      exact (reshapeEntry_spec (fresh j) (hmb b' (List.fst_mem_of_mem_zipIdx hmem))).1 b hb
    · induction mb generalizing i with
      | nil => rfl
      | cons b mb ih =>
        rw [List.zipIdx_cons, List.map_cons, List.flatten_cons, multiBytes_append,
          (reshapeEntry_spec (fresh i) (hmb b List.mem_cons_self)).2,
          ih (fun b hb => hmb b (List.mem_cons_of_mem _ hb))]
        rfl

def Goes (uuid input wire : Bytes) : Prop :=
  ∃ bs : List Block, (∀ b ∈ bs, b.command = commandPaddingContinue) ∧
    wire = uuid ++ encodeBlocks bs ∧ input = contents bs

/-- The wire carries the input in blocks up to one with the given command, and behind it as it is. -/
def Ends (uuid : Bytes) (command : UInt8) (input wire : Bytes) : Prop :=
  ∃ (bs : List Block) (last : Block) (raw : Bytes),
    (∀ b ∈ bs, b.command = commandPaddingContinue) ∧ last.command = command ∧
      wire = uuid ++ (encodeBlocks bs ++ (last.encode ++ raw)) ∧
      input = contents bs ++ (last.content ++ raw)

section Pieces

variable {uuid input wire input' wire' : Bytes} {command : UInt8}

theorem Goes.append (h : Goes uuid input wire) (h' : Goes [] input' wire') :
    Goes uuid (input ++ input') (wire ++ wire') := by
  obtain ⟨bs, hbs, rfl, rfl⟩ := h
  obtain ⟨bs', hbs', rfl, rfl⟩ := h'
  refine ⟨bs ++ bs', ?_, ?_, (contents_append bs bs').symm⟩
  · intro b hb
    rcases List.mem_append.mp hb with hb | hb
    · exact hbs b hb
    · exact hbs' b hb
  · rw [encodeBlocks_append, List.nil_append, List.append_assoc]

theorem Goes.append_ends (h : Goes uuid input wire) (h' : Ends [] command input' wire') :
    Ends uuid command (input ++ input') (wire ++ wire') := by
  obtain ⟨bs, hbs, rfl, rfl⟩ := h
  obtain ⟨bs', last, raw, hbs', hlast, rfl, rfl⟩ := h'
  refine ⟨bs ++ bs', last, raw, ?_, hlast, ?_, ?_⟩
  · intro b hb
    rcases List.mem_append.mp hb with hb | hb
    · exact hbs b hb
    · exact hbs' b hb
  · rw [encodeBlocks_append, List.nil_append, List.append_assoc, List.append_assoc]
  · rw [contents_append, List.append_assoc]

theorem Ends.append (h : Ends uuid command input wire) (more : Bytes) :
    Ends uuid command (input ++ more) (wire ++ more) := by
  obtain ⟨bs, last, raw, hbs, hlast, rfl, rfl⟩ := h
  exact ⟨bs, last, raw ++ more, hbs, hlast, by simp only [List.append_assoc],
    by simp only [List.append_assoc]⟩

theorem goes_block (uuid : Bytes) {b : Block} (hb : b.command = commandPaddingContinue) :
    Goes uuid b.content (uuid ++ b.encode) :=
  ⟨[b], by simpa using hb, by simp [encodeBlocks], by simp [contents]⟩

theorem ends_block (uuid : Bytes) (b : Block) (raw : Bytes) :
    Ends uuid b.command (b.content ++ raw) (uuid ++ b.encode ++ raw) :=
  ⟨[], b, raw, by simp, rfl, by simp [encodeBlocks], by simp [contents]⟩

end Pieces

namespace VisionWriter

variable {f : Filter} {w w' : VisionWriter} {mb out : MultiBuffer}

/-- What a run of the loop over some buffers has to leave behind: while the padding goes on, blocks that
go on, and otherwise one that ends it with the command the filter asks for. -/
structure Padded (f : Filter) (w : VisionWriter) (mb out : MultiBuffer) (w' : VisionWriter) : Prop where
  filter : w'.filter = w.filter
  uuid : w'.writeOnceUserUUID = []
  switch : w'.writerSwitchToDirectCopy = (!w'.isPadding && f.enableXtls)
  goes : w'.isPadding = true →
    w.isPadding = true ∧ Goes w.writeOnceUserUUID (multiBytes mb) (multiBytes out)
  ends : w'.isPadding = false →
    Ends w.writeOnceUserUUID (lastCommand f) (multiBytes mb) (multiBytes out)

/-- One block in front of the rest of the loop, which starts behind it without the identifier. -/
theorem Padded.cons {chance : ℕ → Chance} {w₁ : VisionWriter} {b : Option Buffer} {nb : Buffer}
    {block : Block} {i : ℕ} {long : Bool} (hbytes : nb.bytes = w.writeOnceUserUUID ++ block.encode)
    (hcontent : block.content = entryBytes b)
    (hcommand : block.command =
      if mb.isEmpty && !w₁.isPadding then lastCommand f else commandPaddingContinue)
    (hfilter : w₁.filter = w.filter) (huuid : w₁.writeOnceUserUUID = [])
    (hswitch : w₁.writerSwitchToDirectCopy = (!w₁.isPadding && f.enableXtls))
    (hpadding : w₁.isPadding = true → w.isPadding = true)
    (hrest : mb ≠ [] → ∃ out w', padLoop f chance i long w₁ mb = some (out, w') ∧ Padded f w₁ mb out w') :
    ∃ out w', (padLoop f chance i long w₁ mb).bind
        (fun r => some (some nb :: r.1, r.2)) = some (out, w') ∧ Padded f w (b :: mb) out w' := by
  cases hmb : mb with
  | nil =>
    subst hmb
    refine ⟨[some nb], w₁, rfl, hfilter, huuid, hswitch, ?_, ?_⟩
    · intro hgoes
      refine ⟨hpadding hgoes, ?_⟩
      rw [hgoes] at hcommand
      simpa [entryBytes, hbytes, hcontent] using goes_block w.writeOnceUserUUID hcommand
    · intro hends
      rw [hends] at hcommand
      have hblock := ends_block w.writeOnceUserUUID block []
      rw [hcommand] at hblock
      simpa [entryBytes, hbytes, hcontent] using hblock
  | cons b' mb' =>
    rw [← hmb]
    have hne : mb ≠ [] := by simp [hmb]
    obtain ⟨out, w', hrun, h⟩ := hrest hne
    have hgo : Goes w.writeOnceUserUUID (entryBytes b) nb.bytes := by
      rw [hbytes, ← hcontent]
      exact goes_block _ (by rw [hcommand, hmb]; rfl)
    refine ⟨some nb :: out, w', by rw [hrun]; rfl, h.filter.trans hfilter, h.uuid, h.switch, ?_, ?_⟩
    · intro hgoes
      obtain ⟨hw₁, hmore⟩ := h.goes hgoes
      rw [huuid] at hmore
      exact ⟨hpadding hw₁, hgo.append hmore⟩
    · intro hends
      have hmore := h.ends hends
      rw [huuid] at hmore
      exact hgo.append_ends hmore

theorem padLoop_padded (hf : f.Sound) (chance : ℕ → Chance) (i : ℕ) (long : Bool)
    (hw : w.writerSwitchToDirectCopy = (!w.isPadding && f.enableXtls))
    (huuid : w.writeOnceUserUUID.length ≤ 16)
    (hmb : ∀ b ∈ mb, (entryBytes b).length ≤ bufSize - 21) (hne : mb ≠ []) :
    ∃ out w', padLoop f chance i long w mb = some (out, w') ∧ Padded f w mb out w' := by
  induction mb generalizing i long w with
  | nil => exact absurd rfl hne
  | cons b mb ih =>
    have hb := hmb b List.mem_cons_self
    have hrest := fun b hb => hmb b (List.mem_cons_of_mem _ hb)
    rw [padLoop]
    split
    · -- application data: the padding is going to end with this call
      obtain ⟨block, nb, hpad, hbytes, hcommand, hcontent⟩ := xtlsPadding_block (chance i)
        (if mb.isEmpty then lastCommand f else commandPaddingContinue) true hb huuid
      dsimp only
      rw [hpad]
      refine Padded.cons hbytes hcontent ?_ ?_ ?_ ?_ ?_ ?_
      · rw [hcommand]
        simp
      · rfl
      · rfl
      · rw [hw]
        cases w.isPadding <;> simp
      · simp
      · exact ih _ _ (by rw [hw]; cases w.isPadding <;> simp) (Nat.zero_le _) hrest
    · split
      · next hend =>
        -- the padding ends early, which it does only without direct copying
        obtain ⟨block, nb, hpad, hbytes, hcommand, hcontent⟩ :=
          xtlsPadding_block (chance i) commandPaddingEnd long hb huuid
        have henable : f.enableXtls = false := by
          by_contra henable
          have hTLS := hf.enabled (Bool.eq_true_of_not_eq_false henable)
          simp [hTLS] at hend
        have hlast : lastCommand f = commandPaddingEnd := by rw [lastCommand, henable]; rfl
        refine ⟨some nb :: mb, { w with isPadding := false, writeOnceUserUUID := [] },
          by rw [hpad]; rfl, rfl, rfl, ?_, ?_, ?_⟩
        · simp [hw, henable]
        · simp
        · intro _
          have hblock := ends_block w.writeOnceUserUUID block (multiBytes mb)
          rw [hcommand, ← hlast, hcontent, ← hbytes] at hblock
          exact hblock
      · -- a block like any other, the last of the call only behind application data
        obtain ⟨block, nb, hpad, hbytes, hcommand, hcontent⟩ := xtlsPadding_block (chance i)
          (if mb.isEmpty && !w.isPadding then lastCommand f else commandPaddingContinue) long hb huuid
        dsimp only
        rw [hpad]
        refine Padded.cons hbytes hcontent hcommand rfl rfl hw id ?_
        exact ih _ _ hw (Nat.zero_le _) hrest

/-- A call of `WriteMultiBuffer`: what both directions have found until then, what comes from outside,
and the buffers. -/
structure WriteCall where
  filter : Filter
  chance : ℕ → Chance
  fresh : ℕ → Storage
  mb : MultiBuffer

/-- The filter is that of one connection, and the buffers are of the common size, with their content at
the front of the storage or not too far behind. -/
structure WriteCall.Regular (c : WriteCall) : Prop where
  filter : c.filter.Sound
  size : ∀ b ∈ c.mb, (entryBytes b).length ≤ bufSize
  front : ∀ b, some b ∈ c.mb → 301 ≤ b.cap

def writeCall (w : VisionWriter) (c : WriteCall) : Option (MultiBuffer × VisionWriter) :=
  { w with filter := c.filter }.writeMultiBuffer c.chance c.fresh c.mb

/-- The calls one after another, with all that they hand down. -/
def writeCalls : VisionWriter → List WriteCall → Option (MultiBuffer × VisionWriter)
  | w, [] => some ([], w)
  | w, c :: cs => do
    let (out, w') ← w.writeCall c
    let (outs, w'') ← writeCalls w' cs
    some (out ++ outs, w'')

/-- What has been written so far and what is on the wire for it. -/
structure Wrote (uuid input wire : Bytes) (w : VisionWriter) : Prop where
  goes : w.isPadding = true → w.writerSwitchToDirectCopy = false ∧
    (w.writeOnceUserUUID = uuid ∧ input = [] ∧ wire = [] ∨
      w.writeOnceUserUUID = [] ∧ Goes uuid input wire)
  ends : w.isPadding = false →
    w.writerSwitchToDirectCopy = true ∧ Ends uuid commandPaddingDirect input wire ∨
      w.writerSwitchToDirectCopy = false ∧ Ends uuid commandPaddingEnd input wire

theorem lastCommand_switch (f : Filter) {uuid input wire : Bytes} (h : Ends uuid (lastCommand f) input wire) :
    f.enableXtls = true ∧ Ends uuid commandPaddingDirect input wire ∨
      f.enableXtls = false ∧ Ends uuid commandPaddingEnd input wire := by
  cases hf : f.enableXtls with
  | true => exact .inl ⟨rfl, by simpa [lastCommand, hf] using h⟩
  | false => exact .inr ⟨rfl, by simpa [lastCommand, hf] using h⟩

variable {uuid input wire : Bytes}

theorem Wrote.padded (h : Wrote uuid input wire w) (hpadding : w.isPadding = true)
    (hout : Padded f w mb out w') : Wrote uuid (input ++ multiBytes mb) (wire ++ multiBytes out) w' := by
  obtain ⟨hswitch, hstart | hgoes⟩ := h.goes hpadding
  · obtain ⟨rfl, rfl, rfl⟩ := hstart
    constructor
    · intro hw'
      exact ⟨by rw [hout.switch, hw']; rfl, .inr ⟨hout.uuid, (hout.goes hw').2⟩⟩
    · intro hw'
      rw [hout.switch, hw']
      simpa using lastCommand_switch f (hout.ends hw')
  · obtain ⟨huuid, hgoes⟩ := hgoes
    have hmore := hout.goes
    have hend := hout.ends
    rw [huuid] at hmore hend
    constructor
    · intro hw'
      exact ⟨by rw [hout.switch, hw']; rfl, .inr ⟨hout.uuid, hgoes.append (hmore hw').2⟩⟩
    · intro hw'
      rw [hout.switch, hw']
      simpa using lastCommand_switch f (hgoes.append_ends (hend hw'))

theorem reshapeMultiBuffer_ne_nil (fresh : ℕ → Storage) (h : mb ≠ []) :
    reshapeMultiBuffer fresh mb ≠ [] := by
  rw [reshapeMultiBuffer]
  split
  · exact h
  · obtain ⟨b, mb, rfl⟩ := List.exists_cons_of_ne_nil h
    rw [List.zipIdx_cons, List.map_cons, List.flatten_cons]
    refine List.append_ne_nil_of_left_ne_nil ?_ _
    cases b with
    | none => exact List.cons_ne_nil _ _
    | some b =>
      dsimp only [reshapeEntry]
      split <;> exact List.cons_ne_nil _ _

/-- The empty block in front of a request without a payload yet. -/
theorem padded_nil (chance : Chance) (hpadding : w.isPadding = true)
    (hswitch : w.writerSwitchToDirectCopy = false) (huuid : w.writeOnceUserUUID.length ≤ 16) :
    ∃ nb, xtlsPadding chance none commandPaddingContinue w.writeOnceUserUUID true = some nb ∧
      Padded f w [none] [some nb] { w with writeOnceUserUUID := [] } := by
  obtain ⟨block, nb, hpad, hbytes, hcommand, hcontent⟩ :=
    xtlsPadding_block chance (b := none) commandPaddingContinue true (Nat.zero_le _) huuid
  refine ⟨nb, hpad, rfl, rfl, by simp [hpadding, hswitch], ?_, by simp [hpadding]⟩
  intro _
  refine ⟨hpadding, ?_⟩
  simpa [entryBytes, hbytes, hcontent] using goes_block w.writeOnceUserUUID hcommand

theorem Wrote.pad (h : Wrote uuid input wire w) (hlen : uuid.length ≤ 16) (hsound : w.filter.Sound)
    (chance : ℕ → Chance) (fresh : ℕ → Storage) (hmb : ∀ b ∈ mb, (entryBytes b).length ≤ bufSize) :
    ∃ out w', w.padMultiBuffer chance fresh mb = some (out, w') ∧
      Wrote uuid (input ++ multiBytes mb) (wire ++ multiBytes out) w' := by
  rw [padMultiBuffer]
  by_cases hpadding : w.isPadding = true
  · rw [if_pos hpadding]
    obtain ⟨hswitch, huuid⟩ := h.goes hpadding
    have hshort : w.writeOnceUserUUID.length ≤ 16 := by
      rcases huuid with ⟨hu, -⟩ | ⟨hu, -⟩ <;> simp [hu, hlen]
    split
    · next hnil =>
      subst hnil
      obtain ⟨nb, hpad, hout⟩ := padded_nil (f := w.filter) (chance 0) hpadding hswitch hshort
      rw [hpad]
      exact ⟨_, _, rfl, h.padded hpadding hout⟩
    · by_cases hempty : mb = []
      · subst hempty
        exact ⟨[], w, rfl, by simpa using h⟩
      · obtain ⟨hsize, hbytes⟩ := reshapeMultiBuffer_spec fresh hmb
        obtain ⟨out, w', hrun, hout⟩ := padLoop_padded hsound chance 0 w.filter.isTLS
          (by simp [hpadding, hswitch]) hshort hsize (reshapeMultiBuffer_ne_nil fresh hempty)
        have hwrote := h.padded hpadding hout
        rw [hbytes] at hwrote
        exact ⟨out, w', hrun, hwrote⟩
  · rw [if_neg hpadding]
    refine ⟨mb, w, rfl, fun htrue => absurd htrue hpadding, fun hfalse => ?_⟩
    exact (h.ends hfalse).imp (fun hd => ⟨hd.1, hd.2.append _⟩) (fun he => ⟨he.1, he.2.append _⟩)

theorem Wrote.call {c : WriteCall} (h : Wrote uuid input wire w) (hlen : uuid.length ≤ 16)
    (hc : c.Regular) :
    ∃ out w', w.writeCall c = some (out, w') ∧
      Wrote uuid (input ++ multiBytes c.mb) (wire ++ multiBytes out) w' := by
  obtain ⟨f, hf⟩ := Option.isSome_iff_exists.mp (Filter.filterTraffic_isSome c.filter hc.front)
  have hsound := hc.filter.filterTraffic hf
  rw [writeCall, writeMultiBuffer, hf, Option.bind_some]
  exact Wrote.pad (w := { w with filter := f }) ⟨h.goes, h.ends⟩ hlen hsound c.chance c.fresh hc.size

theorem Wrote.calls {cs : List WriteCall} (h : Wrote uuid input wire w) (hlen : uuid.length ≤ 16)
    (hcs : ∀ c ∈ cs, c.Regular) :
    ∃ outs w', w.writeCalls cs = some (outs, w') ∧
      Wrote uuid (input ++ (cs.map fun c => multiBytes c.mb).flatten) (wire ++ multiBytes outs) w' := by
  induction cs generalizing w input wire with
  | nil => exact ⟨[], w, rfl, by simpa using h⟩
  | cons c cs ih =>
    obtain ⟨out, w₁, hcall, h₁⟩ := h.call hlen (hcs c List.mem_cons_self)
    obtain ⟨outs, w', hcalls, h'⟩ := ih h₁ (fun c hc => hcs c (List.mem_cons_of_mem _ hc))
    refine ⟨out ++ outs, w', ?_, ?_⟩
    · rw [writeCalls, hcall]
      simp [hcalls]
    · rw [multiBytes_append, List.map_cons, List.flatten_cons]
      simpa only [List.append_assoc] using h'

theorem wrote_new (ts : Bytes) : Wrote ts [] [] (newVisionWriter (newTrafficState ts)) :=
  ⟨fun _ => ⟨rfl, .inl ⟨rfl, rfl, rfl⟩⟩, fun h => by cases h⟩

end VisionWriter

end FoloXray.Vision
