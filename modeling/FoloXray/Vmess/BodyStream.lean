import FoloXray.Vmess.Chunks

/-! # A body is read as it was written

As long as both sides draw their masks and nonces in step, the reader takes out of each chunk what the
writer has put into it, however the chunks come in and however many of them are read at once.
-/

namespace FoloXray.Vmess.Body

open Foundation Buffers Decoder

variable (k : Body) (noise : ℕ → ℕ → UInt8)

def padding (p : Position) : ℕ := (k.nextPaddingLen p).1

def sized (p : Position) : Position := (k.encode (k.nextPaddingLen p).2 0).2

def next (p : Position) : Position := { k.sized p with chunks := (k.sized p).chunks + 1 }

def chunkSize (p : Position) (b : Bytes) : ℕ := b.length + k.aead.overhead + k.padding p

def sizeWord (p : Position) (b : Bytes) : Bytes :=
  (k.encode (k.nextPaddingLen p).2 (UInt16.ofNat (k.chunkSize p b))).1

def bodyWord (p : Position) (b : Bytes) : Bytes :=
  k.aead.encrypt (k.nonce (k.sized p)) b ++ (List.range (k.padding p)).map (noise (k.sized p).chunks)

def Fits (p : Position) (b : Bytes) : Prop := k.sizeBytes + k.chunkSize p b ≤ bufSize

variable {k noise} {p : Position} {b : Bytes}

theorem padding_lt : k.padding p < 64 := by
  unfold padding nextPaddingLen
  split <;> omega

theorem padding_le : k.padding p ≤ k.maxPaddingLen := by
  unfold padding nextPaddingLen maxPaddingLen
  split <;> omega

theorem encode_snd (p : Position) (v w : UInt16) : (k.encode p v).2 = (k.encode p w).2 := by
  unfold encode
  split <;> rfl

/-- A chunk that is no larger than those of a stream fits in with any padding. -/
theorem fits_of_le (h : b.length ≤ k.payloadSize) : k.Fits p b := by
  have hoverhead := k.aead.overhead_le
  have hsize := k.sizeBytes_le
  have hmax := k.maxPaddingLen_le
  have hpadding : k.padding p ≤ k.maxPaddingLen := padding_le
  unfold Fits chunkSize
  unfold payloadSize bufSize at *
  omega

theorem sealChunk_of_fits (noise : ℕ → ℕ → UInt8) (h : k.Fits p b) :
    k.sealChunk noise p b = (some (k.sizeWord p b ++ k.bodyWord noise p b), k.next p) := by
  unfold Fits chunkSize at h
  have hsnd := encode_snd (k := k) (k.nextPaddingLen p).2 (UInt16.ofNat (k.chunkSize p b)) 0
  unfold sealChunk
  rw [if_neg (by unfold padding at h; omega)]
  unfold sizeWord bodyWord next sized padding chunkSize padding at *
  dsimp only
  rw [hsnd]

theorem sealChunk_of_not_fits (noise : ℕ → ℕ → UInt8) (h : ¬ k.Fits p b) :
    k.sealChunk noise p b = (none, (k.nextPaddingLen p).2) := by
  unfold Fits chunkSize padding at h
  unfold sealChunk
  rw [if_pos (by omega)]

theorem uint16_twoBytes (v : UInt16) : uint16 (twoBytes v.toNat) = v := by
  have hvalue := twoBytes_value v.toNat_lt
  simp only [uint16, twoBytes, List.getD_cons_zero, List.getD_cons_succ]
  rw [hvalue, UInt16.ofNat_toNat]

theorem length_encode (p : Position) (v : UInt16) : (k.encode p v).1.length = k.sizeBytes := by
  unfold encode sizeBytes
  split
  · rfl
  · rfl
  · rw [k.lengthAead.length_encrypt]
    rfl

/-- Both sides draw the same mask, or use the same nonce. -/
theorem decode_encode (p : Position) (v : UInt16) :
    k.decode p (k.encode p v).1 = (some v, (k.encode p v).2) := by
  unfold encode decode
  split
  · rw [uint16_twoBytes]
  · rw [uint16_twoBytes, ← UInt16.xor_assoc, UInt16.xor_self, UInt16.zero_xor]
  · rw [k.lengthAead.decrypt_encrypt, Option.map_some, uint16_twoBytes, UInt16.sub_add_cancel]

theorem chunkSize_lt (h : k.Fits p b) : k.chunkSize p b < 65536 := by
  unfold Fits bufSize at h
  omega

theorem accepts_readNextSize (h : k.Fits p b) (cap : ℕ) :
    Accepts cap (k.readNextSize p) (k.sizeWord p b) ((k.chunkSize p b, k.padding p), k.sized p) := by
  have hsnd := encode_snd (k := k) (k.nextPaddingLen p).2 (UInt16.ofNat (k.chunkSize p b)) 0
  have hvalue : (UInt16.ofNat (k.chunkSize p b)).toNat = k.chunkSize p b := by
    rw [UInt16.toNat_ofNat']
    exact Nat.mod_eq_of_lt (chunkSize_lt h)
  refine ((accepts_fresh_take (length_encode _ _) le_rfl).mapError _).bind_pure ?_
  simp only [decode_encode, hsnd, hvalue]
  exact accepts_pure _

theorem length_bodyWord (noise : ℕ → ℕ → UInt8) (p : Position) (b : Bytes) :
    (k.bodyWord noise p b).length = k.chunkSize p b := by
  unfold bodyWord chunkSize
  rw [List.length_append, k.aead.length_encrypt, List.length_map, List.length_range]

theorem openChunk_bodyWord (p : Position) (b : Bytes) :
    k.openChunk (k.sized p) (k.bodyWord noise p b) (k.padding p) = .ok b := by
  have hlength := length_bodyWord (k := k) noise p b
  have hfront : bytesTo (k.bodyWord noise p b) ((k.bodyWord noise p b).length - k.padding p) =
      k.aead.encrypt (k.nonce (k.sized p)) b := by
    have hstop : ((k.bodyWord noise p b).length : ℤ) - k.padding p =
        ((b.length + k.aead.overhead : ℕ) : ℤ) := by
      rw [hlength, chunkSize]
      omega
    rw [bytesTo, hstop, if_neg (by omega), Int.toNat_natCast, bodyWord]
    exact List.take_left' (k.aead.length_encrypt _ _)
  rw [openChunk, hfront, k.aead.decrypt_encrypt]

theorem accepts_readChunk (p : Position) (b : Bytes) (cap : ℕ) :
    Accepts cap (k.readChunk (k.sized p) (k.chunkSize p b) (k.padding p)) (k.bodyWord noise p b) b :=
  ((accepts_fresh_take (length_bodyWord noise p b) (le_max_right _ _)).mapError _).bind_pure
    (accepts_lift (openChunk_bodyWord p b))

def wire (k : Body) (noise : ℕ → ℕ → UInt8) : Position → List Bytes → Bytes
  | _, [] => []
  | p, b :: bs => k.sizeWord p b ++ (k.bodyWord noise p b ++ wire k noise (k.next p) bs)

def AllFit (k : Body) : Position → List Bytes → Prop
  | _, [] => True
  | p, b :: bs => k.Fits p b ∧ AllFit k (k.next p) bs

def behind (k : Body) (p : Position) (n : ℕ) : Position := k.next^[n] p

theorem wire_append (p : Position) (bs cs : List Bytes) :
    k.wire noise p (bs ++ cs) = k.wire noise p bs ++ k.wire noise (k.behind p bs.length) cs := by
  induction bs generalizing p with
  | nil => rfl
  | cons b bs ih => simp only [List.cons_append, wire, ih, List.append_assoc]; rfl

theorem allFit_of_le {bs : List Bytes} (h : ∀ b ∈ bs, b.length ≤ k.payloadSize) (p : Position) :
    k.AllFit p bs := by
  induction bs generalizing p with
  | nil => trivial
  | cons b bs ih =>
    obtain ⟨hb, hbs⟩ := List.forall_mem_cons.mp h
    exact ⟨fits_of_le hb, ih hbs _⟩

/-- Behind the payloads stands the chunk for the end, or nothing at all. -/
def Ends (k : Body) (noise : ℕ → ℕ → UInt8) (p : Position) (rest : Bytes) : Prop :=
  rest = [] ∨ ∃ rest', rest = k.wire noise p [[]] ++ rest'

/-- A reader that the payloads, none of them empty, and then the end are still to come for: it is in front
of a size, or behind the size of the first chunk, or it has met the end. -/
inductive Awaits (k : Body) (noise : ℕ → ℕ → UInt8) : List Bytes → ReaderState → Intake → Prop
  | size {p : Position} {bs : List Bytes} {s : Intake} {rest : Bytes}
      (hbytes : s.reader.bytes = k.wire noise p bs ++ rest) (hfit : k.AllFit p bs)
      (hend : k.Ends noise (k.behind p bs.length) rest) : Awaits k noise bs ⟨p, none, false⟩ s
  | chunk {p : Position} {b : Bytes} {bs : List Bytes} {s : Intake} {rest : Bytes}
      (hbytes : s.reader.bytes = k.bodyWord noise p b ++ (k.wire noise (k.next p) bs ++ rest))
      (hfits : k.Fits p b) (hfit : k.AllFit (k.next p) bs)
      (hend : k.Ends noise (k.behind (k.next p) bs.length) rest) :
      Awaits k noise (b :: bs) ⟨k.sized p, some (k.chunkSize p b, k.padding p), false⟩ s
  | ended {st : ReaderState} {s : Intake} (hdone : st.done = true) : Awaits k noise [] st s

def Outcomes (k : Body) (noise : ℕ → ℕ → UInt8) (soft : Option (ℕ × ℕ)) (bs : List Bytes) (st : ReaderState)
    (s : Intake) : Round → Prop
  | .waiting => soft ≠ none ∧ k.Awaits noise bs st s
  | .chunk b size => size ≤ bufSize ∧ ∃ bs', bs = b :: bs' ∧ k.Awaits noise bs' st s
  | .eof => bs = [] ∧ k.Awaits noise [] st s

/-- The size of a chunk with something in it is not that of the end. -/
theorem chunkSize_ne (h : b ≠ []) : k.chunkSize p b ≠ k.aead.overhead + k.padding p := by
  have hpos := List.length_pos_of_ne_nil h
  unfold chunkSize
  omega

theorem chunkSize_le (h : k.Fits p b) : k.chunkSize p b ≤ bufSize := by
  unfold Fits at h
  omega

/-- Behind the size of a chunk, a round waits or takes the chunk. -/
theorem readBehind_spec {soft : Option (ℕ × ℕ)} {bs : List Bytes} (hb : b ≠ []) {s : Intake} {rest : Bytes}
    (hbytes : s.reader.bytes = k.bodyWord noise p b ++ (k.wire noise (k.next p) bs ++ rest))
    (hfits : k.Fits p b) (hfit : k.AllFit (k.next p) bs)
    (hend : k.Ends noise (k.behind (k.next p) bs.length) rest) :
    ∃ r st' t, k.readBehind soft ((k.chunkSize p b, k.padding p), k.sized p) s = .ok ((r, st'), t) ∧
      k.Outcomes noise soft (b :: bs) st' t r := by
  unfold readBehind
  dsimp only
  rw [if_neg (chunkSize_ne hb)]
  by_cases hsoft : soft.any (·.2 < k.chunkSize p b) = true
  · rw [if_pos hsoft]
    refine ⟨.waiting, _, s, rfl, ?_, .chunk hbytes hfits hfit hend⟩
    rintro rfl
    cases hsoft
  · rw [if_neg hsoft]
    obtain ⟨t, hread, ht⟩ := exists_run (fun cap => (accepts_readChunk p b cap).untilEnd _) hbytes
    refine ⟨.chunk b (k.chunkSize p b), ⟨k.next p, none, false⟩, t, ?_, chunkSize_le hfits, bs, rfl,
      .size ht hfit hend⟩
    rw [bind_of_ok hread]
    rfl

/-- Behind the size of the chunk with nothing in it, the end has been met. -/
theorem readBehind_end (soft : Option (ℕ × ℕ)) (p : Position) (s : Intake) :
    k.readBehind soft ((k.chunkSize p [], k.padding p), k.sized p) s =
      .ok ((.eof, ⟨k.sized p, none, true⟩), s) := by
  unfold readBehind chunkSize
  dsimp only
  rw [List.length_nil, Nat.zero_add, if_pos rfl]
  rfl

/-- A size that is to be read at the end of the connection is not there. -/
theorem readNextSize_of_end (p : Position) {s : Intake} (h : s.reader.bytes = []) :
    k.readNextSize p s = .error (.read (.read .eof)) := by
  have hpos : k.sizeBytes ≠ 0 := by
    unfold sizeBytes
    split <;> omega
  rw [readNextSize, bind_apply, Decoder.mapError, fresh_take_of_end hpos le_rfl h]
  rfl

theorem readSize_spec (soft : Option (ℕ × ℕ)) {bs : List Bytes} {s : Intake} {rest : Bytes}
    (hbs : ∀ b ∈ bs, b ≠ []) (hbytes : s.reader.bytes = k.wire noise p bs ++ rest) (hfit : k.AllFit p bs)
    (hend : k.Ends noise (k.behind p bs.length) rest) :
    ∃ r st' t, ((k.readNextSize p).untilEnd ReadError.isEOF >>= fun
        | none => pure (.eof, ⟨p, none, false⟩)
        | some r => k.readBehind soft r) s = .ok ((r, st'), t) ∧
      k.Outcomes noise soft bs st' t r := by
  cases bs with
  | nil =>
    obtain rfl | ⟨rest', rfl⟩ := hend
    · have heof : (k.readNextSize p).untilEnd ReadError.isEOF s = .ok (none, s) := by
        rw [untilEnd, readNextSize_of_end p hbytes]
        rfl
      refine ⟨.eof, ⟨p, none, false⟩, s, ?_, rfl, .size hbytes hfit (.inl rfl)⟩
      rw [bind_of_ok heof]
      rfl
    · have hfits : k.Fits p [] := fits_of_le (Nat.zero_le _)
      have hword : s.reader.bytes = k.sizeWord p [] ++ (k.bodyWord noise p [] ++ ([] ++ rest')) := by
        rw [hbytes]
        simp only [wire, List.nil_append, List.append_assoc]
        rfl
      obtain ⟨t, hsize, -⟩ := exists_run (fun cap => (accepts_readNextSize hfits cap).untilEnd _) hword
      refine ⟨.eof, ⟨k.sized p, none, true⟩, t, ?_, rfl, .ended rfl⟩
      rw [bind_of_ok hsize]
      exact readBehind_end soft p t
  | cons b bs =>
    obtain ⟨hfits, hfit⟩ := hfit
    rw [wire, List.append_assoc, List.append_assoc] at hbytes
    obtain ⟨t, hsize, ht⟩ := exists_run (fun cap => (accepts_readNextSize hfits cap).untilEnd _) hbytes
    rw [bind_of_ok hsize]
    exact readBehind_spec (hbs b List.mem_cons_self) ht hfits hfit hend

theorem readInternal_spec (soft : Option (ℕ × ℕ)) {bs : List Bytes} {st : ReaderState} {s : Intake}
    (hbs : ∀ b ∈ bs, b ≠ []) (h : k.Awaits noise bs st s) :
    ∃ r st' t, k.readInternal soft st s = .ok ((r, st'), t) ∧ k.Outcomes noise soft bs st' t r := by
  unfold readInternal
  by_cases hsoft : soft.any (·.1 < k.sizeBytes) = true
  · rw [if_pos hsoft]
    refine ⟨.waiting, st, s, rfl, ?_, h⟩
    rintro rfl
    cases hsoft
  · rw [if_neg hsoft]
    cases h with
    | ended hdone =>
      rw [if_pos hdone]
      exact ⟨.eof, st, s, rfl, rfl, .ended hdone⟩
    | chunk hbytes hfits hfit hend =>
      exact readBehind_spec (hbs _ List.mem_cons_self) hbytes hfits hfit hend
    | size hbytes hfit hend => exact readSize_spec soft hbs hbytes hfit hend

/-- The chunks that follow in the same call are the next ones. -/
theorem readSoft_spec (softs : List (ℕ × ℕ)) {bs : List Bytes} {st : ReaderState} {s : Intake}
    (hbs : ∀ b ∈ bs, b ≠ []) (h : k.Awaits noise bs st s) (mb : List Bytes) :
    ∃ cs bs' st' t, bs = cs ++ bs' ∧ k.Awaits noise bs' st' t ∧
      k.readSoft softs st mb s = .ok ((mb ++ cs, st'), t) := by
  induction softs generalizing bs st s mb with
  | nil => exact ⟨[], bs, st, s, rfl, h, by rw [List.append_nil]; rfl⟩
  | cons soft softs ih =>
    obtain ⟨r, st', t, hround, hr⟩ := readInternal_spec (some soft) hbs h
    rw [readSoft, bind_of_ok hround]
    cases r with
    | waiting => exact ⟨[], bs, st', t, rfl, hr.2, by rw [List.append_nil]; rfl⟩
    | eof =>
      obtain ⟨rfl, hawaits⟩ := hr
      exact ⟨[], [], st', t, rfl, hawaits, by rw [List.append_nil]; rfl⟩
    | chunk b size =>
      obtain ⟨hsize, bs', rfl, hawaits⟩ := hr
      obtain ⟨cs, bs'', st'', t', rfl, hrest, hread⟩ :=
        ih (fun c hc => hbs c (List.mem_cons_of_mem _ hc)) hawaits (mb ++ [b])
      refine ⟨b :: cs, bs'', st'', t', rfl, hrest, ?_⟩
      dsimp only
      rw [addChunk, if_pos hsize, hread, List.append_assoc]
      rfl

/-- A call returns at least one of the payloads, or meets the end behind the last one. -/
theorem readMultiBuffer_spec (softs : List (ℕ × ℕ)) {bs : List Bytes} {st : ReaderState} {s : Intake}
    (hbs : ∀ b ∈ bs, b ≠ []) (h : k.Awaits noise bs st s) :
    (bs = [] ∧ ∃ st' t, k.readMultiBuffer softs st s = .ok ((none, st'), t)) ∨
      ∃ b cs bs' st' t, bs = b :: (cs ++ bs') ∧ k.Awaits noise bs' st' t ∧
        k.readMultiBuffer softs st s = .ok ((some (b :: cs), st'), t) := by
  obtain ⟨r, st', t, hround, hr⟩ := readInternal_spec none hbs h
  rw [readMultiBuffer, bind_of_ok hround]
  cases r with
  | waiting => exact absurd rfl hr.1
  | eof => exact .inl ⟨hr.1, st', t, rfl⟩
  | chunk b size =>
    obtain ⟨hsize, bs', rfl, hawaits⟩ := hr
    obtain ⟨cs, bs'', st'', t', rfl, hrest, hread⟩ :=
      readSoft_spec (softs.take 15) (fun c hc => hbs c (List.mem_cons_of_mem _ hc)) hawaits [b]
    refine .inr ⟨b, cs, bs'', st'', t', rfl, hrest, ?_⟩
    dsimp only
    rw [addChunk, if_pos hsize, List.nil_append, bind_of_ok hread]
    rfl

theorem readAll_spec (calls : List (List (ℕ × ℕ))) {bs : List Bytes} {st : ReaderState} {s : Intake}
    (hbs : ∀ b ∈ bs, b ≠ []) (h : k.Awaits noise bs st s) (hcalls : bs.length < calls.length) :
    ∃ t, k.readAll calls st s = .ok ((bs, true), t) := by
  induction calls generalizing bs st s with
  | nil => exact absurd hcalls (Nat.not_lt_zero _)
  | cons softs calls ih =>
    obtain ⟨rfl, st', t, hread⟩ | ⟨b, cs, bs', st', t, rfl, hawaits, hread⟩ :=
      readMultiBuffer_spec softs hbs h
    · refine ⟨t, ?_⟩
      rw [readAll, bind_of_ok hread]
      rfl
    · have hrest : ∀ c ∈ bs', c ≠ [] := fun c hc =>
        hbs c (List.mem_cons_of_mem _ (List.mem_append_right _ hc))
      have hlength : bs'.length < calls.length := by
        simp only [List.length_cons, List.length_append] at hcalls
        omega
      obtain ⟨t', hall⟩ := ih hrest hawaits hlength
      refine ⟨t', ?_⟩
      rw [readAll, bind_of_ok hread]
      dsimp only
      rw [bind_of_ok hall]
      rfl

end FoloXray.Vmess.Body
