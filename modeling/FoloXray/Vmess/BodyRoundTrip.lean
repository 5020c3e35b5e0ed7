import FoloXray.Vmess.BodyStream

/-! # The two ways of writing a body

A stream is cut into chunks anew, packets are chunks of their own.  Both come out of the reader as they
went in, followed by the end that an empty write stands for.  Packets that are too large for a buffer are
left out, and where the chunks are padded nothing behind them can be read any more.
-/

namespace FoloXray.Vmess.Body

open Foundation Buffers Decoder
open Protocol (TransferType)

/-- What a call has written: the chunks of the payloads. -/
def Writes (k : Body) (noise : ℕ → ℕ → UInt8) (p : Position) (bs : List Bytes)
    (r : List Bytes × Position) : Prop :=
  r.1.flatten = k.wire noise p bs ∧ r.2 = k.behind p bs.length

section Writer

variable {k : Body} {noise : ℕ → ℕ → UInt8} {p : Position}

theorem behind_succ (p : Position) (n : ℕ) : k.behind p (n + 1) = k.behind (k.next p) n := rfl

theorem Writes.cons {b : Bytes} {bs ebs : List Bytes} {p' : Position}
    (h : k.Writes noise (k.next p) bs (ebs, p')) :
    k.Writes noise p (b :: bs) ((k.sizeWord p b ++ k.bodyWord noise p b) :: ebs, p') := by
  obtain ⟨hwire, hposition⟩ := h
  refine ⟨?_, hposition⟩
  rw [List.flatten_cons, hwire, wire, List.append_assoc]

theorem writes_nil (p : Position) : k.Writes noise p [] ([], p) := ⟨rfl, rfl⟩

theorem writeStream_eq {bytes : Bytes} {eb : Bytes} {p' : Position}
    (h : k.sealChunk noise p (bytes.take k.payloadSize) = (some eb, p')) :
    k.writeStream noise p bytes =
      if bytes.drop k.payloadSize = [] then (some [eb], p')
      else ((k.writeStream noise p' (bytes.drop k.payloadSize)).1.map (eb :: ·),
        (k.writeStream noise p' (bytes.drop k.payloadSize)).2) := by
  rw [writeStream, h]
  dsimp only
  split <;> rfl

theorem writeStream_spec (noise : ℕ → ℕ → UInt8) (p : Position) {bytes : Bytes} (h : bytes ≠ []) :
    ∃ bs ebs p', k.writeStream noise p bytes = (some ebs, p') ∧ k.Writes noise p bs (ebs, p') ∧
      bs.flatten = bytes ∧ ∀ b ∈ bs, b ≠ [] ∧ b.length ≤ k.payloadSize := by
  induction hn : bytes.length using Nat.strong_induction_on generalizing bytes p with
  | _ n ih =>
    subst hn
    have hpos := k.payloadSize_pos
    have hle : (bytes.take k.payloadSize).length ≤ k.payloadSize := List.length_take_le _ _
    have hhead : bytes.take k.payloadSize ≠ [] ∧ (bytes.take k.payloadSize).length ≤ k.payloadSize := by
      refine ⟨fun hnil => ?_, hle⟩
      obtain hzero | hbytes := List.take_eq_nil_iff.mp hnil
      · omega
      · exact h hbytes
    have hseal := sealChunk_of_fits (p := p) noise (fits_of_le hle)
    rw [writeStream_eq hseal]
    by_cases hrest : bytes.drop k.payloadSize = []
    · rw [if_pos hrest]
      refine ⟨[bytes.take k.payloadSize], _, _, rfl, (writes_nil _).cons, ?_, ?_⟩
      · have happend := List.take_append_drop k.payloadSize bytes
        rw [hrest] at happend
        simpa only [List.flatten_cons, List.flatten_nil] using happend
      · exact List.forall_mem_singleton.mpr hhead
    · rw [if_neg hrest]
      have hlt : (bytes.drop k.payloadSize).length < bytes.length := by
        have := List.length_pos_of_ne_nil h
        rw [List.length_drop]
        omega
      obtain ⟨bs, ebs, p', hwrite, hwrites, hflatten, hbs⟩ := ih _ hlt (k.next p) hrest rfl
      refine ⟨bytes.take k.payloadSize :: bs, _, p', ?_, hwrites.cons, ?_, ?_⟩
      · rw [hwrite]
        rfl
      · rw [List.flatten_cons, hflatten, List.take_append_drop]
      · exact List.forall_mem_cons.mpr ⟨hhead, hbs⟩

/-- Packets that fit in are written one by one; the empty ones are left out. -/
theorem writePacket_spec (noise : ℕ → ℕ → UInt8) (p : Position) {mb : List Bytes}
    (h : ∀ b ∈ mb, b.length ≤ k.payloadSize) :
    k.Writes noise p (mb.filter (· ≠ [])) (k.writePacket noise p mb) := by
  induction mb generalizing p with
  | nil => exact writes_nil p
  | cons b mb ih =>
    obtain ⟨hb, hmb⟩ := List.forall_mem_cons.mp h
    rw [writePacket]
    by_cases hnil : b = []
    · rw [if_pos hnil, List.filter_cons_of_neg (by simpa using hnil)]
      exact ih p hmb
    · rw [if_neg hnil, List.filter_cons_of_pos (by simpa using hnil), sealChunk_of_fits noise (fits_of_le hb)]
      exact (ih _ hmb).cons

theorem writeMultiBuffer_nil (noise : ℕ → ℕ → UInt8) (transferType : TransferType) (p : Position) :
    ∃ ebs p', k.writeMultiBuffer noise transferType p [] = (.ok ebs, p') ∧
      k.Writes noise p [[]] (ebs, p') := by
  refine ⟨_, _, ?_, (writes_nil _).cons⟩
  unfold writeMultiBuffer
  rw [List.all_nil, if_pos rfl, sealChunk_of_fits noise (fits_of_le (Nat.zero_le _))]

theorem all_eq_nil_iff (mb : List Bytes) : mb.all (· = []) = true ↔ mb.flatten = [] := by
  rw [List.flatten_eq_nil_iff, List.all_eq_true]
  simp only [decide_eq_true_eq]

theorem writeMultiBuffer_stream (noise : ℕ → ℕ → UInt8) (p : Position) {mb : List Bytes}
    (h : mb.flatten ≠ []) :
    ∃ bs ebs p', k.writeMultiBuffer noise .stream p mb = (.ok ebs, p') ∧ k.Writes noise p bs (ebs, p') ∧
      bs.flatten = mb.flatten ∧ ∀ b ∈ bs, b ≠ [] ∧ b.length ≤ k.payloadSize := by
  obtain ⟨bs, ebs, p', hwrite, hwrites, hbs⟩ := writeStream_spec (k := k) noise p h
  refine ⟨bs, ebs, p', ?_, hwrites, hbs⟩
  unfold writeMultiBuffer
  rw [if_neg (mt (all_eq_nil_iff mb).mp h)]
  dsimp only
  rw [hwrite]

theorem writeMultiBuffer_packet (noise : ℕ → ℕ → UInt8) (p : Position) {mb : List Bytes}
    (h : mb.flatten ≠ []) (hle : ∀ b ∈ mb, b.length ≤ k.payloadSize) :
    ∃ ebs p', k.writeMultiBuffer noise .packet p mb = (.ok ebs, p') ∧
      k.Writes noise p (mb.filter (· ≠ [])) (ebs, p') := by
  refine ⟨_, _, ?_, writePacket_spec noise p hle⟩
  unfold writeMultiBuffer
  rw [if_neg (mt (all_eq_nil_iff mb).mp h)]

end Writer

/-- `WriteMultiBuffer` call by call, and then the empty call for the end, if the end is signalled; what has
been written. -/
def writeAll (k : Body) (noise : ℕ → ℕ → UInt8) (transferType : TransferType) (signal : Bool) :
    Position → List (List Bytes) → Outcome WriteError Bytes
  | p, [] => if signal then List.flatten <$> (k.writeMultiBuffer noise transferType p []).1 else pure []
  | p, mb :: mbs => do
    let ebs ← (k.writeMultiBuffer noise transferType p mb).1
    let rest ← writeAll k noise transferType signal (k.writeMultiBuffer noise transferType p mb).2 mbs
    pure (ebs.flatten ++ rest)

def start : Position := ⟨0, 0, 0⟩

def reader : ReaderState := ⟨start, none, false⟩

variable {k : Body} {noise : ℕ → ℕ → UInt8}

/-- The chunk for the end, if it is written. -/
def endWord (k : Body) (noise : ℕ → ℕ → UInt8) (signal : Bool) (p : Position) : Bytes :=
  if signal then k.wire noise p [[]] else []

/-- If each call writes the payloads that are cut out of its buffers, all of them are written, one after
the other, and then the end. -/
theorem writeAll_spec {transferType : TransferType} {Cut : List Bytes → List Bytes → Prop}
    {mbs : List (List Bytes)}
    (hcall : ∀ mb ∈ mbs, ∀ p, ∃ bs ebs p', k.writeMultiBuffer noise transferType p mb = (.ok ebs, p') ∧
      k.Writes noise p bs (ebs, p') ∧ Cut mb bs) (signal : Bool) (p : Position) :
    ∃ bss, List.Forall₂ Cut mbs bss ∧ k.writeAll noise transferType signal p mbs =
      .ok (k.wire noise p bss.flatten ++ k.endWord noise signal (k.behind p bss.flatten.length)) := by
  induction mbs generalizing p with
  | nil =>
    obtain ⟨ebs, p', hwrite, hflatten, -⟩ := writeMultiBuffer_nil (k := k) noise transferType p
    refine ⟨[], .nil, ?_⟩
    cases signal with
    | false => rfl
    | true =>
      rw [writeAll, if_pos rfl, hwrite]
      exact congrArg Outcome.ok hflatten
  | cons mb mbs ih =>
    obtain ⟨bs, ebs, p', hwrite, ⟨hflatten, rfl⟩, hcut⟩ := hcall mb List.mem_cons_self p
    obtain ⟨bss, hcuts, hrest⟩ := ih (fun mb' h => hcall mb' (List.mem_cons_of_mem _ h))
      (k.behind p bs.length)
    refine ⟨bs :: bss, .cons hcut hcuts, ?_⟩
    have hbehind : k.behind p (bs :: bss).flatten.length =
        k.behind (k.behind p bs.length) bss.flatten.length := by
      rw [List.flatten_cons, List.length_append, Nat.add_comm]
      exact Function.iterate_add_apply ..
    rw [writeAll, hwrite, hbehind]
    dsimp only
    rw [hrest, List.flatten_cons, wire_append p, ← hflatten, List.append_assoc]
    rfl

/-- A reader gets the payloads that have been written, and knows their end from its chunk or from the end
of the connection. -/
theorem readAll_wire {bs : List Bytes} (hbs : ∀ b ∈ bs, b ≠ [] ∧ b.length ≤ k.payloadSize) {signal : Bool}
    {s : Intake} {rest : Bytes} (hs : s.reader.bytes =
      k.wire noise start bs ++ k.endWord noise signal (k.behind start bs.length) ++ rest)
    (hrest : signal = false → rest = []) {calls : List (List (ℕ × ℕ))} (hcalls : bs.length < calls.length) :
    ∃ t, k.readAll calls reader s = .ok ((bs, true), t) := by
  have hfit : k.AllFit start bs := allFit_of_le (fun b hb => (hbs b hb).2) start
  rw [List.append_assoc] at hs
  refine readAll_spec calls (fun b hb => (hbs b hb).1) (.size hs hfit ?_) hcalls
  cases signal with
  | false => exact .inl (hrest rfl)
  | true => exact .inr ⟨rest, rfl⟩

/-- A list of payloads with something in each is no longer than they are together. -/
theorem length_le_flatten {bs : List Bytes} (h : ∀ b ∈ bs, b ≠ []) : bs.length ≤ bs.flatten.length := by
  induction bs with
  | nil => exact le_rfl
  | cons b bs ih =>
    obtain ⟨hb, hbs⟩ := List.forall_mem_cons.mp h
    have hpos := List.length_pos_of_ne_nil hb
    have hle := ih hbs
    rw [List.flatten_cons, List.length_append, List.length_cons]
    omega

theorem flatten_pieces {P : Bytes → Prop} {mbs bss : List (List Bytes)}
    (h : List.Forall₂ (fun mb bs => bs.flatten = mb.flatten ∧ ∀ b ∈ bs, P b) mbs bss) :
    bss.flatten.flatten = mbs.flatten.flatten ∧ ∀ b ∈ bss.flatten, P b := by
  induction h with
  | nil => exact ⟨rfl, fun b hb => absurd hb List.not_mem_nil⟩
  | cons hhead _ ih =>
    obtain ⟨hflatten, hpieces⟩ := hhead
    refine ⟨?_, fun b hb => ?_⟩
    · rw [List.flatten_cons, List.flatten_append, hflatten, ih.1, List.flatten_cons, List.flatten_append]
    · rw [List.flatten_cons] at hb
      exact (List.mem_append.mp hb).elim (hpieces b) (ih.2 b)

/-- A stream comes out as it went in, whatever the sizes of its writes and however its chunks come in:
the same bytes, in buffers with something in them, and then the end. -/
theorem stream_arrives (k : Body) (noise : ℕ → ℕ → UInt8) (signal : Bool) (mbs : List (List Bytes))
    (hmbs : ∀ mb ∈ mbs, mb.flatten ≠ []) :
    ∃ w, k.writeAll noise .stream signal start mbs = .ok w ∧
      ∀ (s : Intake) (rest : Bytes), s.reader.bytes = w ++ rest → (signal = false → rest = []) →
        ∀ calls : List (List (ℕ × ℕ)), mbs.flatten.flatten.length < calls.length →
          ∃ bs t, k.readAll calls reader s = .ok ((bs, true), t) ∧
            bs.flatten = mbs.flatten.flatten ∧ ∀ b ∈ bs, b ≠ [] ∧ b.length ≤ k.payloadSize := by
  obtain ⟨bss, hcut, hwrite⟩ :=
    writeAll_spec (fun mb hmb p => writeMultiBuffer_stream (k := k) noise p (hmbs mb hmb)) signal start
  obtain ⟨hflatten, hpieces⟩ := flatten_pieces hcut
  refine ⟨_, hwrite, fun s rest hs hrest calls hcalls => ?_⟩
  have hlength : bss.flatten.length < calls.length := by
    have hle := length_le_flatten fun b hb => (hpieces b hb).1
    rw [hflatten] at hle
    exact hle.trans_lt hcalls
  obtain ⟨t, hread⟩ := readAll_wire hpieces hs hrest hlength
  exact ⟨bss.flatten, t, hread, hflatten, hpieces⟩

theorem flatten_filter_pieces {q : Bytes → Bool} {mbs bss : List (List Bytes)}
    (h : List.Forall₂ (fun mb bs => bs = mb.filter q) mbs bss) : bss.flatten = mbs.flatten.filter q := by
  induction h with
  | nil => rfl
  | cons hhead _ ih => rw [List.flatten_cons, List.flatten_cons, List.filter_append, hhead, ih]

theorem flatten_filter_ne_nil (bs : List Bytes) : (bs.filter (· ≠ [])).flatten = bs.flatten := by
  induction bs with
  | nil => rfl
  | cons b bs ih =>
    by_cases hb : b = []
    · rw [List.filter_cons_of_neg (by simpa using hb), ih, hb]
      rfl
    · rw [List.filter_cons_of_pos (by simpa using hb), List.flatten_cons, ih, List.flatten_cons]

/-- Packets come out one by one as they went in, without the empty ones, and then the end. -/
theorem packets_arrive (k : Body) (noise : ℕ → ℕ → UInt8) (signal : Bool) (mbs : List (List Bytes))
    (hmbs : ∀ mb ∈ mbs, mb.flatten ≠ [] ∧ ∀ b ∈ mb, b.length ≤ k.payloadSize) :
    ∃ w, k.writeAll noise .packet signal start mbs = .ok w ∧
      ∀ (s : Intake) (rest : Bytes), s.reader.bytes = w ++ rest → (signal = false → rest = []) →
        ∀ calls : List (List (ℕ × ℕ)), mbs.flatten.flatten.length < calls.length →
          ∃ t, k.readAll calls reader s = .ok ((mbs.flatten.filter (· ≠ []), true), t) := by
  have hcall : ∀ mb ∈ mbs, ∀ p, ∃ bs ebs p', k.writeMultiBuffer noise .packet p mb = (.ok ebs, p') ∧
      k.Writes noise p bs (ebs, p') ∧ bs = mb.filter (· ≠ []) := by
    intro mb hmb p
    obtain ⟨hflatten, hle⟩ := hmbs mb hmb
    obtain ⟨ebs, p', hwrite, hwrites⟩ := writeMultiBuffer_packet noise p hflatten hle
    exact ⟨_, ebs, p', hwrite, hwrites, rfl⟩
  obtain ⟨bss, hcut, hwrite⟩ := writeAll_spec hcall signal start
  refine ⟨_, hwrite, fun s rest hs hrest calls hcalls => ?_⟩
  rw [flatten_filter_pieces hcut] at hs
  have hpackets : ∀ b ∈ mbs.flatten.filter (· ≠ []), b ≠ [] ∧ b.length ≤ k.payloadSize := by
    intro b hb
    obtain ⟨hmem, hne⟩ := List.mem_filter.mp hb
    obtain ⟨mb, hmb, hb⟩ := List.mem_flatten.mp hmem
    exact ⟨of_decide_eq_true hne, (hmbs mb hmb).2 b hb⟩
  refine readAll_wire hpackets hs hrest ?_
  have hle := length_le_flatten fun b hb => (hpackets b hb).1
  rw [flatten_filter_ne_nil] at hle
  exact hle.trans_lt hcalls

/-- A position at which more masks have been drawn. -/
def drawn (p : Position) (n : ℕ) : Position := { p with masks := p.masks + n }

def paddingMasks (k : Body) : ℕ := if k.globalPadding then 1 else 0

theorem nextPaddingLen_snd (p : Position) : (k.nextPaddingLen p).2 = drawn p k.paddingMasks := by
  unfold nextPaddingLen paddingMasks
  split <;> rfl

theorem encode_drawn (p : Position) (n : ℕ) (v : UInt16) :
    (k.encode (drawn p n) v).2 = drawn (k.encode p v).2 n := by
  unfold encode drawn
  split
  · rfl
  · dsimp only
    rw [Nat.add_right_comm]
  · rfl

theorem drawn_drawn (p : Position) (m n : ℕ) : drawn (drawn p m) n = drawn p (m + n) := by
  unfold drawn
  rw [Nat.add_assoc]

theorem next_drawn (p : Position) (n : ℕ) : k.next (drawn p n) = drawn (k.next p) n := by
  have hsized : k.sized (drawn p n) = drawn (k.sized p) n := by
    unfold sized
    rw [nextPaddingLen_snd, nextPaddingLen_snd, drawn_drawn, Nat.add_comm, ← drawn_drawn, encode_drawn]
  unfold next
  rw [hsized]
  rfl

theorem behind_drawn (p : Position) (m n : ℕ) : k.behind (drawn p n) m = drawn (k.behind p m) n := by
  induction m generalizing p with
  | zero => rfl
  | succ m ih => rw [behind_succ, behind_succ, next_drawn, ih]

/-- Behind its packets, the writer has drawn a padding for each packet that it left out as well. -/
theorem writePacket_position (noise : ℕ → ℕ → UInt8) (p : Position) (mb : List Bytes) :
    ∃ d, (mb.filter (· ≠ [])).length = (k.writePacket noise p mb).1.length + d ∧
      (k.writePacket noise p mb).2 =
        drawn (k.behind p (k.writePacket noise p mb).1.length) (d * k.paddingMasks) := by
  induction mb generalizing p with
  | nil => exact ⟨0, rfl, by rw [Nat.zero_mul]; rfl⟩
  | cons b mb ih =>
    rw [writePacket]
    by_cases hnil : b = []
    · rw [if_pos hnil, List.filter_cons_of_neg (by simpa using hnil)]
      exact ih p
    · rw [if_neg hnil, List.filter_cons_of_pos (by simpa using hnil)]
      by_cases hfits : k.Fits p b
      · rw [sealChunk_of_fits noise hfits]
        obtain ⟨d, hcount, hposition⟩ := ih (k.next p)
        refine ⟨d, ?_, hposition⟩
        rw [List.length_cons, hcount, List.length_cons]
        omega
      · rw [sealChunk_of_not_fits noise hfits, nextPaddingLen_snd]
        obtain ⟨d, hcount, hposition⟩ := ih (drawn p k.paddingMasks)
        refine ⟨d + 1, ?_, ?_⟩
        · dsimp only
          rw [List.length_cons, hcount]
          omega
        · dsimp only
          rw [hposition, behind_drawn, drawn_drawn, Nat.succ_mul, Nat.add_comm]

def readChunks (k : Body) : ℕ → ReaderState → Decoder ReadError ReaderState
  | 0, st => pure st
  | n + 1, st => do
    let r ← k.readMultiBuffer [] st
    match r.1 with
    | none => .fail (.read (.read .eof))
    | some _ => readChunks k n r.2

theorem decode_snd (p : Position) (b : Bytes) : (k.decode p b).2 = (k.encode p 0).2 := by
  unfold decode encode
  split <;> rfl

/-- Whatever has come in, a reader that has taken a size is behind one. -/
theorem ensures_readNextSize (p : Position) (s : Intake) :
    Ensures (k.readNextSize p) s fun r _ => r.2 = k.sized p := by
  refine ((ensures_fresh_take _ _ s).mapError _).bind ?_
  rintro bytes t -
  dsimp only
  split
  · exact ensures_fail _
  · exact ensures_pure (decode_snd _ _)

theorem ensures_readChunk (p : Position) (size padding : ℕ) (s : Intake) :
    Ensures (k.readChunk p size padding) s fun _ _ => True := by
  refine ((ensures_fresh_take _ _ s).mapError _).bind ?_
  rintro bytes t -
  refine ensures_lift (fun hopen => ?_) fun _ _ => trivial
  unfold openChunk at hopen
  split at hopen <;> cases hopen

theorem ensures_readMultiBuffer (p : Position) (s : Intake) :
    Ensures (k.readMultiBuffer [] ⟨p, none, false⟩) s fun r _ =>
      r.1 ≠ none → r.2 = ⟨k.next p, none, false⟩ := by
  have hround : Ensures (k.readInternal none ⟨p, none, false⟩) s fun r _ =>
      r.1 = .eof ∨ r.2 = ⟨k.next p, none, false⟩ := by
    refine ((ensures_readNextSize p s).untilEnd _).bind ?_
    rintro - t (⟨rfl, -⟩ | ⟨r, rfl, hr⟩)
    · exact ensures_pure (.inl rfl)
    · dsimp only [readBehind]
      by_cases hend : r.1.1 = k.aead.overhead + r.1.2
      · rw [if_pos hend]
        exact ensures_pure (.inl rfl)
      · rw [if_neg hend, if_neg (by exact Bool.false_ne_true)]
        refine ((ensures_readChunk _ _ _ t).untilEnd _).bind ?_
        rintro - u (⟨rfl, -⟩ | ⟨b, rfl, -⟩)
        · exact ensures_pure (.inl rfl)
        · refine ensures_pure (.inr ?_)
          rw [hr]
          rfl
  refine hround.bind ?_
  rintro r t hr
  split
  · rename_i hchunk
    rw [hchunk] at hr
    exact ensures_pure fun _ => hr.resolve_left (by simp)
  · exact ensures_fail _
  · exact ensures_pure fun hne => absurd rfl hne

theorem ensures_readChunks (n : ℕ) (p : Position) (s : Intake) :
    Ensures (k.readChunks n ⟨p, none, false⟩) s fun st _ => st = ⟨k.behind p n, none, false⟩ := by
  induction n generalizing p s with
  | zero => exact ensures_pure rfl
  | succ n ih =>
    refine (ensures_readMultiBuffer p s).bind ?_
    rintro r t hr
    split
    · exact ensures_fail _
    · rename_i hsome
      rw [hr (by rw [hsome]; exact Option.some_ne_none _)]
      exact ih (k.next p) t

theorem drawn_eq_self_iff (p : Position) (n : ℕ) : p = drawn p n ↔ n = 0 := by
  obtain ⟨masks, lengths, chunks⟩ := p
  unfold drawn
  constructor
  · intro h
    have hmasks := congrArg Position.masks h
    dsimp only at hmasks
    omega
  · rintro rfl
    rfl

/-- A reader that has taken as many chunks as there are packets written is in step with the writer if and
only if the chunks are not padded or no packet was too large: a packet that is left out has drawn a
padding all the same, and nothing tells the reader. -/
theorem in_step_iff (k : Body) (noise : ℕ → ℕ → UInt8) (p : Position) (mb : List Bytes)
    (s t : Intake) (st : ReaderState)
    (hread : k.readChunks (k.writePacket noise p mb).1.length ⟨p, none, false⟩ s = .ok (st, t)) :
    st.position = (k.writePacket noise p mb).2 ↔
      k.globalPadding = false ∨ (k.writePacket noise p mb).1.length = (mb.filter (· ≠ [])).length := by
  obtain ⟨d, hcount, hposition⟩ := writePacket_position (k := k) noise p mb
  have hst : st.position = k.behind p (k.writePacket noise p mb).1.length := by
    rw [(ensures_readChunks _ p s).of_ok hread]
  rw [hst, hposition, drawn_eq_self_iff, Nat.mul_eq_zero, hcount, paddingMasks]
  cases k.globalPadding with
  | false => exact iff_of_true (.inr rfl) (.inl rfl)
  | true =>
    simp only [if_true, one_ne_zero, or_false, Bool.true_eq_false, false_or]
    omega

/-- A body with masked sizes and padding, as VMess has it. -/
def padded : Body where
  aead := noOpAuthenticator
  iv := []
  lengthAead := noOpAuthenticator
  lengthIV := []
  mask n := UInt16.ofNat (n * 257 + 3)
  sizeParser := .shake
  globalPadding := true

def oversized : List Bytes := [[7], List.replicate 8192 0]

theorem in_step_iff_oversized :
    ∃ s st t, padded.readChunks (padded.writePacket (fun _ _ => 9) start oversized).1.length reader s =
        .ok (st, t) ∧
      st.done = false ∧ st.position ≠ (padded.writePacket (fun _ _ => 9) start oversized).2 := by
  have hone : (padded.writePacket (fun _ _ => 9) start oversized).1.length = 1 := by decide +kernel
  have htwo : (oversized.filter (· ≠ [])).length = 2 := by decide +kernel
  obtain ⟨⟨st, t⟩, hread, hdone⟩ :=
    Outcome.exists_of_okWith (x := padded.readChunks 1 reader ⟨[], .ofBytes [1, 0, 7, 9, 9, 9]⟩)
      (p := fun r => r.1.done = false) (by decide +kernel)
  rw [← hone] at hread
  refine ⟨_, st, t, hread, hdone, fun heq => ?_⟩
  obtain hpadding | hcount := (in_step_iff padded _ start oversized _ t st hread).mp heq
  · cases hpadding
  · rw [hone, htwo] at hcount
    cases hcount

end FoloXray.Vmess.Body
