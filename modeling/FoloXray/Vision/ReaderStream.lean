import FoloXray.Vision.Reader

/-! # What the reader of Vision makes of the wire

Buffer by buffer the reader does what the receiver of `Vision.Blocks` does byte by byte, so that it does
not matter where the buffers end.  Two places are exceptions, and both are in the code: a stream is
recognised by its first buffer alone, and the flags behind a read are wrong if the read ends inside the
command bytes of the block that ends the padding.
-/

namespace FoloXray.Vision

open Foundation Buffers

namespace Unpadder

structure Inside (s : Unpadder) : Prop where
  command : 0 ≤ s.remainingCommand
  more : s.blockDone = false

def Proper (s : Unpadder) : Prop := s.isInitial = true ∨ s.Inside

variable {s : Unpadder}

theorem Inside.settle_eq (h : s.Inside) : s.settle = s := by
  rw [settle, h.more, if_neg Bool.false_ne_true]

theorem Ready.inside (h : s.Ready) : s.Inside := by
  obtain ⟨hcommand, -, -⟩ := h
  refine ⟨by omega, ?_⟩
  simp [blockDone, hcommand]

/-- A block that is not over, without command bytes or content left, has padding left. -/
theorem Inside.padding_pos (h : s.Inside) (hcommand : ¬ 0 < s.remainingCommand)
    (hcontent : ¬ 0 < s.remainingContent) : 0 < s.remainingPadding := by
  have hmore := h.more
  simp only [blockDone, Bool.and_eq_false_iff, decide_eq_false_iff_not, not_le] at hmore
  omega

theorem inside_of_continue (h : s.currentCommand = commandPaddingContinue) : s.nextBlock.Inside := by
  rw [nextBlock, if_pos h]
  exact ⟨by simp, by simp [blockDone]⟩

theorem isInitial_of_last (h : s.currentCommand ≠ commandPaddingContinue) :
    s.nextBlock.isInitial = true := by
  rw [nextBlock, if_neg h]
  rfl

/-- A block that is not over goes on inside, and one that is over gives way to the next, or to none. -/
theorem proper_settle (h : 0 ≤ s.remainingCommand) : s.settle.Proper := by
  rw [settle]
  split
  · by_cases hcontinue : s.currentCommand = commandPaddingContinue
    · exact .inr (inside_of_continue hcontinue)
    · exact .inl (isInitial_of_last hcontinue)
  · next hmore => exact .inr ⟨h, Bool.eq_false_of_not_eq_true hmore⟩

theorem proper_absorb (h : s.Proper) (x : UInt8) : (absorb s x).1.Proper := by
  rw [absorb]
  split
  · next hinitial => exact .inl hinitial
  · next hinitial =>
    obtain hinside := h.resolve_left hinitial
    have hcommand := hinside.command
    split
    · next hpos =>
      refine proper_settle ?_
      simp only [command]
      omega
    · split <;> exact proper_settle hcommand

theorem proper_transduce (h : s.Proper) (xs : Bytes) : (transduce absorb s xs).1.Proper := by
  induction xs generalizing s with
  | nil => exact h
  | cons x xs ih => exact ih (proper_absorb h x)

theorem transduce_length_le (s : Unpadder) (xs : Bytes) :
    (transduce absorb s xs).2.length ≤ xs.length := by
  induction xs generalizing s with
  | nil => exact le_rfl
  | cons x xs ih =>
    have hstep : (absorb s x).2.length ≤ 1 := by
      rw [absorb]
      split
      · exact le_rfl
      · split
        · exact Nat.zero_le _
        · split <;> simp
    have hrest := ih (absorb s x).1
    rw [transduce_cons, List.length_append, List.length_cons]
    omega

/-- One round of the loop takes as much content off the buffer as both have. -/
theorem transduce_take_content {b : Bytes} (h : s.Inside) (hcommand : ¬ 0 < s.remainingCommand)
    (hcontent : 0 < s.remainingContent) :
    transduce absorb s (b.take (min s.remainingContent b.length).toNat) =
      ({ s with remainingContent := s.remainingContent - min s.remainingContent b.length }.settle,
        b.take (min s.remainingContent b.length).toNat) := by
  have hzero : s.remainingCommand = 0 := le_antisymm (not_lt.mp hcommand) h.command
  have hsettle := h.settle_eq
  obtain ⟨command, content, padding, current⟩ := s
  simp only at hzero hcontent
  subst hzero
  have hlen : (b.take (min content b.length).toNat).length = (min content b.length).toNat := by
    rw [List.length_take]
    omega
  obtain ⟨r, hr⟩ := Int.eq_ofNat_of_zero_le (a := content - min content b.length) (by omega)
  have htake := transduce_content current r padding (b.take (min content b.length).toNat)
  have hsum : (((b.take (min content b.length).toNat).length + r : ℕ) : ℤ) = content := by
    rw [hlen]
    omega
  rw [hsum, hsettle] at htake
  rw [htake, hr]

theorem transduce_take_padding {b : Bytes} (h : s.Inside) (hcommand : ¬ 0 < s.remainingCommand)
    (hcontent : ¬ 0 < s.remainingContent) :
    transduce absorb s (b.take (min s.remainingPadding b.length).toNat) =
      ({ s with remainingPadding := s.remainingPadding - min s.remainingPadding b.length }.settle, []) := by
  have hzero : s.remainingCommand = 0 := le_antisymm (not_lt.mp hcommand) h.command
  have hsettle := h.settle_eq
  have hpadding := h.padding_pos hcommand hcontent
  obtain ⟨command, content, padding, current⟩ := s
  simp only at hzero hcontent hpadding
  subst hzero
  have hlen : (b.take (min padding b.length).toNat).length = (min padding b.length).toNat := by
    rw [List.length_take]
    omega
  obtain ⟨r, hr⟩ := Int.eq_ofNat_of_zero_le (a := padding - min padding b.length) (by omega)
  have htake := transduce_padding current (not_lt.mp hcontent) r (b.take (min padding b.length).toNat)
  have hsum : (((b.take (min padding b.length).toNat).length + r : ℕ) : ℤ) = padding := by
    rw [hlen]
    omega
  rw [hsum, hsettle] at htake
  rw [htake, hr]

/-- One round does to the front of the buffer what the receiver does byte by byte. -/
theorem unpadRound_spec (h : s.Inside) (data : UInt8) (rest : Bytes) (nb : Buffer) :
    ∃ front b s', unpadRound data rest nb s = (b, nb.write (transduce absorb s front).2, s') ∧
      data :: rest = front ++ b ∧ b.length ≤ rest.length ∧ 0 ≤ s'.remainingCommand ∧
      (transduce absorb s front).1 = s'.settle := by
  have hlen : ((data :: rest).length : ℤ) = rest.length + 1 := by simp
  rw [unpadRound]
  split
  · next hcommand =>
    refine ⟨[data], rest, s.command data, ?_, rfl, le_rfl, ?_, ?_⟩
    · rw [transduce_cons, absorb_command hcommand]
      simp [Buffer.write]
    · simp only [command]
      omega
    · rw [transduce_cons, absorb_command hcommand, transduce_nil]
  · next hcommand =>
    split
    · next hcontent =>
      have htake := transduce_take_content (b := data :: rest) h hcommand hcontent
      refine ⟨_, _, _, ?_, (List.take_append_drop (min s.remainingContent (data :: rest).length).toNat
        _).symm, ?_, ?_, by rw [htake]⟩
      · rw [htake]
      · rw [List.length_drop, List.length_cons]
        omega
      · exact h.command
    · next hcontent =>
      have hpadding := h.padding_pos hcommand hcontent
      have htake := transduce_take_padding (b := data :: rest) h hcommand hcontent
      refine ⟨_, _, _, ?_, (List.take_append_drop (min s.remainingPadding (data :: rest).length).toNat
        _).symm, ?_, ?_, by rw [htake]⟩
      · rw [htake]
        simp only [advance, Buffer.write, List.take_nil, List.append_nil, List.length_nil, List.drop_zero]
        rw [if_neg (by omega)]
      · rw [List.length_drop, List.length_cons]
        omega
      · exact h.command

/-- The loop does to the buffer what the receiver does byte by byte. -/
theorem unpadLoop_spec {fuel : ℕ} {b : Bytes} (nb : Buffer) (h : s.Inside) (hfuel : b.length < fuel)
    (hroom : b.length ≤ nb.spare.length) :
    ∃ nb', unpadLoop fuel b nb s = some (nb', (transduce absorb s b).1) ∧
      nb'.bytes = nb.bytes ++ (transduce absorb s b).2 ∧ nb'.cap = nb.cap := by
  induction fuel generalizing b nb s with
  | zero => omega
  | succ fuel ih =>
    cases b with
    | nil => exact ⟨nb, rfl, by simp, rfl⟩
    | cons data rest =>
      obtain ⟨front, b, s', hround, hsplit, hless, hcommand, hstate⟩ := unpadRound_spec h data rest nb
      have hemitted := transduce_length_le s front
      have htotal : front.length + b.length = (data :: rest).length := by
        rw [hsplit, List.length_append]
      rw [List.length_cons] at hfuel
      have hwrite : nb.write (transduce absorb s front).2 = ⟨nb.bytes ++ (transduce absorb s front).2,
          nb.spare.drop (transduce absorb s front).2.length⟩ := Buffer.write_of_le (by omega)
      have hspare : b.length ≤ (nb.write (transduce absorb s front).2).spare.length := by
        rw [hwrite, List.length_drop]
        omega
      rw [unpadLoop, hround, hsplit, transduce_append, hstate, settle]
      dsimp only
      split
      · split
        · next hcontinue =>
          obtain ⟨nb', hloop, hbytes, hcap⟩ := ih _ (inside_of_continue hcontinue) (by omega) hspare
          exact ⟨nb', hloop, by rw [hbytes, hwrite, List.append_assoc], by rw [hcap, Buffer.cap_write]⟩
        · next hlast =>
          rw [transduce_initial (isInitial_of_last hlast)]
          refine ⟨_, rfl, ?_, by simp only [Buffer.cap_write]⟩
          rw [Buffer.write_of_le hspare, hwrite, List.append_assoc]
      · next hmore =>
        obtain ⟨nb', hloop, hbytes, hcap⟩ :=
          ih _ ⟨hcommand, Bool.eq_false_of_not_eq_true hmore⟩ (by omega) hspare
        exact ⟨nb', hloop, by rw [hbytes, hwrite, List.append_assoc], by rw [hcap, Buffer.cap_write]⟩

/-- `XtlsUnpadding` on a buffer that does not open a stream in the initial state. -/
theorem xtlsUnpadding_spec (storage : Storage) {userUUID : Bytes} {b : Buffer} (h : s.Proper)
    (hb : s.isInitial = true → opens userUUID b.bytes = false) (hsize : b.bytes.length ≤ bufSize) :
    ∃ nb, xtlsUnpadding storage userUUID b s = some (nb, (transduce absorb s b.bytes).1) ∧
      nb.bytes = (transduce absorb s b.bytes).2 ∧ (nb.cap = bufSize ∨ nb = b) := by
  rw [xtlsUnpadding]
  split
  · next hinitial =>
    rw [hb hinitial, if_neg Bool.false_ne_true, transduce_initial hinitial]
    exact ⟨b, rfl, rfl, .inr rfl⟩
  · next hinitial =>
    obtain ⟨nb, hloop, hbytes, hcap⟩ := unpadLoop_spec (.new storage) (h.resolve_left hinitial)
      (Nat.lt_succ_self _) (by simpa [Buffer.new, storage.length_eq] using hsize)
    exact ⟨nb, hloop, hbytes, .inl (by rw [hcap, Buffer.cap_new])⟩

theorem xtlsUnpadding_opens (storage : Storage) {userUUID : Bytes} {b : Buffer} (h : s.isInitial = true)
    (hb : opens userUUID b.bytes = true) (hsize : b.bytes.length ≤ bufSize) :
    ∃ nb, xtlsUnpadding storage userUUID b s =
        some (nb, (transduce absorb { s with remainingCommand := 5 } (b.bytes.drop 16)).1) ∧
      nb.bytes = (transduce absorb { s with remainingCommand := 5 } (b.bytes.drop 16)).2 ∧
      nb.cap = bufSize := by
  have hinside : Inside { s with remainingCommand := 5 } := ⟨by simp, by simp [blockDone]⟩
  rw [xtlsUnpadding, if_pos h, if_pos hb]
  obtain ⟨nb, hloop, hbytes, hcap⟩ := unpadLoop_spec (b := b.bytes.drop 16) (.new storage) hinside
    (show _ < b.bytes.length + 1 by rw [List.length_drop]; omega)
    (by simp only [Buffer.new, storage.length_eq, List.length_drop]; omega)
  exact ⟨nb, hloop, hbytes, by rw [hcap, Buffer.cap_new]⟩

/-- No buffer of the list opens a stream where the one before it has ended. -/
def Unmarked (userUUID : Bytes) : Unpadder → List Bytes → Prop
  | _, [] => True
  | s, b :: bs =>
    (s.isInitial = true → opens userUUID b = false) ∧ Unmarked userUUID (transduce absorb s b).1 bs

/-- Inside the command bytes of a block that ends the padding, before one of its lengths is known not to
be zero.  The flags of the reader take this for the end of the block. -/
def cutsCommand (s : Unpadder) : Bool :=
  s.currentCommand != commandPaddingContinue && decide (0 < s.remainingCommand) &&
    decide (s.remainingContent ≤ 0) && decide (s.remainingPadding ≤ 0)

end Unpadder

def flat (mb : List Buffer) : Bytes := (mb.map Buffer.bytes).flatten

@[simp] theorem flat_nil : flat [] = [] := rfl

@[simp] theorem flat_cons (b : Buffer) (mb : List Buffer) : flat (b :: mb) = b.bytes ++ flat mb := rfl

theorem flat_append (mb mb' : List Buffer) : flat (mb ++ mb') = flat mb ++ flat mb' := by
  rw [flat, List.map_append, List.flatten_append]
  rfl

namespace VisionReader

open Unpadder

variable {s : Unpadder} {userUUID : Bytes} {mb : List Buffer}

/-- Buffers of the common size, with their content at the front of the storage or not too far behind. -/
def Regular (mb : List Buffer) : Prop := ∀ b ∈ mb, b.bytes.length ≤ bufSize ∧ 301 ≤ b.cap

/-- One buffer and then the others; what comes out empty is left out. -/
theorem unpadAll_cons {fresh : ℕ → Storage} {i : ℕ} {b nb : Buffer} {s₁ s₂ : Unpadder}
    {mb' : List Buffer} (hnb : xtlsUnpadding (fresh i) userUUID b s = some (nb, s₁))
    (hmb' : unpadAll userUUID fresh (i + 1) s₁ mb = some (mb', s₂)) (hcap : 301 ≤ nb.cap)
    (hcaps : ∀ b ∈ mb', 301 ≤ b.cap) :
    ∃ mb'', unpadAll userUUID fresh i s (b :: mb) = some (mb'', s₂) ∧
      flat mb'' = nb.bytes ++ flat mb' ∧ ∀ b ∈ mb'', 301 ≤ b.cap := by
  refine ⟨if 0 < nb.bytes.length then nb :: mb' else mb', ?_, ?_, ?_⟩
  · rw [unpadAll, hnb]
    simp [hmb']
  · split
    · rfl
    · next hnil =>
      rw [List.eq_nil_of_length_eq_zero (Nat.eq_zero_of_not_pos hnil)]
      rfl
  · intro b' hb'
    split at hb'
    · rcases List.mem_cons.mp hb' with rfl | hb'
      · exact hcap
      · exact hcaps b' hb'
    · exact hcaps b' hb'

theorem unpadAll_spec (fresh : ℕ → Storage) (i : ℕ) (h : s.Proper) (hregular : Regular mb)
    (hmb : Unmarked userUUID s (mb.map Buffer.bytes)) :
    ∃ mb', unpadAll userUUID fresh i s mb = some (mb', (transduce absorb s (flat mb)).1) ∧
      flat mb' = (transduce absorb s (flat mb)).2 ∧ ∀ b ∈ mb', 301 ≤ b.cap := by
  induction mb generalizing i s with
  | nil => exact ⟨[], rfl, rfl, by simp⟩
  | cons b mb ih =>
    obtain ⟨hsize, hfront⟩ := hregular b List.mem_cons_self
    obtain ⟨nb, hnb, hbytes, hcap⟩ := xtlsUnpadding_spec (fresh i) h hmb.1 hsize
    obtain ⟨mb', hmb', hflat, hcaps⟩ := ih (i + 1) (proper_transduce h b.bytes)
      (fun b' hb' => hregular b' (List.mem_cons_of_mem _ hb')) hmb.2
    have hnbcap : 301 ≤ nb.cap := by
      rcases hcap with hcap | rfl
      · rw [hcap]; decide
      · exact hfront
    obtain ⟨mb'', hrun, hout, hall⟩ := unpadAll_cons hnb hmb' hnbcap hcaps
    rw [flat_cons, transduce_append]
    exact ⟨mb'', hrun, by rw [hout, hbytes, hflat], hall⟩

/-- The flags agree with the counters: inside a block the next read is padded, and the switch is thrown
exactly behind a block that asks for it. -/
structure Keeps (r : VisionReader) : Prop where
  proper : r.unpadder.Proper
  within : r.unpadder.Inside → r.withinPaddingBuffers = true
  switch : r.readerSwitchToDirectCopy =
    (r.unpadder.isInitial && r.unpadder.currentCommand == commandPaddingDirect)

variable {r : VisionReader}

/-- Away from the command bytes of the last block, a block without content and padding left is over. -/
theorem isInitial_of_counters (h : s.Proper) (hcut : s.cutsCommand = false)
    (hcontent : ¬ 0 < s.remainingContent) (hpadding : ¬ 0 < s.remainingPadding)
    (hlast : s.currentCommand ≠ commandPaddingContinue) : s.isInitial = true := by
  refine h.resolve_right ?_
  intro hinside
  have hmore := hinside.more
  simp only [cutsCommand, Bool.and_eq_false_iff, decide_eq_false_iff_not, bne_eq_false_iff_eq, hlast,
    false_or] at hcut
  simp only [blockDone, Bool.and_eq_false_iff, decide_eq_false_iff_not] at hmore
  omega

/-- Behind buffers that the counters have seen, the flags agree with the counters again. -/
theorem Keeps.setFlags (h : r.Keeps) (hs : s.Proper) (hcut : s.cutsCommand = false)
    (hthrown : r.readerSwitchToDirectCopy = true → s = r.unpadder) :
    ({ r with unpadder := s }.setFlags).Keeps := by
  have hold (hne : s.isInitial = false ∨ s.currentCommand ≠ commandPaddingDirect) :
      r.readerSwitchToDirectCopy = false := by
    by_contra htrue
    rw [Bool.not_eq_false] at htrue
    have hswitch := h.switch
    rw [htrue, ← hthrown htrue, eq_comm, Bool.and_eq_true, beq_iff_eq] at hswitch
    rcases hne with hne | hne
    · rw [hne] at hswitch
      cases hswitch.1
    · exact hne hswitch.2
  rw [VisionReader.setFlags]
  dsimp only
  split
  · next hgoing =>
    simp only [Bool.or_eq_true, decide_eq_true_eq, beq_iff_eq, or_assoc] at hgoing
    have hnot : s.isInitial = false ∨ s.currentCommand ≠ commandPaddingDirect := by
      rcases hgoing with hpos | hpos | hcontinue
      · refine .inl ?_
        simp only [isInitial, Bool.and_eq_false_iff, beq_eq_false_iff_ne]
        omega
      · refine .inl ?_
        simp only [isInitial, Bool.and_eq_false_iff, beq_eq_false_iff_ne]
        omega
      · exact .inr (by rw [hcontinue]; decide)
    refine ⟨hs, fun _ => rfl, ?_⟩
    dsimp only
    rw [hold hnot]
    rcases hnot with hnot | hnot <;> simp [hnot]
  · next hover =>
    simp only [Bool.or_eq_true, decide_eq_true_eq, beq_iff_eq, not_or] at hover
    have hdone := isInitial_of_counters hs hcut hover.1.1 hover.1.2 hover.2
    have hout : ¬ s.Inside := by
      intro hinside
      rw [not_isInitial hinside.command] at hdone
      cases hdone
    split
    · next hend =>
      refine ⟨hs, fun hinside => absurd hinside hout, ?_⟩
      dsimp only
      rw [hold (.inr (by rw [hend]; decide)), hend]
      simp [commandPaddingEnd, commandPaddingDirect]
    · split
      · next hdirect =>
        refine ⟨hs, fun hinside => absurd hinside hout, ?_⟩
        dsimp only
        rw [hdone, hdirect]
        rfl
      · next hdirect =>
        refine ⟨hs, fun hinside => absurd hinside hout, ?_⟩
        dsimp only
        rw [hold (.inr hdirect)]
        simp [hdirect]

theorem setFlags_eq (r : VisionReader) : ∃ within switch,
    r.setFlags = { r with withinPaddingBuffers := within, readerSwitchToDirectCopy := switch } := by
  rw [VisionReader.setFlags]
  split
  · exact ⟨_, _, rfl⟩
  · split
    · exact ⟨_, _, rfl⟩
    · split <;> exact ⟨_, _, rfl⟩

/-- A read has done to the buffers what the receiver does byte by byte. -/
structure Done (r : VisionReader) (mb' : List Buffer) (r' : VisionReader) (result : Unpadder × Bytes) :
    Prop where
  out : flat mb' = result.2
  unpadder : r'.unpadder = result.1
  userUUID : r'.userUUID = r.userUUID
  keeps : r'.Keeps

variable {result : Unpadder × Bytes}

theorem Keeps.unpad (h : r.Keeps) (fresh : ℕ → Storage)
    (hgate : (r.withinPaddingBuffers || decide (0 < r.filter.numberOfPacketToFilter)) = true)
    (hloop : ∃ mb', unpadAll r.userUUID fresh 0 r.unpadder mb = some (mb', result.1) ∧
      flat mb' = result.2 ∧ ∀ b ∈ mb', 301 ≤ b.cap)
    (hresult : result.1.Proper) (hcut : result.1.cutsCommand = false)
    (hthrown : r.readerSwitchToDirectCopy = true → result.1 = r.unpadder) :
    ∃ mb' r', r.unpad fresh mb = some (mb', r') ∧ Done r mb' r' result ∧ ∀ b ∈ mb', 301 ≤ b.cap := by
  obtain ⟨mb', hmb', hflat, hcaps⟩ := hloop
  obtain ⟨within, switch, hflags⟩ := setFlags_eq { r with unpadder := result.1 }
  refine ⟨mb', { r with unpadder := result.1 }.setFlags, ?_, ⟨hflat, ?_, ?_, ?_⟩, hcaps⟩
  · rw [VisionReader.unpad, if_pos hgate, hmb']
    rfl
  · rw [hflags]
  · rw [hflags]
  · exact h.setFlags hresult hcut hthrown

theorem Keeps.unpad_more (h : r.Keeps) (fresh : ℕ → Storage) (hregular : Regular mb)
    (hmb : Unmarked r.userUUID r.unpadder (mb.map Buffer.bytes))
    (hcut : (transduce absorb r.unpadder (flat mb)).1.cutsCommand = false) :
    ∃ mb' r', r.unpad fresh mb = some (mb', r') ∧
      Done r mb' r' (transduce absorb r.unpadder (flat mb)) ∧ ∀ b ∈ mb', 301 ≤ b.cap := by
  by_cases hgate : (r.withinPaddingBuffers || decide (0 < r.filter.numberOfPacketToFilter)) = true
  · refine h.unpad fresh hgate (unpadAll_spec fresh 0 h.proper hregular hmb)
      (proper_transduce h.proper _) hcut ?_
    intro hthrown
    have hswitch := h.switch
    rw [hthrown, eq_comm, Bool.and_eq_true] at hswitch
    rw [transduce_initial hswitch.1]
  · -- a reader that has left the padding is in the initial state
    have hinitial : r.unpadder.isInitial = true := by
      refine h.proper.resolve_right ?_
      intro hinside
      rw [h.within hinside] at hgate
      exact hgate rfl
    refine ⟨mb, r, by rw [VisionReader.unpad, if_neg hgate], ⟨?_, ?_, rfl, h⟩, fun b hb => (hregular b hb).2⟩
    · rw [transduce_initial hinitial]
    · rw [transduce_initial hinitial]

theorem Keeps.unpad_first {b : Buffer} (h : r.Keeps) (fresh : ℕ → Storage) (hregular : Regular (b :: mb))
    (hs : r.unpadder = ⟨-1, -1, -1, commandPaddingContinue⟩) (hwithin : r.withinPaddingBuffers = true)
    (hopens : opens r.userUUID b.bytes = true)
    (hmb : Unmarked r.userUUID (transduce absorb ⟨5, -1, -1, commandPaddingContinue⟩ (b.bytes.drop 16)).1
      (mb.map Buffer.bytes))
    (hcut : (transduce absorb ⟨5, -1, -1, commandPaddingContinue⟩
      (b.bytes.drop 16 ++ flat mb)).1.cutsCommand = false) :
    ∃ mb' r', r.unpad fresh (b :: mb) = some (mb', r') ∧
      Done r mb' r' (transduce absorb ⟨5, -1, -1, commandPaddingContinue⟩ (b.bytes.drop 16 ++ flat mb)) ∧
      ∀ b ∈ mb', 301 ≤ b.cap := by
  have hready : Proper ⟨5, -1, -1, commandPaddingContinue⟩ := .inr ⟨by decide, rfl⟩
  refine h.unpad fresh (by rw [hwithin]; rfl) ?_ (proper_transduce hready _) hcut ?_
  · obtain ⟨hsize, -⟩ := hregular b List.mem_cons_self
    obtain ⟨nb, hnb, hbytes, hcap⟩ := xtlsUnpadding_opens (fresh 0) (s := r.unpadder) (by rw [hs]; rfl)
      hopens hsize
    rw [hs] at hnb hbytes ⊢
    obtain ⟨mb', hmb', hflat, hcaps⟩ := unpadAll_spec fresh 1
      (proper_transduce hready (b.bytes.drop 16)) (fun b' hb' => hregular b' (List.mem_cons_of_mem _ hb')) hmb
    obtain ⟨mb'', hrun, hout, hall⟩ := unpadAll_cons hnb hmb' (by rw [hcap]; decide) hcaps
    rw [transduce_append]
    exact ⟨mb'', hrun, by rw [hout, hbytes, hflat], hall⟩
  · intro hthrown
    have hswitch := h.switch
    rw [hthrown, hs] at hswitch
    cases hswitch

/-- A call of `ReadMultiBuffer`: what both directions have found until then, the storage of its new
buffers, and what the reader below gives. -/
structure ReadCall where
  filter : Filter
  fresh : ℕ → Storage
  mb : List Buffer

structure ReadCall.Regular (c : ReadCall) : Prop where
  buffers : VisionReader.Regular c.mb
  nonempty : flat c.mb ≠ []

def readCall (r : VisionReader) (c : ReadCall) : Option (List Buffer × VisionReader) :=
  { r with filter := c.filter }.readMultiBuffer c.fresh c.mb

def readCalls : VisionReader → List ReadCall → Option (List Buffer × VisionReader)
  | r, [] => some ([], r)
  | r, c :: cs => do
    let (out, r') ← r.readCall c
    let (outs, r'') ← readCalls r' cs
    some (out ++ outs, r'')

theorem Keeps.withFilter (h : r.Keeps) (f : Filter) : Keeps { r with filter := f } :=
  ⟨h.proper, h.within, h.switch⟩

/-- A read is its unpadding; the filter looks at what comes out and changes nothing in it. -/
theorem readCall_eq {c : ReadCall} {mb' : List Buffer} {r' : VisionReader} (hc : c.Regular)
    (hunpad : { r with filter := c.filter }.unpad c.fresh c.mb = some (mb', r'))
    (hcaps : ∀ b ∈ mb', 301 ≤ b.cap) :
    ∃ f, r.readCall c = some (mb', { r' with filter := f }) := by
  have hnonempty : ¬ c.mb.all (fun b => b.bytes.isEmpty) = true := by
    intro hall
    refine hc.nonempty (List.flatten_eq_nil_iff.mpr ?_)
    intro bytes hbytes
    obtain ⟨b, hb, rfl⟩ := List.mem_map.mp hbytes
    exact List.isEmpty_iff.mp (List.all_eq_true.mp hall b hb)
  have hfront : ∀ b, some b ∈ mb'.map some → 301 ≤ b.cap := by simpa using hcaps
  obtain ⟨f, hf⟩ := Option.isSome_iff_exists.mp (Filter.filterTraffic_isSome r'.filter hfront)
  refine ⟨f, ?_⟩
  rw [readCall, readMultiBuffer, if_neg hnonempty, hunpad, Option.bind_some]
  dsimp only
  rw [hf, Option.map_some]

theorem readCall_of_unpad {c : ReadCall} (hc : c.Regular)
    (hunpad : ∃ mb' r', { r with filter := c.filter }.unpad c.fresh c.mb = some (mb', r') ∧
      Done { r with filter := c.filter } mb' r' result ∧ ∀ b ∈ mb', 301 ≤ b.cap) :
    ∃ mb' r', r.readCall c = some (mb', r') ∧ Done r mb' r' result := by
  obtain ⟨mb', r', hrun, hdone, hcaps⟩ := hunpad
  obtain ⟨f, hcall⟩ := readCall_eq hc hrun hcaps
  exact ⟨mb', { r' with filter := f }, hcall, hdone.out, hdone.unpadder, hdone.userUUID,
    hdone.keeps.withFilter f⟩

/-- Every read stays away from the two exceptions: it opens no second stream, and does not end inside the
command bytes of the last block. -/
def Orderly (userUUID : Bytes) : Unpadder → List (List Bytes) → Prop
  | _, [] => True
  | s, mb :: mbs =>
    Unmarked userUUID s mb ∧ (transduce absorb s mb.flatten).1.cutsCommand = false ∧
      Orderly userUUID (transduce absorb s mb.flatten).1 mbs

def readBytes (cs : List ReadCall) : Bytes := (cs.map fun c => flat c.mb).flatten

theorem readBytes_cons (c : ReadCall) (cs : List ReadCall) :
    readBytes (c :: cs) = flat c.mb ++ readBytes cs := rfl

theorem Done.cons {c : ReadCall} {cs : List ReadCall} {mb' outs : List Buffer} {r₁ r' : VisionReader}
    {bytes : Bytes} (hcall : r.readCall c = some (mb', r₁)) (hdone : Done r mb' r₁ (transduce absorb s bytes))
    (hcalls : r₁.readCalls cs = some (outs, r'))
    (hdone' : Done r₁ outs r' (transduce absorb r₁.unpadder (readBytes cs))) :
    ∃ out r', r.readCalls (c :: cs) = some (out, r') ∧
      Done r out r' (transduce absorb s (bytes ++ readBytes cs)) := by
  refine ⟨mb' ++ outs, r', ?_, ?_, ?_, hdone'.userUUID.trans hdone.userUUID, hdone'.keeps⟩
  · rw [readCalls, hcall]
    simp [hcalls]
  · rw [flat_append, hdone'.out, hdone.out, hdone.unpadder, transduce_append]
  · rw [hdone'.unpadder, hdone.unpadder, transduce_append]

theorem Keeps.reads {cs : List ReadCall} (h : r.Keeps) (hcs : ∀ c ∈ cs, c.Regular)
    (horderly : Orderly r.userUUID r.unpadder (cs.map fun c => c.mb.map Buffer.bytes)) :
    ∃ out r', r.readCalls cs = some (out, r') ∧
      Done r out r' (transduce absorb r.unpadder (readBytes cs)) := by
  induction cs generalizing r with
  | nil => exact ⟨[], r, rfl, rfl, rfl, rfl, h⟩
  | cons c cs ih =>
    obtain ⟨hmb, hcut, hrest⟩ := horderly
    have hc := hcs c List.mem_cons_self
    obtain ⟨mb', r₁, hcall, hdone⟩ := readCall_of_unpad hc
      ((h.withFilter c.filter).unpad_more c.fresh hc.buffers hmb hcut)
    obtain ⟨outs, r', hcalls, hdone'⟩ := ih hdone.keeps (fun c' hc' => hcs c' (List.mem_cons_of_mem _ hc'))
      (by rw [hdone.userUUID, hdone.unpadder]; exact hrest)
    exact Done.cons hcall hdone hcalls hdone'

end VisionReader

end FoloXray.Vision
