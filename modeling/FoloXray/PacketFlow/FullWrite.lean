import FoloXray.Foundation.Writes
import FoloXray.PacketFlow.RoundTrip

/-! # The full-write loop against any writer

`writeAll` hands a payload to a writer that may return any count, with or without an error.  The calls it
makes are described once, by `FullWrite`; how many there are, what each is offered and what they accept
together follows by induction on that description, and from it what a sequence of frames leaves on the
stream.
-/

namespace FoloXray.PacketFlow
open Foundation

variable {σ ε : Type*}

/-- The checks of the loop behind one call, in its order: the count, the error, and zero. -/
def callError (c : WriteCall ε) : Option (WriteError ε) :=
  if c.count < 0 ∨ c.count > c.offered.length then some (.invalidCount c.count)
  else
    match c.error with
    | some e => some (.writer e)
    | none => if c.count = 0 then some .shortWrite else none

theorem callError_eq_none_iff {c : WriteCall ε} : callError c = none ↔ c.Clean := by
  unfold callError WriteCall.Clean
  split
  · rename_i hcount
    refine iff_of_false nofun fun h => ?_
    omega
  · rename_i hcount
    cases c.error with
    | some e => exact iff_of_false nofun fun h => nomatch h.1
    | none =>
      simp only [ite_eq_right_iff, reduceCtorEq, imp_false, true_and]
      omega

/-- The calls of a full write and how it ends: it stops behind the first call that fails a check, and
otherwise once nothing is left. -/
inductive FullWrite : Bytes → List (WriteCall ε) → Option (WriteError ε) → Prop where
  | done : FullWrite [] [] none
  | stop {c : WriteCall ε} {e : WriteError ε} (hoffered : c.offered ≠ []) (herror : callError c = some e) :
    FullWrite c.offered [c] (some e)
  | next {c : WriteCall ε} {calls : List (WriteCall ε)} {e : Option (WriteError ε)} (hclean : c.Clean)
    (hrest : FullWrite c.rest calls e) : FullWrite c.offered (c :: calls) e

section Calls

variable {payload : Bytes} {calls : List (WriteCall ε)} {e : Option (WriteError ε)}

theorem FullWrite.handed (h : FullWrite payload calls e) : Handed payload calls := by
  induction h with
  | done => exact handed_nil []
  | stop hoffered herror => exact (handed_nil _).cons
  | next hclean hrest ih => exact ih.cons

/-- Every call but the last takes at least one byte off what is left. -/
theorem FullWrite.length_calls_le (h : FullWrite payload calls e) : calls.length ≤ payload.length := by
  induction h with
  | done => exact Nat.le_refl 0
  | stop hoffered herror => exact List.length_pos_iff.mpr hoffered
  | next hclean hrest ih =>
    rw [List.length_cons]
    exact Nat.lt_of_le_of_lt ih hclean.length_rest_lt

theorem FullWrite.accepted_eq (h : FullWrite payload calls none) :
    calls.flatMap WriteCall.accepted = payload := by
  generalize herror : (none : Option (WriteError ε)) = e at h
  induction h with
  | done => rfl
  | stop hoffered hfailed => cases herror
  | @next c calls e hclean hrest ih => rw [List.flatMap_cons, ih herror, c.accepted_append_rest]

/-- All calls but the last are clean, and the last one decides the error. -/
theorem FullWrite.clean_iff (h : FullWrite payload calls e) : (∀ c ∈ calls, c.Clean) ↔ e = none := by
  induction h with
  | done => simp
  | stop hoffered hfailed =>
    rw [List.forall_mem_singleton, ← callError_eq_none_iff, hfailed]
  | next hclean hrest ih => rw [List.forall_mem_cons, and_iff_right hclean, ih]

end Calls

section Loop

variable (w : ByteWriter σ ε) (s : σ)

theorem writeAll_nil : writeAll w s [] = ⟨none, [], s⟩ := by
  rw [writeAll, dif_pos rfl]

variable {w s} {payload : Bytes}

theorem writeAll_of_error {e : WriteError ε} (hpayload : payload ≠ [])
    (herror : callError (w.call s payload) = some e) :
    writeAll w s payload = ⟨some e, (w.call s payload).accepted, (w.write s payload).2⟩ := by
  rw [writeAll, dif_neg hpayload]
  unfold callError at herror
  by_cases hcount : (w.call s payload).count < 0 ∨
      (w.call s payload).count > (w.call s payload).offered.length
  · rw [if_pos hcount] at herror
    cases herror
    exact dif_pos hcount
  · rw [if_neg hcount] at herror
    refine (dif_neg hcount).trans ?_
    cases hwrite : (w.write s payload).1.2 with
    | some e' =>
      have hfailed : (w.call s payload).error = some e' := hwrite
      rw [hfailed] at herror
      cases herror
      rfl
    | none =>
      have hclean : (w.call s payload).error = none := hwrite
      rw [hclean] at herror
      by_cases hzero : (w.call s payload).count = 0
      · rw [if_pos hzero] at herror
        cases herror
        refine (dif_pos hzero).trans ?_
        rw [WriteCall.accepted, hzero]
        rfl
      · rw [if_neg hzero] at herror
        cases herror

/-- A clean round is followed by those for what it leaves. -/
theorem writeAll_of_clean (hclean : (w.call s payload).Clean) :
    writeAll w s payload =
      { writeAll w (w.write s payload).2 (w.call s payload).rest with
        accepted := (w.call s payload).accepted ++
          (writeAll w (w.write s payload).2 (w.call s payload).rest).accepted } := by
  obtain ⟨herror, hpos, hle⟩ := hclean
  have hpayload : payload ≠ [] := by
    rintro rfl
    exact absurd (hpos.trans_le hle) (lt_irrefl 0)
  have hcount : ¬ ((w.call s payload).count < 0 ∨ (w.call s payload).count > payload.length) :=
    not_or.mpr ⟨hpos.not_gt, hle.not_gt⟩
  have hwrite : (w.write s payload).1.2 = none := herror
  rw [writeAll, dif_neg hpayload]
  refine (dif_neg hcount).trans ?_
  rw [hwrite]
  exact dif_neg hpos.ne'

end Loop

/-- The loop makes the calls of a full write, and recording them changes nothing else. -/
theorem writeAll_recorded (w : ByteWriter σ ε) (s : σ) (payload : Bytes) (log : List (WriteCall ε)) :
    ∃ calls, FullWrite payload calls (writeAll w s payload).error ∧
      calls.flatMap WriteCall.accepted = (writeAll w s payload).accepted ∧
      writeAll w.recorded (s, log) payload =
        ⟨(writeAll w s payload).error, (writeAll w s payload).accepted,
          (writeAll w s payload).state, log ++ calls⟩ := by
  induction hn : payload.length using Nat.strong_induction_on generalizing s payload log with
  | _ n ih =>
    by_cases hpayload : payload = []
    · subst hpayload
      refine ⟨[], ?_, ?_, ?_⟩
      · rw [writeAll_nil]
        exact .done
      · rw [writeAll_nil]
        rfl
      · rw [writeAll_nil, writeAll_nil, List.append_nil]
    · -- the recording writer is asked and answers as the writer itself
      have hcall : w.recorded.call (s, log) payload = w.call s payload := rfl
      cases herror : callError (w.call s payload) with
      | some e =>
        refine ⟨[w.call s payload], ?_, ?_, ?_⟩
        · rw [writeAll_of_error hpayload herror]
          exact .stop hpayload herror
        · rw [writeAll_of_error hpayload herror, List.flatMap_singleton]
        · rw [writeAll_of_error hpayload herror, writeAll_of_error hpayload (hcall ▸ herror)]
          rfl
      | none =>
        have hclean := callError_eq_none_iff.mp herror
        have hshort : (w.call s payload).rest.length < n := hn ▸ hclean.length_rest_lt
        obtain ⟨calls, hcalls, haccepted, hrecorded⟩ :=
          ih _ hshort (w.write s payload).2 _ (log ++ [w.call s payload]) rfl
        refine ⟨w.call s payload :: calls, ?_, ?_, ?_⟩
        · rw [writeAll_of_clean hclean]
          exact .next hclean hcalls
        · rw [writeAll_of_clean hclean, List.flatMap_cons, haccepted]
        · rw [writeAll_of_clean hclean, writeAll_of_clean (hcall ▸ hclean)]
          have hnext : writeAll w.recorded (w.recorded.write (s, log) payload).2
              (w.recorded.call (s, log) payload).rest = _ := hrecorded
          rw [hnext, hcall, List.append_assoc, List.singleton_append]

theorem writeAll_accepted_front (w : ByteWriter σ ε) (s : σ) (payload : Bytes) :
    (writeAll w s payload).accepted <+: payload := by
  obtain ⟨calls, hcalls, haccepted, -⟩ := writeAll_recorded w s payload []
  rw [← haccepted]
  exact hcalls.handed.accepted_front

theorem writeAll_accepted_of_none {w : ByteWriter σ ε} {s : σ} {payload : Bytes}
    (h : (writeAll w s payload).error = none) : (writeAll w s payload).accepted = payload := by
  obtain ⟨calls, hcalls, haccepted, -⟩ := writeAll_recorded w s payload []
  rw [h] at hcalls
  rw [← haccepted, hcalls.accepted_eq]

/-- Whatever the writer returns, the loop ends, with no more calls than there are bytes, and without an
error exactly if every call is clean.  Each call is offered exactly what the calls before it have not
accepted; without an error all of the payload is accepted, and with one a first part of it. -/
theorem writeAll_exact (w : ByteWriter σ ε) (s : σ) (payload : Bytes) :
    ∃ calls, writeAll w.recorded (s, []) payload =
        ⟨(writeAll w s payload).error, (writeAll w s payload).accepted,
          (writeAll w s payload).state, calls⟩ ∧
      calls.length ≤ payload.length ∧
      calls.flatMap WriteCall.accepted = (writeAll w s payload).accepted ∧
      (∀ before c after, calls = before ++ c :: after →
        before.flatMap WriteCall.accepted ++ c.offered = payload) ∧
      ((writeAll w s payload).error = none ↔ ∀ c ∈ calls, c.Clean) ∧
      ((writeAll w s payload).error = none → (writeAll w s payload).accepted = payload) ∧
      ((writeAll w s payload).error ≠ none → (writeAll w s payload).accepted <+: payload) := by
  obtain ⟨calls, hcalls, haccepted, hrecorded⟩ := writeAll_recorded w s payload []
  refine ⟨calls, hrecorded, hcalls.length_calls_le, haccepted, hcalls.handed, hcalls.clean_iff.symm, ?_, ?_⟩
  · exact writeAll_accepted_of_none
  · exact fun _ => writeAll_accepted_front w s payload

/-- A writer that gives the listed answers, and then accepts nothing. -/
def scriptedWriter : ByteWriter (List (ℤ × Option ε)) ε where
  write
    | [], _ => ((0, none), [])
    | answer :: answers, _ => (answer, answers)

/-- Three bytes in two parts, and the same with an error beside the second count. -/
theorem writeAll_exact_scripted :
    (writeAll (@scriptedWriter Unit) [(1, none), (2, none)] [7, 8, 9]).accepted = [7, 8, 9] ∧
      (writeAll scriptedWriter [(1, none), (1, some ())] [7, 8, 9]).accepted = [7, 8] ∧
      (writeAll scriptedWriter [(1, none), (1, some ())] [7, 8, 9]).accepted <+: [7, 8, 9] := by
  have hdone : (writeAll (@scriptedWriter Unit) [(1, none), (2, none)] [7, 8, 9]).error = none := by
    simp [writeAll, scriptedWriter]
  have hfailed : (writeAll scriptedWriter [(1, none), (1, some ())] [7, 8, 9]).error ≠ none := by
    simp [writeAll, scriptedWriter]
  obtain ⟨-, -, -, -, -, -, hall, -⟩ :=
    writeAll_exact (@scriptedWriter Unit) [(1, none), (2, none)] [7, 8, 9]
  obtain ⟨-, -, -, -, -, -, -, hfront⟩ := writeAll_exact scriptedWriter [(1, none), (1, some ())] [7, 8, 9]
  refine ⟨hall hdone, ?_, hfront hfailed⟩
  simp [writeAll, scriptedWriter]

section Frames

variable {w : ByteWriter σ ε} {s : σ} {payloads : List Bytes}

theorem writeFrame_of_inspect {payload : Bytes} {packet : Packet}
    (h : inspectPacket payload = .ok packet) :
    writeFrame w s payload = writeAll w s (frameBytes payload) := by
  have hframe := encodeFrame_ok.mpr ⟨packet, h, rfl⟩
  rw [writeFrame, frameBytes, hframe]

/-- Any writer accepts a first part of the stream of frames. -/
theorem writeFrames_accepted_front (hps : ∀ p ∈ payloads, ∃ packet, inspectPacket p = .ok packet) :
    (writeFrames w s payloads).accepted <+: frameStream payloads := by
  induction payloads generalizing s with
  | nil => exact List.nil_prefix
  | cons p payloads ih =>
    obtain ⟨⟨packet, hp⟩, hps⟩ := List.forall_mem_cons.mp hps
    have hfirst : writeFrame w s p = writeAll w s (frameBytes p) := writeFrame_of_inspect hp
    rw [writeFrames, hfirst, frameStream, List.flatMap_cons]
    cases herror : (writeAll w s (frameBytes p)).error with
    | some e => exact (writeAll_accepted_front w s _).trans (List.prefix_append _ _)
    | none =>
      have hall := writeAll_accepted_of_none herror
      dsimp only
      rw [hall, List.prefix_append_right_inj]
      exact ih hps

/-- Whatever the writer does, a reader of what it accepted gets, in their order, exactly the packets
whose frames were accepted as a whole. -/
theorem readFrames_writeFrames (hps : ∀ p ∈ payloads, ∃ packet, inspectPacket p = .ok packet)
    {r : ByteReader} (hr : r.bytes = (writeFrames w s payloads).accepted) :
    ∃ k packets e, k ≤ payloads.length ∧
      frameStream (payloads.take k) <+: (writeFrames w s payloads).accepted ∧
      (k < payloads.length →
        ¬ frameStream (payloads.take (k + 1)) <+: (writeFrames w s payloads).accepted) ∧
      (payloads.take k).map inspectPacket = packets.map .ok ∧ readFrames r = (packets, e) :=
  readFrames_prefix hps (writeFrames_accepted_front hps) hr

end Frames

end FoloXray.PacketFlow
