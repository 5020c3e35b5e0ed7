import FoloXray.PacketBridge.Steps
import FoloXray.PacketFlow.Canonical

/-! # The loopback pump on a byte stream

`Echo` with the callback of `FoloXrayPacketBridgeStart`, run over what a socket delivers and
accepts: every packet is counted, written back and counted again until the first error.  The pump
echoes the longest beginning of its input that is a concatenation of frames, and each packet takes
it once around the loop of the interleaved model.
-/

namespace FoloXray.PacketBridge
open Foundation PacketFlow

inductive EchoResult (ε : Type*) where
  | canceled
  | read (e : FrameError)
  | write (e : WriteError ε)

/-- How the pump ended: the error of `Echo`, the bytes the socket accepted, the state of the
socket and `packetBridge`. -/
structure EchoOutcome (σ ε : Type*) where
  result : EchoResult ε
  written : Bytes
  socket : σ
  bridge : Bridge

section Loop

variable {σ ε : Type*} (w : ByteWriter σ ε) (cancelled : ℕ → Bool)

/-- `Echo` from its `k`-th turn on; `cancelled k` says whether that turn finds the context done. -/
def echo (k : ℕ) (b : Bridge) (s : σ) (r : ByteReader) : EchoOutcome σ ε :=
  if cancelled k then ⟨.canceled, [], s, b⟩
  else
    match _h : readFrame r with
    | (.error e, _) => ⟨.read e, [], s, b⟩
    | (.ok packet, r') =>
      let out := writeFrame w s packet.payload
      match out.error with
      | some e => ⟨.write e, out.accepted, out.state, b.countIn packet.payload.length⟩
      | none =>
        let rest := echo (k + 1)
          ((b.countIn packet.payload.length).countOut packet.payload.length) out.state r'
        { rest with written := out.accepted ++ rest.written }
termination_by r.bytes.length
decreasing_by exact readFrame_consumes _h

end Loop

/-- `packetBridge` after payloads of the given lengths went around the loop. -/
def Bridge.echoed (b : Bridge) (lengths : List ℕ) : Bridge :=
  lengths.foldl (fun b n => (b.countIn n).countOut n) b

theorem Bridge.echoed_cons (b : Bridge) (n : ℕ) (lengths : List ℕ) :
    b.echoed (n :: lengths) = ((b.countIn n).countOut n).echoed lengths := rfl

/-- The counters grow by the number of payloads and by their total length, modulo `2 ^ 64`. -/
theorem Bridge.echoed_counters (b : Bridge) (lengths : List ℕ) :
    (b.echoed lengths).framesIn = b.framesIn + .ofNat lengths.length ∧
      (b.echoed lengths).framesOut = b.framesOut + .ofNat lengths.length ∧
      (b.echoed lengths).bytesIn = b.bytesIn + .ofNat lengths.sum ∧
      (b.echoed lengths).bytesOut = b.bytesOut + .ofNat lengths.sum := by
  induction lengths generalizing b with
  | nil => simp [Bridge.echoed]
  | cons n lengths ih =>
    have hframe : (UInt64.ofNat (lengths.length + 1)) = 1 + .ofNat lengths.length := by
      rw [Nat.add_comm, UInt64.ofNat_add]
      rfl
    rw [Bridge.echoed_cons, List.length_cons, List.sum_cons, hframe, UInt64.ofNat_add]
    simp only [ih, Bridge.countIn, Bridge.countOut, UInt64.add_assoc, and_self]

section Pump

variable {σ ε : Type*} {w : ByteWriter σ ε} {cancelled : ℕ → Bool}

/-- Without a write error and without a cancellation the pump writes back every packet that can be
read, counts it in and out, and ends with the error of the reader. -/
theorem echo_eq (hw : w.Progresses) (hctx : ∀ k, cancelled k = false) (k : ℕ) (b : Bridge) (s : σ)
    (r : ByteReader) :
    (echo w cancelled k b s r).result = .read (readFrames r).2 ∧
      (echo w cancelled k b s r).written =
        ((readFrames r).1.map fun packet => frameBytes packet.payload).flatten ∧
      (echo w cancelled k b s r).bridge =
        b.echoed ((readFrames r).1.map fun packet => packet.payload.length) := by
  fun_induction echo w cancelled k b s r with
  | case1 k b s r hk => simp [hctx k] at hk
  | case2 k b s r hk e r' h => simp [readFrames_of_error h, Bridge.echoed]
  | case3 k b s r hk packet r' h out e herr =>
    have hread := readFrame_ok h
    have hwrite := writeFrame_progresses hw s (encodeFrame_ok.mpr ⟨packet, hread.1, rfl⟩)
    rw [hwrite.1] at herr
    cases herr
  | case4 k b s r hk packet r' h out herr rest ih =>
    have hread := readFrame_ok h
    have hwrite := writeFrame_progresses hw s (encodeFrame_ok.mpr ⟨packet, hread.1, rfl⟩)
    rw [readFrames_of_ok h]
    simp only [List.map_cons, List.flatten_cons, Bridge.echoed_cons]
    constructor
    · exact ih.1
    constructor
    · rw [frameBytes_of_inspect hread.1, ← ih.2.1, ← hwrite.2]
    · exact ih.2.2

/-- The steps of one turn of the loop for a payload of `n` bytes. -/
def turn (i n : ℕ) : List Action :=
  [.pumpSelect i, .pumpRead i (some n), .pumpCountIn i, .pumpWrite i true, .pumpCountOut i]

theorem run_turn {t : State} {i : ℕ} (hp : t.pump i = .select) (hcancelled : t.cancelled i = false)
    (hclosed : t.closed i = false) (n : ℕ) :
    run step t (turn i n) = some { t with bridge := (t.bridge.countIn n).countOut n } := by
  have hpump : Function.update t.pump i .select = t.pump := by
    rw [← hp, Function.update_eq_self]
  simp [turn, run, step, pumpSelect, pumpRead, pumpCountIn, pumpWrite, pumpCountOut, setPump, hp,
    hcancelled, hclosed, hpump]

/-- The turns of a pump that is neither cancelled nor closed only move the counters. -/
theorem run_turns {t : State} {i : ℕ} (hp : t.pump i = .select) (hcancelled : t.cancelled i = false)
    (hclosed : t.closed i = false) (lengths : List ℕ) :
    run step t (lengths.flatMap (turn i)) = some { t with bridge := t.bridge.echoed lengths } := by
  induction lengths generalizing t with
  | nil => simp [Bridge.echoed]
  | cons n lengths ih =>
    rw [List.flatMap_cons, run_append, run_turn hp hcancelled hclosed, Option.bind_some,
      ih (t := { t with bridge := (t.bridge.countIn n).countOut n }) hp hcancelled hclosed]
    rfl

/-- The pump on a stream is a schedule of the interleaved model: turn after turn, and then the read
that fails. -/
theorem echo_run (hw : w.Progresses) (hctx : ∀ k, cancelled k = false) (s : σ) (r : ByteReader)
    {t : State} {i : ℕ} (hp : t.pump i = .select) (hcancelled : t.cancelled i = false)
    (hclosed : t.closed i = false) :
    run step t (((readFrames r).1.map fun packet => packet.payload.length).flatMap (turn i) ++
        [.pumpSelect i, .pumpRead i none]) =
      some (setPump { t with bridge := (echo w cancelled 0 t.bridge s r).bridge } i
        (.closing .read)) := by
  rw [run_append, run_turns hp hcancelled hclosed, (echo_eq hw hctx 0 t.bridge s r).2.2]
  simp [run, step, pumpSelect, pumpRead, setPump, hp, hcancelled]

end Pump

end FoloXray.PacketBridge
