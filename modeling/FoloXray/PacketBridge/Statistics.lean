import FoloXray.PacketBridge.Echo
import FoloXray.PacketBridge.Sequence

/-! # Whose frames the counters count

The two critical sections of the callback are recorded with the pump that runs them.  When calls do
not overlap, the counters of `packetBridge` hold the record of the latest generation's pump and of no
other, and a pump of an older generation changes nothing any more.
-/

namespace FoloXray.PacketBridge
open Wrapper Foundation

/-- A critical section of the callback: pump `i` counts a payload of `n` bytes. -/
inductive Count where
  | frameIn (i n : ℕ)
  | frameOut (i n : ℕ)
  deriving DecidableEq, Repr

/-- The critical section of the callback that a step is, if it is one. -/
def counts (s : State) : Action → List Count
  | .pumpCountIn i =>
    match s.pump i with
    | .countIn n => [.frameIn i n]
    | _ => []
  | .pumpCountOut i =>
    match s.pump i with
    | .countOut n => [.frameOut i n]
    | _ => []
  | _ => []

def Count.lengthIn (i : ℕ) : Count → Option ℕ
  | .frameIn k n => if k = i then some n else none
  | .frameOut _ _ => none

def Count.lengthOut (i : ℕ) : Count → Option ℕ
  | .frameIn _ _ => none
  | .frameOut k n => if k = i then some n else none

/-- The payload lengths that pump `i` has counted in. -/
def lengthsIn (i : ℕ) (l : List Count) : List ℕ := l.filterMap (Count.lengthIn i)

/-- The payload lengths that pump `i` has counted out. -/
def lengthsOut (i : ℕ) (l : List Count) : List ℕ := l.filterMap (Count.lengthOut i)

/-- How far the frames counted out lag behind those counted in, by the phase of the pump. -/
def Paired (ins outs : List ℕ) : PumpPhase → Prop
  | .absent => ins = [] ∧ outs = []
  | .select | .reading | .countIn _ => ins = outs
  | .writing n | .countOut n => ins = outs ++ [n]
  | .closing _ | .sending _ | .clearing _ | .exited => ins = outs ∨ ∃ n, ins = outs ++ [n]

theorem Paired.lag {ins outs : List ℕ} {p : PumpPhase} (h : Paired ins outs p) :
    ins = outs ∨ ∃ n, ins = outs ++ [n] := by
  cases p with
  | absent => exact .inl (h.1.trans h.2.symm)
  | select | reading | countIn => exact .inl h
  | writing n | countOut n => exact .inr ⟨n, h⟩
  | closing | sending | clearing | exited => exact h

def PairedAt (pump : ℕ → PumpPhase) (l : List Count) : Prop :=
  ∀ i, Paired (lengthsIn i l) (lengthsOut i l) (pump i)

theorem PairedAt.move {pump : ℕ → PumpPhase} {l : List Count} {i : ℕ} {q p : PumpPhase}
    (h : PairedAt pump l) (hq : pump i = q)
    (hp : ∀ ins outs, Paired ins outs q → Paired ins outs p) :
    PairedAt (Function.update pump i p) l := by
  intro k
  by_cases hk : k = i
  · subst hk
    rw [Function.update_self]
    apply hp
    rw [← hq]
    exact h k
  · rw [Function.update_of_ne hk]
    exact h k

@[simp] theorem lengthsIn_append (i : ℕ) (l m : List Count) :
    lengthsIn i (l ++ m) = lengthsIn i l ++ lengthsIn i m := List.filterMap_append

@[simp] theorem lengthsOut_append (i : ℕ) (l m : List Count) :
    lengthsOut i (l ++ m) = lengthsOut i l ++ lengthsOut i m := List.filterMap_append

@[simp] theorem lengthsIn_frameIn (i n : ℕ) : lengthsIn i [.frameIn i n] = [n] := by
  simp [lengthsIn, Count.lengthIn]

@[simp] theorem lengthsIn_frameOut (i k n : ℕ) : lengthsIn i [.frameOut k n] = [] := rfl

@[simp] theorem lengthsOut_frameIn (i k n : ℕ) : lengthsOut i [.frameIn k n] = [] := rfl

@[simp] theorem lengthsOut_frameOut (i n : ℕ) : lengthsOut i [.frameOut i n] = [n] := by
  simp [lengthsOut, Count.lengthOut]

/-- Pump `i` records a critical section of its callback and moves on. -/
theorem PairedAt.count {pump : ℕ → PumpPhase} {l : List Count} {i : ℕ} {c : Count} {p : PumpPhase}
    (h : PairedAt pump l) (hc : ∀ k, k ≠ i → c.lengthIn k = none ∧ c.lengthOut k = none)
    (hp : Paired (lengthsIn i (l ++ [c])) (lengthsOut i (l ++ [c])) p) :
    PairedAt (Function.update pump i p) (l ++ [c]) := by
  intro k
  by_cases hk : k = i
  · subst hk
    rwa [Function.update_self]
  · rw [Function.update_of_ne hk]
    simpa [lengthsIn, lengthsOut, hc k hk] using h k

theorem PairedAt.step {s t : State} {a : Action} {l : List Count} (h : PairedAt s.pump l)
    (hw : Wired s) (hstep : step s a = some t) : PairedAt t.pump (l ++ counts s a) := by
  cases a with
  | startOpen i accepted =>
    rcases startOpen_some hstep with ⟨-, rfl⟩
    simpa [counts] using h
  | startLocked i =>
    rcases startLocked_some hstep with ⟨-, rfl⟩ | ⟨-, rfl⟩ | ⟨-, -, rfl⟩ <;> simpa [counts] using h
  | startTail i =>
    rcases startTail_some hstep with ⟨-, rfl⟩ | ⟨hi, rfl⟩
    · simpa [counts] using h
    · have habsent := hw.spawning i hi
      simpa [counts] using h.move (p := .select) habsent fun _ _ h => h.1.trans h.2.symm
  | stopLocked j =>
    rcases stopLocked_some hstep with ⟨-, -, rfl⟩ | ⟨i, c, -, -, -, rfl⟩ <;> simpa [counts] using h
  | stopClose j =>
    rcases stopClose_some hstep with ⟨i, d, -, rfl⟩
    simpa [counts] using h
  | stopReceive j =>
    rcases stopReceive_some hstep with ⟨i, d, -, -, rfl⟩
    simpa [counts] using h
  | stopClear j =>
    rcases stopClear_some hstep with ⟨i, -, rfl⟩
    simpa [counts] using h
  | pumpSelect i =>
    rcases pumpSelect_phase hstep with ⟨hp, rfl | rfl⟩
    · simpa [counts] using h.move (p := .closing .canceled) hp fun _ _ => .inl
    · simpa [counts] using h.move (p := .reading) hp fun _ _ h => h
  | pumpRead i packet =>
    rcases pumpRead_phase hstep with ⟨hp, ⟨n, rfl⟩ | rfl⟩
    · simpa [counts] using h.move (p := .countIn n) hp fun _ _ h => h
    · simpa [counts] using h.move (p := .closing .read) hp fun _ _ => .inl
  | pumpCountIn i =>
    rcases pumpCountIn_phase hstep with ⟨n, hp, rfl⟩
    have hi := h i
    rw [hp] at hi
    simp only [counts, hp, setPump_pump]
    apply h.count
    · intro k hk
      simp [Count.lengthIn, Count.lengthOut, hk.symm]
    · rw [lengthsIn_append, lengthsOut_append, hi]
      simp [Paired]
  | pumpWrite i written =>
    rcases pumpWrite_phase hstep with ⟨n, hp, rfl | rfl⟩
    · simpa [counts] using h.move (p := .countOut n) hp fun _ _ h => h
    · simpa [counts] using h.move (p := .closing .write) hp fun _ _ h => .inr ⟨n, h⟩
  | pumpCountOut i =>
    rcases pumpCountOut_phase hstep with ⟨n, hp, rfl⟩
    have hi := h i
    rw [hp] at hi
    simp only [counts, hp, setPump_pump]
    apply h.count
    · intro k hk
      simp [Count.lengthIn, Count.lengthOut, hk.symm]
    · rw [lengthsIn_append, lengthsOut_append, hi]
      simp [Paired]
  | pumpClose i =>
    rcases pumpClose_some hstep with ⟨err, hp, rfl⟩
    simpa [counts] using h.move (p := .sending err) hp fun _ _ h => h
  | pumpSend i =>
    rcases pumpSend_some hstep with ⟨err, hp, -, rfl⟩
    simpa [counts] using h.move (p := .clearing err) hp fun _ _ h => h
  | pumpClear i =>
    rcases pumpClear_some hstep with ⟨err, hp, ⟨-, rfl⟩ | ⟨-, rfl⟩⟩
    · simpa [counts] using h.move (p := .exited) hp fun _ _ h => h
    · simpa [counts] using h.move (p := .exited) hp fun _ _ h => h

def Latest (s : State) (i : ℕ) : Prop := Issued s i ∧ s.generation i = s.bridge.generation

/-- The four counters hold the recorded frames, as `uint64` values. -/
structure Counted (b : Bridge) (ins outs : List ℕ) : Prop where
  framesIn : b.framesIn = .ofNat ins.length
  framesOut : b.framesOut = .ofNat outs.length
  bytesIn : b.bytesIn = .ofNat ins.sum
  bytesOut : b.bytesOut = .ofNat outs.sum

theorem Counted.countIn {b : Bridge} {ins outs : List ℕ} (h : Counted b ins outs) (n : ℕ) :
    Counted (b.countIn n) (ins ++ [n]) outs where
  framesIn := by simp [Bridge.countIn, h.framesIn, UInt64.ofNat_add]
  framesOut := h.framesOut
  bytesIn := by simp [Bridge.countIn, h.bytesIn, UInt64.ofNat_add]
  bytesOut := h.bytesOut

theorem Counted.countOut {b : Bridge} {ins outs : List ℕ} (h : Counted b ins outs) (n : ℕ) :
    Counted (b.countOut n) ins (outs ++ [n]) where
  framesIn := h.framesIn
  framesOut := by simp [Bridge.countOut, h.framesOut, UInt64.ofNat_add]
  bytesIn := h.bytesIn
  bytesOut := by simp [Bridge.countOut, h.bytesOut, UInt64.ofNat_add]

structure SameCounters (b c : Bridge) : Prop where
  framesIn : c.framesIn = b.framesIn
  framesOut : c.framesOut = b.framesOut
  bytesIn : c.bytesIn = b.bytesIn
  bytesOut : c.bytesOut = b.bytesOut

theorem Counted.congr {b c : Bridge} {ins outs : List ℕ} (h : Counted b ins outs)
    (hc : SameCounters b c) : Counted c ins outs where
  framesIn := hc.framesIn.trans h.framesIn
  framesOut := hc.framesOut.trans h.framesOut
  bytesIn := hc.bytesIn.trans h.bytesIn
  bytesOut := hc.bytesOut.trans h.bytesOut

/-- The counters hold the record of the latest pump, or nothing before the first Start. -/
structure Tallied (s : State) (l : List Count) : Prop where
  sequenced : Sequenced s
  paired : PairedAt s.pump l
  counted : (∃ i, Latest s i ∧ Counted s.bridge (lengthsIn i l) (lengthsOut i l)) ∨
    (∀ i, ¬ Issued s i) ∧ Counted s.bridge [] []

theorem tallied_initial : Tallied initial [] where
  sequenced := sequenced_initial
  paired := fun _ => ⟨rfl, rfl⟩
  counted := .inr ⟨by simp [initial, Issued], ⟨rfl, rfl, rfl, rfl⟩⟩

theorem Sequenced.latest_of_echo {s : State} (hs : Sequenced s) {i : ℕ}
    (hi : inEcho (s.pump i) = true) : Latest s i := by
  rcases hs.wired.registered i (hs.current i (.inr hi)) with ⟨hr, hissued⟩
  exact ⟨hissued, hr.generation.symm⟩

theorem Latest.unique {s : State} (hd : Distinct s) {i k : ℕ} (hi : Latest s i) (hk : Latest s k) :
    i = k :=
  hd i k hi.1 hk.1 (hi.2.trans hk.2.symm)

/-- A step that neither counts nor registers keeps what the counters hold. -/
theorem Tallied.keep {s t : State} {l m : List Count} (h : Tallied s l) (hm : m = [])
    (hseq : Sequenced t) (hpaired : PairedAt t.pump (l ++ m)) (hsame : SameIssues s t)
    (hcounters : SameCounters s.bridge t.bridge) : Tallied t (l ++ m) where
  sequenced := hseq
  paired := hpaired
  counted := by
    rw [hm, List.append_nil]
    rcases h.counted with ⟨i, hi, hcount⟩ | ⟨hnone, hcount⟩
    · left
      refine ⟨i, ?_, hcount.congr hcounters⟩
      rw [Latest, hsame.issued, hsame.generation, hsame.bridge]
      exact hi
    · right
      exact ⟨fun i hi => hnone i ((hsame.issued i).mp hi), hcount.congr hcounters⟩

/-- The pump that counts is the one whose record the counters hold. -/
theorem Tallied.counted_echo {s : State} {l : List Count} (h : Tallied s l) (hd : Distinct s) {i : ℕ}
    (hi : inEcho (s.pump i) = true) :
    Latest s i ∧ Counted s.bridge (lengthsIn i l) (lengthsOut i l) := by
  have hlatest := h.sequenced.latest_of_echo hi
  rcases h.counted with ⟨k, hk, hcount⟩ | ⟨hnone, -⟩
  · have hik := hlatest.unique hd hk
    subst hik
    exact ⟨hlatest, hcount⟩
  · exact absurd hlatest.1 (hnone i)

/-- A new bridge starts with counters at zero and a pump without a record. -/
theorem Tallied.register {s : State} {l : List Count} {i : ℕ} (h : Tallied s l)
    (hi : s.start i = .locking)
    (hseq : Sequenced { s with
      bridge := s.bridge.register i
      generation := Function.update s.generation i (s.bridge.generation + 1)
      start := Function.update s.start i .spawning }) :
    Tallied { s with
      bridge := s.bridge.register i
      generation := Function.update s.generation i (s.bridge.generation + 1)
      start := Function.update s.start i .spawning } l where
  sequenced := hseq
  paired := h.paired
  counted := by
    have habsent : s.pump i = .absent := by
      by_contra hne
      have hok := (h.sequenced.wired.spawned i).mp hne
      rw [hi] at hok
      cases hok
    have hrecord := h.paired i
    rw [habsent] at hrecord
    left
    refine ⟨i, ⟨.inl (by simp), by simp [Bridge.register]⟩, ?_⟩
    rw [hrecord.1, hrecord.2]
    exact ⟨rfl, rfl, rfl, rfl⟩

/-- Every step of a run whose calls do not overlap keeps the counters on the latest record. -/
theorem Tallied.step {s t : State} {a : Action} {l : List Count} (h : Tallied s l) (hd : Distinct s)
    (hseq : Sequential s a) (hstep : step s a = some t) : Tallied t (l ++ counts s a) := by
  have hs : Sequenced t := h.sequenced.step hd hseq hstep
  have hp : PairedAt t.pump (l ++ counts s a) := h.paired.step h.sequenced.wired hstep
  have hkeep (hnone : registers s a = []) (hcount : counts s a = [])
      (hcounters : SameCounters s.bridge t.bridge) : Tallied t (l ++ counts s a) :=
    h.keep hcount hs hp (sameIssues_of_step hstep hnone) hcounters
  cases a with
  | startOpen i accepted =>
    rcases startOpen_some hstep with ⟨-, rfl⟩
    exact hkeep rfl rfl ⟨rfl, rfl, rfl, rfl⟩
  | startLocked i =>
    rcases startLocked_some hstep with ⟨-, rfl⟩ | ⟨-, rfl⟩ | ⟨hi, -, rfl⟩
    · exact hkeep (by simp [registers, show startLocked s i = _ from hstep]) rfl ⟨rfl, rfl, rfl, rfl⟩
    · exact hkeep (by simp [registers, show startLocked s i = _ from hstep]) rfl ⟨rfl, rfl, rfl, rfl⟩
    · simpa [counts] using h.register hi hs
  | startTail i =>
    rcases startTail_some hstep with ⟨-, rfl⟩ | ⟨-, rfl⟩
    · exact hkeep rfl rfl ⟨rfl, rfl, rfl, rfl⟩
    · exact hkeep rfl rfl ⟨rfl, rfl, rfl, rfl⟩
  | stopLocked j =>
    rcases stopLocked_some hstep with ⟨-, -, rfl⟩ | ⟨i, c, -, -, -, rfl⟩
    · exact hkeep rfl rfl ⟨rfl, rfl, rfl, rfl⟩
    · exact hkeep rfl rfl ⟨rfl, rfl, rfl, rfl⟩
  | stopClose j =>
    rcases stopClose_some hstep with ⟨i, d, -, rfl⟩
    exact hkeep rfl rfl ⟨rfl, rfl, rfl, rfl⟩
  | stopReceive j =>
    rcases stopReceive_some hstep with ⟨i, d, -, -, rfl⟩
    exact hkeep rfl rfl ⟨rfl, rfl, rfl, rfl⟩
  | stopClear j =>
    rcases stopClear_some hstep with ⟨i, -, rfl⟩
    exact hkeep rfl rfl ⟨rfl, rfl, rfl, rfl⟩
  | pumpSelect i =>
    apply hkeep rfl rfl
    rcases pumpSelect_phase hstep with ⟨-, rfl | rfl⟩ <;> exact ⟨rfl, rfl, rfl, rfl⟩
  | pumpRead i packet =>
    apply hkeep rfl rfl
    rcases pumpRead_phase hstep with ⟨-, ⟨n, rfl⟩ | rfl⟩ <;> exact ⟨rfl, rfl, rfl, rfl⟩
  | pumpCountIn i =>
    rcases pumpCountIn_phase hstep with ⟨n, hi, rfl⟩
    rcases h.counted_echo hd (i := i) (by rw [hi]; rfl) with ⟨hlatest, hcount⟩
    refine ⟨hs, hp, .inl ⟨i, hlatest, ?_⟩⟩
    simpa [counts, hi] using hcount.countIn n
  | pumpWrite i written =>
    apply hkeep rfl rfl
    rcases pumpWrite_phase hstep with ⟨n, -, rfl | rfl⟩ <;> exact ⟨rfl, rfl, rfl, rfl⟩
  | pumpCountOut i =>
    rcases pumpCountOut_phase hstep with ⟨n, hi, rfl⟩
    rcases h.counted_echo hd (i := i) (by rw [hi]; rfl) with ⟨hlatest, hcount⟩
    refine ⟨hs, hp, .inl ⟨i, hlatest, ?_⟩⟩
    simpa [counts, hi] using hcount.countOut n
  | pumpClose i =>
    rcases pumpClose_some hstep with ⟨err, -, rfl⟩
    exact hkeep rfl rfl ⟨rfl, rfl, rfl, rfl⟩
  | pumpSend i =>
    rcases pumpSend_some hstep with ⟨err, -, -, rfl⟩
    exact hkeep rfl rfl ⟨rfl, rfl, rfl, rfl⟩
  | pumpClear i =>
    rcases pumpClear_some hstep with ⟨err, -, ⟨-, rfl⟩ | ⟨-, rfl⟩⟩
    · exact hkeep rfl rfl ⟨rfl, rfl, rfl, rfl⟩
    · exact hkeep rfl rfl ⟨rfl, rfl, rfl, rfl⟩

/-- What the pumps have counted along a run from the initial state. -/
def record (as : List Action) : List Count := emits step counts initial as

theorem tallied_of_run {as : List Action} {s : State} (hrun : run step initial as = some s)
    (hfew : (registrations as).length < 2 ^ 64) (hseq : Meets step Sequential initial as) :
    Tallied s (record as) := by
  have h := emits_invariant_of_meets (f := counts)
    (fun _ _ _ _ h hC hstep => Tallied.step h hC.1 hC.2 hstep) tallied_initial
    ((meets_distinct hfew).and hseq) hrun
  simpa [record] using h

def pumpOf : Action → Option ℕ
  | .pumpSelect i | .pumpRead i _ | .pumpCountIn i | .pumpWrite i _ | .pumpCountOut i
  | .pumpClose i | .pumpSend i | .pumpClear i => some i
  | _ => none

/-- A pump that is not the latest one changes nothing of `packetBridge`. -/
theorem stale_pump_inert {s t : State} {a : Action} {i : ℕ} (hs : Sequenced s)
    (ha : pumpOf a = some i) (hold : s.generation i < s.bridge.generation)
    (hstep : step s a = some t) : t.bridge = s.bridge := by
  have hstale : ¬ Latest s i := fun h => UInt64.ne_of_lt hold h.2
  have hecho {k : ℕ} (hk : k = i) (h : EchoStep s t k) : t.bridge = s.bridge := by
    subst hk
    exact absurd (hs.latest_of_echo h.active) hstale
  cases a with
  | pumpSelect k => exact hecho (Option.some.inj ha) (pumpSelect_some hstep)
  | pumpRead k packet => exact hecho (Option.some.inj ha) (pumpRead_some hstep)
  | pumpCountIn k => exact hecho (Option.some.inj ha) (pumpCountIn_some hstep)
  | pumpWrite k written => exact hecho (Option.some.inj ha) (pumpWrite_some hstep)
  | pumpCountOut k => exact hecho (Option.some.inj ha) (pumpCountOut_some hstep)
  | pumpClose k =>
    rcases pumpClose_some hstep with ⟨err, -, rfl⟩
    rfl
  | pumpSend k =>
    rcases pumpSend_some hstep with ⟨err, -, -, rfl⟩
    rfl
  | pumpClear k =>
    rcases Option.some.inj ha with rfl
    rcases pumpClear_some hstep with ⟨err, hp, ⟨-, rfl⟩ | ⟨hgen, rfl⟩⟩
    · rfl
    · exact absurd hgen.symm (UInt64.ne_of_lt hold)
  | _ => cases ha

def terminated : ErrorSlot := (setErrorLocked .internalError "packet bridge terminated").1

theorem clear_ne_terminated : clearErrorLocked ≠ terminated := by decide

theorem rejected_ne_terminated :
    (setErrorLocked .invalidArgument "packet socket rejected").1 ≠ terminated := by decide

/-- Only the exit section of the latest pump, when nobody cancelled it, records the termination. -/
theorem terminated_recorded {s t : State} {a : Action} (hw : Wired s)
    (hstep : step s a = some t) :
    t.bridge.error = s.bridge.error ∨ t.bridge.error ≠ terminated ∨
      ∃ i, a = .pumpClear i ∧ Latest s i ∧ s.cancelled i = false := by
  cases a with
  | startOpen i accepted =>
    rcases startOpen_some hstep with ⟨-, rfl⟩
    exact .inl rfl
  | startLocked i =>
    rcases startLocked_some hstep with ⟨-, rfl⟩ | ⟨-, rfl⟩ | ⟨-, -, rfl⟩
    · exact .inr (.inl rejected_ne_terminated)
    · exact .inl rfl
    · exact .inr (.inl clear_ne_terminated)
  | startTail i =>
    rcases startTail_some hstep with ⟨-, rfl⟩ | ⟨-, rfl⟩
    · exact .inl rfl
    · exact .inl rfl
  | stopLocked j =>
    rcases stopLocked_some hstep with ⟨-, -, rfl⟩ | ⟨i, c, -, -, -, rfl⟩
    · exact .inr (.inl clear_ne_terminated)
    · exact .inl rfl
  | stopClose j =>
    rcases stopClose_some hstep with ⟨i, d, -, rfl⟩
    exact .inl rfl
  | stopReceive j =>
    rcases stopReceive_some hstep with ⟨i, d, -, -, rfl⟩
    exact .inl rfl
  | stopClear j =>
    rcases stopClear_some hstep with ⟨i, -, rfl⟩
    exact .inr (.inl clear_ne_terminated)
  | pumpSelect i => exact .inl (pumpSelect_some hstep).error
  | pumpRead i packet => exact .inl (pumpRead_some hstep).error
  | pumpCountIn i => exact .inl (pumpCountIn_some hstep).error
  | pumpWrite i written => exact .inl (pumpWrite_some hstep).error
  | pumpCountOut i => exact .inl (pumpCountOut_some hstep).error
  | pumpClose i =>
    rcases pumpClose_some hstep with ⟨err, -, rfl⟩
    exact .inl rfl
  | pumpSend i =>
    rcases pumpSend_some hstep with ⟨err, -, -, rfl⟩
    exact .inl rfl
  | pumpClear i =>
    rcases pumpClear_some hstep with ⟨err, hp, ⟨-, rfl⟩ | ⟨hgen, rfl⟩⟩
    · exact .inl rfl
    · cases hcancelled : s.cancelled i with
      | true => exact .inl (by simp)
      | false =>
        have hok : s.start i = .returned .ok := (hw.spawned i).mp (by simp [hp])
        exact .inr (.inr ⟨i, rfl, ⟨.inr hok, hgen.symm⟩, hcancelled⟩)

theorem Counted.frames {b : Bridge} {ins outs : List ℕ} (h : Counted b ins outs)
    (hlag : ins = outs ∨ ∃ n, ins = outs ++ [n]) :
    b.framesIn = b.framesOut ∨ b.framesIn = b.framesOut + 1 := by
  rw [h.framesIn, h.framesOut]
  rcases hlag with rfl | ⟨n, rfl⟩
  · exact .inl rfl
  · right
    simp [UInt64.ofNat_add]

/-- Without a wrap the bytes counted out are at most those counted in. -/
theorem Counted.bytes {b : Bridge} {ins outs : List ℕ} (h : Counted b ins outs)
    (hlag : ins = outs ∨ ∃ n, ins = outs ++ [n]) (hsmall : ins.sum < 2 ^ 64) :
    b.bytesOut ≤ b.bytesIn := by
  have hle : outs.sum ≤ ins.sum := by
    rcases hlag with rfl | ⟨n, rfl⟩
    · exact le_rfl
    · simp
  rw [h.bytesIn, h.bytesOut, UInt64.le_iff_toNat_le, UInt64.toNat_ofNat', UInt64.toNat_ofNat',
    Nat.mod_eq_of_lt hsmall, Nat.mod_eq_of_lt (by omega)]
  exact hle

/-- The statistics belong to the current bridge.  In every state that a run without overlapping calls
and with fewer than `2 ^ 64` bridges reaches, the counters hold, as `uint64` values, exactly the frames
that the pump of the latest generation has counted; at most one of these is counted in and not out; the
bytes counted out are at most the bytes counted in until the latter pass `2 ^ 64`; the pump of an older
generation no longer changes `packetBridge`; and only the latest pump records a termination, when nobody
cancelled it. -/
theorem statistics_of_latest {as : List Action} {s : State} (hrun : run step initial as = some s)
    (hfew : (registrations as).length < 2 ^ 64) (hseq : Meets step Sequential initial as) :
    (∀ i, Latest s i →
      Counted s.bridge (lengthsIn i (record as)) (lengthsOut i (record as)) ∧
        ((lengthsIn i (record as)).sum < 2 ^ 64 → s.bridge.bytesOut ≤ s.bridge.bytesIn)) ∧
    ((∀ i, ¬ Issued s i) → Counted s.bridge [] []) ∧
    (s.bridge.framesIn = s.bridge.framesOut ∨ s.bridge.framesIn = s.bridge.framesOut + 1) ∧
    (∀ a t i, pumpOf a = some i → s.generation i < s.bridge.generation → step s a = some t →
      t.bridge = s.bridge) ∧
    (∀ a t, step s a = some t → t.bridge.error = s.bridge.error ∨ t.bridge.error ≠ terminated ∨
      ∃ i, a = .pumpClear i ∧ Latest s i ∧ s.cancelled i = false) := by
  have h := tallied_of_run hrun hfew hseq
  have hcounted : ∀ i, Latest s i →
      Counted s.bridge (lengthsIn i (record as)) (lengthsOut i (record as)) := by
    intro i hi
    rcases h.counted with ⟨k, hk, hcount⟩ | ⟨hnone, -⟩
    · rw [hi.unique (distinct_of_run hrun hfew) hk]
      exact hcount
    · exact absurd hi.1 (hnone i)
  constructor
  · exact fun i hi => ⟨hcounted i hi, (hcounted i hi).bytes (h.paired i).lag⟩
  constructor
  · intro hnone
    rcases h.counted with ⟨k, hk, -⟩ | ⟨-, hcount⟩
    · exact absurd hk.1 (hnone k)
    · exact hcount
  constructor
  · rcases h.counted with ⟨k, -, hcount⟩ | ⟨-, hcount⟩
    · exact hcount.frames (h.paired k).lag
    · exact hcount.frames (.inl rfl)
  constructor
  · exact fun a t i ha hold hstep => stale_pump_inert h.sequenced ha hold hstep
  · exact fun a t hstep => terminated_recorded h.sequenced.wired hstep

/-- A bridge is stopped while it writes a frame back, and a second one is started and counts before
the pump of the first has run its exit section. -/
def restartRun : List Action :=
  [.startOpen 0 true, .startLocked 0, .startTail 0, .pumpSelect 0, .pumpRead 0 (some 20),
    .pumpCountIn 0, .stopLocked 0, .stopClose 0, .pumpWrite 0 false, .pumpClose 0, .pumpSend 0,
    .stopReceive 0, .stopClear 0, .startOpen 1 true, .startLocked 1, .startTail 1, .pumpSelect 1,
    .pumpRead 1 (some 40), .pumpCountIn 1, .pumpClear 0]

theorem sequential_restartRun : Meets step Sequential initial restartRun := by
  refine meets_cons ?_ rfl ?_
  · rintro (k | k) <;> rfl
  -- up to the Stop call: Start 0 has returned, and no other call has begun
  iterate 5 refine meets_cons trivial rfl ?_
  refine meets_cons ?_ rfl ?_
  · rintro (k | k) <;> cases k <;> rfl
  -- up to the second Start call: Stop 0 has returned as well
  iterate 6 refine meets_cons trivial rfl ?_
  refine meets_cons ?_ rfl ?_
  · rintro (k | k) <;> cases k <;> rfl
  iterate 6 refine meets_cons trivial rfl ?_
  trivial

theorem statistics_of_latest_restart :
    Counted ((run step initial restartRun).get (by decide)).bridge
      (lengthsIn 1 (record restartRun)) (lengthsOut 1 (record restartRun)) := by
  have hrun : run step initial restartRun = some ((run step initial restartRun).get (by decide)) :=
    (Option.some_get (by decide)).symm
  exact ((statistics_of_latest hrun (by decide) sequential_restartRun).1 1 ⟨.inr (by decide), by decide⟩).1

def startRun : List Action := [.startOpen 0 true, .startLocked 0, .startTail 0]

def startedState : State := (run step initial startRun).get (by decide)

def countingRun (lengths : List ℕ) (n : ℕ) : List Action :=
  startRun ++ (lengths.flatMap (turn 0) ++ [.pumpSelect 0, .pumpRead 0 (some n), .pumpCountIn 0])

theorem run_countingRun (lengths : List ℕ) (n : ℕ) :
    ∃ s, run step initial (countingRun lengths n) = some s ∧ Latest s 0 ∧
      s.bridge = ((initialBridge.register 0).echoed lengths).countIn n := by
  have hstart : run step initial startRun = some startedState := (Option.some_get (by decide)).symm
  have hp : startedState.pump 0 = .select := rfl
  have hcancelled : startedState.cancelled 0 = false := rfl
  have hclosed : startedState.closed 0 = false := rfl
  have hgeneration (lengths : List ℕ) (b : Bridge) :
      (b.echoed lengths).generation = b.generation := by
    induction lengths generalizing b with
    | nil => rfl
    | cons m lengths ih => rw [Bridge.echoed_cons, ih, Bridge.countOut, Bridge.countIn]
  refine ⟨{ setPump startedState 0 (.writing n) with
    bridge := (startedState.bridge.echoed lengths).countIn n }, ?_, ⟨.inr rfl, ?_⟩, rfl⟩
  · rw [countingRun, run_append, hstart, Option.bind_some, run_append,
      run_turns hp hcancelled hclosed, Option.bind_some]
    simp [run, step, pumpSelect, pumpRead, pumpCountIn, setPump, hp, hcancelled, hclosed]
  · simp only [Bridge.countIn, hgeneration]
    rfl

theorem sequential_countingRun (lengths : List ℕ) (n : ℕ) :
    Meets step Sequential initial (countingRun lengths n) := by
  constructor
  · intro c
    cases c <;> rfl
  · intro t _
    apply meets_of_forall
    intro a ha s
    simp only [List.append_eq, List.nil_append, List.cons_append, List.mem_cons, List.mem_append,
      List.mem_flatMap, turn, List.not_mem_nil, or_false] at ha
    rcases ha with rfl | rfl | ⟨m, -, rfl | rfl | rfl | rfl | rfl⟩ | rfl | rfl | rfl <;> trivial

theorem exists_counting (k n : ℕ) :
    ∃ as s, run step initial as = some s ∧ Meets step Sequential initial as ∧
      s.bridge.bytesOut = .ofNat (k * n) ∧ s.bridge.bytesIn = .ofNat (k * n) + .ofNat n := by
  rcases run_countingRun (List.replicate k n) n with ⟨s, hrun, -, hbridge⟩
  have hcount := Bridge.echoed_counters (initialBridge.register 0) (List.replicate k n)
  have hzero : (initialBridge.register 0).bytesIn = 0 ∧ (initialBridge.register 0).bytesOut = 0 :=
    ⟨rfl, rfl⟩
  refine ⟨_, s, hrun, sequential_countingRun _ _, ?_, ?_⟩
  · rw [hbridge, Bridge.countIn, hcount.2.2.2, hzero.2]
    simp
  · rw [hbridge, Bridge.countIn, hcount.2.2.1, hzero.1]
    simp

/-- The byte counters do not always keep their order: a bridge that has counted `2 ^ 64 - 1` bytes in
and out wraps on the next frame it counts in. -/
theorem bytes_out_exceeds_bytes_in :
    ¬ ∀ as s, run step initial as = some s → Meets step Sequential initial as →
      s.bridge.bytesOut ≤ s.bridge.bytesIn := by
  intro h
  rcases exists_counting 281479271743489 65535 with ⟨as, s, hrun, hseq, hout, hin⟩
  have hle := h as s hrun hseq
  rw [hout, hin] at hle
  exact absurd hle (by decide)

end FoloXray.PacketBridge
