import FoloXray.PacketBridge.Model
import Mathlib.Tactic

/-! # What each bridge step can do

One inversion lemma per step function: the guard under which the step fires and the exact
state it leaves. Every invariant of the bridge is derived from these alone.
-/

namespace FoloXray.PacketBridge
open Wrapper

variable {s t : State} {i j : ℕ}

@[simp] theorem setPump_pump (s : State) (i : ℕ) (p : PumpPhase) :
    (setPump s i p).pump = Function.update s.pump i p := rfl

@[simp] theorem setPump_bridge (s : State) (i : ℕ) (p : PumpPhase) :
    (setPump s i p).bridge = s.bridge := rfl

theorem startOpen_some {accepted : Bool} (h : startOpen s i accepted = some t) :
    s.start i = .ready ∧ t = { s with
      start := Function.update s.start i (if accepted then .locking else .failing) } := by
  unfold startOpen at h
  split at h
  · exact ⟨‹_›, (Option.some.inj h).symm⟩
  · cases h

theorem startLocked_some (h : startLocked s i = some t) :
    (s.start i = .failing ∧ t = { s with
      bridge := { s.bridge with
        error := (setErrorLocked .invalidArgument "packet socket rejected").1 }
      start := Function.update s.start i (.returned .invalidArgument) }) ∨
    (s.start i = .locking ∧ t = { s with start := Function.update s.start i .rejecting }) ∨
    (s.start i = .locking ∧ s.bridge.socket = none ∧ t = { s with
      bridge := s.bridge.register i
      generation := Function.update s.generation i (s.bridge.generation + 1)
      start := Function.update s.start i .spawning }) := by
  unfold startLocked at h
  split at h
  · exact .inl ⟨‹_›, (Option.some.inj h).symm⟩
  · split at h
    · exact .inr (.inl ⟨‹_›, (Option.some.inj h).symm⟩)
    · rename_i hbusy
      have hnone : s.bridge.socket = none := by
        simpa using fun hs => hbusy (.inl hs)
      exact .inr (.inr ⟨‹_›, hnone, (Option.some.inj h).symm⟩)
  · cases h

theorem startTail_some (h : startTail s i = some t) :
    (s.start i = .rejecting ∧ t = { s with
      closed := Function.update s.closed i true
      start := Function.update s.start i (.returned .invalidState) }) ∨
    (s.start i = .spawning ∧ t = { s with
      pump := Function.update s.pump i .select
      start := Function.update s.start i (.returned .ok) }) := by
  unfold startTail at h
  split at h
  · exact .inl ⟨‹_›, (Option.some.inj h).symm⟩
  · exact .inr ⟨‹_›, (Option.some.inj h).symm⟩
  · cases h

theorem stopLocked_some (h : stopLocked s j = some t) :
    (s.stop j = .ready ∧ s.bridge.socket = none ∧ t = { s with
      bridge := { s.bridge with state := .idle, error := clearErrorLocked }
      stop := Function.update s.stop j (.returned .ok) }) ∨
    (∃ i c, s.stop j = .ready ∧ s.bridge.socket = some i ∧ s.bridge.cancel = some c ∧
      t = { s with
        cancelled := Function.update s.cancelled c true
        stop := Function.update s.stop j (.closing i s.bridge.done) }) := by
  unfold stopLocked at h
  split at h
  · split at h
    · exact .inl ⟨‹_›, ‹_›, (Option.some.inj h).symm⟩
    · split at h
      · cases h
      · exact .inr ⟨_, _, ‹_›, ‹_›, ‹_›, (Option.some.inj h).symm⟩
  · cases h

theorem stopClose_some (h : stopClose s j = some t) :
    ∃ i done, s.stop j = .closing i done ∧ t = { s with
      closed := Function.update s.closed i true
      stop := Function.update s.stop j
        (match done with
          | some d => .receiving i d
          | none => .clearing i) } := by
  unfold stopClose at h
  split at h
  · exact ⟨_, _, ‹_›, (Option.some.inj h).symm⟩
  · cases h

theorem stopReceive_some (h : stopReceive s j = some t) :
    ∃ i d, s.stop j = .receiving i d ∧ s.channel d ≠ none ∧ t = { s with
      channel := Function.update s.channel d none
      stop := Function.update s.stop j (.clearing i) } := by
  unfold stopReceive at h
  split at h
  · split at h
    · cases h
    · rename_i hfull
      exact ⟨_, _, ‹_›, by simp [hfull], (Option.some.inj h).symm⟩
  · cases h

theorem stopClear_some (h : stopClear s j = some t) :
    ∃ i, s.stop j = .clearing i ∧ t = { s with
      bridge := { s.bridge.unregister with error := clearErrorLocked }
      stop := Function.update s.stop j (.returned .ok) } := by
  unfold stopClear at h
  split at h
  · exact ⟨_, ‹_›, (Option.some.inj h).symm⟩
  · cases h

/-- The phases between the entry of `Echo` and its return. -/
def inEcho : PumpPhase → Bool
  | .select | .reading | .countIn _ | .writing _ | .countOut _ => true
  | _ => false

def hasSent : PumpPhase → Bool
  | .clearing _ | .exited => true
  | _ => false

/-- The steps a pump takes inside `Echo` move only its own phase and the four counters; they
end inside `Echo` or at its return. -/
structure EchoStep (s t : State) (i : ℕ) : Prop where
  active : inEcho (s.pump i)
  next : ∃ p, (inEcho p ∨ ∃ err, p = .closing err) ∧ t.pump = Function.update s.pump i p
  socket : t.bridge.socket = s.bridge.socket
  cancel : t.bridge.cancel = s.bridge.cancel
  done : t.bridge.done = s.bridge.done
  bridgeGeneration : t.bridge.generation = s.bridge.generation
  state : t.bridge.state = s.bridge.state
  error : t.bridge.error = s.bridge.error
  closed : t.closed = s.closed
  cancelled : t.cancelled = s.cancelled
  channel : t.channel = s.channel
  generation : t.generation = s.generation
  start : t.start = s.start
  stop : t.stop = s.stop

theorem EchoStep.setPump {p : PumpPhase} (hs : inEcho (s.pump i))
    (hp : inEcho p ∨ ∃ err, p = .closing err) : EchoStep s (setPump s i p) i :=
  ⟨hs, ⟨p, hp, rfl⟩, rfl, rfl, rfl, rfl, rfl, rfl, rfl, rfl, rfl, rfl, rfl, rfl⟩

theorem pumpSelect_phase (h : pumpSelect s i = some t) :
    s.pump i = .select ∧ (t = setPump s i (.closing .canceled) ∨ t = setPump s i .reading) := by
  unfold pumpSelect at h
  split at h
  · rename_i hp
    cases h
    refine ⟨hp, ?_⟩
    split
    · exact .inl rfl
    · exact .inr rfl
  · cases h

theorem pumpRead_phase {packet : Option ℕ} (h : pumpRead s i packet = some t) :
    s.pump i = .reading ∧
      ((∃ n, t = setPump s i (.countIn n)) ∨ t = setPump s i (.closing .read)) := by
  unfold pumpRead at h
  split at h
  · rename_i n hp
    split at h
    · cases h
    · cases h
      exact ⟨hp, .inl ⟨n, rfl⟩⟩
  · rename_i hp
    cases h
    exact ⟨hp, .inr rfl⟩
  · cases h

theorem pumpCountIn_phase (h : pumpCountIn s i = some t) :
    ∃ n, s.pump i = .countIn n ∧
      t = { setPump s i (.writing n) with bridge := s.bridge.countIn n } := by
  unfold pumpCountIn at h
  split at h
  · exact ⟨_, ‹_›, (Option.some.inj h).symm⟩
  · cases h

theorem pumpWrite_phase {written : Bool} (h : pumpWrite s i written = some t) :
    ∃ n, s.pump i = .writing n ∧
      (t = setPump s i (.countOut n) ∨ t = setPump s i (.closing .write)) := by
  unfold pumpWrite at h
  split at h
  · rename_i n hp
    split at h
    · cases h
    · cases h
      exact ⟨n, hp, .inl rfl⟩
  · rename_i n hp
    cases h
    exact ⟨n, hp, .inr rfl⟩
  · cases h

theorem pumpCountOut_phase (h : pumpCountOut s i = some t) :
    ∃ n, s.pump i = .countOut n ∧
      t = { setPump s i .select with bridge := s.bridge.countOut n } := by
  unfold pumpCountOut at h
  split at h
  · exact ⟨_, ‹_›, (Option.some.inj h).symm⟩
  · cases h

theorem pumpSelect_some (h : pumpSelect s i = some t) : EchoStep s t i := by
  rcases pumpSelect_phase h with ⟨hp, rfl | rfl⟩
  · exact .setPump (by rw [hp]; rfl) (.inr ⟨_, rfl⟩)
  · exact .setPump (by rw [hp]; rfl) (.inl rfl)

theorem pumpRead_some {packet : Option ℕ} (h : pumpRead s i packet = some t) :
    EchoStep s t i := by
  rcases pumpRead_phase h with ⟨hp, ⟨n, rfl⟩ | rfl⟩
  · exact .setPump (by rw [hp]; rfl) (.inl rfl)
  · exact .setPump (by rw [hp]; rfl) (.inr ⟨_, rfl⟩)

theorem pumpCountIn_some (h : pumpCountIn s i = some t) : EchoStep s t i := by
  rcases pumpCountIn_phase h with ⟨n, hp, rfl⟩
  exact ⟨by rw [hp]; rfl, ⟨.writing n, .inl rfl, rfl⟩,
    rfl, rfl, rfl, rfl, rfl, rfl, rfl, rfl, rfl, rfl, rfl, rfl⟩

theorem pumpWrite_some {written : Bool} (h : pumpWrite s i written = some t) :
    EchoStep s t i := by
  rcases pumpWrite_phase h with ⟨n, hp, rfl | rfl⟩
  · exact .setPump (by rw [hp]; rfl) (.inl rfl)
  · exact .setPump (by rw [hp]; rfl) (.inr ⟨_, rfl⟩)

theorem pumpCountOut_some (h : pumpCountOut s i = some t) : EchoStep s t i := by
  rcases pumpCountOut_phase h with ⟨n, hp, rfl⟩
  exact ⟨by rw [hp]; rfl, ⟨.select, .inl rfl, rfl⟩,
    rfl, rfl, rfl, rfl, rfl, rfl, rfl, rfl, rfl, rfl, rfl, rfl⟩

theorem pumpClose_some (h : pumpClose s i = some t) :
    ∃ err, s.pump i = .closing err ∧
      t = { setPump s i (.sending err) with closed := Function.update s.closed i true } := by
  unfold pumpClose at h
  split at h
  · exact ⟨_, ‹_›, (Option.some.inj h).symm⟩
  · cases h

theorem pumpSend_some (h : pumpSend s i = some t) :
    ∃ err, s.pump i = .sending err ∧ s.channel i = none ∧
      t = { setPump s i (.clearing err) with
        channel := Function.update s.channel i (some err) } := by
  unfold pumpSend at h
  split at h
  · exact ⟨_, ‹_›, ‹_›, (Option.some.inj h).symm⟩
  · cases h

theorem pumpClear_some (h : pumpClear s i = some t) :
    ∃ err, s.pump i = .clearing err ∧
      ((s.bridge.generation ≠ s.generation i ∧ t = setPump s i .exited) ∨
       (s.bridge.generation = s.generation i ∧ t = { setPump s i .exited with
          bridge := { s.bridge.unregister with
            error := if s.cancelled i then s.bridge.error
              else (setErrorLocked .internalError "packet bridge terminated").1 } })) := by
  unfold pumpClear at h
  split at h
  · rename_i err hp
    split at h
    · exact ⟨err, hp, .inl ⟨‹_›, (Option.some.inj h).symm⟩⟩
    · exact ⟨err, hp, .inr ⟨not_not.mp ‹_›, (Option.some.inj h).symm⟩⟩
  · cases h

end FoloXray.PacketBridge
