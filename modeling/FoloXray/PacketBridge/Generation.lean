import FoloXray.PacketBridge.Invariant

/-! # Generations

Every registration increments `packetBridge.generation`, a `uint64`, and hands the new value to its pump.
Two bridges share a generation only after the counter has come round, so not as long as fewer than
`2 ^ 64` were registered.
-/

namespace FoloXray.PacketBridge
open Wrapper Foundation

def registers (s : State) : Action → List ℕ
  | .startLocked i => if (startLocked s i).any (fun t => t.start i == .spawning) then [i] else []
  | _ => []

/-- The Start calls that have registered a bridge along a run. -/
def registrations (as : List Action) : List ℕ := emits step registers initial as

def Distinct (s : State) : Prop :=
  ∀ i k, Issued s i → Issued s k → s.generation i = s.generation k → i = k

/-- The counter has not come round, and each bridge has taken a generation of its own. -/
structure Numbered (s : State) (l : List ℕ) : Prop where
  count : s.bridge.generation.toNat = l.length
  le : ∀ i, Issued s i → s.generation i ≤ s.bridge.generation
  distinct : Distinct s

theorem numbered_initial : Numbered initial [] where
  count := rfl
  le := by simp [initial, Issued]
  distinct := by simp [Distinct, initial, Issued]

/-- The step neither registers a bridge nor hands out a generation. -/
structure SameIssues (s t : State) : Prop where
  issued : ∀ i, Issued t i ↔ Issued s i
  generation : t.generation = s.generation
  bridge : t.bridge.generation = s.bridge.generation

theorem issued_congr {s t : State} {i : ℕ} {p : StartPhase}
    (hstart : t.start = Function.update s.start i p)
    (hp : p = .spawning ∨ p = .returned .ok ↔ Issued s i) (k : ℕ) : Issued t k ↔ Issued s k := by
  by_cases hk : k = i
  · subst hk
    rw [Issued, hstart, Function.update_self, hp]
  · rw [Issued, Issued, hstart, Function.update_of_ne hk]

theorem EchoStep.sameIssues {s t : State} {i : ℕ} (h : EchoStep s t i) : SameIssues s t where
  issued := by
    intro k
    rw [Issued, Issued, h.start]
  generation := h.generation
  bridge := h.bridgeGeneration

theorem startLocked_registers {s t : State} {i : ℕ} (h : startLocked s i = some t) :
    (registers s (.startLocked i) = [] ∧ SameIssues s t) ∨
    (registers s (.startLocked i) = [i] ∧ s.start i = .locking ∧ t = { s with
      bridge := s.bridge.register i
      generation := Function.update s.generation i (s.bridge.generation + 1)
      start := Function.update s.start i .spawning }) := by
  rw [registers, h]
  obtain ⟨hi, rfl⟩ | ⟨hi, rfl⟩ | ⟨hi, -, rfl⟩ := startLocked_some h
  · exact .inl ⟨by simp, issued_congr rfl (by simp [Issued, hi]), rfl, rfl⟩
  · exact .inl ⟨by simp, issued_congr rfl (by simp [Issued, hi]), rfl, rfl⟩
  · exact .inr ⟨by simp, hi, rfl⟩

/-- A step registers the bridge of one Start call, or leaves the generations alone. -/
theorem step_registers {s t : State} {a : Action} (h : step s a = some t) :
    (registers s a = [] ∧ SameIssues s t) ∨
    ∃ i, registers s a = [i] ∧ s.start i = .locking ∧ t = { s with
      bridge := s.bridge.register i
      generation := Function.update s.generation i (s.bridge.generation + 1)
      start := Function.update s.start i .spawning } := by
  cases a with
  | startOpen i accepted =>
    obtain ⟨hi, rfl⟩ := startOpen_some h
    refine .inl ⟨rfl, issued_congr rfl ?_, rfl, rfl⟩
    cases accepted <;> simp [Issued, hi]
  | startLocked i => exact (startLocked_registers h).imp_right fun hreg => ⟨i, hreg⟩
  | startTail i =>
    obtain ⟨hi, rfl⟩ | ⟨hi, rfl⟩ := startTail_some h
    · exact .inl ⟨rfl, issued_congr rfl (by simp [Issued, hi]), rfl, rfl⟩
    · exact .inl ⟨rfl, issued_congr rfl (by simp [Issued, hi]), rfl, rfl⟩
  | stopLocked j =>
    obtain ⟨-, -, rfl⟩ | ⟨i, c, -, -, -, rfl⟩ := stopLocked_some h
    · exact .inl ⟨rfl, fun _ => Iff.rfl, rfl, rfl⟩
    · exact .inl ⟨rfl, fun _ => Iff.rfl, rfl, rfl⟩
  | stopClose j =>
    obtain ⟨i, d, -, rfl⟩ := stopClose_some h
    exact .inl ⟨rfl, fun _ => Iff.rfl, rfl, rfl⟩
  | stopReceive j =>
    obtain ⟨i, d, -, -, rfl⟩ := stopReceive_some h
    exact .inl ⟨rfl, fun _ => Iff.rfl, rfl, rfl⟩
  | stopClear j =>
    obtain ⟨i, -, rfl⟩ := stopClear_some h
    exact .inl ⟨rfl, fun _ => Iff.rfl, rfl, rfl⟩
  | pumpSelect i => exact .inl ⟨rfl, (pumpSelect_some h).sameIssues⟩
  | pumpRead i packet => exact .inl ⟨rfl, (pumpRead_some h).sameIssues⟩
  | pumpCountIn i => exact .inl ⟨rfl, (pumpCountIn_some h).sameIssues⟩
  | pumpWrite i written => exact .inl ⟨rfl, (pumpWrite_some h).sameIssues⟩
  | pumpCountOut i => exact .inl ⟨rfl, (pumpCountOut_some h).sameIssues⟩
  | pumpClose i =>
    obtain ⟨err, -, rfl⟩ := pumpClose_some h
    exact .inl ⟨rfl, fun _ => Iff.rfl, rfl, rfl⟩
  | pumpSend i =>
    obtain ⟨err, -, -, rfl⟩ := pumpSend_some h
    exact .inl ⟨rfl, fun _ => Iff.rfl, rfl, rfl⟩
  | pumpClear i =>
    obtain ⟨err, -, ⟨-, rfl⟩ | ⟨-, rfl⟩⟩ := pumpClear_some h
    · exact .inl ⟨rfl, fun _ => Iff.rfl, rfl, rfl⟩
    · exact .inl ⟨rfl, fun _ => Iff.rfl, rfl, rfl⟩

theorem sameIssues_of_step {s t : State} {a : Action} (h : step s a = some t)
    (hnone : registers s a = []) : SameIssues s t := by
  obtain ⟨-, hsame⟩ | ⟨i, hreg, -⟩ := step_registers h
  · exact hsame
  · rw [hnone] at hreg
    cases hreg

theorem Numbered.congr {s t : State} {l : List ℕ} (hn : Numbered s l) (h : SameIssues s t) :
    Numbered t l where
  count := by rw [h.bridge, hn.count]
  le := by
    intro i hi
    rw [h.generation, h.bridge]
    exact hn.le i ((h.issued i).mp hi)
  distinct := by
    intro i k hi hk heq
    rw [h.generation] at heq
    exact hn.distinct i k ((h.issued i).mp hi) ((h.issued k).mp hk) heq

theorem Numbered.toNat_succ {s : State} {l : List ℕ} (hn : Numbered s l)
    (hshort : l.length + 1 < 2 ^ 64) : (s.bridge.generation + 1).toNat = l.length + 1 := by
  rw [UInt64.toNat_add, hn.count]
  exact Nat.mod_eq_of_lt hshort

/-- A registration takes a generation above every one that was taken. -/
theorem Numbered.register {s : State} {l : List ℕ} {i : ℕ} (hn : Numbered s l)
    (hshort : (l ++ [i]).length < 2 ^ 64) :
    Numbered { s with
      bridge := s.bridge.register i
      generation := Function.update s.generation i (s.bridge.generation + 1)
      start := Function.update s.start i .spawning } (l ++ [i]) := by
  have hnext := hn.toNat_succ (by simpa using hshort)
  have hold {k : ℕ} (hk : k ≠ i) (h : Function.update s.start i .spawning k = .spawning ∨
      Function.update s.start i .spawning k = .returned .ok) :
      Issued s k ∧ s.generation k < s.bridge.generation + 1 := by
    have hissued : Issued s k := by simpa [Issued, hk] using h
    have hle := UInt64.le_iff_toNat_le.mp (hn.le k hissued)
    refine ⟨hissued, UInt64.lt_iff_toNat_lt.mpr ?_⟩
    rw [hnext]
    rw [hn.count] at hle
    omega
  constructor
  · rw [List.length_append]
    exact hnext
  · intro k hk
    by_cases hki : k = i
    · subst hki
      simp [Bridge.register]
    · simp only [Bridge.register, Function.update_of_ne hki]
      exact UInt64.le_of_lt (hold hki hk).2
  · intro k m hk hm heq
    by_cases hki : k = i <;> by_cases hmi : m = i
    · exact hki.trans hmi.symm
    · subst hki
      simp only [Function.update_self, Function.update_of_ne hmi] at heq
      exact absurd heq.symm (UInt64.ne_of_lt (hold hmi hm).2)
    · subst hmi
      simp only [Function.update_self, Function.update_of_ne hki] at heq
      exact absurd heq (UInt64.ne_of_lt (hold hki hk).2)
    · simp only [Function.update_of_ne hki, Function.update_of_ne hmi] at heq
      exact hn.distinct k m (hold hki hk).1 (hold hmi hm).1 heq

theorem Numbered.step {s t : State} {a : Action} {l : List ℕ} (hn : Numbered s l)
    (hshort : (l ++ registers s a).length < 2 ^ 64) (h : step s a = some t) :
    Numbered t (l ++ registers s a) := by
  obtain ⟨hnone, hsame⟩ | ⟨i, hreg, -, rfl⟩ := step_registers h
  · rw [hnone, List.append_nil]
    exact hn.congr hsame
  · rw [hreg] at hshort ⊢
    exact hn.register hshort

/-- As long as fewer than `2 ^ 64` bridges were registered, no two share a generation. -/
theorem distinct_of_run {as : List Action} {s : State} (hrun : run step initial as = some s)
    (hfew : (registrations as).length < 2 ^ 64) : Distinct s :=
  (emits_invariant_of_short (P := Numbered) (fun _ _ _ _ => Numbered.step) numbered_initial hrun
    hfew).distinct

theorem meets_distinct {as : List Action} (hfew : (registrations as).length < 2 ^ 64) :
    Meets step (fun s _ => Distinct s) initial as := by
  have hmeets : Meets step (fun s _ => ∃ l, Numbered s l) initial as :=
    meets_of_short (fun _ _ _ _ => Numbered.step) numbered_initial hfew
  exact hmeets.imp fun _ _ ⟨_, hn⟩ => hn.distinct

end FoloXray.PacketBridge
