import FoloXray.PacketBridge.Process

/-! # How often a connection is closed

A `PacketSocket` has a connection as long as its Start has adopted one, and `closeOnce` lets exactly
one `Close` through to it.
-/

namespace FoloXray.PacketBridge
open Wrapper Foundation

def hasSocket : StartPhase → Bool
  | .locking | .rejecting | .spawning | .returned .ok | .returned .invalidState => true
  | _ => false

def hasClosed : PumpPhase → Bool
  | .sending _ | .clearing _ | .exited => true
  | _ => false

structure ClosesOnce (p : Process) : Prop where
  wired : Wired p.bridge
  attached : ∀ i, (p.endpoint i).isSome = hasSocket (p.bridge.start i)
  socket : ∀ i, p.bridge.closed i = true → hasSocket (p.bridge.start i) = true
  once : ∀ i, p.closes i = if p.bridge.closed i then 1 else 0
  left : ∀ i, hasClosed (p.bridge.pump i) = true → p.bridge.closed i = true

theorem closesOnce_initial (table : Table) : ClosesOnce (initialProcess table) where
  wired := wired_initial
  attached := by simp [initialProcess, initial, hasSocket]
  socket := by simp [initialProcess, initial]
  once := by simp [initialProcess, initial]
  left := by simp [initialProcess, initial, hasClosed]

theorem hasSocket_of_issued {s : State} {i : ℕ} (h : Issued s i) : hasSocket (s.start i) = true := by
  rcases h with h | h <;> rw [h] <;> rfl

/-- A step that calls `Close` does so on a socket that exists, and marks it closed. -/
theorem closing_some {s t : State} {a : Action} {i : ℕ} (hw : Wired s)
    (ha : closing s a = some i) (h : step s a = some t) :
    hasSocket (s.start i) = true ∧ t.closed = Function.update s.closed i true := by
  cases a with
  | startTail k =>
    rcases startTail_some h with ⟨hk, rfl⟩ | ⟨hk, rfl⟩
    · simp only [closing, hk] at ha
      cases ha
      exact ⟨by rw [hk]; rfl, rfl⟩
    · simp [closing, hk] at ha
  | stopClose j =>
    rcases stopClose_some h with ⟨k, d, hj, rfl⟩
    simp only [closing, hj] at ha
    cases ha
    exact ⟨hasSocket_of_issued (hw.closing j i d hj).2.2, rfl⟩
  | pumpClose k =>
    rcases pumpClose_some h with ⟨err, hp, rfl⟩
    simp only [closing, hp] at ha
    cases ha
    exact ⟨hasSocket_of_issued (.inr ((hw.spawned i).mp (by simp [hp]))), rfl⟩
  | _ => cases ha

theorem closing_none {s t : State} {a : Action} (ha : closing s a = none)
    (h : step s a = some t) : t.closed = s.closed := by
  cases a with
  | startOpen i accepted =>
    rcases startOpen_some h with ⟨-, rfl⟩
    rfl
  | startLocked i =>
    rcases startLocked_some h with ⟨-, rfl⟩ | ⟨-, rfl⟩ | ⟨-, -, rfl⟩ <;> rfl
  | startTail i =>
    rcases startTail_some h with ⟨hi, rfl⟩ | ⟨hi, rfl⟩
    · simp [closing, hi] at ha
    · rfl
  | stopLocked j =>
    rcases stopLocked_some h with ⟨-, -, rfl⟩ | ⟨i, c, -, -, -, rfl⟩ <;> rfl
  | stopClose j =>
    rcases stopClose_some h with ⟨i, d, hj, rfl⟩
    simp [closing, hj] at ha
  | stopReceive j =>
    rcases stopReceive_some h with ⟨i, d, -, -, rfl⟩
    rfl
  | stopClear j =>
    rcases stopClear_some h with ⟨i, -, rfl⟩
    rfl
  | pumpSelect i => exact (pumpSelect_some h).closed
  | pumpRead i packet => exact (pumpRead_some h).closed
  | pumpCountIn i => exact (pumpCountIn_some h).closed
  | pumpWrite i written => exact (pumpWrite_some h).closed
  | pumpCountOut i => exact (pumpCountOut_some h).closed
  | pumpClose i =>
    rcases pumpClose_some h with ⟨err, hp, rfl⟩
    simp [closing, hp] at ha
  | pumpSend i =>
    rcases pumpSend_some h with ⟨err, -, -, rfl⟩
    rfl
  | pumpClear i =>
    rcases pumpClear_some h with ⟨err, -, ⟨-, rfl⟩ | ⟨-, rfl⟩⟩ <;> rfl

theorem hasSocket_update {start : ℕ → StartPhase} {i : ℕ} {q : StartPhase}
    (h : hasSocket q = hasSocket (start i)) (k : ℕ) :
    hasSocket (Function.update start i q k) = hasSocket (start k) := by
  by_cases hk : k = i
  · rw [hk, Function.update_self, h]
  · rw [Function.update_of_ne hk]

theorem hasSocket_step {s t : State} {a : Action} (ha : ∀ i accepted, a ≠ .startOpen i accepted)
    (h : step s a = some t) (k : ℕ) : hasSocket (t.start k) = hasSocket (s.start k) := by
  cases a with
  | startOpen i accepted => exact absurd rfl (ha i accepted)
  | startLocked i =>
    rcases startLocked_some h with ⟨hi, rfl⟩ | ⟨hi, rfl⟩ | ⟨hi, -, rfl⟩ <;>
      exact hasSocket_update (by rw [hi]; rfl) k
  | startTail i =>
    rcases startTail_some h with ⟨hi, rfl⟩ | ⟨hi, rfl⟩ <;>
      exact hasSocket_update (by rw [hi]; rfl) k
  | stopLocked j =>
    rcases stopLocked_some h with ⟨-, -, rfl⟩ | ⟨i, c, -, -, -, rfl⟩ <;> rfl
  | stopClose j =>
    rcases stopClose_some h with ⟨i, d, -, rfl⟩
    rfl
  | stopReceive j =>
    rcases stopReceive_some h with ⟨i, d, -, -, rfl⟩
    rfl
  | stopClear j =>
    rcases stopClear_some h with ⟨i, -, rfl⟩
    rfl
  | pumpSelect i => rw [(pumpSelect_some h).start]
  | pumpRead i packet => rw [(pumpRead_some h).start]
  | pumpCountIn i => rw [(pumpCountIn_some h).start]
  | pumpWrite i written => rw [(pumpWrite_some h).start]
  | pumpCountOut i => rw [(pumpCountOut_some h).start]
  | pumpClose i =>
    rcases pumpClose_some h with ⟨err, -, rfl⟩
    rfl
  | pumpSend i =>
    rcases pumpSend_some h with ⟨err, -, -, rfl⟩
    rfl
  | pumpClear i =>
    rcases pumpClear_some h with ⟨err, -, ⟨-, rfl⟩ | ⟨-, rfl⟩⟩ <;> rfl

theorem hasClosed_update {pump : ℕ → PumpPhase} {i k : ℕ} {q : PumpPhase}
    (h : hasClosed (Function.update pump i q k) = true) :
    hasClosed (pump k) = true ∨ k = i ∧ hasClosed q = true := by
  by_cases hk : k = i
  · rw [hk, Function.update_self] at h
    exact .inr ⟨hk, h⟩
  · rw [Function.update_of_ne hk] at h
    exact .inl h

theorem EchoStep.hasClosed {s t : State} {i k : ℕ} (h : EchoStep s t i)
    (hk : hasClosed (t.pump k) = true) : hasClosed (s.pump k) = true := by
  rcases h.next with ⟨q, hq, hpump⟩
  rw [hpump] at hk
  rcases hasClosed_update hk with hk | ⟨-, hclosed⟩
  · exact hk
  · rcases hq with hq | ⟨err, rfl⟩
    · cases q <;> cases hq <;> cases hclosed
    · cases hclosed

theorem hasClosed_step {s t : State} {a : Action} {k : ℕ} (h : step s a = some t)
    (hk : hasClosed (t.pump k) = true) : hasClosed (s.pump k) = true ∨ closing s a = some k := by
  cases a with
  | startOpen i accepted =>
    rcases startOpen_some h with ⟨-, rfl⟩
    exact .inl hk
  | startLocked i =>
    rcases startLocked_some h with ⟨-, rfl⟩ | ⟨-, rfl⟩ | ⟨-, -, rfl⟩ <;> exact .inl hk
  | startTail i =>
    rcases startTail_some h with ⟨-, rfl⟩ | ⟨-, rfl⟩
    · exact .inl hk
    · rcases hasClosed_update hk with hk | ⟨-, hq⟩
      · exact .inl hk
      · cases hq
  | stopLocked j =>
    rcases stopLocked_some h with ⟨-, -, rfl⟩ | ⟨i, c, -, -, -, rfl⟩ <;> exact .inl hk
  | stopClose j =>
    rcases stopClose_some h with ⟨i, d, -, rfl⟩
    exact .inl hk
  | stopReceive j =>
    rcases stopReceive_some h with ⟨i, d, -, -, rfl⟩
    exact .inl hk
  | stopClear j =>
    rcases stopClear_some h with ⟨i, -, rfl⟩
    exact .inl hk
  | pumpSelect i => exact .inl ((pumpSelect_some h).hasClosed hk)
  | pumpRead i packet => exact .inl ((pumpRead_some h).hasClosed hk)
  | pumpCountIn i => exact .inl ((pumpCountIn_some h).hasClosed hk)
  | pumpWrite i written => exact .inl ((pumpWrite_some h).hasClosed hk)
  | pumpCountOut i => exact .inl ((pumpCountOut_some h).hasClosed hk)
  | pumpClose i =>
    rcases pumpClose_some h with ⟨err, hp, rfl⟩
    rcases hasClosed_update hk with hk | ⟨rfl, -⟩
    · exact .inl hk
    · exact .inr (by simp [closing, hp])
  | pumpSend i =>
    rcases pumpSend_some h with ⟨err, hp, -, rfl⟩
    rcases hasClosed_update hk with hk | ⟨rfl, -⟩
    · exact .inl hk
    · exact .inl (by rw [hp]; rfl)
  | pumpClear i =>
    rcases pumpClear_some h with ⟨err, hp, ⟨-, rfl⟩ | ⟨-, rfl⟩⟩ <;>
    · rcases hasClosed_update hk with hk | ⟨rfl, -⟩
      · exact .inl hk
      · exact .inl (by rw [hp]; rfl)

inductive ProcessTransition (p : Process) : ProcessAction → Process → Prop where
  | attached {i : ℕ} {fd : ℤ} {answers : Answers} {e : Endpoint} {table : Table} {b : State}
      (hattach : newPacketSocketFromFD p.table fd answers = (.ok e, table))
      (hopen : startOpen p.bridge i true = some b) :
      ProcessTransition p (.attach i fd answers) { p with
        bridge := b
        table := table
        endpoint := Function.update p.endpoint i (some e)
        adopted := Function.update p.adopted e.descriptor true }
  | refused {i : ℕ} {fd : ℤ} {answers : Answers} {e : AttachError} {table : Table} {b : State}
      (hattach : newPacketSocketFromFD p.table fd answers = (.error e, table))
      (hopen : startOpen p.bridge i false = some b) :
      ProcessTransition p (.attach i fd answers) { p with bridge := b, table := table }
  | bridge {a : Action} {b : State} (ha : ∀ i accepted, a ≠ .startOpen i accepted)
      (hstep : step p.bridge a = some b) :
      ProcessTransition p (.bridge a) { p.closeFor a with bridge := b }
  | openFile {d file : ℕ} (hfree : p.table d = none) :
      ProcessTransition p (.openFile d file)
        { p with table := Function.update p.table d (some file) }
  | closeFile {d : ℕ} :
      ProcessTransition p (.closeFile d) { p with table := Function.update p.table d none }

theorem processStep_some {p q : Process} {a : ProcessAction} (h : processStep p a = some q) :
    ProcessTransition p a q := by
  cases a with
  | attach i fd answers =>
    cases hattach : newPacketSocketFromFD p.table fd answers with
    | mk result table =>
      cases result with
      | ok e =>
        simp only [processStep, hattach, Option.map_eq_some_iff] at h
        rcases h with ⟨b, hopen, rfl⟩
        exact .attached hattach hopen
      | error e =>
        simp only [processStep, hattach, Option.map_eq_some_iff] at h
        rcases h with ⟨b, hopen, rfl⟩
        exact .refused hattach hopen
  | bridge a =>
    unfold processStep at h
    split at h
    · cases ‹ProcessAction.bridge a = _›
    · cases h
    · rename_i ha heq
      cases heq
      rcases Option.map_eq_some_iff.mp h with ⟨b, hstep, rfl⟩
      exact .bridge ha hstep
    · cases ‹ProcessAction.bridge a = _›
    · cases ‹ProcessAction.bridge a = _›
  | openFile d file =>
    simp only [processStep] at h
    split at h
    · cases h
      exact .openFile ‹_›
    · cases h
  | closeFile d =>
    cases h
    exact .closeFile

theorem closeFor_endpoint (p : Process) (a : Action) : (p.closeFor a).endpoint = p.endpoint := by
  unfold Process.closeFor Process.closeSocket
  split
  · split
    · rfl
    · split <;> rfl
  · rfl

/-- A call of `Close` counts when it is the first one. -/
theorem closeSocket_closes {p : Process} {i : ℕ} (hs : (p.endpoint i).isSome = true)
    (honce : p.closes i = if p.bridge.closed i then 1 else 0) :
    (p.closeSocket i).closes = Function.update p.closes i 1 := by
  rcases Option.isSome_iff_exists.mp hs with ⟨e, he⟩
  unfold Process.closeSocket
  by_cases hc : p.bridge.closed i = true
  · rw [if_pos hc] at honce
    rw [if_pos hc, ← honce, Function.update_eq_self]
  · rw [if_neg hc] at honce
    simp only [if_neg hc, he, honce]

theorem ClosesOnce.attach {p q : Process} {i : ℕ} {accepted : Bool} {b : State}
    (hp : ClosesOnce p) (hopen : startOpen p.bridge i accepted = some b) (hq : q.bridge = b)
    (hcloses : q.closes = p.closes)
    (hend : ∀ k, (q.endpoint k).isSome = if k = i then accepted else (p.endpoint k).isSome) :
    ClosesOnce q := by
  have hwired : Wired q.bridge := hq ▸ hp.wired.step (a := .startOpen i accepted) hopen
  rcases startOpen_some hopen with ⟨hi, rfl⟩
  have hfree : p.bridge.closed i ≠ true := by
    intro hc
    have := hp.socket i hc
    rw [hi] at this
    cases this
  constructor
  · exact hwired
  · intro k
    rw [hend, hq]
    by_cases hk : k = i
    · subst hk
      cases accepted <;> simp [hasSocket]
    · rw [if_neg hk, hp.attached]
      simp [hk]
  · intro k hk
    rw [hq] at hk ⊢
    have hne : k ≠ i := by
      rintro rfl
      exact hfree hk
    simpa [hne] using hp.socket k hk
  · rw [hcloses, hq]
    exact hp.once
  · rw [hq]
    exact hp.left

theorem ClosesOnce.bridgeStep {p : Process} {a : Action} {b : State} (hp : ClosesOnce p)
    (ha : ∀ i accepted, a ≠ .startOpen i accepted) (h : step p.bridge a = some b) :
    ClosesOnce { p.closeFor a with bridge := b } := by
  have hsocket := hasSocket_step ha h
  have hattached (k : ℕ) : ((p.closeFor a).endpoint k).isSome = hasSocket (b.start k) := by
    rw [closeFor_endpoint, hsocket]
    exact hp.attached k
  cases hc : closing p.bridge a with
  | none =>
    have hclosed := closing_none hc h
    have hsame : p.closeFor a = p := by simp [Process.closeFor, hc]
    constructor
    · exact hp.wired.step h
    · exact hattached
    · intro k hk
      simp only [hclosed] at hk
      simpa only [hsocket] using hp.socket k hk
    · intro k
      simp only [hsame, hclosed]
      exact hp.once k
    · intro k hk
      rcases hasClosed_step h hk with hk | hk
      · simpa only [hclosed] using hp.left k hk
      · rw [hc] at hk
        cases hk
  | some i =>
    rcases closing_some hp.wired hc h with ⟨hs, hclosed⟩
    have hcloses : (p.closeFor a).closes = Function.update p.closes i 1 := by
      rw [Process.closeFor, hc]
      exact closeSocket_closes (by rw [hp.attached, hs]) (hp.once i)
    constructor
    · exact hp.wired.step h
    · exact hattached
    · intro k hk
      simp only [hsocket]
      by_cases hki : k = i
      · rw [hki, hs]
      · exact hp.socket k (by simpa [hclosed, hki] using hk)
    · intro k
      simp only [hcloses, hclosed]
      by_cases hki : k = i
      · simp [hki]
      · simp [hki, hp.once k]
    · intro k hk
      simp only [hclosed]
      by_cases hki : k = i
      · simp [hki]
      · rcases hasClosed_step h hk with hk | hk
        · simpa [hki] using hp.left k hk
        · rw [hc] at hk
          exact absurd (Option.some.inj hk).symm hki

theorem ClosesOnce.step {p q : Process} {a : ProcessAction} (hp : ClosesOnce p)
    (h : processStep p a = some q) : ClosesOnce q := by
  cases processStep_some h with
  | attached hattach hopen =>
    refine hp.attach hopen rfl rfl ?_
    intro k
    simp only [Function.update_apply]
    split <;> rfl
  | refused hattach hopen =>
    refine hp.attach hopen rfl rfl ?_
    intro k
    split
    · subst k
      rw [hp.attached, (startOpen_some hopen).1]
      rfl
    · rfl
  | bridge ha hstep => exact hp.bridgeStep ha hstep
  | openFile hfree => exact ⟨hp.wired, hp.attached, hp.socket, hp.once, hp.left⟩
  | closeFile => exact ⟨hp.wired, hp.attached, hp.socket, hp.once, hp.left⟩

end FoloXray.PacketBridge
