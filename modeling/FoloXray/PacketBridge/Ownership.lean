import FoloXray.PacketBridge.Generation

/-! # Which schedules keep every live pump registered

A pump is live while it is inside `Echo` with an open socket and a context nobody
cancelled. Stop's second critical section clears `packetBridge` without looking at the
generation, so it can drop a bridge that a later Start registered. That step is the only
way to lose a live pump: when each Stop clears only the bridge it captured, or one that is
already on its way out, and fewer than `2 ^ 64` bridges were registered, every live pump is the
registered one.
-/

namespace FoloXray.PacketBridge
open Wrapper Foundation

/-- The pump is inside `Echo`, not cancelled, and its socket is open. -/
def live (s : State) (i : ℕ) : Bool :=
  inEcho (s.pump i) && !s.cancelled i && !s.closed i

/-- The pump is live, or its Start call is about to `go` it. -/
def pending (s : State) (i : ℕ) : Bool :=
  (s.start i == .spawning || inEcho (s.pump i)) && !s.cancelled i && !s.closed i

def Owned (s : State) : Prop :=
  ∀ i, live s i = true → Registered s.bridge (s.generation i) i

def clearingStop : Action → Option ℕ
  | .stopClear j => some j
  | _ => none

/-- A Stop enters its second critical section while the registered bridge, if any, is the one
it captured or is no longer pending. -/
def ClearsOwn (s : State) (a : Action) : Prop :=
  ∀ j ∈ clearingStop a, ∀ i ∈ s.bridge.socket, s.stop j = .clearing i ∨ pending s i = false

instance (s : State) (a : Action) : Decidable (ClearsOwn s a) :=
  inferInstanceAs (Decidable (∀ j ∈ clearingStop a, ∀ i ∈ s.bridge.socket,
    s.stop j = .clearing i ∨ pending s i = false))

theorem pending_of_live {s : State} {i : ℕ} (h : live s i = true) : pending s i = true := by
  simp only [live, pending, Bool.and_eq_true, Bool.or_eq_true] at h ⊢
  exact ⟨⟨.inr h.1.1, h.1.2⟩, h.2⟩

/-- A step that opens no socket, cancels nothing back and starts no pump creates no pending
bridge. -/
theorem pending_mono {s t : State} {i : ℕ} (h : pending t i = true)
    (hphase : t.start i = .spawning ∨ inEcho (t.pump i) = true →
      s.start i = .spawning ∨ inEcho (s.pump i) = true)
    (hcancelled : s.cancelled i = true → t.cancelled i = true)
    (hclosed : s.closed i = true → t.closed i = true) : pending s i = true := by
  simp only [pending, Bool.and_eq_true, Bool.or_eq_true, beq_iff_eq, Bool.not_eq_true'] at h ⊢
  refine ⟨⟨hphase h.1.1, ?_⟩, ?_⟩
  · by_contra hc
    rw [hcancelled (by simpa using hc)] at h
    cases h.1.2
  · by_contra hc
    rw [hclosed (by simpa using hc)] at h
    cases h.2

theorem update_true_mono {f : ℕ → Bool} {i k : ℕ} (h : f k = true) :
    Function.update f i true k = true := by
  by_cases hk : k = i
  · rw [hk, Function.update_self]
  · rwa [Function.update_of_ne hk]

theorem spawning_mono {start : ℕ → StartPhase} {p : StartPhase} {i k : ℕ} {echo : Prop}
    (hp : p ≠ .spawning) (h : Function.update start i p k = .spawning ∨ echo) :
    start k = .spawning ∨ echo := by
  by_cases hk : k = i
  · rw [hk, Function.update_self] at h
    exact h.imp_left fun hs => absurd hs hp
  · rwa [Function.update_of_ne hk] at h

theorem echo_mono {pump : ℕ → PumpPhase} {p : PumpPhase} {i k : ℕ} {spawning : Prop}
    (hp : inEcho p = false) (h : spawning ∨ inEcho (Function.update pump i p k) = true) :
    spawning ∨ inEcho (pump k) = true := by
  by_cases hk : k = i
  · rw [hk, Function.update_self, hp] at h
    exact h.imp_right fun hf => Bool.noConfusion hf
  · rwa [Function.update_of_ne hk] at h

def Tracked (s : State) : Prop :=
  ∀ i, pending s i = true → s.bridge.socket = some i

theorem EchoStep.tracked {s t : State} {i : ℕ} (h : EchoStep s t i) (ht : Tracked s) :
    Tracked t := by
  intro k hk
  rw [h.socket]
  refine ht k (pending_mono hk ?_ (by rw [h.cancelled]; exact id) (by rw [h.closed]; exact id))
  rw [h.start]
  rintro (hs | he)
  · exact .inl hs
  · by_cases hki : k = i
    · subst hki
      exact .inr h.active
    · obtain ⟨p, -, hpump⟩ := h.next
      rw [hpump, Function.update_of_ne hki] at he
      exact .inr he

theorem Tracked.startOpen {s t : State} {i : ℕ} {accepted : Bool} (ht : Tracked s)
    (h : startOpen s i accepted = some t) : Tracked t := by
  obtain ⟨hi, rfl⟩ := startOpen_some h
  intro k hk
  refine ht k (pending_mono hk (spawning_mono ?_) id id)
  cases accepted <;> simp

theorem Tracked.startLocked {s t : State} {i : ℕ} (ht : Tracked s)
    (h : startLocked s i = some t) : Tracked t := by
  obtain ⟨hi, rfl⟩ | ⟨hi, rfl⟩ | ⟨hi, hnone, rfl⟩ := startLocked_some h
  · exact fun k hk => ht k (pending_mono hk (spawning_mono (by simp)) id id)
  · exact fun k hk => ht k (pending_mono hk (spawning_mono (by simp)) id id)
  · intro k hk
    by_cases hki : k = i
    · subst hki
      rfl
    · have hold := ht k (pending_mono hk (by simp [hki]) id id)
      rw [hnone] at hold
      cases hold

theorem Tracked.startTail {s t : State} {i : ℕ} (ht : Tracked s)
    (h : startTail s i = some t) : Tracked t := by
  obtain ⟨hi, rfl⟩ | ⟨hi, rfl⟩ := startTail_some h
  · exact fun k hk => ht k (pending_mono hk (spawning_mono (by simp)) id update_true_mono)
  · intro k hk
    refine ht k (pending_mono hk ?_ id id)
    by_cases hki : k = i
    · subst hki
      exact fun _ => .inl hi
    · simp [hki]

theorem Tracked.stopLocked {s t : State} {j : ℕ} (ht : Tracked s)
    (h : stopLocked s j = some t) : Tracked t := by
  obtain ⟨-, -, rfl⟩ | ⟨i, c, -, -, -, rfl⟩ := stopLocked_some h
  · exact ht
  · exact fun k hk => ht k (pending_mono hk id update_true_mono id)

theorem Tracked.stopClear {s t : State} {j : ℕ} (ht : Tracked s) (hw : Wired s)
    (hown : ClearsOwn s (.stopClear j)) (h : stopClear s j = some t) : Tracked t := by
  obtain ⟨c, hj, rfl⟩ := stopClear_some h
  intro k hk
  have hpend : pending s k = true := pending_mono hk id id id
  exfalso
  rcases hown j rfl k (ht k hpend) with hclear | hnot
  · have hcancelled := hw.clearing j k hclear
    simp [pending, hcancelled] at hpend
  · rw [hpend] at hnot
    cases hnot

/-- The pump's own exit section clears only its own bridge, by its generation. -/
theorem Tracked.pumpClear {s t : State} {i : ℕ} (ht : Tracked s) (hw : Wired s)
    (hd : Distinct s) (h : pumpClear s i = some t) : Tracked t := by
  obtain ⟨err, hp, hcases⟩ := pumpClear_some h
  have hstart : s.start i = .returned .ok := (hw.spawned i).mp (by simp [hp])
  have hmono {k : ℕ} (hk : pending (setPump s i .exited) k = true) :
      k ≠ i ∧ pending s k = true := by
    have hki : k ≠ i := by
      rintro rfl
      simp [pending, setPump, hstart, inEcho] at hk
    exact ⟨hki, pending_mono hk (by simp [setPump, hki]) id id⟩
  obtain ⟨-, rfl⟩ | ⟨hgen, rfl⟩ := hcases
  · exact fun k hk => ht k (hmono hk).2
  · intro k hk
    obtain ⟨hki, hpend⟩ := hmono (k := k) hk
    obtain ⟨hr, hissued⟩ := hw.registered k (ht k hpend)
    have hsame : s.generation k = s.generation i := hr.generation.symm.trans hgen
    exact absurd (hd k i hissued (.inr hstart) hsame) hki

/-- One step that meets the condition keeps every pending bridge registered. -/
theorem Tracked.step {s t : State} {a : Action} (ht : Tracked s) (hw : Wired s)
    (hd : Distinct s) (hown : ClearsOwn s a) (h : step s a = some t) : Tracked t := by
  cases a with
  | startOpen i accepted => exact ht.startOpen h
  | startLocked i => exact ht.startLocked h
  | startTail i => exact ht.startTail h
  | stopLocked j => exact ht.stopLocked h
  | stopClose j =>
    obtain ⟨i, d, -, rfl⟩ := stopClose_some h
    exact fun k hk => ht k (pending_mono hk id id update_true_mono)
  | stopReceive j =>
    obtain ⟨i, d, -, -, rfl⟩ := stopReceive_some h
    exact ht
  | stopClear j => exact ht.stopClear hw hown h
  | pumpSelect i => exact (pumpSelect_some h).tracked ht
  | pumpRead i packet => exact (pumpRead_some h).tracked ht
  | pumpCountIn i => exact (pumpCountIn_some h).tracked ht
  | pumpWrite i written => exact (pumpWrite_some h).tracked ht
  | pumpCountOut i => exact (pumpCountOut_some h).tracked ht
  | pumpClose i =>
    obtain ⟨err, hp, rfl⟩ := pumpClose_some h
    exact fun k hk => ht k (pending_mono hk (echo_mono rfl) id update_true_mono)
  | pumpSend i =>
    obtain ⟨err, hp, -, rfl⟩ := pumpSend_some h
    exact fun k hk => ht k (pending_mono hk (echo_mono rfl) id id)
  | pumpClear i => exact ht.pumpClear hw hd h

theorem tracked_of_run {s : State} {as : List Action} (hrun : run step initial as = some s)
    (hfew : (registrations as).length < 2 ^ 64) (hown : Meets step ClearsOwn initial as) :
    Tracked s := by
  have hinv : Wired s ∧ Tracked s :=
    run_invariant_of_meets (P := fun s => Wired s ∧ Tracked s)
      (fun _ _ _ hs hC h => ⟨hs.1.step h, hs.2.step hs.1 hC.1 hC.2 h⟩)
      ⟨wired_initial, fun i hi => by simp [pending, initial, inEcho] at hi⟩
      ((meets_distinct hfew).and hown) hrun
  exact hinv.2

theorem Tracked.owned {s : State} (ht : Tracked s) (hw : Wired s) : Owned s :=
  fun i hi => (hw.registered i (ht i (pending_of_live hi))).1

/-- A Stop that begins while pump `i` is live captures, cancels and closes bridge `i`. -/
theorem stop_reaches_live {s : State} {i j : ℕ} (hr : Registered s.bridge (s.generation i) i)
    (hj : s.stop j = .ready) :
    ∃ u, run step s [.stopLocked j, .stopClose j] = some u ∧
      u.cancelled i = true ∧ u.closed i = true := by
  have hlock : step s (.stopLocked j) = some { s with
      cancelled := Function.update s.cancelled i true
      stop := Function.update s.stop j (.closing i (some i)) } := by
    simp [step, stopLocked, hj, hr.socket, hr.cancel, hr.done]
  refine ⟨{ s with
      cancelled := Function.update s.cancelled i true
      closed := Function.update s.closed i true
      stop := Function.update (Function.update s.stop j (.closing i (some i))) j
        (.receiving i i) }, run_cons_eq_some.mpr ⟨_, hlock, ?_⟩, ?_⟩
  · simp [run, step, stopClose]
  · simp

/-- Outside the condition the defect is at most one step away: the clear drops a bridge whose
pump is live or is about to be. -/
theorem stopClear_loses_pending {s : State} {i j : ℕ} (hj : ∃ c, s.stop j = .clearing c)
    (hpend : pending s i = true) :
    ∃ bs t, run step s (.stopClear j :: bs) = some t ∧ ¬ Owned t := by
  obtain ⟨c, hj⟩ := hj
  simp only [pending, Bool.and_eq_true, Bool.or_eq_true, beq_iff_eq, Bool.not_eq_true'] at hpend
  obtain ⟨⟨hphase, hcancelled⟩, hclosed⟩ := hpend
  have hclear : step s (.stopClear j) = some { s with
      bridge := { s.bridge.unregister with error := clearErrorLocked }
      stop := Function.update s.stop j (.returned .ok) } := by
    simp [step, stopClear, hj]
  rcases hphase with hspawn | hecho
  · refine ⟨[.startTail i], _, run_cons_eq_some.mpr ⟨_, hclear,
      run_cons_eq_some.mpr ⟨_, by simp [step, startTail, hspawn]; rfl, rfl⟩⟩, ?_⟩
    intro howned
    have hr := howned i (by simp [live, inEcho, hcancelled, hclosed])
    cases hr.socket
  · refine ⟨[], _, run_cons_eq_some.mpr ⟨_, hclear, rfl⟩, ?_⟩
    intro howned
    have hr := howned i (by simp [live, hecho, hcancelled, hclosed])
    cases hr.socket

/-- Every run with fewer than `2 ^ 64` bridges whose Stops clear only their own, or an already
ending, bridge keeps each live pump registered; so an idle bridge has no live pump and a new Stop
reaches the endpoint. The condition on the Stops is exact: a Stop about to clear any other bridge is
one step from losing a pump. -/
theorem live_pump_registered {as : List Action} {s : State}
    (hrun : run step initial as = some s) :
    ((registrations as).length < 2 ^ 64 → Meets step ClearsOwn initial as →
      Owned s ∧ (s.bridge.state = .idle → ∀ i, live s i = false) ∧
      ∀ i j, live s i = true → s.stop j = .ready →
        ∃ u, run step s [.stopLocked j, .stopClose j] = some u ∧
          u.cancelled i = true ∧ u.closed i = true) ∧
    (∀ j, (step s (.stopClear j)).isSome → ¬ ClearsOwn s (.stopClear j) →
      ∃ bs t, run step s (.stopClear j :: bs) = some t ∧ ¬ Owned t) := by
  have hw := wired_of_run hrun
  constructor
  · intro hfew hown
    have howned := (tracked_of_run hrun hfew hown).owned hw
    refine ⟨howned, ?_, fun i j hi hj => stop_reaches_live (howned i hi) hj⟩
    intro hidle i
    by_contra hi
    have hr := howned i (by simpa using hi)
    exact absurd (hidle.symm.trans hr.state) (by simp)
  · intro j hj hnot
    simp only [ClearsOwn, clearingStop, Option.mem_def, Option.some.injEq, forall_eq', not_forall,
      not_or, Bool.not_eq_false] at hnot
    obtain ⟨i, -, -, hpend⟩ := hnot
    obtain ⟨t, ht⟩ := Option.isSome_iff_exists.mp hj
    obtain ⟨c, hc, -⟩ := stopClear_some ht
    exact stopClear_loses_pending ⟨c, hc⟩ hpend

/-- A bridge is stopped and a second one is started, whose pump waits for a packet when the first runs
its exit section. -/
def orderlyRun : List Action :=
  [.startOpen 0 true, .startLocked 0, .startTail 0, .pumpSelect 0, .stopLocked 0, .stopClose 0,
    .pumpRead 0 none, .pumpClose 0, .pumpSend 0, .stopReceive 0, .stopClear 0, .startOpen 1 true,
    .startLocked 1, .startTail 1, .pumpSelect 1, .pumpClear 0]

def orderlyState : State := (run step initial orderlyRun).get (by decide)

theorem live_pump_registered_orderly :
    live orderlyState 1 = true ∧ Registered orderlyState.bridge (orderlyState.generation 1) 1 := by
  have hrun : run step initial orderlyRun = some orderlyState := (Option.some_get (by decide)).symm
  have howned : Owned orderlyState := ((live_pump_registered hrun).1 (by decide) (by decide)).1
  exact ⟨by decide, howned 1 (by decide)⟩

/-- A Stop that clears between the registration and the exit of a newer bridge. -/
def strayRun : List Action :=
  [.startOpen 0 true, .startLocked 0, .startTail 0, .stopLocked 0, .stopClose 0, .pumpSelect 0,
    .pumpClose 0, .pumpSend 0, .pumpClear 0, .startOpen 1 true, .startLocked 1, .startTail 1,
    .stopReceive 0, .stopClear 0]

/-- After the stray clear pump 1 is live, yet `packetBridge` is idle and empty. -/
theorem stray_pump_unregistered :
    ¬ ∀ as s, run step initial as = some s → Owned s := by
  intro h
  have howned := h strayRun _ (Option.some_get (by decide)).symm
  have hr := howned 1 (by decide)
  exact absurd hr.socket (by decide)

end FoloXray.PacketBridge
