import FoloXray.PacketBridge.Steps

/-! # The wiring invariant of the bridge

In every run, without any condition on the schedule, the four handles of `packetBridge`
belong to one Start call, a Stop that captured a bridge has cancelled it, and a done channel
is filled only after its own pump sent.
-/

namespace FoloXray.PacketBridge
open Wrapper Foundation

def Issued (s : State) (i : ℕ) : Prop :=
  s.start i = .spawning ∨ s.start i = .returned .ok

/-- All handles of `packetBridge` are those of Start call `i`, which took generation `g`. -/
structure Registered (b : Bridge) (g : UInt64) (i : ℕ) : Prop where
  socket : b.socket = some i
  cancel : b.cancel = some i
  done : b.done = some i
  generation : b.generation = g
  state : b.state = .running

theorem Registered.setError {b : Bridge} {g : UInt64} {i : ℕ} (h : Registered b g i) (e : ErrorSlot) :
    Registered { b with error := e } g i :=
  ⟨h.socket, h.cancel, h.done, h.generation, h.state⟩

structure Wired (s : State) : Prop where
  registered : ∀ i, s.bridge.socket = some i →
    Registered s.bridge (s.generation i) i ∧ Issued s i
  spawning : ∀ i, s.start i = .spawning → s.pump i = .absent
  spawned : ∀ i, s.pump i ≠ .absent ↔ s.start i = .returned .ok
  closing : ∀ j i d, s.stop j = .closing i d →
    d = some i ∧ s.cancelled i = true ∧ Issued s i
  receiving : ∀ j i d, s.stop j = .receiving i d →
    d = i ∧ s.cancelled i = true ∧ s.closed i = true ∧ Issued s i
  clearing : ∀ j i, s.stop j = .clearing i → s.cancelled i = true
  channel : ∀ i, s.channel i ≠ none → hasSent (s.pump i) = true

theorem wired_initial : Wired initial := by
  constructor <;> simp [initial, initialBridge, Issued, hasSent]

/-- The pump steps that leave every shared handle alone keep the invariant: the pump stays
present, and nothing new appears on a channel. -/
theorem Wired.of_pump {s t : State} {i : ℕ} {p : PumpPhase} (hw : Wired s)
    (hpresent : s.pump i ≠ .absent) (hp : p ≠ .absent)
    (hpump : t.pump = Function.update s.pump i p)
    (hsent : t.channel i ≠ none → hasSent p = true)
    (hchannel : ∀ k, k ≠ i → t.channel k = s.channel k)
    (hsocket : t.bridge.socket = s.bridge.socket) (hcancel : t.bridge.cancel = s.bridge.cancel)
    (hdone : t.bridge.done = s.bridge.done)
    (hbridge : t.bridge.generation = s.bridge.generation)
    (hstate : t.bridge.state = s.bridge.state)
    (hclosed : ∀ k, s.closed k = true → t.closed k = true)
    (hcancelled : t.cancelled = s.cancelled) (hgeneration : t.generation = s.generation)
    (hstart : t.start = s.start) (hstop : t.stop = s.stop) : Wired t := by
  have hissued (k : ℕ) : Issued t k ↔ Issued s k := by simp only [Issued, hstart]
  constructor
  · intro k hk
    rw [hsocket] at hk
    obtain ⟨hr, hi⟩ := hw.registered k hk
    exact ⟨⟨hsocket.trans hr.socket, hcancel.trans hr.cancel, hdone.trans hr.done,
      by rw [hbridge, hgeneration, hr.generation], hstate.trans hr.state⟩, (hissued k).mpr hi⟩
  · intro k hk
    rw [hstart] at hk
    have hki : k ≠ i := by
      rintro rfl
      exact hpresent (hw.spawning k hk)
    rw [hpump, Function.update_of_ne hki]
    exact hw.spawning k hk
  · intro k
    rw [hstart, ← hw.spawned k, hpump]
    by_cases hki : k = i
    · subst hki
      simp [hp, hpresent]
    · rw [Function.update_of_ne hki]
  · intro j k d hj
    rw [hstop] at hj
    obtain ⟨hd, hc, hi⟩ := hw.closing j k d hj
    exact ⟨hd, by rw [hcancelled]; exact hc, (hissued k).mpr hi⟩
  · intro j k d hj
    rw [hstop] at hj
    obtain ⟨hd, hc, hcl, hi⟩ := hw.receiving j k d hj
    exact ⟨hd, by rw [hcancelled]; exact hc, hclosed k hcl, (hissued k).mpr hi⟩
  · intro j k hj
    rw [hstop] at hj
    rw [hcancelled]
    exact hw.clearing j k hj
  · intro k hk
    rw [hpump]
    by_cases hki : k = i
    · subst hki
      rw [Function.update_self]
      exact hsent hk
    · rw [Function.update_of_ne hki]
      rw [hchannel k hki] at hk
      exact hw.channel k hk

theorem inEcho_ne_absent {p : PumpPhase} (h : inEcho p = true) : p ≠ .absent := by
  rintro rfl
  cases h

theorem inEcho_not_hasSent {p : PumpPhase} (h : inEcho p = true) : hasSent p = false := by
  cases p <;> first | rfl | cases h

theorem EchoStep.wired {s t : State} {i : ℕ} (h : EchoStep s t i) (hw : Wired s) : Wired t := by
  obtain ⟨p, hp, hpump⟩ := h.next
  have habsent : p ≠ .absent := by
    rcases hp with hp | ⟨err, rfl⟩
    · exact inEcho_ne_absent hp
    · exact PumpPhase.noConfusion
  have hempty : t.channel i = none := by
    rw [h.channel]
    by_contra hne
    have := hw.channel i hne
    rw [inEcho_not_hasSent h.active] at this
    cases this
  exact hw.of_pump (inEcho_ne_absent h.active) habsent hpump (fun hne => absurd hempty hne)
    (fun k _ => by rw [h.channel]) h.socket h.cancel h.done h.bridgeGeneration h.state
    (fun k hk => by rw [h.closed]; exact hk) h.cancelled h.generation h.start h.stop

theorem Wired.unregister {s : State} (hw : Wired s) (e : ErrorSlot) :
    Wired { s with bridge := { s.bridge.unregister with error := e } } where
  registered := by
    intro i hi
    cases hi
  spawning := hw.spawning
  spawned := hw.spawned
  closing := hw.closing
  receiving := hw.receiving
  clearing := hw.clearing
  channel := hw.channel

/-- A Start call that has not registered may move between its early phases freely. -/
theorem Wired.setStart {s : State} {i : ℕ} {p : StartPhase} (hw : Wired s)
    (hi : ¬ Issued s i) (hp : p ≠ .spawning ∧ p ≠ .returned .ok) (b : State)
    (hb : b = { s with start := Function.update s.start i p }) : Wired b := by
  subst hb
  have hissued (k : ℕ) : Issued { s with start := Function.update s.start i p } k ↔
      Issued s k := by
    by_cases hk : k = i
    · subst hk
      simp [Issued, hp.1, hp.2] at hi ⊢
      exact hi
    · simp [Issued, hk]
  constructor
  · intro k hk
    exact ⟨(hw.registered k hk).1, (hissued k).mpr (hw.registered k hk).2⟩
  · intro k hk
    by_cases hki : k = i
    · subst hki
      simp [hp.1] at hk
    · exact hw.spawning k (by simpa [hki] using hk)
  · intro k
    rw [hw.spawned k]
    by_cases hki : k = i
    · subst hki
      simp only [Function.update_self, hp.2, iff_false]
      exact fun h => hi (.inr h)
    · simp [hki]
  · intro j k d hj
    obtain ⟨hd, hc, hk⟩ := hw.closing j k d hj
    exact ⟨hd, hc, (hissued k).mpr hk⟩
  · intro j k d hj
    obtain ⟨hd, hc, hcl, hk⟩ := hw.receiving j k d hj
    exact ⟨hd, hc, hcl, (hissued k).mpr hk⟩
  · exact hw.clearing
  · exact hw.channel

theorem not_issued_of_start {s : State} {i : ℕ} {p : StartPhase} (h : s.start i = p)
    (hp : p ≠ .spawning ∧ p ≠ .returned .ok) : ¬ Issued s i := by
  rintro (hs | hs)
  · exact hp.1 (h.symm.trans hs)
  · exact hp.2 (h.symm.trans hs)

theorem Wired.register {s : State} {i : ℕ} (hw : Wired s) (hi : s.start i = .locking) :
    Wired { s with
      bridge := s.bridge.register i
      generation := Function.update s.generation i (s.bridge.generation + 1)
      start := Function.update s.start i .spawning } := by
  have hnew : ¬ Issued s i := not_issued_of_start hi ⟨by simp, by simp⟩
  have hkeep {k : ℕ} (h : Issued s k) : Function.update s.start i .spawning k = .spawning ∨
      Function.update s.start i .spawning k = .returned .ok := by
    have hk : k ≠ i := by
      rintro rfl
      exact hnew h
    simpa [Issued, hk] using h
  constructor
  · intro k hk
    obtain rfl : i = k := Option.some.inj hk
    exact ⟨⟨rfl, rfl, rfl, by simp [Bridge.register], rfl⟩, .inl (by simp)⟩
  · intro k hk
    by_cases hki : k = i
    · subst hki
      by_contra hne
      have := (hw.spawned k).mp hne
      rw [hi] at this
      cases this
    · exact hw.spawning k (by simpa [hki] using hk)
  · intro k
    rw [hw.spawned k]
    by_cases hki : k = i
    · subst hki
      simp [hi]
    · simp [hki]
  · intro j k d hj
    obtain ⟨hd, hc, hk⟩ := hw.closing j k d hj
    exact ⟨hd, hc, hkeep hk⟩
  · intro j k d hj
    obtain ⟨hd, hc, hcl, hk⟩ := hw.receiving j k d hj
    exact ⟨hd, hc, hcl, hkeep hk⟩
  · exact hw.clearing
  · exact hw.channel

/-- `go` turns the spawning call into a returned one with a present pump. -/
theorem Wired.spawn {s : State} {i : ℕ} (hw : Wired s) (hi : s.start i = .spawning) :
    Wired { s with
      pump := Function.update s.pump i .select
      start := Function.update s.start i (.returned .ok) } := by
  have hissued (k : ℕ) : (Function.update s.start i (.returned .ok) k = .spawning ∨
      Function.update s.start i (.returned .ok) k = .returned .ok) ↔ Issued s k := by
    by_cases hk : k = i
    · subst hk
      simp [Issued, hi]
    · simp [Issued, hk]
  constructor
  · intro k hk
    exact ⟨(hw.registered k hk).1, (hissued k).mpr (hw.registered k hk).2⟩
  · intro k hk
    by_cases hki : k = i
    · subst hki
      simp at hk
    · simp only [Function.update_of_ne hki] at hk ⊢
      exact hw.spawning k hk
  · intro k
    by_cases hki : k = i
    · subst hki
      simp
    · simp only [Function.update_of_ne hki]
      exact hw.spawned k
  · intro j k d hj
    obtain ⟨hd, hc, hk⟩ := hw.closing j k d hj
    exact ⟨hd, hc, (hissued k).mpr hk⟩
  · intro j k d hj
    obtain ⟨hd, hc, hcl, hk⟩ := hw.receiving j k d hj
    exact ⟨hd, hc, hcl, (hissued k).mpr hk⟩
  · exact hw.clearing
  · intro k hk
    have hsent := hw.channel k hk
    have hki : k ≠ i := by
      rintro rfl
      rw [hw.spawning k hi] at hsent
      cases hsent
    simpa only [Function.update_of_ne hki] using hsent

/-- What the phase of a Stop call promises about the bridge it captured. -/
def Captured (s : State) : StopPhase → Prop
  | .closing i d => d = some i ∧ s.cancelled i = true ∧ Issued s i
  | .receiving i d => d = i ∧ s.cancelled i = true ∧ s.closed i = true ∧ Issued s i
  | .clearing i => s.cancelled i = true
  | _ => True

theorem Wired.captured {s : State} (hw : Wired s) (j : ℕ) : Captured s (s.stop j) := by
  cases h : s.stop j with
  | closing i d => exact hw.closing j i d h
  | receiving i d => exact hw.receiving j i d h
  | clearing i => exact hw.clearing j i h
  | ready => trivial
  | returned c => trivial

/-- A Stop step changes its own phase, cancels or closes sockets and empties channels. -/
theorem Wired.of_stop {s t : State} {j : ℕ} {p : StopPhase} (hw : Wired s)
    (hstop : t.stop = Function.update s.stop j p) (hp : Captured t p)
    (hregistered : ∀ i, t.bridge.socket = some i →
      Registered t.bridge (t.generation i) i ∧ Issued s i)
    (hclosed : ∀ k, s.closed k = true → t.closed k = true)
    (hcancelled : ∀ k, s.cancelled k = true → t.cancelled k = true)
    (hchannel : ∀ k, t.channel k ≠ none → s.channel k ≠ none)
    (hstart : t.start = s.start) (hpump : t.pump = s.pump) : Wired t := by
  have hissued (k : ℕ) : Issued t k ↔ Issued s k := by simp only [Issued, hstart]
  have hcaptured (l : ℕ) : Captured t (t.stop l) := by
    by_cases hl : l = j
    · subst hl
      rw [hstop, Function.update_self]
      exact hp
    · rw [hstop, Function.update_of_ne hl]
      have hold := hw.captured l
      cases h : s.stop l with
      | closing i d =>
        rw [h] at hold
        exact ⟨hold.1, hcancelled i hold.2.1, (hissued i).mpr hold.2.2⟩
      | receiving i d =>
        rw [h] at hold
        exact ⟨hold.1, hcancelled i hold.2.1, hclosed i hold.2.2.1, (hissued i).mpr hold.2.2.2⟩
      | clearing i =>
        rw [h] at hold
        exact hcancelled i hold
      | ready => trivial
      | returned c => trivial
  constructor
  · exact fun i hi => ⟨(hregistered i hi).1, (hissued i).mpr (hregistered i hi).2⟩
  · intro k hk
    rw [hpump]
    exact hw.spawning k (hstart ▸ hk)
  · intro k
    rw [hpump, hstart]
    exact hw.spawned k
  · intro l i d hl
    have := hcaptured l
    rwa [hl] at this
  · intro l i d hl
    have := hcaptured l
    rwa [hl] at this
  · intro l i hl
    have := hcaptured l
    rwa [hl] at this
  · intro k hk
    rw [hpump]
    exact hw.channel k (hchannel k hk)

theorem Wired.startLocked {s t : State} {i : ℕ} (hw : Wired s)
    (h : startLocked s i = some t) : Wired t := by
  obtain ⟨hi, rfl⟩ | ⟨hi, rfl⟩ | ⟨hi, -, rfl⟩ := startLocked_some h
  · have hs := hw.setStart (p := .returned .invalidArgument)
      (not_issued_of_start hi ⟨by simp, by simp⟩) ⟨by simp, by simp⟩ _ rfl
    exact ⟨fun k hk => ⟨(hs.registered k hk).1.setError _, (hs.registered k hk).2⟩,
      hs.spawning, hs.spawned, hs.closing, hs.receiving,
      hs.clearing, hs.channel⟩
  · exact hw.setStart (not_issued_of_start hi ⟨by simp, by simp⟩) ⟨by simp, by simp⟩ _ rfl
  · exact hw.register hi

theorem Wired.startTail {s t : State} {i : ℕ} (hw : Wired s)
    (h : startTail s i = some t) : Wired t := by
  obtain ⟨hi, rfl⟩ | ⟨hi, rfl⟩ := startTail_some h
  · have hs := hw.setStart (p := .returned .invalidState)
      (not_issued_of_start hi ⟨by simp, by simp⟩) ⟨by simp, by simp⟩ _ rfl
    refine ⟨hs.registered, hs.spawning, hs.spawned, hs.closing, ?_, hs.clearing, hs.channel⟩
    intro j k d hj
    obtain ⟨hd, hc, hcl, hk⟩ := hs.receiving j k d hj
    refine ⟨hd, hc, ?_, hk⟩
    by_cases hki : k = i
    · subst hki
      simp
    · simpa [hki] using hcl
  · exact hw.spawn hi

theorem Wired.stopLocked {s t : State} {j : ℕ} (hw : Wired s)
    (h : stopLocked s j = some t) : Wired t := by
  obtain ⟨-, hnone, rfl⟩ | ⟨i, c, -, hsocket, hcancel, rfl⟩ := stopLocked_some h
  · refine hw.of_stop (p := .returned .ok) rfl trivial ?_ (fun _ h => h) (fun _ h => h)
      (fun _ h => h) rfl rfl
    intro i hi
    exact absurd (hnone.symm.trans hi) (by simp)
  · obtain ⟨hr, hi⟩ := hw.registered i hsocket
    obtain rfl : c = i := Option.some.inj (hcancel.symm.trans hr.cancel)
    refine hw.of_stop (p := .closing c s.bridge.done) rfl
      ⟨hr.done, Function.update_self .., hi⟩ ?_ (fun _ h => h) ?_ (fun _ h => h) rfl rfl
    · exact hw.registered
    · intro k hk
      by_cases hkc : k = c
      · subst hkc
        exact Function.update_self ..
      · simpa [hkc] using hk

theorem Wired.stopClose {s t : State} {j : ℕ} (hw : Wired s)
    (h : stopClose s j = some t) : Wired t := by
  obtain ⟨i, d, hj, rfl⟩ := stopClose_some h
  obtain ⟨rfl, hc, hi⟩ := hw.closing j i d hj
  refine hw.of_stop (p := .receiving i i) rfl ⟨rfl, hc, Function.update_self .., hi⟩ ?_ ?_
    (fun _ h => h) (fun _ h => h) rfl rfl
  · exact hw.registered
  · intro k hk
    by_cases hki : k = i
    · subst hki
      exact Function.update_self ..
    · simpa [hki] using hk

theorem Wired.stopReceive {s t : State} {j : ℕ} (hw : Wired s)
    (h : stopReceive s j = some t) : Wired t := by
  obtain ⟨i, d, hj, -, rfl⟩ := stopReceive_some h
  refine hw.of_stop (p := .clearing i) rfl (hw.receiving j i d hj).2.1 ?_ (fun _ h => h)
    (fun _ h => h) ?_ rfl rfl
  · exact hw.registered
  · intro k hk
    by_cases hkd : k = d
    · subst hkd
      simp at hk
    · simpa [hkd] using hk

theorem Wired.stopClear {s t : State} {j : ℕ} (hw : Wired s)
    (h : stopClear s j = some t) : Wired t := by
  obtain ⟨i, -, rfl⟩ := stopClear_some h
  refine hw.of_stop (p := .returned .ok) rfl trivial ?_ (fun _ h => h) (fun _ h => h)
    (fun _ h => h) rfl rfl
  intro k hk
  cases hk

theorem Wired.pumpClose {s t : State} {i : ℕ} (hw : Wired s)
    (h : pumpClose s i = some t) : Wired t := by
  obtain ⟨err, hp, rfl⟩ := pumpClose_some h
  refine hw.of_pump (p := .sending err) (by simp [hp]) (by simp) rfl ?_ (fun _ _ => rfl)
    rfl rfl rfl rfl rfl ?_ rfl rfl rfl rfl
  · intro hne
    have := hw.channel i hne
    rw [hp] at this
    cases this
  · intro k hk
    by_cases hki : k = i
    · subst hki
      exact Function.update_self ..
    · simpa [setPump, hki] using hk

theorem Wired.pumpSend {s t : State} {i : ℕ} (hw : Wired s)
    (h : pumpSend s i = some t) : Wired t := by
  obtain ⟨err, hp, -, rfl⟩ := pumpSend_some h
  exact hw.of_pump (p := .clearing err) (by simp [hp]) (by simp) rfl (fun _ => rfl)
    (fun k hk => Function.update_of_ne hk ..) rfl rfl rfl rfl rfl (fun _ h => h) rfl rfl rfl rfl

theorem Wired.pumpClear {s t : State} {i : ℕ} (hw : Wired s)
    (h : pumpClear s i = some t) : Wired t := by
  obtain ⟨err, hp, hcases⟩ := pumpClear_some h
  have hexit : Wired (setPump s i .exited) :=
    hw.of_pump (p := .exited) (by simp [hp]) (by simp) rfl (fun _ => rfl) (fun _ _ => rfl)
      rfl rfl rfl rfl rfl (fun _ h => h) rfl rfl rfl rfl
  obtain ⟨-, rfl⟩ | ⟨-, rfl⟩ := hcases
  · exact hexit
  · exact hexit.unregister _

theorem Wired.step {s t : State} {a : Action} (hw : Wired s) (h : step s a = some t) :
    Wired t := by
  cases a with
  | startOpen i accepted =>
    obtain ⟨hi, rfl⟩ := startOpen_some h
    refine hw.setStart (not_issued_of_start hi ⟨by simp, by simp⟩) ?_ _ rfl
    cases accepted <;> simp
  | startLocked i => exact hw.startLocked h
  | startTail i => exact hw.startTail h
  | stopLocked j => exact hw.stopLocked h
  | stopClose j => exact hw.stopClose h
  | stopReceive j => exact hw.stopReceive h
  | stopClear j => exact hw.stopClear h
  | pumpSelect i => exact (pumpSelect_some h).wired hw
  | pumpRead i packet => exact (pumpRead_some h).wired hw
  | pumpCountIn i => exact (pumpCountIn_some h).wired hw
  | pumpWrite i written => exact (pumpWrite_some h).wired hw
  | pumpCountOut i => exact (pumpCountOut_some h).wired hw
  | pumpClose i => exact hw.pumpClose h
  | pumpSend i => exact hw.pumpSend h
  | pumpClear i => exact hw.pumpClear h

theorem wired_of_run {s : State} {as : List Action} (h : run step initial as = some s) :
    Wired s :=
  run_invariant (fun _ _ _ hw h => hw.step h) wired_initial h

end FoloXray.PacketBridge
