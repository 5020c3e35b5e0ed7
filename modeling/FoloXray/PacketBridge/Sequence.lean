import FoloXray.PacketBridge.Ownership

/-! # Runs whose calls do not overlap

A Start or Stop call begins only when no other call is under way; the pumps still run whenever they
like.  In such runs the pump inside `Echo`, if there is one, is the pump of the registered bridge,
because a Stop clears `packetBridge` only after it received what that pump sends on leaving `Echo`.
-/

namespace FoloXray.PacketBridge
open Wrapper Foundation

inductive Call where
  | start (i : ℕ)
  | stop (j : ℕ)
  deriving DecidableEq, Repr

def StartPhase.busy : StartPhase → Bool
  | .ready | .returned _ => false
  | _ => true

def StopPhase.busy : StopPhase → Bool
  | .ready | .returned _ => false
  | _ => true

def busy (s : State) : Call → Bool
  | .start i => (s.start i).busy
  | .stop j => (s.stop j).busy

/-- A call begins only when no other is under way. -/
def Sequential (s : State) : Action → Prop
  | .startOpen _ _ | .stopLocked _ => ∀ c, busy s c = false
  | _ => True

def target : StopPhase → Option ℕ
  | .closing i _ | .receiving i _ | .clearing i => some i
  | _ => none

theorem busy_of_target {p : StopPhase} {i : ℕ} (h : target p = some i) : p.busy = true := by
  cases p with
  | closing | receiving | clearing => rfl
  | ready | returned => cases h

structure Sequenced (s : State) : Prop where
  wired : Wired s
  alone : ∀ c d, busy s c = true → busy s d = true → c = d
  current : ∀ i, s.start i = .spawning ∨ inEcho (s.pump i) = true → s.bridge.socket = some i
  captured : ∀ j i, target (s.stop j) = some i →
    s.bridge.socket = some i ∨ s.bridge.socket = none
  sent : ∀ j i, s.stop j = .clearing i → hasSent (s.pump i) = true

theorem sequenced_initial : Sequenced initial where
  wired := wired_initial
  alone := by
    intro c d hc
    cases c <;> cases hc
  current := by simp [initial, inEcho]
  captured := by simp [initial, target]
  sent := by simp [initial]

section Alone

variable {s t : State}

theorem alone_mono (h : ∀ c d, busy s c = true → busy s d = true → c = d)
    (hbusy : ∀ c, busy t c = true → busy s c = true) :
    ∀ c d, busy t c = true → busy t d = true → c = d :=
  fun c d hc hd => h c d (hbusy c hc) (hbusy d hd)

theorem alone_begin (c₀ : Call) (h : ∀ c, busy s c = false)
    (hbusy : ∀ c, c ≠ c₀ → busy t c = busy s c) :
    ∀ c d, busy t c = true → busy t d = true → c = d := by
  have honly : ∀ c, busy t c = true → c = c₀ := by
    intro c hc
    by_contra hne
    rw [hbusy c hne, h c] at hc
    cases hc
  intro c d hc hd
  rw [honly c hc, honly d hd]

theorem busy_start {i : ℕ} {p : StartPhase} {c : Call}
    (hstart : t.start = Function.update s.start i p) (hstop : t.stop = s.stop)
    (hc : c ≠ .start i) : busy t c = busy s c := by
  cases c with
  | start k =>
    have hk : k ≠ i := fun h => hc (by rw [h])
    simp [busy, hstart, hk]
  | stop j => simp [busy, hstop]

theorem busy_stop {j : ℕ} {p : StopPhase} {c : Call}
    (hstop : t.stop = Function.update s.stop j p) (hstart : t.start = s.start)
    (hc : c ≠ .stop j) : busy t c = busy s c := by
  cases c with
  | start k => simp [busy, hstart]
  | stop k =>
    have hk : k ≠ j := fun h => hc (by rw [h])
    simp [busy, hstop, hk]

theorem busy_mono_start {i : ℕ} {p : StartPhase} (hstart : t.start = Function.update s.start i p)
    (hstop : t.stop = s.stop) (hi : (s.start i).busy = true) (c : Call)
    (hc : busy t c = true) : busy s c = true := by
  by_cases h : c = .start i
  · rw [h]
    exact hi
  · rwa [← busy_start hstart hstop h]

theorem busy_mono_stop {j : ℕ} {p : StopPhase} (hstop : t.stop = Function.update s.stop j p)
    (hstart : t.start = s.start) (hj : (s.stop j).busy = true) (c : Call)
    (hc : busy t c = true) : busy s c = true := by
  by_cases h : c = .stop j
  · rw [h]
    exact hj
  · rwa [← busy_stop hstop hstart h]

/-- While a Start call is under way no Stop call has captured anything. -/
theorem Sequenced.no_target (hs : Sequenced s) {i : ℕ} (hi : (s.start i).busy = true) (j k : ℕ) :
    target (s.stop j) ≠ some k := by
  intro hj
  have hsame := hs.alone (.start i) (.stop j) hi (busy_of_target hj)
  cases hsame

end Alone

section Step

variable {s t : State} {i j : ℕ}

/-- A pump moves on: it stays outside `Echo` unless it was inside, and it stays past its send. -/
theorem Sequenced.of_pump {p : PumpPhase} (hs : Sequenced s) (hw : Wired t)
    (hpump : t.pump = Function.update s.pump i p) (hstart : t.start = s.start)
    (hstop : t.stop = s.stop) (hecho : inEcho p = true → inEcho (s.pump i) = true)
    (hsent : hasSent (s.pump i) = true → hasSent p = true)
    (hsocket : t.bridge.socket = s.bridge.socket) : Sequenced t where
  wired := hw
  alone := by
    apply alone_mono hs.alone
    intro c hc
    cases c <;> simpa [busy, hstart, hstop] using hc
  current := by
    intro k hk
    rw [hsocket]
    apply hs.current k
    rw [hstart, hpump] at hk
    by_cases hki : k = i
    · subst hki
      rw [Function.update_self] at hk
      exact hk.imp_right hecho
    · rwa [Function.update_of_ne hki] at hk
  captured := by
    intro l k hl
    rw [hsocket]
    rw [hstop] at hl
    exact hs.captured l k hl
  sent := by
    intro l k hl
    rw [hstop] at hl
    rw [hpump]
    by_cases hki : k = i
    · subst hki
      rw [Function.update_self]
      exact hsent (hs.sent l k hl)
    · rw [Function.update_of_ne hki]
      exact hs.sent l k hl

theorem EchoStep.sequenced (h : EchoStep s t i) (hs : Sequenced s) : Sequenced t := by
  rcases h.next with ⟨p, -, hpump⟩
  apply hs.of_pump (h.wired hs.wired) hpump h.start h.stop (fun _ => h.active) _ h.socket
  intro hsent
  rw [inEcho_not_hasSent h.active] at hsent
  cases hsent

/-- The registration is dropped when neither a spawning call nor a pump inside `Echo` is left. -/
theorem Sequenced.unregister (hs : Sequenced s) (e : ErrorSlot)
    (hnone : ∀ k, ¬ (s.start k = .spawning ∨ inEcho (s.pump k) = true)) :
    Sequenced { s with bridge := { s.bridge.unregister with error := e } } where
  wired := hs.wired.unregister e
  alone := hs.alone
  current := fun k hk => absurd hk (hnone k)
  captured := fun _ _ _ => .inr rfl
  sent := hs.sent

theorem Sequenced.of_start {p : StartPhase} (hs : Sequenced s) (hw : Wired t)
    (halone : ∀ c d, busy t c = true → busy t d = true → c = d)
    (hstart : t.start = Function.update s.start i p) (hp : p ≠ .spawning)
    (hstop : t.stop = s.stop) (hpump : t.pump = s.pump)
    (hsocket : t.bridge.socket = s.bridge.socket) : Sequenced t where
  wired := hw
  alone := halone
  current := by
    intro k hk
    rw [hsocket]
    rw [hstart, hpump] at hk
    exact hs.current k (spawning_mono hp hk)
  captured := by
    rw [hstop, hsocket]
    exact hs.captured
  sent := by
    rw [hstop, hpump]
    exact hs.sent

theorem Sequenced.startOpen {accepted : Bool} (hs : Sequenced s)
    (hseq : Sequential s (.startOpen i accepted)) (h : startOpen s i accepted = some t) :
    Sequenced t := by
  have hw : Wired t := hs.wired.step (a := .startOpen i accepted) h
  rcases startOpen_some h with ⟨hi, rfl⟩
  apply hs.of_start hw _ rfl _ rfl rfl rfl
  · apply alone_begin (.start i) hseq
    intro c hc
    exact busy_start rfl rfl hc
  · cases accepted <;> simp

theorem Sequenced.startLocked (hs : Sequenced s) (h : startLocked s i = some t) :
    Sequenced t := by
  have hw : Wired t := hs.wired.startLocked h
  rcases startLocked_some h with ⟨hi, rfl⟩ | ⟨hi, rfl⟩ | ⟨hi, hnone, rfl⟩
  · have hbusy : (s.start i).busy = true := by simp [hi, StartPhase.busy]
    exact hs.of_start hw (alone_mono hs.alone (busy_mono_start rfl rfl hbusy)) rfl (by simp) rfl
      rfl rfl
  · have hbusy : (s.start i).busy = true := by simp [hi, StartPhase.busy]
    exact hs.of_start hw (alone_mono hs.alone (busy_mono_start rfl rfl hbusy)) rfl (by simp) rfl
      rfl rfl
  · have hbusy : (s.start i).busy = true := by simp [hi, StartPhase.busy]
    constructor
    · exact hw
    · exact alone_mono hs.alone (busy_mono_start rfl rfl hbusy)
    · intro k hk
      by_cases hki : k = i
      · subst hki
        rfl
      · have hold := hs.current k (by simpa [hki] using hk)
        rw [hnone] at hold
        cases hold
    · exact fun l k hl => absurd hl (hs.no_target hbusy l k)
    · exact hs.sent

theorem Sequenced.startTail (hs : Sequenced s) (h : startTail s i = some t) : Sequenced t := by
  have hw : Wired t := hs.wired.startTail h
  rcases startTail_some h with ⟨hi, rfl⟩ | ⟨hi, rfl⟩
  · have hbusy : (s.start i).busy = true := by simp [hi, StartPhase.busy]
    exact hs.of_start hw (alone_mono hs.alone (busy_mono_start rfl rfl hbusy)) rfl (by simp) rfl
      rfl rfl
  · have hbusy : (s.start i).busy = true := by simp [hi, StartPhase.busy]
    constructor
    · exact hw
    · exact alone_mono hs.alone (busy_mono_start rfl rfl hbusy)
    · intro k hk
      by_cases hki : k = i
      · subst hki
        exact hs.current k (.inl hi)
      · exact hs.current k (by simpa [hki] using hk)
    · exact hs.captured
    · intro l k hl
      have hsent := hs.sent l k hl
      have hki : k ≠ i := by
        rintro rfl
        rw [hs.wired.spawning k hi] at hsent
        cases hsent
      simpa [hki] using hsent

/-- A Stop call moves on; what it captured is still registered or nothing is. -/
theorem Sequenced.of_stop {p : StopPhase} (hs : Sequenced s) (hw : Wired t)
    (halone : ∀ c d, busy t c = true → busy t d = true → c = d)
    (hstop : t.stop = Function.update s.stop j p)
    (hcaptured : ∀ k, target p = some k → s.bridge.socket = some k ∨ s.bridge.socket = none)
    (hsent : ∀ k, p = .clearing k → hasSent (s.pump k) = true)
    (hstart : t.start = s.start) (hpump : t.pump = s.pump)
    (hsocket : t.bridge.socket = s.bridge.socket) : Sequenced t where
  wired := hw
  alone := halone
  current := by
    rw [hstart, hpump, hsocket]
    exact hs.current
  captured := by
    intro l k hl
    rw [hsocket]
    rw [hstop] at hl
    by_cases hlj : l = j
    · subst hlj
      rw [Function.update_self] at hl
      exact hcaptured k hl
    · rw [Function.update_of_ne hlj] at hl
      exact hs.captured l k hl
  sent := by
    intro l k hl
    rw [hpump]
    rw [hstop] at hl
    by_cases hlj : l = j
    · subst hlj
      rw [Function.update_self] at hl
      exact hsent k hl
    · rw [Function.update_of_ne hlj] at hl
      exact hs.sent l k hl

theorem Sequenced.stopLocked (hs : Sequenced s) (hseq : Sequential s (.stopLocked j))
    (h : stopLocked s j = some t) : Sequenced t := by
  have hw : Wired t := hs.wired.stopLocked h
  rcases stopLocked_some h with ⟨-, -, rfl⟩ | ⟨i, c, -, hsocket, -, rfl⟩
  · apply hs.of_stop hw _ rfl _ _ rfl rfl rfl
    · apply alone_begin (.stop j) hseq
      intro c hc
      exact busy_stop rfl rfl hc
    · simp [target]
    · simp
  · apply hs.of_stop hw _ rfl _ _ rfl rfl rfl
    · apply alone_begin (.stop j) hseq
      intro c hc
      exact busy_stop rfl rfl hc
    · simp [target, hsocket]
    · simp

theorem Sequenced.stopClose (hs : Sequenced s) (h : stopClose s j = some t) : Sequenced t := by
  have hw : Wired t := hs.wired.stopClose h
  rcases stopClose_some h with ⟨i, d, hj, rfl⟩
  have hbusy : (s.stop j).busy = true := by simp [hj, StopPhase.busy]
  rcases hs.wired.closing j i d hj with ⟨rfl, -, -⟩
  apply hs.of_stop hw (alone_mono hs.alone (busy_mono_stop rfl rfl hbusy)) rfl _ _ rfl rfl rfl
  · exact fun k hk => hs.captured j k (by simpa [hj, target] using hk)
  · simp

theorem Sequenced.stopReceive (hs : Sequenced s) (h : stopReceive s j = some t) :
    Sequenced t := by
  have hw : Wired t := hs.wired.stopReceive h
  rcases stopReceive_some h with ⟨i, d, hj, hfull, rfl⟩
  have hbusy : (s.stop j).busy = true := by simp [hj, StopPhase.busy]
  rcases hs.wired.receiving j i d hj with ⟨rfl, -, -, -⟩
  apply hs.of_stop hw (alone_mono hs.alone (busy_mono_stop rfl rfl hbusy)) rfl _ _ rfl rfl rfl
  · exact fun k hk => hs.captured j k (by simpa [hj, target] using hk)
  · intro k hk
    cases hk
    exact hs.wired.channel d hfull

/-- The captured pump has left `Echo` by the time its Stop clears, and no other pump is in it. -/
theorem Sequenced.none_at_clear (hs : Sequenced s) (hj : s.stop j = .clearing i) (k : ℕ) :
    ¬ (s.start k = .spawning ∨ inEcho (s.pump k) = true) := by
  intro hk
  have htarget : target (s.stop j) = some i := by simp [hj, target]
  have hsocket := hs.current k hk
  rcases hk with hstart | hecho
  · exact hs.no_target (i := k) (by simp [hstart, StartPhase.busy]) j i htarget
  · have hik : i = k := by
      rcases hs.captured j i htarget with h | h
      · exact Option.some.inj (h.symm.trans hsocket)
      · rw [h] at hsocket
        cases hsocket
    have hsent := hs.sent j i hj
    rw [hik, inEcho_not_hasSent hecho] at hsent
    cases hsent

theorem Sequenced.stopClear (hs : Sequenced s) (h : stopClear s j = some t) : Sequenced t := by
  rcases stopClear_some h with ⟨i, hj, rfl⟩
  have hbusy : (s.stop j).busy = true := by simp [hj, StopPhase.busy]
  have hdropped := hs.unregister clearErrorLocked (hs.none_at_clear hj)
  have hw : Wired _ := hs.wired.stopClear h
  apply hdropped.of_stop hw (alone_mono hs.alone (busy_mono_stop rfl rfl hbusy)) rfl _ _ rfl rfl rfl
  · simp [target]
  · simp

/-- A pump whose exit section finds its own generation is the last one that was registered. -/
theorem Sequenced.none_at_exit (hs : Sequenced s) (hd : Distinct s) {err : EchoError}
    (hp : s.pump i = .clearing err) (hgen : s.bridge.generation = s.generation i) (k : ℕ) :
    ¬ (s.start k = .spawning ∨ inEcho (s.pump k) = true) := by
  intro hk
  have hi : s.start i = .returned .ok := (hs.wired.spawned i).mp (by simp [hp])
  rcases hs.wired.registered k (hs.current k hk) with ⟨hr, hissued⟩
  have hki : k = i := hd k i hissued (.inr hi) (hr.generation.symm.trans hgen)
  rw [hki, hi, hp] at hk
  rcases hk with h | h <;> cases h

theorem Sequenced.pumpClear (hs : Sequenced s) (hd : Distinct s) (h : pumpClear s i = some t) :
    Sequenced t := by
  have hw : Wired t := hs.wired.pumpClear h
  rcases pumpClear_some h with ⟨err, hp, ⟨-, rfl⟩ | ⟨hgen, rfl⟩⟩
  · exact hs.of_pump hw rfl rfl rfl (by simp [inEcho]) (fun _ => rfl) rfl
  · have hdropped := hs.unregister (if s.cancelled i then s.bridge.error
      else (setErrorLocked .internalError "packet bridge terminated").1) (hs.none_at_exit hd hp hgen)
    exact hdropped.of_pump hw rfl rfl rfl (by simp [inEcho]) (fun _ => rfl) rfl

/-- Every step of a run whose calls do not overlap keeps the invariant. -/
theorem Sequenced.step {a : Action} (hs : Sequenced s) (hd : Distinct s) (hseq : Sequential s a)
    (h : step s a = some t) : Sequenced t := by
  have hw : Wired t := hs.wired.step h
  cases a with
  | startOpen i accepted => exact hs.startOpen hseq h
  | startLocked i => exact hs.startLocked h
  | startTail i => exact hs.startTail h
  | stopLocked j => exact hs.stopLocked hseq h
  | stopClose j => exact hs.stopClose h
  | stopReceive j => exact hs.stopReceive h
  | stopClear j => exact hs.stopClear h
  | pumpSelect i => exact (pumpSelect_some h).sequenced hs
  | pumpRead i packet => exact (pumpRead_some h).sequenced hs
  | pumpCountIn i => exact (pumpCountIn_some h).sequenced hs
  | pumpWrite i written => exact (pumpWrite_some h).sequenced hs
  | pumpCountOut i => exact (pumpCountOut_some h).sequenced hs
  | pumpClose i =>
    rcases pumpClose_some h with ⟨err, hp, rfl⟩
    exact hs.of_pump hw rfl rfl rfl (by simp [inEcho]) (by simp [hp, hasSent]) rfl
  | pumpSend i =>
    rcases pumpSend_some h with ⟨err, hp, -, rfl⟩
    exact hs.of_pump hw rfl rfl rfl (by simp [inEcho]) (by simp [hasSent]) rfl
  | pumpClear i => exact hs.pumpClear hd h

end Step

end FoloXray.PacketBridge
