import FoloXray.Netstack.RuntimeSteps

/-! # Locks at shutdown

Which call holds the life mutex how often, and the nested read lock that `handleUDP` asks for
inside `injectPacket`.  A `close` that waits for the write lock keeps that second read lock from
being granted while the first one keeps `close` waiting.
-/

namespace FoloXray.Netstack
open Foundation

/-- The number of read locks on the life mutex that a call holds. -/
def Phase.readLocks : Phase → ℕ
  | .injectHeld _ | .udpStart | .tokenHeld .udp | .workWaiting .udp | .injectReleasing _ => 1
  | .workNested .udp => 2
  | .workNested .tcp => 1
  | .readLocked _ | .readHeld _ | .readReleasing _ => 1
  | _ => 0

def ClosePhase.writer : ClosePhase → Writer
  | .waiting => .waiting
  | .locked => .holding
  | _ => .absent

/-- The call holds a UDP token and has not got the read lock of `startWork` yet. -/
def Phase.nesting : Phase → Bool
  | .tokenHeld .udp | .workWaiting .udp => true
  | _ => false

/-- What a step does to the life mutex, the calls and `close`.  A call that waits in `startWork` moves
on only with a read lock, and a call comes to nest its locks only with a new UDP token. -/
inductive LockStep (s : State) (a : Action) (t : State) : Prop
  | stay (hmu : t.lifeMu = s.lifeMu) (hcalls : t.calls = s.calls)
      (hcloser : t.closer.writer = s.closer.writer)
  | move (i : ℕ) (q : Phase) (hmu : t.lifeMu = s.lifeMu)
      (hcalls : t.calls = Function.update s.calls i q) (hcloser : t.closer = s.closer)
      (hq : q.readLocks = (s.calls i).readLocks) (hfrom : ∀ r, s.calls i ≠ .workWaiting r)
      (hnest : q.nesting → (s.calls i).nesting ∨
        a = .udpToken i ∧ s.tokens .udp < Transport.udp.limit)
  | acquire (i : ℕ) (q : Phase) (hmu : s.lifeMu.rLock i = some t.lifeMu)
      (hcalls : t.calls = Function.update s.calls i q) (hcloser : t.closer = s.closer)
      (hq : q.readLocks = (s.calls i).readLocks + 1) (hnest : q.nesting = false)
  | release (i : ℕ) (q : Phase) (hmu : t.lifeMu = s.lifeMu.rUnlock i)
      (hcalls : t.calls = Function.update s.calls i q) (hcloser : t.closer = s.closer)
      (hq : q.readLocks + 1 = (s.calls i).readLocks) (hfrom : ∀ r, s.calls i ≠ .workWaiting r)
      (hnest : q.nesting = false)
  | request (hmu : s.lifeMu.request = some t.lifeMu) (hcalls : t.calls = s.calls)
      (hcloser : t.closer = .waiting) (ha : a = .closeCall)
  | grant (hmu : s.lifeMu.grant = some t.lifeMu) (hcalls : t.calls = s.calls)
      (hcloser : t.closer = .locked)
  | unlock (hmu : t.lifeMu = s.lifeMu.unlock) (hcalls : t.calls = s.calls)
      (hcloser : t.closer = .cancelling) (hfrom : s.closer = .locked)

theorem Transport.after_readLocks (transport : Transport) :
    transport.after.readLocks + 1 = (Phase.workNested transport).readLocks := by
  cases transport <;> rfl

theorem Transport.after_nesting (transport : Transport) : transport.after.nesting = false := by
  cases transport <;> rfl

section Moves

variable {s t : State} {a : Action} {i : ℕ} {p q : Phase}

/-- A move that has nothing to do with the life mutex. -/
theorem LockStep.plain (hi : s.calls i = p) (hmu : t.lifeMu = s.lifeMu)
    (hcalls : t.calls = Function.update s.calls i q) (hcloser : t.closer = s.closer)
    (hq : q.readLocks = p.readLocks) (hfrom : ∀ r, p ≠ .workWaiting r) (hnest : q.nesting = false) :
    LockStep s a t := by
  subst hi
  exact .move i q hmu hcalls hcloser hq hfrom (by simp [hnest])

end Moves

theorem Transition.lockStep {s t : State} {a : Action} {l : List Event} (h : Transition s a t l) :
    LockStep s a t := by
  cases h with
  | injectRefused hi _ => exact .plain hi rfl rfl rfl rfl (by simp) rfl
  | injectCalled hi _ => exact .plain hi rfl rfl rfl rfl (by simp) rfl
  | @injectLock i packet m hi hm => exact .acquire i _ hm rfl rfl (by rw [hi]; rfl) rfl
  | @injectDeliver i packet udp hi =>
    rcases deliver_cases s packet udp with ⟨error, heq⟩ | heq <;> rw [heq] <;>
      exact .plain hi rfl rfl rfl rfl (by simp) rfl
  | @udpToken i hi =>
    rcases tryToken_cases s i .udp (.injectReleasing none) with ⟨hlt, heq⟩ | ⟨-, heq⟩ <;> rw [heq]
    · exact .move i _ rfl rfl rfl (by rw [hi]; rfl) (by simp [hi]) fun _ => .inr ⟨rfl, hlt⟩
    · exact .plain hi rfl rfl rfl rfl (by simp) rfl
  | @tcpToken i hi =>
    rcases tryToken_cases s i .tcp .tcpReturned with ⟨-, heq⟩ | ⟨-, heq⟩ <;> rw [heq] <;>
      exact .plain hi rfl rfl rfl rfl (by simp) rfl
  | @proceed i transport hi =>
    refine .move i _ rfl rfl rfl ?_ (by simp [hi]) ?_
    · rw [hi]
      cases transport <;> rfl
    · rw [hi]
      cases transport <;> simp [Phase.nesting]
  | @giveUp i transport u hi hu =>
    obtain ⟨-, rfl⟩ := dropToken_some hu
    exact .plain hi rfl rfl rfl (by cases transport <;> rfl) (by simp) transport.after_nesting
  | @workLock i transport m hi hm =>
    exact .acquire i _ hm rfl rfl (by rw [hi]; cases transport <;> rfl) rfl
  | @workBody i transport _ hi hu =>
    have hlocks : transport.after.readLocks + 1 = (s.calls i).readLocks := by
      rw [hi]
      exact transport.after_readLocks
    rcases startWork_some hu with ⟨-, -, rfl⟩ | ⟨-, rfl⟩ <;>
      exact .release i _ rfl rfl rfl hlocks (by simp [hi]) transport.after_nesting
  | @injectUnlock i error hi => exact .release i _ rfl rfl rfl (by rw [hi]; rfl) (by simp [hi]) rfl
  | readRefused hi => exact .plain hi rfl rfl rfl rfl (by simp) rfl
  | readCalled hi _ => exact .plain hi rfl rfl rfl rfl (by simp) rfl
  | @readLock i capacity m hi hm => exact .acquire i _ hm rfl rfl (by rw [hi]; rfl) rfl
  | readMuLock hi _ => exact .plain hi rfl rfl rfl rfl (by simp) rfl
  | @readBody i capacity u result l hi hread =>
    have hcontrol := readPacket_control hread
    have hcalls : (u.setCall i (.readReleasing result)).calls =
        Function.update s.calls i (.readReleasing result) := by
      rw [State.setCall, hcontrol.calls]
    exact .plain hi hcontrol.lifeMu hcalls hcontrol.closer rfl (by simp) rfl
  | @readUnlock i result hi => exact .release i _ rfl rfl rfl (by rw [hi]; rfl) (by simp [hi]) rfl
  | flowToken _ hu =>
    obtain ⟨-, rfl⟩ := dropToken_some hu
    exact .stay rfl rfl rfl
  | flowDone _ _ => exact .stay rfl rfl rfl
  | enqueue _ _ => exact .stay rfl rfl rfl
  | closeCall _ hm => exact .request hm rfl rfl rfl
  | closeLock _ hm => exact .grant hm rfl rfl
  | closeSet hcloser => exact .unlock rfl rfl rfl hcloser
  | closeReadMu hcloser _ => exact .stay rfl rfl (by rw [hcloser]; rfl)
  | closeClear hcloser hclear =>
    have hcontrol := clearPending_control hclear
    exact .stay hcontrol.lifeMu hcontrol.calls (by rw [hcloser]; rfl)
  | closeLink hcloser hclose =>
    have hcontrol := closeLink_control hclose
    exact .stay hcontrol.lifeMu hcontrol.calls (by rw [hcloser]; rfl)
  | closeWait hcloser _ => exact .stay rfl rfl (by rw [hcloser]; rfl)

/-- The mutex records exactly the locks that the calls and `close` have. -/
structure LocksHeld (s : State) : Prop where
  readers : ∀ i, s.lifeMu.readers.count i = (s.calls i).readLocks
  writer : s.lifeMu.writer = s.closer.writer

theorem locksHeld_initial : LocksHeld initial := ⟨fun _ => rfl, rfl⟩

theorem LocksHeld.held {s : State} (hs : LocksHeld s) :
    s.lifeMu.Held (fun i => (s.calls i).readLocks) s.closer.writer :=
  ⟨hs.readers, hs.writer⟩

theorem locksHeld_of_held {s : State} {w : Writer}
    (h : s.lifeMu.Held (fun i => (s.calls i).readLocks) w) (hw : s.closer.writer = w) :
    LocksHeld s :=
  ⟨h.readers, h.writer.trans hw.symm⟩

theorem LocksHeld.step {s t : State} {a : Action} (hs : LocksHeld s) (h : LockStep s a t) :
    LocksHeld t := by
  have hself : ∀ {i : ℕ} {q : Phase}, t.calls = Function.update s.calls i q →
      (t.calls i).readLocks = q.readLocks := by
    intro i q hcalls
    rw [hcalls, Function.update_self]
  have hother : ∀ {i : ℕ} {q : Phase}, t.calls = Function.update s.calls i q →
      ∀ j, j ≠ i → (t.calls j).readLocks = (s.calls j).readLocks := by
    intro i q hcalls j hji
    rw [hcalls, Function.update_of_ne hji]
  cases h with
  | stay hmu hcalls hcloser =>
    apply locksHeld_of_held _ hcloser
    rw [hmu, hcalls]
    exact hs.held
  | move i q hmu hcalls hcloser hq _ _ =>
    apply locksHeld_of_held _ (by rw [hcloser])
    rw [hmu]
    apply hs.held.congr
    intro j
    by_cases hji : j = i
    · subst hji
      rw [hself hcalls, hq]
    · exact hother hcalls j hji
  | acquire i q hmu hcalls hcloser hq _ =>
    apply locksHeld_of_held _ (by rw [hcloser])
    apply hs.held.rLock hmu
    · rw [hself hcalls, hq]
    · exact hother hcalls
  | release i q hmu hcalls hcloser hq _ _ =>
    apply locksHeld_of_held _ (by rw [hcloser])
    rw [hmu]
    apply hs.held.rUnlock
    · rw [hself hcalls, hq]
    · exact hother hcalls
  | request hmu hcalls hcloser _ =>
    apply locksHeld_of_held _ (by rw [hcloser])
    rw [hcalls]
    exact hs.held.request hmu
  | grant hmu hcalls hcloser =>
    apply locksHeld_of_held _ (by rw [hcloser])
    rw [hcalls]
    exact hs.held.grant hmu
  | unlock hmu hcalls hcloser _ =>
    apply locksHeld_of_held _ (by rw [hcloser])
    rw [hmu, hcalls]
    exact hs.held.unlock

theorem locksHeld_of_run {as : List Action} {s : State} (h : run step initial as = some s) :
    LocksHeld s :=
  run_invariant (fun _ _ _ hs hstep => hs.step (transition_of_step hstep).lockStep)
    locksHeld_initial h

/-- `close` waits for the write lock while an `injectPacket` call, which holds a read lock, waits
for a second one inside `startWork`. -/
def Deadlocked (s : State) (i : ℕ) : Prop :=
  s.closer = .waiting ∧ i ∈ s.lifeMu.readers ∧ s.calls i = .workWaiting .udp

instance (s : State) (i : ℕ) : Decidable (Deadlocked s i) :=
  inferInstanceAs
    (Decidable (s.closer = .waiting ∧ i ∈ s.lifeMu.readers ∧ s.calls i = .workWaiting .udp))

section Deadlock

variable {s t : State} {a : Action} {i : ℕ}

theorem waiting_of_writer {c : ClosePhase} (h : c.writer = .waiting) : c = .waiting := by
  cases c <;> simp_all [ClosePhase.writer]

theorem LocksHeld.mem_readers (hs : LocksHeld s) (hi : 0 < (s.calls i).readLocks) :
    i ∈ s.lifeMu.readers := by
  rw [← hs.readers i] at hi
  exact List.count_pos_iff.mp hi

/-- Neither of the two waiting parties can move, so the deadlock stays. -/
theorem Deadlocked.step (hs : LocksHeld s) (hd : Deadlocked s i) (h : LockStep s a t) :
    Deadlocked t i := by
  obtain ⟨hcloser, hmem, hi⟩ := hd
  have hwriter : s.lifeMu.writer = .waiting := by rw [hs.writer, hcloser]; rfl
  have hkeep : t.closer.writer = s.closer.writer → t.calls i = s.calls i → LocksHeld t →
      Deadlocked t i := by
    intro hc hcalls ht
    refine ⟨waiting_of_writer (by rw [hc, hcloser]; rfl), ht.mem_readers ?_, hcalls.trans hi⟩
    rw [hcalls, hi]
    exact Nat.one_pos
  have ht := hs.step h
  cases h with
  | stay _ hcalls hc => exact hkeep hc (by rw [hcalls]) ht
  | move j q _ hcalls hc _ hfrom _ =>
    have hij : i ≠ j := by
      rintro rfl
      exact hfrom _ hi
    exact hkeep (by rw [hc]) (by rw [hcalls, Function.update_of_ne hij]) ht
  | acquire j q hmu _ _ _ _ =>
    have hfree := (RWMutex.rLock_some hmu).1
    rw [hwriter] at hfree
    cases hfree
  | release j q _ hcalls hc _ hfrom _ =>
    have hij : i ≠ j := by
      rintro rfl
      exact hfrom _ hi
    exact hkeep (by rw [hc]) (by rw [hcalls, Function.update_of_ne hij]) ht
  | request hmu _ _ _ =>
    have hfree := (RWMutex.request_some hmu).1
    rw [hwriter] at hfree
    cases hfree
  | grant hmu _ _ =>
    rw [(RWMutex.grant_some hmu).2.1] at hmem
    cases hmem
  | unlock _ _ _ hfrom =>
    rw [hcloser] at hfrom
    cases hfrom

theorem deadlocked_persists {bs : List Action} {u : State} (hs : LocksHeld s)
    (hd : Deadlocked s i) (h : run step s bs = some u) : Deadlocked u i := by
  have hboth : LocksHeld u ∧ Deadlocked u i := by
    refine run_invariant (P := fun s => LocksHeld s ∧ Deadlocked s i) ?_ ⟨hs, hd⟩ h
    intro s a t ⟨hs, hd⟩ hstep
    have hlock := (transition_of_step hstep).lockStep
    exact ⟨hs.step hlock, hd.step hs hlock⟩
  exact hboth.2

/-- `close` asks for the life mutex only while no reader of it is about to nest its locks, and no
UDP token is taken while `close` waits. -/
def AvoidsNesting (s : State) : Action → Prop
  | .closeCall => ∀ i ∈ s.lifeMu.readers, (s.calls i).nesting = false
  | .udpToken _ => s.closer = .waiting → Transport.udp.limit ≤ s.tokens .udp
  | _ => True

instance (s : State) : ∀ a, Decidable (AvoidsNesting s a)
  | .closeCall =>
    inferInstanceAs (Decidable (∀ i ∈ s.lifeMu.readers, (s.calls i).nesting = false))
  | .udpToken _ =>
    inferInstanceAs (Decidable (s.closer = .waiting → Transport.udp.limit ≤ s.tokens .udp))
  | .inject .. | .injectLock _ | .injectDeliver .. | .tcpToken _ | .decide .. | .workLock _
  | .workBody _ | .injectUnlock _ | .read .. | .readLock _ | .readMuLock _ | .readBody _
  | .readUnlock _ | .flowToken _ | .flowDone _ | .enqueue _ | .closeLock | .closeSet
  | .closeReadMu | .closeClear | .closeLink | .closeWait => inferInstanceAs (Decidable True)

/-- While `close` waits, no call is about to nest its locks. -/
def Unnested (s : State) : Prop := s.closer = .waiting → ∀ i, (s.calls i).nesting = false

theorem Phase.readLocks_of_nesting {p : Phase} (h : p.nesting) : 0 < p.readLocks := by
  cases p with
  | tokenHeld transport => cases transport <;> simp_all [Phase.nesting, Phase.readLocks]
  | workWaiting transport => cases transport <;> simp_all [Phase.nesting, Phase.readLocks]
  | _ => simp [Phase.nesting] at h

theorem Unnested.step (hs : LocksHeld s) (hu : Unnested s) (ha : AvoidsNesting s a)
    (h : LockStep s a t) : Unnested t := by
  intro ht i
  have hmoved : ∀ {j : ℕ} {q : Phase}, t.calls = Function.update s.calls j q →
      s.closer = .waiting → (q.nesting → (s.calls j).nesting) → (t.calls i).nesting = false := by
    intro j q hcalls hwaiting hq
    rw [hcalls]
    by_cases hij : i = j
    · subst hij
      rw [Function.update_self]
      by_contra hn
      have := hu hwaiting i
      simp [hq (by simpa using hn)] at this
    · rw [Function.update_of_ne hij]
      exact hu hwaiting i
  cases h with
  | stay _ hcalls hc =>
    rw [hcalls]
    exact hu (waiting_of_writer (by rw [← hc, ht]; rfl)) i
  | move j q _ hcalls hc _ _ hnest =>
    have hwaiting : s.closer = .waiting := hc ▸ ht
    refine hmoved hcalls hwaiting fun hq => ?_
    rcases hnest hq with h | ⟨rfl, hlt⟩
    · exact h
    · have hlimit : Transport.udp.limit ≤ s.tokens .udp := ha hwaiting
      omega
  | acquire j q _ hcalls hc _ hnest => exact hmoved hcalls (hc ▸ ht) (by simp [hnest])
  | release j q _ hcalls hc _ _ hnest => exact hmoved hcalls (hc ▸ ht) (by simp [hnest])
  | request _ hcalls _ hclose =>
    subst hclose
    rw [hcalls]
    by_contra hn
    have hnest : (s.calls i).nesting := by simpa using hn
    have hnone : (s.calls i).nesting = false :=
      ha i (hs.mem_readers (Phase.readLocks_of_nesting hnest))
    simp [hnest] at hnone
  | grant _ _ hc =>
    rw [ht] at hc
    cases hc
  | unlock _ _ hc _ =>
    rw [ht] at hc
    cases hc

/-- A call that holds a UDP token while `close` waits can run into the deadlock. -/
theorem nesting_reaches_deadlock (hs : LocksHeld s) (hwaiting : s.closer = .waiting)
    (hi : (s.calls i).nesting) : ∃ u, Reaches step s u ∧ Deadlocked u i := by
  have hmem : i ∈ s.lifeMu.readers := hs.mem_readers (Phase.readLocks_of_nesting hi)
  cases hphase : s.calls i with
  | tokenHeld transport =>
    cases transport with
    | tcp => simp [hphase, Phase.nesting] at hi
    | udp =>
      have hstep : step s (.decide i true) = some (s.setCall i (.workWaiting .udp)) := by
        simp [step, perform, control, hphase]
      exact ⟨_, .single hstep, hwaiting, hmem, Function.update_self ..⟩
  | workWaiting transport =>
    cases transport with
    | tcp => simp [hphase, Phase.nesting] at hi
    | udp => exact ⟨s, .refl s, hwaiting, hmem, hphase⟩
  | _ => simp [hphase, Phase.nesting] at hi

theorem nesting_step_reaches_deadlock (hs : LocksHeld s) (hstep : step s a = some t)
    (ha : ¬ AvoidsNesting s a) : ∃ u i, Reaches step t u ∧ Deadlocked u i := by
  obtain ⟨l, htransition⟩ : ∃ l, Transition s a t l := ⟨_, transition_of_step hstep⟩
  have ht := hs.step htransition.lockStep
  cases htransition with
  | closeCall _ _ =>
    simp only [AvoidsNesting, not_forall] at ha
    obtain ⟨i, -, hi⟩ := ha
    obtain ⟨u, hu⟩ := nesting_reaches_deadlock ht rfl (i := i) (by simpa using hi)
    exact ⟨u, i, hu⟩
  | @udpToken i hi =>
    simp only [AvoidsNesting, Classical.not_imp, not_le] at ha
    obtain ⟨hwaiting, hlt⟩ := ha
    rcases tryToken_cases s i .udp (.injectReleasing none) with ⟨-, heq⟩ | ⟨hle, -⟩
    · rw [heq] at ht ⊢
      have hheld : (((s.addToken .udp).setCall i (.tokenHeld .udp)).calls i).nesting := by
        simp [State.setCall, Phase.nesting]
      obtain ⟨u, hu⟩ := nesting_reaches_deadlock ht hwaiting hheld
      exact ⟨u, i, hu⟩
    · omega
  | _ => exact absurd trivial ha

end Deadlock

/-- A run in which `close` never asks for the life mutex while a UDP flow is being set up, and no
UDP token is taken while it waits, has no deadlock; breaking this discipline can lead to one, and a
deadlock is never resolved. -/
theorem shutdown_deadlock_free {as : List Action} {s : State}
    (hrun : run step initial as = some s) :
    (Meets step AvoidsNesting initial as → ∀ i, ¬ Deadlocked s i) ∧
    (∀ a t, step s a = some t → ¬ AvoidsNesting s a →
      ∃ u i, Reaches step t u ∧ Deadlocked u i) ∧
    ∀ i, Deadlocked s i → ∀ bs u, run step s bs = some u → Deadlocked u i := by
  have hlocks := locksHeld_of_run hrun
  refine ⟨?_, ?_, ?_⟩
  · intro hmeets i hd
    have hboth : LocksHeld s ∧ Unnested s := by
      refine run_invariant_of_meets (P := fun s => LocksHeld s ∧ Unnested s) ?_
        ⟨locksHeld_initial, fun h => nomatch h⟩ hmeets hrun
      intro s a t ⟨hs, hu⟩ ha hstep
      have hlock := (transition_of_step hstep).lockStep
      exact ⟨hs.step hlock, hu.step hs ha hlock⟩
    have hnest := hboth.2 hd.1 i
    simp [hd.2.2, Phase.nesting] at hnest
  · intro a t hstep ha
    exact nesting_step_reaches_deadlock hlocks hstep ha
  · intro i hd bs u hbs
    exact deadlocked_persists hlocks hd hbs

def smallPacket : Bytes := 0x45 :: List.replicate 19 0

/-- A packet starts a UDP flow, and `close` is called after it. -/
def orderlyShutdown : List Action :=
  [.inject 0 smallPacket, .injectLock 0, .injectDeliver 0 true, .udpToken 0, .decide 0 true,
    .workLock 0, .workBody 0, .injectUnlock 0, .closeCall, .closeLock, .closeSet]

theorem shutdown_deadlock_free_orderly :
    ∃ s, run step initial orderlyShutdown = some s ∧ s.closed ∧ ∀ i, ¬ Deadlocked s i := by
  let s := (run step initial orderlyShutdown).get (by decide)
  have hs : run step initial orderlyShutdown = some s := (Option.some_get _).symm
  exact ⟨s, hs, by decide, (shutdown_deadlock_free hs).1 (by decide)⟩

/-- `close` is called between the two read locks of a packet that starts a UDP flow. -/
def nestedShutdown : List Action :=
  [.inject 0 smallPacket, .injectLock 0, .injectDeliver 0 true, .udpToken 0, .decide 0 true,
    .closeCall]

theorem nested_shutdown_deadlocks :
    ∃ s, run step initial nestedShutdown = some s ∧ Deadlocked s 0 := by
  let s := (run step initial nestedShutdown).get (by decide)
  exact ⟨s, (Option.some_get _).symm, by decide⟩

end FoloXray.Netstack
