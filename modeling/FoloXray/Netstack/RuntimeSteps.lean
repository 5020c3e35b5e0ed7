import FoloXray.Netstack.Runtime

/-! # Inversion of the runtime's steps

One relation lists every branch of every step with its guard, and every step is one of them.  The
helpers of the model are described by the part of the state they leave alone.
-/

namespace FoloXray.Netstack
open Foundation

inductive Transition (s : State) : Action → State → List Event → Prop
  | injectRefused {i packet e} (h : s.calls i = .absent) (hsize : checkSize packet = some e) :
      Transition s (.inject i packet) (s.setCall i (.injectReturned (some e))) []
  | injectCalled {i packet} (h : s.calls i = .absent) (hsize : checkSize packet = none) :
      Transition s (.inject i packet) (s.setCall i (.injectWaiting packet)) []
  | injectLock {i packet m} (h : s.calls i = .injectWaiting packet)
      (hm : s.lifeMu.rLock i = some m) :
      Transition s (.injectLock i) ({ s with lifeMu := m }.setCall i (.injectHeld packet)) []
  | injectDeliver {i packet udp} (h : s.calls i = .injectHeld packet) :
      Transition s (.injectDeliver i udp) (s.setCall i (s.deliver packet udp)) []
  | udpToken {i} (h : s.calls i = .udpStart) :
      Transition s (.udpToken i) (s.tryToken i .udp (.injectReleasing none)) []
  | tcpToken {i} (h : s.calls i = .absent) :
      Transition s (.tcpToken i) (s.tryToken i .tcp .tcpReturned) []
  | proceed {i transport} (h : s.calls i = .tokenHeld transport) :
      Transition s (.decide i true) (s.setCall i (.workWaiting transport)) []
  | giveUp {i transport t} (h : s.calls i = .tokenHeld transport)
      (ht : s.dropToken transport = some t) :
      Transition s (.decide i false) (t.setCall i transport.after) []
  | workLock {i transport m} (h : s.calls i = .workWaiting transport)
      (hm : s.lifeMu.rLock i = some m) :
      Transition s (.workLock i) ({ s with lifeMu := m }.setCall i (.workNested transport)) []
  | workBody {i transport t} (h : s.calls i = .workNested transport)
      (ht : s.startWork i transport = some t) : Transition s (.workBody i) t []
  | injectUnlock {i error} (h : s.calls i = .injectReleasing error) :
      Transition s (.injectUnlock i)
        ({ s with lifeMu := s.lifeMu.rUnlock i }.setCall i (.injectReturned error)) []
  | readRefused {i} (h : s.calls i = .absent) :
      Transition s (.read i 0) (s.setCall i (.readReturned ⟨0, [], some .emptyBuffer⟩)) []
  | readCalled {i capacity} (h : s.calls i = .absent) (hcapacity : capacity ≠ 0) :
      Transition s (.read i capacity) (s.setCall i (.readWaiting capacity)) []
  | readLock {i capacity m} (h : s.calls i = .readWaiting capacity)
      (hm : s.lifeMu.rLock i = some m) :
      Transition s (.readLock i) ({ s with lifeMu := m }.setCall i (.readLocked capacity)) []
  | readMuLock {i capacity} (h : s.calls i = .readLocked capacity) (hfree : s.readMu = none) :
      Transition s (.readMuLock i)
        ({ s with readMu := some (some i) }.setCall i (.readHeld capacity)) []
  | readBody {i capacity t result l} (h : s.calls i = .readHeld capacity)
      (hread : s.readPacket capacity = some (t, result, l)) :
      Transition s (.readBody i) (t.setCall i (.readReleasing result)) l
  | readUnlock {i result} (h : s.calls i = .readReleasing result) :
      Transition s (.readUnlock i)
        ({ s with readMu := none, lifeMu := s.lifeMu.rUnlock i }.setCall i (.readReturned result)) []
  | flowToken {i transport t} (h : s.flows i = .running transport)
      (ht : s.dropToken transport = some t) :
      Transition s (.flowToken i) (t.setFlow i .finishing) []
  | flowDone {i} (h : s.flows i = .finishing) (hwork : s.work ≠ 0) :
      Transition s (.flowDone i) ({ s with work := s.work - 1 }.setFlow i .done) []
  | enqueue {slices} (hopen : s.linkOpen) (hroom : s.queue.length < netstackPacketQueueDepth) :
      Transition s (.enqueue slices) (s.enqueue slices).1 (s.enqueue slices).2
  | closeCall {m} (h : s.closer = .uncalled) (hm : s.lifeMu.request = some m) :
      Transition s .closeCall { s with lifeMu := m, closer := .waiting } []
  | closeLock {m} (h : s.closer = .waiting) (hm : s.lifeMu.grant = some m) :
      Transition s .closeLock { s with lifeMu := m, closer := .locked } []
  | closeSet (h : s.closer = .locked) :
      Transition s .closeSet
        { s with closed := true, lifeMu := s.lifeMu.unlock, closer := .cancelling } []
  | closeReadMu (h : s.closer = .cancelling) (hfree : s.readMu = none) :
      Transition s .closeReadMu
        { s with cancelled := true, readMu := some none, closer := .clearing } []
  | closeClear {t l} (h : s.closer = .clearing) (hclear : s.clearPending = some (t, l)) :
      Transition s .closeClear { t with readMu := none, closer := .closing } l
  | closeLink {t l} (h : s.closer = .closing) (hclose : s.closeLink = some (t, l)) :
      Transition s .closeLink { t with closer := .draining } l
  | closeWait (h : s.closer = .draining) (hwork : s.work = 0) :
      Transition s .closeWait { s with closer := .finished } []

theorem transition_of_control {s t : State} {a : Action} (h : control s a = some t) :
    Transition s a t [] := by
  cases a with
  | inject i packet =>
    simp only [control, Option.ite_none_right_eq_some] at h
    obtain ⟨hi, h⟩ := h
    split at h
    · rename_i e hsize
      cases h
      exact .injectRefused hi hsize
    · rename_i hsize
      cases h
      exact .injectCalled hi hsize
  | injectLock i =>
    simp only [control] at h
    split at h
    · rename_i packet hi
      obtain ⟨m, hm, rfl⟩ := Option.map_eq_some_iff.mp h
      exact .injectLock hi hm
    · cases h
  | injectDeliver i udp =>
    simp only [control] at h
    split at h
    · rename_i packet hi
      cases h
      exact .injectDeliver hi
    · cases h
  | udpToken i =>
    simp only [control, Option.ite_none_right_eq_some, Option.some.injEq] at h
    obtain ⟨hi, rfl⟩ := h
    exact .udpToken hi
  | tcpToken i =>
    simp only [control, Option.ite_none_right_eq_some, Option.some.injEq] at h
    obtain ⟨hi, rfl⟩ := h
    exact .tcpToken hi
  | decide i proceeds =>
    simp only [control] at h
    split at h
    · rename_i transport hi
      cases proceeds with
      | true =>
        cases h
        exact .proceed hi
      | false =>
        obtain ⟨u, hu, rfl⟩ := Option.map_eq_some_iff.mp h
        exact .giveUp hi hu
    · cases h
  | workLock i =>
    simp only [control] at h
    split at h
    · rename_i transport hi
      obtain ⟨m, hm, rfl⟩ := Option.map_eq_some_iff.mp h
      exact .workLock hi hm
    · cases h
  | workBody i =>
    simp only [control] at h
    split at h
    · rename_i transport hi
      exact .workBody hi h
    · cases h
  | injectUnlock i =>
    simp only [control] at h
    split at h
    · rename_i error hi
      cases h
      exact .injectUnlock hi
    · cases h
  | read i capacity =>
    simp only [control, Option.ite_none_right_eq_some] at h
    obtain ⟨hi, h⟩ := h
    split at h
    · rename_i hcapacity
      subst hcapacity
      cases h
      exact .readRefused hi
    · rename_i hcapacity
      cases h
      exact .readCalled hi hcapacity
  | readLock i =>
    simp only [control] at h
    split at h
    · rename_i capacity hi
      obtain ⟨m, hm, rfl⟩ := Option.map_eq_some_iff.mp h
      exact .readLock hi hm
    · cases h
  | readMuLock i =>
    simp only [control] at h
    split at h
    · rename_i capacity hi
      simp only [Option.ite_none_right_eq_some, Option.some.injEq] at h
      obtain ⟨hfree, rfl⟩ := h
      exact .readMuLock hi hfree
    · cases h
  | readUnlock i =>
    simp only [control] at h
    split at h
    · rename_i result hi
      cases h
      exact .readUnlock hi
    · cases h
  | flowToken i =>
    simp only [control] at h
    split at h
    · rename_i transport hi
      obtain ⟨u, hu, rfl⟩ := Option.map_eq_some_iff.mp h
      exact .flowToken hi hu
    · cases h
  | flowDone i =>
    simp only [control, Option.ite_none_right_eq_some, Option.some.injEq] at h
    obtain ⟨⟨hi, hwork⟩, rfl⟩ := h
    exact .flowDone hi hwork
  | closeCall =>
    simp only [control, Option.ite_none_right_eq_some] at h
    obtain ⟨hcloser, h⟩ := h
    obtain ⟨m, hm, rfl⟩ := Option.map_eq_some_iff.mp h
    exact .closeCall hcloser hm
  | closeLock =>
    simp only [control, Option.ite_none_right_eq_some] at h
    obtain ⟨hcloser, h⟩ := h
    obtain ⟨m, hm, rfl⟩ := Option.map_eq_some_iff.mp h
    exact .closeLock hcloser hm
  | closeSet =>
    simp only [control, Option.ite_none_right_eq_some, Option.some.injEq] at h
    obtain ⟨hcloser, rfl⟩ := h
    exact .closeSet hcloser
  | closeReadMu =>
    simp only [control, Option.ite_none_right_eq_some, Option.some.injEq] at h
    obtain ⟨⟨hcloser, hfree⟩, rfl⟩ := h
    exact .closeReadMu hcloser hfree
  | closeWait =>
    simp only [control, Option.ite_none_right_eq_some, Option.some.injEq] at h
    obtain ⟨⟨hcloser, hwork⟩, rfl⟩ := h
    exact .closeWait hcloser hwork
  | readBody | enqueue | closeClear | closeLink => cases h

theorem transition_of_perform {s t : State} {a : Action} {l : List Event}
    (h : perform s a = some (t, l)) : Transition s a t l := by
  cases a with
  | readBody i =>
    simp only [perform] at h
    split at h
    · rename_i capacity hi
      obtain ⟨⟨u, result, m⟩, hread, heq⟩ := Option.bind_eq_some_iff.mp h
      cases heq
      exact .readBody hi hread
    · cases h
  | enqueue slices =>
    simp only [perform, Option.ite_none_right_eq_some, Option.some.injEq] at h
    obtain ⟨⟨hopen, hroom⟩, heq⟩ := h
    cases heq
    exact .enqueue hopen hroom
  | closeClear =>
    simp only [perform, Option.ite_none_right_eq_some] at h
    obtain ⟨hcloser, h⟩ := h
    obtain ⟨⟨u, m⟩, hclear, heq⟩ := Option.bind_eq_some_iff.mp h
    cases heq
    exact .closeClear hcloser hclear
  | closeLink =>
    simp only [perform, Option.ite_none_right_eq_some] at h
    obtain ⟨hcloser, h⟩ := h
    obtain ⟨⟨u, m⟩, hclose, heq⟩ := Option.bind_eq_some_iff.mp h
    cases heq
    exact .closeLink hcloser hclose
  | _ =>
    obtain ⟨u, hu, heq⟩ := Option.map_eq_some_iff.mp h
    cases heq
    exact transition_of_control hu

theorem transition_of_step {s t : State} {a : Action} (h : step s a = some t) :
    Transition s a t (events s a) := by
  obtain ⟨⟨u, l⟩, hperform, rfl⟩ := Option.map_eq_some_iff.mp h
  have hevents : events s a = l := by simp [events, hperform]
  rw [hevents]
  exact transition_of_perform hperform

section Helpers

variable {s t : State} {i : ℕ} {transport : Transport}

theorem dropToken_some (h : s.dropToken transport = some t) :
    s.tokens transport ≠ 0 ∧
      t = { s with tokens := Function.update s.tokens transport (s.tokens transport - 1) } := by
  unfold State.dropToken at h
  split at h
  · cases h
  · rename_i hne
    cases h
    exact ⟨hne, rfl⟩

/-- `startWork` releases the read lock, and either gives the token back or starts a flow. -/
theorem startWork_some (h : s.startWork i transport = some t) :
    s.closed ∧ s.tokens transport ≠ 0 ∧
        t = State.setCall { s with
          lifeMu := s.lifeMu.rUnlock i
          tokens := Function.update s.tokens transport (s.tokens transport - 1) } i
          transport.after ∨
      s.closed = false ∧
        t = State.setCall { s with
          lifeMu := s.lifeMu.rUnlock i
          work := s.work + 1
          flows := Function.update s.flows i (.running transport) } i transport.after := by
  simp only [State.startWork] at h
  split at h
  · rename_i hclosed
    obtain ⟨u, hu, rfl⟩ := Option.map_eq_some_iff.mp h
    obtain ⟨hne, rfl⟩ := dropToken_some hu
    exact .inl ⟨hclosed, hne, rfl⟩
  · rename_i hclosed
    cases h
    exact .inr ⟨by simpa using hclosed, rfl⟩

theorem tryToken_cases (s : State) (i : ℕ) (transport : Transport) (refused : Phase) :
    s.tokens transport < transport.limit ∧
        s.tryToken i transport refused =
          (s.addToken transport).setCall i (.tokenHeld transport) ∨
      transport.limit ≤ s.tokens transport ∧
        s.tryToken i transport refused = s.setCall i refused := by
  unfold State.tryToken
  split
  · rename_i hlt
    exact .inl ⟨hlt, rfl⟩
  · rename_i hlt
    exact .inr ⟨by omega, rfl⟩

theorem deliver_cases (s : State) (packet : Bytes) (udp : Bool) :
    (∃ error, s.deliver packet udp = .injectReleasing error) ∨
      s.deliver packet udp = .udpStart := by
  unfold State.deliver
  split
  · exact .inl ⟨_, rfl⟩
  · split
    · exact .inl ⟨_, rfl⟩
    · split
      · exact .inr rfl
      · exact .inl ⟨_, rfl⟩

/-- The part of the state that the packet path leaves alone. -/
structure SameControl (s t : State) : Prop where
  lifeMu : t.lifeMu = s.lifeMu
  closed : t.closed = s.closed
  tokens : t.tokens = s.tokens
  work : t.work = s.work
  calls : t.calls = s.calls
  flows : t.flows = s.flows
  closer : t.closer = s.closer

theorem SameControl.trans {u : State} (hst : SameControl s t) (htu : SameControl t u) :
    SameControl s u where
  lifeMu := htu.lifeMu.trans hst.lifeMu
  closed := htu.closed.trans hst.closed
  tokens := htu.tokens.trans hst.tokens
  work := htu.work.trans hst.work
  calls := htu.calls.trans hst.calls
  flows := htu.flows.trans hst.flows
  closer := htu.closer.trans hst.closer

theorem decRef_some {packet : LinkPacket} {l : List Event} (h : s.decRef packet = some (t, l)) :
    s.refs packet.buffer ≠ 0 ∧ l = [.released packet.buffer] ∧
      t = { s with refs := Function.update s.refs packet.buffer (s.refs packet.buffer - 1) } := by
  unfold State.decRef at h
  split at h
  · cases h
  · rename_i hne
    cases h
    exact ⟨hne, rfl, rfl⟩

theorem decRefs_some {packets : List LinkPacket} {l : List Event}
    (h : s.decRefs packets = some (t, l)) :
    l = packets.map (fun packet => .released packet.buffer) ∧
      t = { s with
        refs := (packets.map LinkPacket.buffer).foldl
          (fun refs buffer => Function.update refs buffer (refs buffer - 1)) s.refs } := by
  induction packets generalizing s l with
  | nil =>
    cases h
    exact ⟨rfl, rfl⟩
  | cons packet packets ih =>
    obtain ⟨⟨u, m⟩, hdec, h⟩ := Option.bind_eq_some_iff.mp h
    obtain ⟨⟨v, n⟩, hrest, heq⟩ := Option.bind_eq_some_iff.mp h
    cases heq
    obtain ⟨-, rfl, rfl⟩ := decRef_some hdec
    obtain ⟨rfl, rfl⟩ := ih hrest
    exact ⟨rfl, rfl⟩

/-- The packet that `readPacket` finds: the pending one, or the first of the queue, which it takes. -/
inductive Next (s : State) : LinkPacket → State → List Event → Prop
  | pending {packet} (h : s.pending = some packet) : Next s packet s []
  | queue {packet queue} (h : s.pending = none) (hqueue : s.queue = packet :: queue) :
      Next s packet { s with queue := queue } [.taken packet]

theorem nextPacket_cases (s : State) :
    (s.pending = none ∧ s.queue = [] ∧ s.nextPacket = (none, s, [])) ∨
      ∃ packet u l, s.nextPacket = (some packet, u, l) ∧ Next s packet u l := by
  cases hpending : s.pending with
  | some packet => exact .inr ⟨packet, _, _, by simp [State.nextPacket, hpending], .pending hpending⟩
  | none =>
    cases hqueue : s.queue with
    | nil => exact .inl ⟨rfl, rfl, by simp [State.nextPacket, hpending, State.linkRead, hqueue]⟩
    | cons packet queue =>
      refine .inr ⟨packet, _, _, ?_, .queue hpending hqueue⟩
      simp [State.nextPacket, hpending, State.linkRead, hqueue]

inductive ReadCase (s : State) (capacity : ℕ) : State → ReadResult → List Event → Prop
  | stopped (hclosed : s.closed) : ReadCase s capacity s ⟨0, [], some .stopped⟩ []
  | blocked (hopen : s.closed = false) (hpending : s.pending = none) (hqueue : s.queue = []) :
      ReadCase s capacity s ⟨0, [], some .wouldBlock⟩ []
  | tooLarge {packet u l} (hopen : s.closed = false) (hnext : Next s packet u l)
      (hlt : capacity < packet.length) :
      ReadCase s capacity { u with pending := some packet }
        ⟨packet.length, [], some .packetTooLarge⟩ (l ++ [.used packet])
  | fits {packet u t l m} (hopen : s.closed = false) (hnext : Next s packet u l)
      (hle : packet.length ≤ capacity)
      (hdec : State.decRef { u with pending := none } packet = some (t, m)) :
      ReadCase s capacity t
        ⟨(copySlices capacity [] packet.slices).length, copySlices capacity [] packet.slices, none⟩
        (l ++ (.used packet :: m ++ [.delivered packet capacity
          ⟨(copySlices capacity [] packet.slices).length, copySlices capacity [] packet.slices, none⟩]))

theorem readPacket_some {capacity : ℕ} {result : ReadResult} {l : List Event}
    (h : s.readPacket capacity = some (t, result, l)) : ReadCase s capacity t result l := by
  unfold State.readPacket at h
  split at h
  · rename_i hclosed
    cases h
    exact .stopped hclosed
  · rename_i hclosed
    have hopen : s.closed = false := by simpa using hclosed
    obtain ⟨hpending, hqueue, hnone⟩ | ⟨packet, u, m, hfound, hnext⟩ := nextPacket_cases s
    · rw [hnone] at h
      cases h
      exact .blocked hopen hpending hqueue
    · rw [hfound] at h
      obtain ⟨⟨v, r, n⟩, hhand, heq⟩ := Option.bind_eq_some_iff.mp h
      cases heq
      unfold State.handOver at hhand
      split at hhand
      · rename_i hlt
        cases hhand
        exact .tooLarge hopen hnext hlt
      · rename_i hlt
        obtain ⟨⟨w, k⟩, hdec, heq⟩ := Option.bind_eq_some_iff.mp hhand
        cases heq
        exact .fits hopen hnext (not_lt.mp hlt) hdec

theorem Next.control {packet : LinkPacket} {l : List Event} (h : Next s packet t l) :
    SameControl s t := by
  cases h with
  | pending _ => exact ⟨rfl, rfl, rfl, rfl, rfl, rfl, rfl⟩
  | queue _ _ => exact ⟨rfl, rfl, rfl, rfl, rfl, rfl, rfl⟩

theorem readPacket_control {capacity : ℕ} {result : ReadResult} {l : List Event}
    (h : s.readPacket capacity = some (t, result, l)) : SameControl s t := by
  cases readPacket_some h with
  | stopped _ => exact ⟨rfl, rfl, rfl, rfl, rfl, rfl, rfl⟩
  | blocked _ _ _ => exact ⟨rfl, rfl, rfl, rfl, rfl, rfl, rfl⟩
  | tooLarge _ hnext _ => exact hnext.control.trans ⟨rfl, rfl, rfl, rfl, rfl, rfl, rfl⟩
  | fits _ hnext _ hdec =>
    obtain ⟨-, -, rfl⟩ := decRef_some hdec
    exact hnext.control.trans ⟨rfl, rfl, rfl, rfl, rfl, rfl, rfl⟩

theorem clearPending_some {l : List Event} (h : s.clearPending = some (t, l)) :
    (s.pending = none ∧ t = s ∧ l = []) ∨
      ∃ packet u, s.pending = some packet ∧ s.decRef packet = some (u, l) ∧
        t = { u with pending := none } := by
  unfold State.clearPending at h
  split at h
  · rename_i packet hpending
    obtain ⟨⟨u, m⟩, hdec, heq⟩ := Option.bind_eq_some_iff.mp h
    cases heq
    exact .inr ⟨packet, u, hpending, hdec, rfl⟩
  · rename_i hpending
    cases h
    exact .inl ⟨hpending, rfl, rfl⟩

theorem clearPending_control {l : List Event} (h : s.clearPending = some (t, l)) :
    SameControl s t := by
  obtain ⟨-, rfl, -⟩ | ⟨packet, u, -, hdec, rfl⟩ := clearPending_some h
  · exact ⟨rfl, rfl, rfl, rfl, rfl, rfl, rfl⟩
  · obtain ⟨-, -, rfl⟩ := decRef_some hdec
    exact ⟨rfl, rfl, rfl, rfl, rfl, rfl, rfl⟩

theorem closeLink_some {l : List Event} (h : s.closeLink = some (t, l)) :
    l = s.queue.map (fun packet => .released packet.buffer) ∧
      t = { s with
        refs := (s.queue.map LinkPacket.buffer).foldl
          (fun refs buffer => Function.update refs buffer (refs buffer - 1)) s.refs
        queue := []
        linkOpen := false } := by
  obtain ⟨⟨u, m⟩, hrefs, heq⟩ := Option.bind_eq_some_iff.mp h
  cases heq
  obtain ⟨rfl, rfl⟩ := decRefs_some hrefs
  exact ⟨rfl, rfl⟩

theorem closeLink_control {l : List Event} (h : s.closeLink = some (t, l)) : SameControl s t := by
  obtain ⟨-, rfl⟩ := closeLink_some h
  exact ⟨rfl, rfl, rfl, rfl, rfl, rfl, rfl⟩

end Helpers

end FoloXray.Netstack
