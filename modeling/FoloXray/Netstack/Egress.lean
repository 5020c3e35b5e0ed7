import FoloXray.Foundation.Releases
import FoloXray.Netstack.RuntimeSteps
import FoloXray.Wrapper.Status

/-! # Packets that leave the stack

`readPacket` hands every packet of the link queue to a reader at most once and in order, over one
slot for the packet that did not fit the last reader's buffer.  The steps record what they do with
packets: which one enters the queue, which one is taken from it, looked into, released and delivered.
-/

namespace FoloXray.Netstack
open Foundation

theorem copySlices_eq_append {capacity : ℕ} {stored : Bytes} {parts : List Bytes}
    (h : stored.length + (parts.map List.length).sum ≤ capacity) :
    copySlices capacity stored parts = stored ++ parts.flatten := by
  induction parts generalizing stored with
  | nil => simp [copySlices]
  | cons part parts ih =>
    simp only [List.map_cons, List.sum_cons] at h
    rw [copySlices, List.take_of_length_le (by omega), ih]
    · simp
    · rw [List.length_append]
      omega

theorem result_of_fits {packet : LinkPacket} {capacity : ℕ} (hle : packet.length ≤ capacity) :
    (⟨(copySlices capacity [] packet.slices).length, copySlices capacity [] packet.slices, none⟩ :
      ReadResult) = ⟨packet.length, packet.slices.flatten, none⟩ := by
  have hcopy : copySlices capacity [] packet.slices = packet.slices.flatten :=
    copySlices_eq_append (by simpa [LinkPacket.length] using hle)
  rw [hcopy, List.length_flatten]
  rfl

/-- `readNetstackPacket`: the count and the status for the result of the runtime, if there is one. -/
def readNetstackPacket : Option ReadResult → ℕ × Wrapper.Status
  | none => (0, .invalidState)
  | some result =>
    match result.error with
    | none => (result.length, .ok)
    | some .wouldBlock => (0, .wouldBlock)
    | some .packetTooLarge => (result.length, .resourceLimit)
    | some .stopped => (0, .invalidState)
    | some _ => (0, .invalidArgument)

/-- The packets that have not been handed to a reader, in order. -/
def State.outstanding (s : State) : List LinkPacket := s.pending.toList ++ s.queue

def Event.enqueuedPacket : Event → Option LinkPacket
  | .enqueued packet => some packet
  | _ => none

def Event.takenPacket : Event → Option LinkPacket
  | .taken packet => some packet
  | _ => none

def Event.deliveredPacket : Event → Option LinkPacket
  | .delivered packet _ _ => some packet
  | _ => none

/-- The event as a use or a release of the packet's buffer. -/
def Event.handling : Event → Option (Handling ℕ)
  | .taken packet => some (.use packet.buffer)
  | .used packet => some (.use packet.buffer)
  | .released buffer => some (.release buffer)
  | .enqueued _ | .delivered _ _ _ => none

theorem Next.outstanding {s u : State} {packet : LinkPacket} {l : List Event}
    (h : Next s packet u l) : s.outstanding = packet :: u.queue := by
  cases h with
  | pending h => simp [State.outstanding, h]
  | queue h hqueue => simp [State.outstanding, h, hqueue]

/-- What crosses the C boundary: the true length with the packet or with the refusal for the size of
the buffer, and no count otherwise. -/
theorem readNetstackPacket_readPacket {s t : State} {capacity : ℕ} {result : ReadResult}
    {l : List Event} (h : s.readPacket capacity = some (t, result, l)) :
    readNetstackPacket (some result) =
      if s.closed then (0, .invalidState)
      else
        match s.outstanding with
        | [] => (0, .wouldBlock)
        | packet :: _ =>
          (packet.length, if capacity < packet.length then .resourceLimit else .ok) := by
  cases readPacket_some h with
  | stopped hclosed => simp [readNetstackPacket, hclosed]
  | blocked hopen hpending hqueue =>
    simp [readNetstackPacket, hopen, State.outstanding, hpending, hqueue]
  | tooLarge hopen hnext hlt => simp [readNetstackPacket, hopen, hnext.outstanding, hlt]
  | fits hopen hnext hle hdec =>
    rw [result_of_fits hle]
    simp [readNetstackPacket, hopen, hnext.outstanding, not_lt.mpr hle]

def ClosePhase.hasSet : ClosePhase → Bool
  | .cancelling | .clearing | .closing | .draining | .finished => true
  | .uncalled | .waiting | .locked => false

def ClosePhase.hasCleared : ClosePhase → Bool
  | .closing | .draining | .finished => true
  | .uncalled | .waiting | .locked | .cancelling | .clearing => false

theorem ClosePhase.hasSet_of_hasCleared {c : ClosePhase} (h : c.hasCleared) : c.hasSet := by
  cases c <;> first | rfl | cases h

structure SameEgress (s t : State) : Prop where
  closed : t.closed = s.closed
  closer : t.closer = s.closer
  pending : t.pending = s.pending
  queue : t.queue = s.queue
  linkOpen : t.linkOpen = s.linkOpen
  buffers : t.buffers = s.buffers
  refs : t.refs = s.refs

/-- The steps outside the packet path and outside `close`. -/
def Action.plain : Action → Bool
  | .readBody _ | .enqueue _ | .closeCall | .closeLock | .closeSet | .closeReadMu | .closeClear
  | .closeLink | .closeWait => false
  | _ => true

section Steps

variable {s t : State} {a : Action} {h l : List Event} {i : ℕ}

theorem tryToken_sameEgress (s : State) (i : ℕ) (transport : Transport) (refused : Phase) :
    SameEgress s (s.tryToken i transport refused) := by
  rcases tryToken_cases s i transport refused with ⟨-, heq⟩ | ⟨-, heq⟩ <;> rw [heq]
  · exact ⟨rfl, rfl, rfl, rfl, rfl, rfl, rfl⟩
  · exact ⟨rfl, rfl, rfl, rfl, rfl, rfl, rfl⟩

theorem Transition.sameEgress (hst : Transition s a t l) (ha : a.plain) : SameEgress s t := by
  cases hst with
  | udpToken hi => exact tryToken_sameEgress s _ _ _
  | tcpToken hi => exact tryToken_sameEgress s _ _ _
  | giveUp hi hdrop =>
    rcases dropToken_some hdrop with ⟨-, rfl⟩
    exact ⟨rfl, rfl, rfl, rfl, rfl, rfl, rfl⟩
  | workBody hi hwork =>
    rcases startWork_some hwork with ⟨-, -, rfl⟩ | ⟨-, rfl⟩
    · exact ⟨rfl, rfl, rfl, rfl, rfl, rfl, rfl⟩
    · exact ⟨rfl, rfl, rfl, rfl, rfl, rfl, rfl⟩
  | flowToken hi hdrop =>
    rcases dropToken_some hdrop with ⟨-, rfl⟩
    exact ⟨rfl, rfl, rfl, rfl, rfl, rfl, rfl⟩
  | _ => first | exact ⟨rfl, rfl, rfl, rfl, rfl, rfl, rfl⟩ | cases ha

theorem Transition.no_events (hst : Transition s a t l) (ha : a.plain) : l = [] := by
  cases hst <;> first | rfl | cases ha

/-- `closed` is set by `close` alone, and once `close` has released the pending packet none is
pending again. -/
structure ClosingOrder (s : State) : Prop where
  closed : s.closed = s.closer.hasSet
  cleared : s.closer.hasCleared → s.pending = none

theorem ClosingOrder.congr (hs : ClosingOrder s) (hclosed : t.closed = s.closed)
    (hcloser : t.closer = s.closer) (hpending : s.closed = false ∨ t.pending = s.pending) :
    ClosingOrder t := by
  constructor
  · rw [hclosed, hcloser]
    exact hs.closed
  · rw [hcloser]
    intro hcleared
    rcases hpending with hopen | hpending
    · rw [hs.closed, ClosePhase.hasSet_of_hasCleared hcleared] at hopen
      cases hopen
    · rw [hpending]
      exact hs.cleared hcleared

theorem readPacket_pending {capacity : ℕ} {result : ReadResult}
    (h : s.readPacket capacity = some (t, result, l)) : s.closed = false ∨ t.pending = s.pending := by
  cases readPacket_some h with
  | stopped _ => exact .inr rfl
  | blocked hopen _ _ => exact .inl hopen
  | tooLarge hopen _ _ => exact .inl hopen
  | fits hopen _ _ _ => exact .inl hopen

theorem ClosingOrder.step (hs : ClosingOrder s) (hst : Transition s a t l) : ClosingOrder t := by
  cases ha : a.plain with
  | true =>
    have hsame := hst.sameEgress ha
    exact hs.congr hsame.closed hsame.closer (.inr hsame.pending)
  | false =>
    cases hst with
    | readBody hi hread =>
      have hcontrol := readPacket_control hread
      exact hs.congr hcontrol.closed hcontrol.closer (readPacket_pending hread :)
    | enqueue hopen hroom => exact hs.congr rfl rfl (.inr rfl)
    | closeClear hcloser hclear =>
      constructor
      · simp only [(clearPending_control hclear).closed, hs.closed, hcloser]
        rfl
      · intro _
        rcases clearPending_some hclear with ⟨hpending, rfl, -⟩ | ⟨packet, u, -, -, rfl⟩
        · exact hpending
        · rfl
    | closeLink hcloser hclose =>
      rcases closeLink_some hclose with ⟨-, rfl⟩
      constructor
      · exact hs.closed.trans (by rw [hcloser]; rfl)
      · exact fun _ => hs.cleared (by rw [hcloser]; rfl)
    | closeWait hcloser hwork =>
      constructor
      · exact hs.closed.trans (by rw [hcloser]; rfl)
      · exact fun _ => hs.cleared (by rw [hcloser]; rfl)
    | closeSet hcloser => exact ⟨rfl, fun hcleared => by cases hcleared⟩
    | closeCall hcloser hm =>
      exact ⟨hs.closed.trans (by rw [hcloser]; rfl), fun hcleared => by cases hcleared⟩
    | closeLock hcloser hm =>
      exact ⟨hs.closed.trans (by rw [hcloser]; rfl), fun hcleared => by cases hcleared⟩
    | closeReadMu hcloser hfree =>
      exact ⟨hs.closed.trans (by rw [hcloser]; rfl), fun hcleared => by cases hcleared⟩
    | _ => cases ha

/-- Each delivered packet was returned whole, into a buffer with room for it, and released. -/
def Whole (h : List Event) : Prop :=
  ∀ packet capacity result, .delivered packet capacity result ∈ h →
    result = ⟨packet.length, packet.slices.flatten, none⟩ ∧ packet.length ≤ capacity ∧
      .released packet.buffer ∈ h

/-- What the record says about the state it ends in. -/
structure Egress (s : State) (h : List Event) : Prop where
  books : Books (s.outstanding.map LinkPacket.buffer) (· < s.buffers) s.refs
    (h.filterMap Event.handling)
  queued : ∃ dropped, h.filterMap Event.enqueuedPacket =
      h.filterMap Event.takenPacket ++ (s.queue ++ dropped) ∧
    (dropped = [] ∨ s.linkOpen = false ∧ s.closed ∧ s.queue = [])
  kept : ∃ kept, h.filterMap Event.takenPacket = h.filterMap Event.deliveredPacket ++ kept ∧
    (kept = s.pending.toList ∨
      s.closed ∧ s.pending = none ∧ ∀ packet ∈ kept, .released packet.buffer ∈ h)
  whole : Whole h

theorem Egress.congr (he : Egress s h) (hpending : t.pending = s.pending)
    (hqueue : t.queue = s.queue) (hlink : t.linkOpen = s.linkOpen) (hbuffers : t.buffers = s.buffers)
    (hrefs : t.refs = s.refs) (hclosed : s.closed → t.closed) : Egress t h := by
  constructor
  · rw [State.outstanding, hpending, hqueue, hbuffers, hrefs]
    exact he.books
  · rcases he.queued with ⟨dropped, heq, hdropped⟩
    refine ⟨dropped, by rw [hqueue]; exact heq, ?_⟩
    rw [hlink, hqueue]
    exact hdropped.imp_right fun ⟨hopen, hset, hempty⟩ => ⟨hopen, hclosed hset, hempty⟩
  · rcases he.kept with ⟨kept, heq, hkept⟩
    refine ⟨kept, heq, ?_⟩
    rw [hpending]
    exact hkept.imp_right fun ⟨hset, hrest⟩ => ⟨hclosed hset, hrest⟩
  · exact he.whole

theorem filterMap_released (buffers : List ℕ) :
    (h ++ buffers.map Event.released).filterMap Event.enqueuedPacket = h.filterMap Event.enqueuedPacket ∧
    (h ++ buffers.map Event.released).filterMap Event.takenPacket = h.filterMap Event.takenPacket ∧
    (h ++ buffers.map Event.released).filterMap Event.deliveredPacket =
      h.filterMap Event.deliveredPacket := by
  simp [Function.comp_def, Event.enqueuedPacket, Event.takenPacket, Event.deliveredPacket]

theorem Whole.append (hh : Whole h) (hl : ∀ p c r, .delivered p c r ∉ l) : Whole (h ++ l) := by
  intro p c r hmem
  rcases List.mem_append.mp hmem with hmem | hmem
  · rcases hh p c r hmem with ⟨hresult, hle, hreleased⟩
    exact ⟨hresult, hle, List.mem_append_left _ hreleased⟩
  · exact absurd hmem (hl p c r)

section Reading

variable {u : State} {packet : LinkPacket} {capacity : ℕ}

/-- A reader has the packet in its hands: it follows the delivered ones, and the queue goes on behind
it. -/
structure Holding (u : State) (packet : LinkPacket) (h : List Event) : Prop where
  books : Books ((packet :: u.queue).map LinkPacket.buffer) (· < u.buffers) u.refs
    (h.filterMap Event.handling)
  queued : h.filterMap Event.enqueuedPacket = h.filterMap Event.takenPacket ++ u.queue
  kept : h.filterMap Event.takenPacket = h.filterMap Event.deliveredPacket ++ [packet]
  whole : Whole h

theorem Egress.queue_of_open (he : Egress s h) (hopen : s.closed = false) :
    h.filterMap Event.enqueuedPacket = h.filterMap Event.takenPacket ++ s.queue := by
  rcases he.queued with ⟨dropped, heq, rfl | ⟨-, hset, -⟩⟩
  · rw [heq, List.append_nil]
  · rw [hopen] at hset
    cases hset

theorem Egress.kept_of_open (he : Egress s h) (hopen : s.closed = false) :
    h.filterMap Event.takenPacket = h.filterMap Event.deliveredPacket ++ s.pending.toList := by
  rcases he.kept with ⟨kept, heq, rfl | ⟨hset, -⟩⟩
  · exact heq
  · rw [hopen] at hset
    cases hset

theorem Egress.take (he : Egress s h) (hopen : s.closed = false) (hnext : Next s packet u l) :
    Holding u packet (h ++ l) := by
  have hbooks := he.books
  have hqueued := he.queue_of_open hopen
  have hkept := he.kept_of_open hopen
  rw [hnext.outstanding] at hbooks
  cases hnext with
  | pending hpending =>
    rw [List.append_nil]
    exact ⟨hbooks, hqueued, by rw [hkept, hpending]; rfl, he.whole⟩
  | queue hpending hqueue =>
    refine ⟨?_, ?_, ?_, he.whole.append (by simp)⟩
    · rw [List.filterMap_append]
      exact hbooks.use List.mem_cons_self
    · simp [hqueued, hqueue, List.filterMap_cons, Event.enqueuedPacket, Event.takenPacket]
    · simp [hkept, hpending, List.filterMap_cons, Event.takenPacket, Event.deliveredPacket]

theorem Holding.used (hh : Holding u packet h) : Holding u packet (h ++ [.used packet]) := by
  refine ⟨?_, ?_, ?_, hh.whole.append (by simp)⟩
  · rw [List.filterMap_append]
    exact hh.books.use List.mem_cons_self
  · simp [hh.queued, List.filterMap_cons, Event.enqueuedPacket, Event.takenPacket]
  · simp [hh.kept, List.filterMap_cons, Event.takenPacket, Event.deliveredPacket]

theorem Holding.keep (hh : Holding u packet h) : Egress { u with pending := some packet } h where
  books := hh.books
  queued := ⟨[], by rw [hh.queued, List.append_nil], .inl rfl⟩
  kept := ⟨[packet], hh.kept, .inl rfl⟩
  whole := hh.whole

theorem Holding.deliver (hh : Holding u packet h) (hle : packet.length ≤ capacity)
    (hdec : State.decRef { u with pending := none } packet = some (t, l)) :
    Egress t (h ++ (l ++ [.delivered packet capacity
      ⟨packet.length, packet.slices.flatten, none⟩])) := by
  rcases decRef_some hdec with ⟨-, rfl, rfl⟩
  constructor
  · rw [List.filterMap_append]
    exact hh.books.release
  · refine ⟨[], ?_, .inl rfl⟩
    simp [hh.queued, List.filterMap_cons, Event.enqueuedPacket, Event.takenPacket]
  · refine ⟨[], ?_, .inl rfl⟩
    simp [hh.kept, List.filterMap_cons, Event.takenPacket, Event.deliveredPacket]
  · intro p c r hmem
    have hmem : .delivered p c r ∈ h ∨
        p = packet ∧ c = capacity ∧ r = ⟨packet.length, packet.slices.flatten, none⟩ := by
      simpa using hmem
    rcases hmem with hmem | ⟨rfl, rfl, rfl⟩
    · rcases hh.whole p c r hmem with ⟨hresult, hlen, hreleased⟩
      exact ⟨hresult, hlen, List.mem_append_left _ hreleased⟩
    · exact ⟨rfl, hle, by simp⟩

theorem Egress.read {result : ReadResult} (he : Egress s h)
    (hread : s.readPacket capacity = some (t, result, l)) : Egress t (h ++ l) := by
  cases readPacket_some hread with
  | stopped _ | blocked _ _ _ =>
    rw [List.append_nil]
    exact he
  | tooLarge hopen hnext _ =>
    rw [← List.append_assoc]
    exact (he.take hopen hnext).used.keep
  | fits hopen hnext hle hdec =>
    have hdelivered := (he.take hopen hnext).used.deliver hle hdec
    rw [result_of_fits hle]
    simpa using hdelivered

end Reading

theorem Egress.enqueue (he : Egress s h) (hopen : s.linkOpen) (slices : List Bytes) :
    Egress (s.enqueue slices).1 (h ++ (s.enqueue slices).2) := by
  constructor
  · have hcreated := @Books.create ℕ _ _ _ (· < s.buffers + 1) _ _ s.buffers he.books
      (lt_irrefl _) (fun b => by omega)
    simpa [State.enqueue, State.outstanding, List.filterMap_cons, Event.handling] using hcreated
  · rcases he.queued with ⟨dropped, heq, rfl | ⟨hclosed, -⟩⟩
    · refine ⟨[], ?_, .inl rfl⟩
      simp [State.enqueue, heq, List.filterMap_cons, Event.enqueuedPacket, Event.takenPacket]
    · rw [hopen] at hclosed
      cases hclosed
  · rcases he.kept with ⟨kept, heq, hkept⟩
    refine ⟨kept, ?_, ?_⟩
    · simpa [State.enqueue, List.filterMap_cons, Event.takenPacket, Event.deliveredPacket] using heq
    · rcases hkept with hkept | ⟨hset, hnone, hreleased⟩
      · exact .inl hkept
      · exact .inr ⟨hset, hnone, fun p hp => List.mem_append_left _ (hreleased p hp)⟩
  · exact he.whole.append (by simp [State.enqueue])

theorem Egress.closeClear (he : Egress s h) (hclosed : s.closed)
    (hclear : s.clearPending = some (t, l)) : Egress t (h ++ l) := by
  rcases clearPending_some hclear with ⟨-, rfl, rfl⟩ | ⟨packet, u, hpending, hdec, rfl⟩
  · rw [List.append_nil]
    exact he
  · rcases decRef_some hdec with ⟨-, rfl, rfl⟩
    rcases @filterMap_released h [packet.buffer] with ⟨henqueued, htaken, hdelivered⟩
    have hbooks := he.books
    rw [State.outstanding, hpending] at hbooks
    constructor
    · rw [List.filterMap_append]
      exact hbooks.release
    · rcases he.queued with ⟨dropped, heq, hdropped⟩
      exact ⟨dropped, henqueued.trans (heq.trans (congrArg (· ++ _) htaken.symm)), hdropped⟩
    · rcases he.kept with ⟨kept, heq, hkept⟩
      refine ⟨kept, htaken.trans (heq.trans (congrArg (· ++ kept) hdelivered.symm)),
        .inr ⟨hclosed, rfl, ?_⟩⟩
      rcases hkept with rfl | ⟨-, hnone, -⟩
      · simp [hpending]
      · rw [hpending] at hnone
        cases hnone
    · exact he.whole.append (by simp)

theorem Egress.closeLink (he : Egress s h) (hclosed : s.closed) (hpending : s.pending = none)
    (hclose : s.closeLink = some (t, l)) : Egress t (h ++ l) := by
  rcases closeLink_some hclose with ⟨rfl, rfl⟩
  have hreleased : s.queue.map (fun packet => Event.released packet.buffer) =
      (s.queue.map LinkPacket.buffer).map .released := by simp
  rw [hreleased]
  rcases @filterMap_released h (s.queue.map LinkPacket.buffer) with ⟨henqueued, htaken, hdelivered⟩
  constructor
  · have hbooks := he.books
    rw [State.outstanding, hpending, Option.toList_none, List.nil_append,
      ← List.append_nil (s.queue.map LinkPacket.buffer)] at hbooks
    simpa [State.outstanding, hpending, Event.handling, Function.comp_def] using hbooks.releaseAll
  · rcases he.queued with ⟨dropped, heq, -⟩
    refine ⟨s.queue ++ dropped, ?_, .inr ⟨rfl, hclosed, rfl⟩⟩
    rw [henqueued, htaken, heq, List.nil_append]
  · rcases he.kept with ⟨kept, heq, hkept⟩
    refine ⟨kept, by rw [htaken, hdelivered, heq], ?_⟩
    rcases hkept with hkept | ⟨hset, hnone, hreleased⟩
    · exact .inl hkept
    · exact .inr ⟨hset, hnone, fun p hp => List.mem_append_left _ (hreleased p hp)⟩
  · exact he.whole.append (by simp)

theorem Egress.step (hs : ClosingOrder s) (he : Egress s h) (hst : Transition s a t l) :
    Egress t (h ++ l) := by
  cases ha : a.plain with
  | true =>
    have hsame := hst.sameEgress ha
    rw [hst.no_events ha, List.append_nil]
    exact he.congr hsame.pending hsame.queue hsame.linkOpen hsame.buffers hsame.refs
      (fun hset => hsame.closed.trans hset)
  | false =>
    cases hst with
    | readBody hi hread => exact (he.read hread).congr rfl rfl rfl rfl rfl fun hset => hset
    | enqueue hopen hroom => exact he.enqueue hopen _
    | closeClear hcloser hclear =>
      have hclosed : s.closed := by rw [hs.closed, hcloser]; rfl
      exact (he.closeClear hclosed hclear).congr rfl rfl rfl rfl rfl fun hset => hset
    | closeLink hcloser hclose =>
      have hclosed : s.closed := by rw [hs.closed, hcloser]; rfl
      have hpending : s.pending = none := hs.cleared (by rw [hcloser]; rfl)
      exact (he.closeLink hclosed hpending hclose).congr rfl rfl rfl rfl rfl fun hset => hset
    | closeSet hcloser =>
      rw [List.append_nil]
      exact he.congr rfl rfl rfl rfl rfl fun _ => rfl
    | closeCall hcloser hm | closeLock hcloser hm | closeReadMu hcloser hfree
    | closeWait hcloser hwork =>
      rw [List.append_nil]
      exact he.congr rfl rfl rfl rfl rfl fun hset => hset
    | _ => cases ha

section Releasing

variable {packet : LinkPacket} {capacity : ℕ}

theorem Next.refs {u : State} (h : Next s packet u l) : u.refs = s.refs := by
  cases h with
  | pending _ => rfl
  | queue _ _ => rfl

end Releasing

section Retry

variable {packet : LinkPacket} {capacity : ℕ}

end Retry

end Steps

end FoloXray.Netstack
