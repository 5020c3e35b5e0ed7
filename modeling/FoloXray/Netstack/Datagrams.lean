import FoloXray.Foundation.Runs
import FoloXray.Netstack.UDPRelay

/-! # Datagrams through the UDP relay

Both copy loops of `proxyUDP` and its closing of the two connections, as steps that may come in any
order.  Each loop reads a datagram into a buffer of 4096 bytes and writes what the buffer holds; reading a
longer datagram drops its rest without an error.
-/

namespace FoloXray.Netstack
open Foundation

inductive Direction where
  | outward
  | inward
  deriving DecidableEq, Repr

/-- Where a copy loop is: at its read, between read and write with the datagram and what the buffer has
of it, or at its end. -/
inductive RelayLoop where
  | reading
  | holding (datagram buffered : Bytes)
  | finished
  deriving DecidableEq, Repr

/-- One direction: what has arrived, what of it is not read yet, the loop, and each datagram that was
forwarded with the payload that was written for it. -/
structure Lane where
  arrived : List Bytes
  queue : List Bytes
  loop : RelayLoop
  forwarded : List (Bytes × Bytes)
  deriving DecidableEq, Repr

structure Relay where
  lane : Direction → Lane
  closed : Bool

/-- The largest payload of a UDP datagram in an IPv4 packet. -/
def maxDatagram : ℕ := 65507

/-- The dispatcher connection copies a payload into a buffer of its own. -/
def dispatcherBufferSize : ℕ := 8192

inductive RelayEvent where
  | arrive (d : Direction) (datagram : Bytes)
  | read (d : Direction)
  | readFails (d : Direction)
  | write (d : Direction)
  | writeFails (d : Direction)
  | close
  deriving DecidableEq, Repr

/-- Once they are closed the sockets fail; the dispatcher connection still hands out what it has
cached, and still dispatches. -/
def PacketConn.usable (conn : PacketConn) (closed : Bool) : Bool := !closed || conn == .dispatcher

def readable (conn : PacketConn) (closed : Bool) : Direction → Bool
  | .outward => !closed
  | .inward => conn.usable closed

def writable (conn : PacketConn) (closed : Bool) : Direction → Bool
  | .outward => conn.usable closed
  | .inward => !closed

def PacketConn.carried : PacketConn → Bytes → Bytes
  | .connected _, payload => payload
  | .listening, payload => payload
  | .dispatcher, payload => payload.take dispatcherBufferSize

/-- The write of a loop: to the destination of the flow, or to the client. -/
def UDPFlow.write (flow : UDPFlow) : Direction → Bytes → Except WriteError Bytes
  | .outward, buffered =>
    (flow.outbound.writeTo buffered flow.destination).map fun packet => flow.outbound.carried packet.1
  | .inward, buffered => .ok buffered

namespace Lane

variable (l : Lane)

def arrive (datagram : Bytes) : Lane :=
  { l with arrived := l.arrived ++ [datagram], queue := l.queue ++ [datagram] }

def hold (datagram : Bytes) (rest : List Bytes) : Lane :=
  { l with loop := .holding datagram (datagram.take udpBufferSize), queue := rest }

def finish : Lane := { l with loop := .finished }

def forward (datagram sent : Bytes) : Lane :=
  { l with loop := .reading, forwarded := l.forwarded ++ [(datagram, sent)] }

end Lane

def Relay.setLane (s : Relay) (d : Direction) (l : Lane) : Relay :=
  { s with lane := Function.update s.lane d l }

def relayStep (flow : UDPFlow) (s : Relay) : RelayEvent → Option Relay
  | .arrive d datagram =>
    if datagram.length ≤ maxDatagram then some (s.setLane d ((s.lane d).arrive datagram)) else none
  | .read d =>
    match (s.lane d).loop, (s.lane d).queue with
    | .reading, datagram :: rest =>
      if readable flow.outbound s.closed d then some (s.setLane d ((s.lane d).hold datagram rest))
      else none
    | _, _ => none
  | .readFails d =>
    match (s.lane d).loop with
    | .reading => some (s.setLane d (s.lane d).finish)
    | _ => none
  | .write d =>
    match (s.lane d).loop with
    | .holding datagram buffered =>
      if writable flow.outbound s.closed d then
        match flow.write d buffered with
        | .ok sent => some (s.setLane d ((s.lane d).forward datagram sent))
        | .error _ => some (s.setLane d (s.lane d).finish)
      else none
    | _ => none
  | .writeFails d =>
    match (s.lane d).loop with
    | .holding _ _ => some (s.setLane d (s.lane d).finish)
    | _ => none
  | .close =>
    -- the first token on `copyDone`
    if s.closed = false ∧ ((s.lane .outward).loop = .finished ∨ (s.lane .inward).loop = .finished) then
      some { s with closed := true }
    else none

def Relay.start : Relay := ⟨fun _ => ⟨[], [], .reading, []⟩, false⟩

inductive LaneStep (flow : UDPFlow) (d : Direction) : Lane → Lane → Prop where
  | arrive {l : Lane} (datagram : Bytes) : LaneStep flow d l (l.arrive datagram)
  | hold {l : Lane} {datagram : Bytes} {rest : List Bytes} (hloop : l.loop = .reading)
      (hqueue : l.queue = datagram :: rest) : LaneStep flow d l (l.hold datagram rest)
  | finish {l : Lane} : LaneStep flow d l l.finish
  | forward {l : Lane} {datagram buffered sent : Bytes} (hloop : l.loop = .holding datagram buffered)
      (hwrite : flow.write d buffered = .ok sent) : LaneStep flow d l (l.forward datagram sent)

@[simp] theorem setLane_self (s : Relay) (d : Direction) (l : Lane) : (s.setLane d l).lane d = l :=
  Function.update_self _ _ _

theorem setLane_other {d d' : Direction} (h : d' ≠ d) (s : Relay) (l : Lane) :
    (s.setLane d l).lane d' = s.lane d' := Function.update_of_ne h _ _

@[simp] theorem setLane_closed (s : Relay) (d : Direction) (l : Lane) :
    (s.setLane d l).closed = s.closed := rfl

theorem setLane_lane {flow : UDPFlow} {s : Relay} {d : Direction} {l : Lane}
    (h : LaneStep flow d (s.lane d) l) (d' : Direction) :
    (s.setLane d l).lane d' = s.lane d' ∨ LaneStep flow d' (s.lane d') ((s.setLane d l).lane d') := by
  by_cases hd : d' = d
  · subst hd
    rw [setLane_self]
    exact .inr h
  · exact .inl (setLane_other hd s l)

theorem relayStep_lane {flow : UDPFlow} {s t : Relay} {e : RelayEvent} (h : relayStep flow s e = some t)
    (d : Direction) : t.lane d = s.lane d ∨ LaneStep flow d (s.lane d) (t.lane d) := by
  cases e with
  | arrive d' datagram =>
    simp only [relayStep] at h
    split at h
    · cases h
      exact setLane_lane (.arrive datagram) d
    · cases h
  | read d' =>
    simp only [relayStep] at h
    split at h
    · rename_i datagram rest hloop hqueue
      split at h
      · cases h
        exact setLane_lane (.hold hloop hqueue) d
      · cases h
    · cases h
  | readFails d' =>
    simp only [relayStep] at h
    split at h
    · cases h
      exact setLane_lane .finish d
    · cases h
  | write d' =>
    simp only [relayStep] at h
    split at h
    · rename_i datagram buffered hloop
      split at h
      · split at h
        · rename_i sent hwrite
          cases h
          exact setLane_lane (.forward hloop hwrite) d
        · cases h
          exact setLane_lane .finish d
      · cases h
    · cases h
  | writeFails d' =>
    simp only [relayStep] at h
    split at h
    · cases h
      exact setLane_lane .finish d
    · cases h
  | close =>
    simp only [relayStep] at h
    split at h
    · cases h
      exact .inl rfl
    · cases h

theorem write_connected {flow : UDPFlow} {target : Bytes} (h : flow.outbound = .connected target)
    (buffered : Bytes) : flow.write .outward buffered = .error .writeToConnected := by
  rw [UDPFlow.write, h]
  rfl

/-- What a buffer of the relay holds, the dispatcher connection carries whole. -/
theorem write_unconnected {flow : UDPFlow} {d : Direction} (datagram : Bytes)
    (h : d = .inward ∨ ∀ target, flow.outbound ≠ .connected target) :
    flow.write d (datagram.take udpBufferSize) = .ok (datagram.take udpBufferSize) := by
  have hshort : (datagram.take udpBufferSize).length ≤ dispatcherBufferSize := by
    rw [List.length_take]
    exact (Nat.min_le_left _ _).trans (by decide)
  cases d with
  | inward => rfl
  | outward =>
    cases hconn : flow.outbound with
    | connected target => exact absurd hconn (h.resolve_left nofun target)
    | listening =>
      rw [UDPFlow.write, hconn]
      rfl
    | dispatcher =>
      rw [UDPFlow.write, hconn]
      exact congrArg Except.ok (List.take_of_length_le hshort)

theorem write_take {flow : UDPFlow} {d : Direction} {datagram sent : Bytes}
    (h : flow.write d (datagram.take udpBufferSize) = .ok sent) : sent = datagram.take udpBufferSize := by
  by_cases hconn : d = .inward ∨ ∀ target, flow.outbound ≠ .connected target
  · rw [write_unconnected datagram hconn] at h
    exact (Except.ok.inj h).symm
  · simp only [not_or, not_forall, not_not] at hconn
    obtain ⟨hd, target, htarget⟩ := hconn
    cases d with
    | inward => exact absurd rfl hd
    | outward =>
      rw [write_connected htarget] at h
      cases h

/-- What was forwarded is what arrived, in its order and from its front, cut to the buffer. -/
structure Lane.Faithful (l : Lane) : Prop where
  buffered : ∀ datagram b, l.loop = .holding datagram b → b = datagram.take udpBufferSize
  sent : ∀ p ∈ l.forwarded, p.2 = p.1.take udpBufferSize
  reading : l.loop = .reading → l.arrived = l.forwarded.map Prod.fst ++ l.queue
  holding : ∀ datagram b, l.loop = .holding datagram b →
    l.arrived = l.forwarded.map Prod.fst ++ datagram :: l.queue
  front : l.forwarded.map Prod.fst <+: l.arrived

theorem Lane.Faithful.step {flow : UDPFlow} {d : Direction} {l l' : Lane} (h : l.Faithful)
    (hstep : LaneStep flow d l l') : l'.Faithful := by
  cases hstep with
  | arrive datagram =>
    refine ⟨h.buffered, h.sent, ?_, ?_, ?_⟩
    · intro hloop
      simp only [Lane.arrive, h.reading hloop, List.append_assoc]
    · intro datagram' b hloop
      simp only [Lane.arrive, h.holding datagram' b hloop, List.append_assoc, List.cons_append]
    · exact h.front.trans (List.prefix_append _ _)
  | @hold datagram rest hloop hqueue =>
    have harrived := h.reading hloop
    rw [hqueue] at harrived
    refine ⟨?_, h.sent, nofun, ?_, h.front⟩
    · intro datagram' b hholding
      cases hholding
      rfl
    · intro datagram' b hholding
      cases hholding
      exact harrived
  | finish => exact ⟨nofun, h.sent, nofun, nofun, h.front⟩
  | @forward datagram buffered sent hloop hwrite =>
    have harrived := h.holding datagram buffered hloop
    have hforwarded : (l.forward datagram sent).forwarded.map Prod.fst =
        l.forwarded.map Prod.fst ++ [datagram] := List.map_append
    refine ⟨nofun, ?_, ?_, nofun, ?_⟩
    · intro p hp
      rcases List.mem_append.mp hp with hp | hp
      · exact h.sent p hp
      · rw [List.mem_singleton.mp hp]
        rw [h.buffered datagram buffered hloop] at hwrite
        exact write_take hwrite
    · intro _
      rw [hforwarded, List.append_assoc]
      exact harrived
    · rw [hforwarded]
      refine ⟨l.queue, ?_⟩
      rw [List.append_assoc]
      exact harrived.symm

/-- Every run of the relay forwards what arrives in its order, cut to the buffer. -/
theorem faithful_of_run {flow : UDPFlow} {events : List RelayEvent} {s : Relay}
    (h : run (relayStep flow) .start events = some s) (d : Direction) : (s.lane d).Faithful := by
  have hstart : ∀ d, (Relay.start.lane d).Faithful :=
    fun _ => ⟨nofun, nofun, fun _ => rfl, nofun, List.nil_prefix⟩
  refine run_invariant (P := fun s : Relay => ∀ d, (s.lane d).Faithful) ?_ hstart h d
  intro s e t hs hstep d
  rcases relayStep_lane hstep d with hsame | hlane
  · rw [hsame]
    exact hs d
  · exact (hs d).step hlane

theorem forwarded_connected {flow : UDPFlow} {events : List RelayEvent} {s : Relay} {target : Bytes}
    (hconn : flow.outbound = .connected target) (h : run (relayStep flow) .start events = some s) :
    (s.lane .outward).forwarded = [] := by
  refine run_invariant (P := fun s : Relay => (s.lane .outward).forwarded = []) ?_ rfl h
  intro s e t hs hstep
  rcases relayStep_lane hstep .outward with hsame | hlane
  · rw [hsame]
    exact hs
  · generalize t.lane .outward = l at hlane
    cases hlane with
    | arrive datagram => exact hs
    | hold hloop hqueue => exact hs
    | finish => exact hs
    | forward hloop hwrite =>
      rw [write_connected hconn] at hwrite
      cases hwrite

/-- What any run sends outward is the front of what the loop over all that arrived would send. -/
theorem outward_prefix_proxyUDP {flow : UDPFlow} {events : List RelayEvent} {s : Relay}
    (h : run (relayStep flow) .start events = some s) :
    (s.lane .outward).forwarded.map Prod.snd <+:
      (proxyUDP flow (s.lane .outward).arrived).sent.map Prod.fst := by
  have hfaithful := faithful_of_run h .outward
  by_cases hconn : ∃ target, flow.outbound = .connected target
  · obtain ⟨target, htarget⟩ := hconn
    rw [forwarded_connected htarget h]
    exact List.nil_prefix
  · have hlog := proxyUDP_unconnected flow (not_exists.mp hconn) (s.lane .outward).arrived
    have hsent : (s.lane .outward).forwarded.map Prod.snd =
        ((s.lane .outward).forwarded.map Prod.fst).map (·.take udpBufferSize) := by
      rw [List.map_map]
      exact List.map_congr_left hfaithful.sent
    have hall : (proxyUDP flow (s.lane .outward).arrived).sent.map Prod.fst =
        (s.lane .outward).arrived.map (·.take udpBufferSize) := by
      rw [hlog]
      exact List.map_map.trans (List.map_id _)
    rw [hall, hsent]
    exact hfaithful.front.map _

/-- The steps in which one datagram arrives and is forwarded. -/
def passOn (d : Direction) (datagram : Bytes) : List RelayEvent :=
  [.arrive d datagram, .read d, .write d]

/-- A datagram that finds the relay idle is forwarded with what the buffer has of it. -/
theorem run_passOn (flow : UDPFlow) (d : Direction) {datagram : Bytes}
    (hlength : datagram.length ≤ maxDatagram)
    (hconn : d = .inward ∨ ∀ target, flow.outbound ≠ .connected target) :
    ∃ s, run (relayStep flow) .start (passOn d datagram) = some s ∧ ∀ d', (s.lane d').forwarded =
      if d' = d then [(datagram, datagram.take udpBufferSize)] else [] := by
  have hread : readable flow.outbound false d = true := by cases d <;> rfl
  have hopen : writable flow.outbound false d = true := by cases d <;> rfl
  have hwrite := write_unconnected datagram hconn
  let s₁ := Relay.start.setLane d ((Relay.start.lane d).arrive datagram)
  let s₂ := s₁.setLane d ((s₁.lane d).hold datagram [])
  let s₃ := s₂.setLane d ((s₂.lane d).forward datagram (datagram.take udpBufferSize))
  have harrive : relayStep flow .start (.arrive d datagram) = some s₁ := if_pos hlength
  have hhold : relayStep flow s₁ (.read d) = some s₂ := by
    simp [relayStep, s₁, s₂, Relay.start, Lane.arrive, hread]
  have hforward : relayStep flow s₂ (.write d) = some s₃ := by
    simp [relayStep, s₁, s₂, s₃, Relay.start, Lane.arrive, Lane.hold, hopen, hwrite]
  refine ⟨s₃, ?_, ?_⟩
  · exact run_cons_eq_some.mpr ⟨s₁, harrive, run_cons_eq_some.mpr ⟨s₂, hhold,
      run_cons_eq_some.mpr ⟨s₃, hforward, rfl⟩⟩⟩
  · intro d'
    by_cases hd : d' = d
    · rw [if_pos hd, hd]
      simp [s₁, s₂, s₃, Relay.start, Lane.arrive, Lane.hold, Lane.forward]
    · rw [if_neg hd]
      simp only [s₁, s₂, s₃, setLane_other hd]
      rfl

/-- In every run each forwarded datagram is one that arrived, in its order, and is forwarded intact
exactly if it fits the buffer; so the relay alters none exactly if all that it forwards fit.  A longer one
that finds it idle is forwarded cut, to the client always and outward unless the socket is connected. -/
theorem datagrams_intact_iff {flow : UDPFlow} {events : List RelayEvent} {s : Relay}
    (h : run (relayStep flow) .start events = some s) :
    (∀ d, (s.lane d).forwarded.map Prod.fst <+: (s.lane d).arrived) ∧
    ((∀ d, ∀ p ∈ (s.lane d).forwarded, p.2 = p.1) ↔
      ∀ d, ∀ p ∈ (s.lane d).forwarded, p.1.length ≤ udpBufferSize) ∧
    ∀ d datagram, udpBufferSize < datagram.length → datagram.length ≤ maxDatagram →
      d = .inward ∨ (∀ target, flow.outbound ≠ .connected target) →
      ∃ u, run (relayStep flow) .start (passOn d datagram) = some u ∧
        (datagram, datagram.take udpBufferSize) ∈ (u.lane d).forwarded ∧
        datagram.take udpBufferSize ≠ datagram := by
  have hfaithful := faithful_of_run h
  refine ⟨fun d => (hfaithful d).front, ?_, ?_⟩
  · refine forall_congr' fun d => forall_congr' fun p => forall_congr' fun hp => ?_
    rw [(hfaithful d).sent p hp, List.take_eq_self_iff]
  · intro d datagram hlong hlength hconn
    obtain ⟨u, hrun, hforwarded⟩ := run_passOn flow d hlength hconn
    refine ⟨u, hrun, ?_, ?_⟩
    · rw [hforwarded, if_pos rfl]
      exact List.mem_singleton_self _
    · rw [Ne, List.take_eq_self_iff]
      exact not_le.mpr hlong

def resolverFlow : UDPFlow := ⟨.dispatcher, ⟨some [8, 8, 8, 8], 53⟩⟩

theorem datagrams_intact_iff_short :
    ∃ s, run (relayStep resolverFlow) .start (passOn .inward [1, 2]) = some s ∧
      ([1, 2], [1, 2]) ∈ (s.lane .inward).forwarded ∧ ∀ d, ∀ p ∈ (s.lane d).forwarded, p.2 = p.1 := by
  obtain ⟨s, hrun, hforwarded⟩ :=
    @run_passOn resolverFlow .inward [1, 2] (by decide) (.inl rfl)
  refine ⟨s, hrun, ?_, (datagrams_intact_iff hrun).2.1.mpr ?_⟩
  · rw [hforwarded]
    exact List.mem_singleton_self _
  · intro d p hp
    rw [hforwarded] at hp
    split at hp
    · rw [List.mem_singleton.mp hp]
      decide
    · cases hp

/-- A datagram of one byte more than the buffer is forwarded without it, in either direction. -/
theorem long_datagram_cut :
    (∃ s, run (relayStep resolverFlow) .start (passOn .outward (List.replicate 4097 0)) = some s ∧
      (List.replicate 4097 0, List.replicate 4096 0) ∈ (s.lane .outward).forwarded) ∧
    ∃ s, run (relayStep resolverFlow) .start (passOn .inward (List.replicate 4097 0)) = some s ∧
      (List.replicate 4097 0, List.replicate 4096 0) ∈ (s.lane .inward).forwarded := by
  have hlength : (List.replicate 4097 (0 : UInt8)).length ≤ maxDatagram := by
    rw [List.length_replicate]
    decide
  have hcut (d : Direction) :
      ∃ s, run (relayStep resolverFlow) .start (passOn d (List.replicate 4097 0)) = some s ∧
        (List.replicate 4097 0, List.replicate 4096 0) ∈ (s.lane d).forwarded := by
    obtain ⟨s, hrun, hforwarded⟩ := run_passOn resolverFlow d hlength (.inr nofun)
    refine ⟨s, hrun, ?_⟩
    rw [hforwarded, if_pos rfl, List.take_replicate]
    exact List.mem_singleton_self _
  exact ⟨hcut .outward, hcut .inward⟩

end FoloXray.Netstack
