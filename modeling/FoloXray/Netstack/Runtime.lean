import FoloXray.Foundation.RWMutex
import FoloXray.Foundation.Runs
import FoloXray.Foundation.Stream

/-! # A network-stack runtime

The methods of one `netstackRuntime` as a step system: any number of `injectPacket`, `readPacket`
and `handleTCP` calls, the flows they start, and one `close`.  The network stack delivers an
injected packet on the goroutine of `injectPacket`, and `handleUDP` runs inside that call; a TCP
request is handled on a goroutine of its own.  Whether a packet starts a UDP flow, and whether the
endpoint, the route and the dial let the flow go on, is decided by the surroundings.
-/

namespace FoloXray.Netstack
open Foundation

def netstackPacketQueueDepth : ℕ := 64
def netstackMaxPacketSize : ℕ := 64 * 1024
def netstackMaxConcurrentTCP : ℕ := 48
def netstackMaxConcurrentUDP : ℕ := 48

inductive NetstackError where
  | packetTooLarge
  | malformed
  | stopped
  | wouldBlock
  | emptyBuffer
  deriving DecidableEq, Repr

/-- The check of `injectPacket` before it takes the lock. -/
def checkSize (packet : Bytes) : Option NetstackError :=
  if packet.length = 0 ∨ netstackMaxPacketSize < packet.length then some .packetTooLarge else none

def checkHeader (packet : Bytes) : Option NetstackError :=
  let version := (packet.getD 0 0).toNat / 16
  if version = 4 then if packet.length < 20 then some .malformed else none
  else if version = 6 then if packet.length < 40 then some .malformed else none
  else some .malformed

/-- A packet that leaves the stack: its buffer identity and the slices of its data. -/
structure LinkPacket where
  buffer : ℕ
  slices : List Bytes
  deriving DecidableEq, Repr

def LinkPacket.length (p : LinkPacket) : ℕ := (p.slices.map List.length).sum

/-- The loop that copies the slices behind each other into a buffer of `capacity` bytes; `stored` is
what the buffer holds so far, and its length the offset. -/
def copySlices (capacity : ℕ) : Bytes → List Bytes → Bytes
  | stored, [] => stored
  | stored, part :: parts => copySlices capacity (stored ++ part.take (capacity - stored.length)) parts

/-- What `readPacket` returns: the count, the bytes it stored, and the error. -/
structure ReadResult where
  length : ℕ
  data : Bytes
  error : Option NetstackError
  deriving DecidableEq, Repr

/-- What happens to a packet: the stack puts it into the link queue, a reader takes it from there, looks
into it, and returns it; a reference to its buffer is released. -/
inductive Event where
  | enqueued (packet : LinkPacket)
  | taken (packet : LinkPacket)
  | used (packet : LinkPacket)
  | released (buffer : ℕ)
  | delivered (packet : LinkPacket) (capacity : ℕ) (result : ReadResult)
  deriving DecidableEq, Repr

inductive Transport where
  | tcp
  | udp
  deriving DecidableEq, Repr

def Transport.limit : Transport → ℕ
  | .tcp => netstackMaxConcurrentTCP
  | .udp => netstackMaxConcurrentUDP

/-- The program counter of one call.  The handlers of both transports take a token, decide, and call
`startWork`; the UDP handler does so inside `injectPacket`, between `udpStart` and
`injectReleasing`. -/
inductive Phase where
  | absent
  | injectWaiting (packet : Bytes)
  | injectHeld (packet : Bytes)
  | udpStart
  | tokenHeld (transport : Transport)
  | workWaiting (transport : Transport)
  | workNested (transport : Transport)
  | injectReleasing (error : Option NetstackError)
  | injectReturned (error : Option NetstackError)
  | tcpReturned
  | readWaiting (capacity : ℕ)
  | readLocked (capacity : ℕ)
  | readHeld (capacity : ℕ)
  | readReleasing (result : ReadResult)
  | readReturned (result : ReadResult)
  deriving DecidableEq, Repr

def Transport.after : Transport → Phase
  | .tcp => .tcpReturned
  | .udp => .injectReleasing none

/-- The work goroutine that a call started: it gives its token back before it counts as done. -/
inductive Flow where
  | absent
  | running (transport : Transport)
  | finishing
  | done
  deriving DecidableEq, Repr

inductive ClosePhase where
  | uncalled
  | waiting
  | locked
  | cancelling
  | clearing
  | closing
  | draining
  | finished
  deriving DecidableEq, Repr

/-- The runtime, its calls, flows and `close`.  The owner of `readMu` is a call or, as `none`,
`close`; buffers are numbered as they are created. -/
structure State where
  lifeMu : RWMutex ℕ
  closed : Bool
  cancelled : Bool
  readMu : Option (Option ℕ)
  pending : Option LinkPacket
  queue : List LinkPacket
  linkOpen : Bool
  buffers : ℕ
  refs : ℕ → ℕ
  tokens : Transport → ℕ
  work : ℕ
  calls : ℕ → Phase
  flows : ℕ → Flow
  closer : ClosePhase

def initial : State where
  lifeMu := .unlocked
  closed := false
  cancelled := false
  readMu := none
  pending := none
  queue := []
  linkOpen := true
  buffers := 0
  refs := fun _ => 0
  tokens := fun _ => 0
  work := 0
  calls := fun _ => .absent
  flows := fun _ => .absent
  closer := .uncalled

inductive Action where
  | inject (i : ℕ) (packet : Bytes)
  | injectLock (i : ℕ)
  | injectDeliver (i : ℕ) (udp : Bool)
  | udpToken (i : ℕ)
  | tcpToken (i : ℕ)
  | decide (i : ℕ) (proceeds : Bool)
  | workLock (i : ℕ)
  | workBody (i : ℕ)
  | injectUnlock (i : ℕ)
  | read (i capacity : ℕ)
  | readLock (i : ℕ)
  | readMuLock (i : ℕ)
  | readBody (i : ℕ)
  | readUnlock (i : ℕ)
  | flowToken (i : ℕ)
  | flowDone (i : ℕ)
  | enqueue (slices : List Bytes)
  | closeCall
  | closeLock
  | closeSet
  | closeReadMu
  | closeClear
  | closeLink
  | closeWait
  deriving DecidableEq, Repr

def State.setCall (s : State) (i : ℕ) (phase : Phase) : State :=
  { s with calls := Function.update s.calls i phase }

def State.setFlow (s : State) (i : ℕ) (flow : Flow) : State :=
  { s with flows := Function.update s.flows i flow }

def State.addToken (s : State) (transport : Transport) : State :=
  { s with tokens := Function.update s.tokens transport (s.tokens transport + 1) }

/-- A receive from the token channel, which blocks while the channel is empty. -/
def State.dropToken (s : State) (transport : Transport) : Option State :=
  if s.tokens transport = 0 then none
  else some { s with tokens := Function.update s.tokens transport (s.tokens transport - 1) }

/-- `DecRef` of a packet buffer, which fails if there is no reference left. -/
def State.decRef (s : State) (packet : LinkPacket) : Option (State × List Event) :=
  if s.refs packet.buffer = 0 then none
  else some ({ s with refs := Function.update s.refs packet.buffer (s.refs packet.buffer - 1) },
    [.released packet.buffer])

def State.decRefs (s : State) : List LinkPacket → Option (State × List Event)
  | [] => some (s, [])
  | packet :: packets => do
    let (s, l) ← s.decRef packet
    let (s, m) ← s.decRefs packets
    pure (s, l ++ m)

/-- The attempt of a handler to take a token: without one it goes on to `refused`. -/
def State.tryToken (s : State) (i : ℕ) (transport : Transport) (refused : Phase) : State :=
  if s.tokens transport < transport.limit then
    (s.addToken transport).setCall i (.tokenHeld transport)
  else s.setCall i refused

def State.linkRead (s : State) : Option LinkPacket × State × List Event :=
  match s.queue with
  | [] => (none, s, [])
  | packet :: queue => (some packet, { s with queue := queue }, [.taken packet])

/-- The packet that is pending, or else the next one of the queue. -/
def State.nextPacket (s : State) : Option LinkPacket × State × List Event :=
  match s.pending with
  | some packet => (some packet, s, [])
  | none => s.linkRead

def State.handOver (s : State) (capacity : ℕ) (packet : LinkPacket) :
    Option (State × ReadResult × List Event) :=
  if capacity < packet.length then
    some ({ s with pending := some packet }, ⟨packet.length, [], some .packetTooLarge⟩, [.used packet])
  else do
    let stored := copySlices capacity [] packet.slices
    let result := ⟨stored.length, stored, none⟩
    let (s, l) ← State.decRef { s with pending := none } packet
    pure (s, result, .used packet :: l ++ [.delivered packet capacity result])

def State.readPacket (s : State) (capacity : ℕ) : Option (State × ReadResult × List Event) :=
  if s.closed then some (s, ⟨0, [], some .stopped⟩, [])
  else
    match s.nextPacket with
    | (none, s, l) => some (s, ⟨0, [], some .wouldBlock⟩, l)
    | (some packet, s, l) => do
      let (s, result, m) ← s.handOver capacity packet
      pure (s, result, l ++ m)

/-- What `injectPacket` does once it holds the read lock; `udp` says whether delivery of the packet
calls `handleUDP`. -/
def State.deliver (s : State) (packet : Bytes) (udp : Bool) : Phase :=
  if s.closed then .injectReleasing (some .stopped)
  else
    match checkHeader packet with
    | some e => .injectReleasing (some e)
    | none => if udp then .udpStart else .injectReleasing none

/-- The section of `startWork` under the read lock, and the release of the token when it refuses. -/
def State.startWork (s : State) (i : ℕ) (transport : Transport) : Option State :=
  let s := { s with lifeMu := s.lifeMu.rUnlock i }
  if s.closed then (s.dropToken transport).map (·.setCall i transport.after)
  else some (({ s with work := s.work + 1 }.setFlow i (.running transport)).setCall i transport.after)

def State.enqueue (s : State) (slices : List Bytes) : State × List Event :=
  ({ s with
    queue := s.queue ++ [⟨s.buffers, slices⟩]
    refs := Function.update s.refs s.buffers 1
    buffers := s.buffers + 1 }, [.enqueued ⟨s.buffers, slices⟩])

/-- `link.Close`: the queue refuses packets and the queued ones are released. -/
def State.closeLink (s : State) : Option (State × List Event) := do
  let (t, l) ← s.decRefs s.queue
  pure ({ t with queue := [], linkOpen := false }, l)

/-- The release of the packet that did not fit a reader's buffer. -/
def State.clearPending (s : State) : Option (State × List Event) :=
  match s.pending with
  | some packet => do
    let (t, l) ← s.decRef packet
    pure ({ t with pending := none }, l)
  | none => some (s, [])

def control (s : State) : Action → Option State
  | .inject i packet =>
    if s.calls i = .absent then
      match checkSize packet with
      | some e => some (s.setCall i (.injectReturned (some e)))
      | none => some (s.setCall i (.injectWaiting packet))
    else none
  | .injectLock i =>
    match s.calls i with
    | .injectWaiting packet =>
      (s.lifeMu.rLock i).map fun m => { s with lifeMu := m }.setCall i (.injectHeld packet)
    | _ => none
  | .injectDeliver i udp =>
    match s.calls i with
    | .injectHeld packet => some (s.setCall i (s.deliver packet udp))
    | _ => none
  | .udpToken i =>
    if s.calls i = .udpStart then some (s.tryToken i .udp (.injectReleasing none)) else none
  | .tcpToken i => if s.calls i = .absent then some (s.tryToken i .tcp .tcpReturned) else none
  | .decide i proceeds =>
    match s.calls i with
    | .tokenHeld transport =>
      if proceeds then some (s.setCall i (.workWaiting transport))
      else (s.dropToken transport).map (·.setCall i transport.after)
    | _ => none
  | .workLock i =>
    match s.calls i with
    | .workWaiting transport =>
      (s.lifeMu.rLock i).map fun m => { s with lifeMu := m }.setCall i (.workNested transport)
    | _ => none
  | .workBody i =>
    match s.calls i with
    | .workNested transport => s.startWork i transport
    | _ => none
  | .injectUnlock i =>
    match s.calls i with
    | .injectReleasing error =>
      some ({ s with lifeMu := s.lifeMu.rUnlock i }.setCall i (.injectReturned error))
    | _ => none
  | .read i capacity =>
    if s.calls i = .absent then
      if capacity = 0 then some (s.setCall i (.readReturned ⟨0, [], some .emptyBuffer⟩))
      else some (s.setCall i (.readWaiting capacity))
    else none
  | .readLock i =>
    match s.calls i with
    | .readWaiting capacity =>
      (s.lifeMu.rLock i).map fun m => { s with lifeMu := m }.setCall i (.readLocked capacity)
    | _ => none
  | .readMuLock i =>
    match s.calls i with
    | .readLocked capacity =>
      if s.readMu = none then
        some ({ s with readMu := some (some i) }.setCall i (.readHeld capacity))
      else none
    | _ => none
  | .readUnlock i =>
    match s.calls i with
    | .readReleasing result =>
      some ({ s with readMu := none, lifeMu := s.lifeMu.rUnlock i }.setCall i (.readReturned result))
    | _ => none
  | .flowToken i =>
    match s.flows i with
    | .running transport => (s.dropToken transport).map (·.setFlow i .finishing)
    | _ => none
  | .flowDone i =>
    if s.flows i = .finishing ∧ s.work ≠ 0 then
      some ({ s with work := s.work - 1 }.setFlow i .done)
    else none
  | .closeCall =>
    if s.closer = .uncalled then
      s.lifeMu.request.map fun m => { s with lifeMu := m, closer := .waiting }
    else none
  | .closeLock =>
    if s.closer = .waiting then
      s.lifeMu.grant.map fun m => { s with lifeMu := m, closer := .locked }
    else none
  | .closeSet =>
    if s.closer = .locked then
      some { s with closed := true, lifeMu := s.lifeMu.unlock, closer := .cancelling }
    else none
  | .closeReadMu =>
    if s.closer = .cancelling ∧ s.readMu = none then
      some { s with cancelled := true, readMu := some none, closer := .clearing }
    else none
  | .closeWait =>
    if s.closer = .draining ∧ s.work = 0 then some { s with closer := .finished } else none
  | .readBody _ | .enqueue _ | .closeClear | .closeLink => none

def perform (s : State) : Action → Option (State × List Event)
  | .readBody i =>
    match s.calls i with
    | .readHeld capacity => do
      let (t, result, l) ← s.readPacket capacity
      pure (t.setCall i (.readReleasing result), l)
    | _ => none
  | .enqueue slices =>
    if s.linkOpen ∧ s.queue.length < netstackPacketQueueDepth then some (s.enqueue slices) else none
  | .closeClear =>
    if s.closer = .clearing then do
      let (t, l) ← s.clearPending
      pure ({ t with readMu := none, closer := .closing }, l)
    else none
  | .closeLink =>
    if s.closer = .closing then do
      let (t, l) ← s.closeLink
      pure ({ t with closer := .draining }, l)
    else none
  | a => (control s a).map (·, [])

def step (s : State) (a : Action) : Option State := (perform s a).map Prod.fst

def events (s : State) (a : Action) : List Event := (perform s a).elim [] Prod.snd

end FoloXray.Netstack
