import FoloXray.Foundation.Runs
import FoloXray.Wrapper.Status

/-! # The packet bridge as interleaved Start, Stop and pump steps

Start call `i` creates socket `i`, context `i`, done channel `i` and pump `i`, so one
number names all four. Each critical section of `packetBridge` is a single step: it
holds nothing that can block, and the mutex is free between steps. Between the critical
sections a call is cut at `socket.Close`, at the receive from `done` and at `go`.
The generation and the frame and byte counters wrap as `uint64` does.
-/

namespace FoloXray.PacketBridge
open Wrapper

structure Bridge where
  socket : Option ℕ
  cancel : Option ℕ
  done : Option ℕ
  generation : UInt64
  state : RunState
  error : ErrorSlot
  framesIn : UInt64
  framesOut : UInt64
  bytesIn : UInt64
  bytesOut : UInt64
  deriving DecidableEq, Repr

/-- The results `Echo` can end with; it never returns nil. -/
inductive EchoError where
  | canceled
  | read
  | write
  deriving DecidableEq, Repr

inductive StartPhase where
  | ready
  | failing
  | locking
  | rejecting
  | spawning
  | returned (code : Status)
  deriving DecidableEq, Repr

/-- Where a `FoloXrayPacketBridgeStop` call stands, with the handles it captured. -/
inductive StopPhase where
  | ready
  | closing (socket : ℕ) (done : Option ℕ)
  | receiving (socket done : ℕ)
  | clearing (socket : ℕ)
  | returned (code : Status)
  deriving DecidableEq, Repr

/-- Where a pump goroutine stands. `select` to `countOut` are inside `Echo`; the numbers are
the payload length of the packet in the callback. -/
inductive PumpPhase where
  | absent
  | select
  | reading
  | countIn (length : ℕ)
  | writing (length : ℕ)
  | countOut (length : ℕ)
  | closing (err : EchoError)
  | sending (err : EchoError)
  | clearing (err : EchoError)
  | exited
  deriving DecidableEq, Repr

structure State where
  bridge : Bridge
  closed : ℕ → Bool
  cancelled : ℕ → Bool
  channel : ℕ → Option EchoError
  generation : ℕ → UInt64
  start : ℕ → StartPhase
  stop : ℕ → StopPhase
  pump : ℕ → PumpPhase

def initialBridge : Bridge where
  socket := none
  cancel := none
  done := none
  generation := 0
  state := .idle
  error := clearErrorLocked
  framesIn := 0
  framesOut := 0
  bytesIn := 0
  bytesOut := 0

def initial : State where
  bridge := initialBridge
  closed := fun _ => false
  cancelled := fun _ => false
  channel := fun _ => none
  generation := fun _ => 0
  start := fun _ => .ready
  stop := fun _ => .ready
  pump := fun _ => .absent

inductive Action where
  | startOpen (i : ℕ) (accepted : Bool)
  | startLocked (i : ℕ)
  | startTail (i : ℕ)
  | stopLocked (j : ℕ)
  | stopClose (j : ℕ)
  | stopReceive (j : ℕ)
  | stopClear (j : ℕ)
  | pumpSelect (i : ℕ)
  | pumpRead (i : ℕ) (packet : Option ℕ)
  | pumpCountIn (i : ℕ)
  | pumpWrite (i : ℕ) (written : Bool)
  | pumpCountOut (i : ℕ)
  | pumpClose (i : ℕ)
  | pumpSend (i : ℕ)
  | pumpClear (i : ℕ)
  deriving DecidableEq, Repr

/-- The four assignments and the idle state both clearing sections write. -/
def Bridge.unregister (b : Bridge) : Bridge :=
  { b with socket := none, cancel := none, done := none, state := .idle }

def Bridge.register (b : Bridge) (i : ℕ) : Bridge where
  socket := some i
  cancel := some i
  done := some i
  generation := b.generation + 1
  state := .running
  error := clearErrorLocked
  framesIn := 0
  framesOut := 0
  bytesIn := 0
  bytesOut := 0

/-- The callback's first critical section, for a payload of `n` bytes. -/
def Bridge.countIn (b : Bridge) (n : ℕ) : Bridge :=
  { b with framesIn := b.framesIn + 1, bytesIn := b.bytesIn + .ofNat n }

def Bridge.countOut (b : Bridge) (n : ℕ) : Bridge :=
  { b with framesOut := b.framesOut + 1, bytesOut := b.bytesOut + .ofNat n }

def startOpen (s : State) (i : ℕ) (accepted : Bool) : Option State :=
  match s.start i with
  | .ready => some { s with
      start := Function.update s.start i (if accepted then .locking else .failing) }
  | _ => none

/-- The critical section of a Start call: the error branch, the rejection and the
registration. -/
def startLocked (s : State) (i : ℕ) : Option State :=
  match s.start i with
  | .failing => some { s with
      bridge := { s.bridge with
        error := (setErrorLocked .invalidArgument "packet socket rejected").1 }
      start := Function.update s.start i (.returned .invalidArgument) }
  | .locking =>
    if s.bridge.socket.isSome ∨ s.bridge.state = .running then
      some { s with start := Function.update s.start i .rejecting }
    else some { s with
      bridge := s.bridge.register i
      generation := Function.update s.generation i (s.bridge.generation + 1)
      start := Function.update s.start i .spawning }
  | _ => none

/-- What a Start call does after its Unlock: close the refused socket, or `go` the pump. -/
def startTail (s : State) (i : ℕ) : Option State :=
  match s.start i with
  | .rejecting => some { s with
      closed := Function.update s.closed i true
      start := Function.update s.start i (.returned .invalidState) }
  | .spawning => some { s with
      pump := Function.update s.pump i .select
      start := Function.update s.start i (.returned .ok) }
  | _ => none

/-- The first critical section of Stop. Calling a nil `cancel` would panic; no run gets
there. -/
def stopLocked (s : State) (j : ℕ) : Option State :=
  match s.stop j with
  | .ready =>
    match s.bridge.socket with
    | none => some { s with
        bridge := { s.bridge with state := .idle, error := clearErrorLocked }
        stop := Function.update s.stop j (.returned .ok) }
    | some i =>
      match s.bridge.cancel with
      | none => none
      | some c => some { s with
          cancelled := Function.update s.cancelled c true
          stop := Function.update s.stop j (.closing i s.bridge.done) }
  | _ => none

/-- `socket.Close` of Stop; a nil `done` skips the receive. -/
def stopClose (s : State) (j : ℕ) : Option State :=
  match s.stop j with
  | .closing i done => some { s with
      closed := Function.update s.closed i true
      stop := Function.update s.stop j
        (match done with
          | some d => .receiving i d
          | none => .clearing i) }
  | _ => none

/-- The receive from `done`, blocked while the channel is empty. -/
def stopReceive (s : State) (j : ℕ) : Option State :=
  match s.stop j with
  | .receiving i d =>
    match s.channel d with
    | none => none
    | some _ => some { s with
        channel := Function.update s.channel d none
        stop := Function.update s.stop j (.clearing i) }
  | _ => none

/-- The second critical section of Stop, which clears without a generation check. -/
def stopClear (s : State) (j : ℕ) : Option State :=
  match s.stop j with
  | .clearing _ => some { s with
      bridge := { s.bridge.unregister with error := clearErrorLocked }
      stop := Function.update s.stop j (.returned .ok) }
  | _ => none

def setPump (s : State) (i : ℕ) (p : PumpPhase) : State :=
  { s with pump := Function.update s.pump i p }

def pumpSelect (s : State) (i : ℕ) : Option State :=
  match s.pump i with
  | .select => some (setPump s i (if s.cancelled i then .closing .canceled else .reading))
  | _ => none

/-- `ReadPacket`: a packet arrives on an open socket, or the read fails. -/
def pumpRead (s : State) (i : ℕ) (packet : Option ℕ) : Option State :=
  match s.pump i, packet with
  | .reading, some n => if s.closed i then none else some (setPump s i (.countIn n))
  | .reading, none => some (setPump s i (.closing .read))
  | _, _ => none

def pumpCountIn (s : State) (i : ℕ) : Option State :=
  match s.pump i with
  | .countIn n => some { setPump s i (.writing n) with bridge := s.bridge.countIn n }
  | _ => none

def pumpWrite (s : State) (i : ℕ) (written : Bool) : Option State :=
  match s.pump i, written with
  | .writing n, true => if s.closed i then none else some (setPump s i (.countOut n))
  | .writing _, false => some (setPump s i (.closing .write))
  | _, _ => none

def pumpCountOut (s : State) (i : ℕ) : Option State :=
  match s.pump i with
  | .countOut n => some { setPump s i .select with bridge := s.bridge.countOut n }
  | _ => none

def pumpClose (s : State) (i : ℕ) : Option State :=
  match s.pump i with
  | .closing err => some { setPump s i (.sending err) with
      closed := Function.update s.closed i true }
  | _ => none

def pumpSend (s : State) (i : ℕ) : Option State :=
  match s.pump i, s.channel i with
  | .sending err, none => some { setPump s i (.clearing err) with
      channel := Function.update s.channel i (some err) }
  | _, _ => none

def pumpClear (s : State) (i : ℕ) : Option State :=
  match s.pump i with
  | .clearing _ =>
    if s.bridge.generation ≠ s.generation i then some (setPump s i .exited)
    else some { setPump s i .exited with
      bridge := { s.bridge.unregister with
        error := if s.cancelled i then s.bridge.error
          else (setErrorLocked .internalError "packet bridge terminated").1 } }
  | _ => none

def step (s : State) : Action → Option State
  | .startOpen i accepted => startOpen s i accepted
  | .startLocked i => startLocked s i
  | .startTail i => startTail s i
  | .stopLocked j => stopLocked s j
  | .stopClose j => stopClose s j
  | .stopReceive j => stopReceive s j
  | .stopClear j => stopClear s j
  | .pumpSelect i => pumpSelect s i
  | .pumpRead i packet => pumpRead s i packet
  | .pumpCountIn i => pumpCountIn s i
  | .pumpWrite i written => pumpWrite s i written
  | .pumpCountOut i => pumpCountOut s i
  | .pumpClose i => pumpClose s i
  | .pumpSend i => pumpSend s i
  | .pumpClear i => pumpClear s i

end FoloXray.PacketBridge
