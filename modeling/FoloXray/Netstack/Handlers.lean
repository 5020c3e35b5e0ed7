import FoloXray.Netstack.Runtime
import FoloXray.Netstack.UDPRelay

/-! # The flow handlers, statement by statement

`handleTCP`, `handleUDP`, `startWork` and the goroutines they launch, with `close`, as a step system
in which one step is one statement that touches a token channel, the life mutex or the work group,
or one answer of the surroundings: the endpoint, the route, the dial.  A path that leaves a handler
early is the list of the statements it still executes.  The calls of `injectPacket` and `readPacket`
appear as further readers of the life mutex.
-/

namespace FoloXray.Netstack.Handlers
open Foundation Routing

deriving instance DecidableEq, Repr for EndpointID

/-- What a handler or a goroutine does on its way out. -/
inductive Statement where
  | release
  | complete (reset : Bool)
  | closeInbound
  | closeOutbound
  deriving DecidableEq, Repr

/-- How a dial for datagrams ends: `plainConn` is a connection that is no packet connection, with
whether `net.ListenPacket` then succeeds. -/
inductive Dialed where
  | failed
  | packetConn
  | plainConn (listened : Bool)
  deriving DecidableEq, Repr

/-- Whether `handleUDP` has an outbound connection after its dial. -/
def hasOutbound (action : RouteAction) (dialed : Dialed) : Bool :=
  match action, dialed with
  | _, .failed => false
  | .direct, .plainConn listened => listened
  | _, _ => true

/-- The program counter of one handler invocation.  The answer of an `exit` or a return is what
`handleUDP` returns; `handleTCP` returns nothing. -/
inductive Point where
  | absent
  | select (transport : Transport) (id : EndpointID)
  | tcpEndpoint (id : EndpointID)
  | tcpAddress (id : EndpointID)
  | udpAddress (id : EndpointID)
  | udpRoute
  | udpEndpoint (action : RouteAction)
  | udpDial (action : RouteAction)
  | workLock (transport : Transport)
  | workCheck (transport : Transport)
  | workAdd (transport : Transport)
  | workUnlock (transport : Transport) (started : Bool)
  | workGo (transport : Transport)
  | exit (transport : Transport) (code : List Statement) (answer : Bool)
  | returned (transport : Transport) (answer : Bool)
  deriving DecidableEq, Repr

/-- The work that an invocation hands to `startWork`: counted by the work group, running in its
goroutine, executing the deferred calls, and done. -/
inductive Work where
  | absent
  | counted (transport : Transport)
  | running (transport : Transport)
  | deferred (transport : Transport) (code : List Statement)
  | done
  deriving DecidableEq, Repr

inductive Closer where
  | uncalled
  | waiting
  | locked
  | set
  | unlocked
  | draining
  | finished
  deriving DecidableEq, Repr

def entry (id : EndpointID) : Transport → Point
  | .tcp => .tcpEndpoint id
  | .udp => .udpAddress id

/-- The statements after a refused select, after a failed endpoint, and after a `startWork` that
refused. -/
def selectRefused : Transport → List Statement
  | .tcp => [.complete true]
  | .udp => []

def endpointFailed : Transport → List Statement
  | .tcp => [.release, .complete true]
  | .udp => [.release]

def workRefused : Transport → List Statement
  | .tcp => [.release, .closeInbound]
  | .udp => [.release, .closeInbound, .closeOutbound]

/-- The deferred calls of the work, last deferred first. -/
def deferredCalls : Transport → List Statement
  | .tcp => [.release]
  | .udp => [.closeOutbound, .closeInbound, .release]

/-- The runtime as the handlers see it.  `outer` counts the read locks of the life mutex that are
held outside `startWork`. -/
structure State where
  lifeMu : RWMutex ℕ
  closed : Bool
  tokens : Transport → ℕ
  work : ℕ
  outer : ℕ → ℕ
  points : ℕ → Point
  works : ℕ → Work
  closer : Closer

def initial : State where
  lifeMu := .unlocked
  closed := false
  tokens := fun _ => 0
  work := 0
  outer := fun _ => 0
  points := fun _ => .absent
  works := fun _ => .absent
  closer := .uncalled

inductive Action where
  | call (i : ℕ) (transport : Transport) (id : EndpointID)
  | select (i : ℕ)
  | endpoint (i : ℕ) (created : Bool)
  | address (i : ℕ)
  | route (i : ℕ) (action : RouteAction)
  | dial (i : ℕ) (dialed : Dialed)
  | workLock (i : ℕ)
  | workCheck (i : ℕ)
  | workAdd (i : ℕ)
  | workUnlock (i : ℕ)
  | workGo (i : ℕ)
  | exec (i : ℕ)
  | proxyReturn (i : ℕ)
  | workExec (i : ℕ)
  | readerLock (i : ℕ)
  | readerUnlock (i : ℕ)
  | closeCall
  | closeLock
  | closeSet
  | closeUnlock
  | closeLink
  | closeWait
  deriving DecidableEq, Repr

def State.setPoint (s : State) (i : ℕ) (point : Point) : State :=
  { s with points := Function.update s.points i point }

def State.setWork (s : State) (i : ℕ) (work : Work) : State :=
  { s with works := Function.update s.works i work }

/-- The statement of an exit path or a deferred call.  A receive from the token channel blocks while
the channel is empty; the other statements touch nothing that the invocations share. -/
def State.execute (s : State) (transport : Transport) : Statement → Option State
  | .release =>
    if s.tokens transport = 0 then none
    else some { s with
      tokens := Function.update s.tokens transport (s.tokens transport - 1) }
  | .complete _ | .closeInbound | .closeOutbound => some s

def step (s : State) : Action → Option State
  | .call i transport id =>
    if s.points i = .absent then some (s.setPoint i (.select transport id)) else none
  | .select i =>
    match s.points i with
    | .select transport id =>
      if s.tokens transport < transport.limit then
        some ({ s with tokens := Function.update s.tokens transport (s.tokens transport + 1) }.setPoint
          i (entry id transport))
      else some (s.setPoint i (.exit transport (selectRefused transport) false))
    | _ => none
  | .endpoint i created =>
    match s.points i with
    | .tcpEndpoint id =>
      if created then some (s.setPoint i (.tcpAddress id))
      else some (s.setPoint i (.exit .tcp (endpointFailed .tcp) false))
    | .udpEndpoint action =>
      if created then some (s.setPoint i (.udpDial action))
      else some (s.setPoint i (.exit .udp (endpointFailed .udp) false))
    | _ => none
  | .address i =>
    match s.points i with
    | .tcpAddress id =>
      if netstackAddress id.localAddress = none ∨ id.localPort = 0 then
        some (s.setPoint i (.exit .tcp [.release, .closeInbound] false))
      else some (s.setPoint i (.workLock .tcp))
    | .udpAddress id =>
      if netstackUDPAddress id.localAddress id.localPort = none then
        some (s.setPoint i (.exit .udp [.release] false))
      else some (s.setPoint i .udpRoute)
    | _ => none
  | .route i action =>
    match s.points i with
    | .udpRoute =>
      if action = .block then some (s.setPoint i (.exit .udp [.release] true))
      else some (s.setPoint i (.udpEndpoint action))
    | _ => none
  | .dial i dialed =>
    match s.points i with
    | .udpDial action =>
      if hasOutbound action dialed then some (s.setPoint i (.workLock .udp))
      else some (s.setPoint i (.exit .udp [.release, .closeInbound] true))
    | _ => none
  | .workLock i =>
    match s.points i with
    | .workLock transport =>
      (s.lifeMu.rLock i).map fun m => { s with lifeMu := m }.setPoint i (.workCheck transport)
    | _ => none
  | .workCheck i =>
    match s.points i with
    | .workCheck transport =>
      if s.closed then some (s.setPoint i (.workUnlock transport false))
      else some (s.setPoint i (.workAdd transport))
    | _ => none
  | .workAdd i =>
    match s.points i with
    | .workAdd transport =>
      some (({ s with work := s.work + 1 }.setWork i (.counted transport)).setPoint i
        (.workUnlock transport true))
    | _ => none
  | .workUnlock i =>
    match s.points i with
    | .workUnlock transport started =>
      some ({ s with lifeMu := s.lifeMu.rUnlock i }.setPoint i
        (if started then .workGo transport else .exit transport (workRefused transport) true))
    | _ => none
  | .workGo i =>
    match s.points i with
    | .workGo transport =>
      some ((s.setWork i (.running transport)).setPoint i (.returned transport true))
    | _ => none
  | .exec i =>
    match s.points i with
    | .exit transport [] answer => some (s.setPoint i (.returned transport answer))
    | .exit transport (statement :: code) answer =>
      (s.execute transport statement).map (·.setPoint i (.exit transport code answer))
    | _ => none
  | .proxyReturn i =>
    match s.works i with
    | .running transport => some (s.setWork i (.deferred transport (deferredCalls transport)))
    | _ => none
  | .workExec i =>
    match s.works i with
    | .deferred _ [] =>
      if s.work = 0 then none else some ({ s with work := s.work - 1 }.setWork i .done)
    | .deferred transport (statement :: code) =>
      (s.execute transport statement).map (·.setWork i (.deferred transport code))
    | _ => none
  | .readerLock i =>
    (s.lifeMu.rLock i).map fun m =>
      { s with lifeMu := m, outer := Function.update s.outer i (s.outer i + 1) }
  | .readerUnlock i =>
    if s.outer i = 0 then none
    else some { s with
      lifeMu := s.lifeMu.rUnlock i
      outer := Function.update s.outer i (s.outer i - 1) }
  | .closeCall =>
    if s.closer = .uncalled then
      s.lifeMu.request.map fun m => { s with lifeMu := m, closer := .waiting }
    else none
  | .closeLock =>
    if s.closer = .waiting then
      s.lifeMu.grant.map fun m => { s with lifeMu := m, closer := .locked }
    else none
  | .closeSet => if s.closer = .locked then some { s with closed := true, closer := .set } else none
  | .closeUnlock =>
    if s.closer = .set then some { s with lifeMu := s.lifeMu.unlock, closer := .unlocked } else none
  | .closeLink => if s.closer = .unlocked then some { s with closer := .draining } else none
  | .closeWait =>
    if s.closer = .draining ∧ s.work = 0 then some { s with closer := .finished } else none

end FoloXray.Netstack.Handlers
