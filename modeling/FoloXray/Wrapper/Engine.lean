import FoloXray.Foundation.Runs
import FoloXray.Routing.Route
import FoloXray.Wrapper.Status

/-! # The engine, its network-stack runtimes and their entry points

The globals `engine` and `netstack` and any number of concurrent calls of `FoloXrayStartJSON`,
`FoloXrayStop`, `FoloXrayNetstackStart` and `FoloXrayNetstackStop`.  The engine mutex is explicit,
since it is held across the close of a runtime and of the instance.  The sections under the
netstack mutex are single steps.  Instances and runtimes are numbered as they are created, and
every outcome of a callee that can fail is part of the action.  The memory-release calls and the
locks inside a runtime are left out.
-/

namespace FoloXray.Wrapper
open Foundation Routing

/-- The global `engine` without its mutex; the zero time is `none`. -/
structure Engine where
  coreInstance : Option ℕ
  routerConfig : Config
  state : RunState
  error : ErrorSlot
  startedAt : Option ℕ

/-- A configuration that has only a mode. -/
def modeConfig (mode : Bytes) : Config := ⟨mode, [], [], [], [], [], []⟩

def initialEngine : Engine := ⟨none, modeConfig modeRule, .idle, clearErrorLocked, none⟩

/-- A network-stack runtime: its instance and router, the number of flows it runs, whether its
`close` has refused further work, and whether `close` has returned. -/
structure Runtime where
  coreInstance : ℕ
  router : Router
  closed : Bool
  work : ℕ
  finished : Bool

inductive Entry where
  | startJSON
  | stop
  | netstackStart
  | netstackStop
  deriving DecidableEq, Repr

inductive Closer where
  | stop
  | netstackStop
  deriving DecidableEq, Repr

/-- The program counter of one call, with the runtime it took from `netstack`. -/
inductive Phase where
  | absent
  | waiting (entry : Entry)
  | locked (entry : Entry)
  | detaching (closer : Closer)
  | detached (closer : Closer) (runtime : ℕ)
  | draining (closer : Closer) (runtime : ℕ)
  | closingInstance
  | unlocking (entry : Entry) (status : Status)
  | returned (entry : Entry) (status : Status)
  deriving DecidableEq, Repr

structure State where
  engine : Engine
  owner : Option ℕ
  netstack : Option ℕ
  runtimes : ℕ → Option Runtime
  instanceCount : ℕ
  runtimeCount : ℕ
  calls : ℕ → Phase

def initial : State := ⟨initialEngine, none, none, fun _ => none, 0, 0, fun _ => .absent⟩

/-- What a `FoloXrayStartJSON` call is given, and what its callees answer: `routing` is the routing
object that the second decoding finds. -/
structure StartInput where
  config : Option Bytes
  loads : Bool
  creates : Bool
  starts : Bool
  routing : Option Config
  now : ℕ

def maxConfigBytes : ℕ := 4 * 1024 * 1024

/-- A null pointer, no bytes and too many bytes are refused. -/
def copyConfig : Option Bytes → Except Status Bytes
  | none => .error .invalidArgument
  | some bytes =>
    if bytes.length = 0 ∨ maxConfigBytes < bytes.length then .error .invalidArgument else .ok bytes

def Engine.fail (e : Engine) (code : Status) (message : String) : Engine × Status :=
  let (slot, status) := setErrorLocked code message
  ({ e with error := slot }, status)

/-- The body of `FoloXrayStartJSON`; `fresh` is the instance that `core.New` creates. -/
def Engine.startJSON (e : Engine) (fresh : ℕ) (x : StartInput) : Engine × Status :=
  if e.coreInstance ≠ none ∨ e.state = .running then
    e.fail .invalidState "engine is already running"
  else
    match copyConfig x.config with
    | .error code => e.fail code "configuration bytes are empty or too large"
    | .ok _ =>
      if !x.loads then e.fail .invalidConfiguration "configuration rejected"
      else if !x.creates then e.fail .startFailed "engine creation failed"
      else if !x.starts then e.fail .startFailed "engine start failed"
      else
        ({ coreInstance := some fresh
           routerConfig := x.routing.getD (modeConfig modeRule)
           state := .running
           error := clearErrorLocked
           startedAt := some x.now }, .ok)

/-- `newNetstackRuntime`; the router is never nil here, and `configures` says whether the stack
accepts its options and its interface. -/
def newNetstackRuntime (inst : Option ℕ) (r : Router) (configures : Bool) : Option Runtime :=
  match inst with
  | none => none
  | some inst => if configures then some ⟨inst, r, false, 0, false⟩ else none

/-- `startNetstack`, the section under the netstack mutex: the runtime it registers. -/
def startNetstack (registered : Option ℕ) (inst : Option ℕ) (r : Router) (configures : Bool) :
    Option Runtime :=
  if registered ≠ none then none else newNetstackRuntime inst r configures

/-- The body of `FoloXrayNetstackStart`, with the runtime it registers. -/
def Engine.netstackStart (e : Engine) (registered : Option ℕ) (configures : Bool) :
    (Engine × Status) × Option Runtime :=
  if e.coreInstance = none ∨ e.state ≠ .running then
    (e.fail .invalidState "engine is not running", none)
  else
    match startNetstack registered e.coreInstance (newRouter e.routerConfig) configures with
    | none => (e.fail .startFailed "netstack start failed", none)
    | some runtime => (({ e with error := clearErrorLocked }, .ok), some runtime)

/-- The end of `FoloXrayStop` once `Close` of the instance has answered. -/
def Engine.stopped (e : Engine) (closes : Bool) : Engine × Status :=
  if !closes then
    { e with coreInstance := none, state := .idle }.fail .stopFailed "engine stop failed"
  else
    ({ e with coreInstance := none, state := .idle, startedAt := none, error := clearErrorLocked },
      .ok)

inductive Action where
  | call (i : ℕ) (entry : Entry)
  | lock (i : ℕ)
  | startJSON (i : ℕ) (x : StartInput)
  | netstackStart (i : ℕ) (configures : Bool)
  | netstackStop (i : ℕ)
  | stopCheck (i : ℕ)
  | detach (i : ℕ)
  | closeBegin (i : ℕ)
  | closeEnd (i : ℕ)
  | instanceClose (i : ℕ) (closes : Bool)
  | unlock (i : ℕ)
  | startWork (k : ℕ)
  | finishWork (k : ℕ)

def State.setCall (s : State) (i : ℕ) (phase : Phase) : State :=
  { s with calls := Function.update s.calls i phase }

def State.setRuntime (s : State) (k : ℕ) (runtime : Runtime) : State :=
  { s with runtimes := Function.update s.runtimes k (some runtime) }

/-- Where a call goes on once `stopNetstack` has returned. -/
def Closer.afterDetach : Closer → Phase
  | .stop => .closingInstance
  | .netstackStop => .waiting .netstackStop

/-- Where a call starts: only `FoloXrayNetstackStop` begins without the engine mutex. -/
def Entry.start : Entry → Phase
  | .netstackStop => .detaching .netstackStop
  | entry => .waiting entry

def step (s : State) : Action → Option State
  | .call i entry => if s.calls i = .absent then some (s.setCall i entry.start) else none
  | .lock i =>
    match s.calls i with
    | .waiting entry =>
      if s.owner = none then some ({ s with owner := some i }.setCall i (.locked entry)) else none
    | _ => none
  | .startJSON i x =>
    if s.calls i = .locked .startJSON then
      let (engine, status) := s.engine.startJSON s.instanceCount x
      some ({ s with engine := engine, instanceCount := s.instanceCount + 1 }.setCall i
        (.unlocking .startJSON status))
    else none
  | .netstackStart i configures =>
    if s.calls i = .locked .netstackStart then
      let ((engine, status), created) := s.engine.netstackStart s.netstack configures
      let s := { s with engine := engine }.setCall i (.unlocking .netstackStart status)
      match created with
      | none => some s
      | some runtime =>
        some ({ s with netstack := some s.runtimeCount, runtimeCount := s.runtimeCount + 1 }.setRuntime
          s.runtimeCount runtime)
    else none
  | .netstackStop i =>
    if s.calls i = .locked .netstackStop then
      some ({ s with engine := { s.engine with error := clearErrorLocked } }.setCall i
        (.unlocking .netstackStop .ok))
    else none
  | .stopCheck i =>
    if s.calls i = .locked .stop then
      if s.engine.coreInstance = none then
        some ({ s with
          engine := { s.engine with state := .idle, error := clearErrorLocked } }.setCall i
          (.unlocking .stop .ok))
      else some (s.setCall i (.detaching .stop))
    else none
  | .detach i =>
    match s.calls i with
    | .detaching closer =>
      match s.netstack with
      | none => some (s.setCall i closer.afterDetach)
      | some k => some ({ s with netstack := none }.setCall i (.detached closer k))
    | _ => none
  | .closeBegin i =>
    match s.calls i with
    | .detached closer k =>
      (s.runtimes k).map fun runtime =>
        (s.setRuntime k { runtime with closed := true }).setCall i (.draining closer k)
    | _ => none
  | .closeEnd i =>
    match s.calls i with
    | .draining closer k =>
      (s.runtimes k).bind fun runtime =>
        if runtime.work = 0 then
          some ((s.setRuntime k { runtime with finished := true }).setCall i closer.afterDetach)
        else none
    | _ => none
  | .instanceClose i closes =>
    if s.calls i = .closingInstance then
      let (engine, status) := s.engine.stopped closes
      some ({ s with engine := engine }.setCall i (.unlocking .stop status))
    else none
  | .unlock i =>
    match s.calls i with
    | .unlocking entry status => some ({ s with owner := none }.setCall i (.returned entry status))
    | _ => none
  | .startWork k =>
    (s.runtimes k).bind fun runtime =>
      if runtime.closed then none
      else some (s.setRuntime k { runtime with work := runtime.work + 1 })
  | .finishWork k =>
    (s.runtimes k).bind fun runtime =>
      if runtime.work = 0 then none
      else some (s.setRuntime k { runtime with work := runtime.work - 1 })

end FoloXray.Wrapper
