import FoloXray.Routing.Route

/-! # The UDP relay

How a UDP flow of the user-space network stack gets its outbound connection, and the loop that
forwards the client's datagrams to it.  What the surroundings decide (a free token, the endpoint,
the dials, whether the runtime still accepts work) is an input, and so is the text that the stack has for an
address, from which the route is found.  A dialled UDP socket is connected
and is a packet connection; a connected socket refuses the addressed write, the other packet
connections perform it.
-/

namespace FoloXray.Netstack
open Foundation Routing

/-- The end of the flow inside the tunnel: the address and port the client sends to. -/
structure EndpointID where
  localAddress : Bytes
  localPort : UInt16

structure UDPAddr where
  ip : Option Bytes
  port : UInt16
  deriving DecidableEq, Repr

def netstackAddress (address : Bytes) : Option Bytes :=
  if address.length ≠ 4 ∧ address.length ≠ 16 then none else some (ipString address)

def netstackUDPAddress (address : Bytes) (port : UInt16) : Option UDPAddr := do
  let value ← netstackAddress address
  if port = 0 then none else some ⟨parseIP value, port⟩

inductive Conn where
  | udpSocket (target : Bytes)
  | stream (target : Bytes)
  deriving DecidableEq, Repr

inductive PacketConn where
  | connected (target : Bytes)
  | listening
  | dispatcher
  deriving DecidableEq, Repr

def Conn.asPacketConn : Conn → Option PacketConn
  | .udpSocket target => some (.connected target)
  | .stream _ => none

structure DialError where
  text : String
  deriving DecidableEq, Repr

inductive WriteError where
  | writeToConnected
  deriving DecidableEq, Repr

structure UDPEnvironment where
  tokenFree : Bool
  endpoint : Bool
  dialContext : Option DialError
  listenPacket : Option DialError
  dispatcherDial : Option DialError
  accepting : Bool

/-- `DirectDialer.DialUDP`: a connected socket for the target, unless the dial fails. -/
def dialUDP (env : UDPEnvironment) (dest : Bytes) (port : UInt16) : Except DialError Conn :=
  let target := joinHostPort dest (digits 10 port.toNat)
  match env.dialContext with
  | some e => .error e
  | none => .ok (.udpSocket target)

/-- The outbound connection that `handleUDP` picks for the action. -/
def chooseOutbound (env : UDPEnvironment) (action : RouteAction) (destination : UDPAddr) :
    Except DialError PacketConn :=
  if action = .direct then
    match dialUDP env (ipString (destination.ip.getD [])) destination.port with
    | .error e => .error e
    | .ok directConn =>
      match directConn.asPacketConn with
      | some pc => .ok pc
      | none =>
        match env.listenPacket with
        | some e => .error e
        | none => .ok .listening
  else
    match env.dispatcherDial with
    | some e => .error e
    | none => .ok .dispatcher

structure UDPFlow where
  outbound : PacketConn
  destination : UDPAddr
  deriving DecidableEq, Repr

/-- The outcome of `handleUDP`: its result, and the flow it started. -/
structure UDPOutcome where
  handled : Bool
  flow : Option UDPFlow
  deriving DecidableEq, Repr

section

variable (addressString : Bytes → Bytes)

def handleUDP (r : Router) (env : UDPEnvironment) (id : EndpointID) : UDPOutcome :=
  if !env.tokenFree then ⟨false, none⟩
  else
    match netstackUDPAddress id.localAddress id.localPort with
    | none => ⟨false, none⟩
    | some destination =>
      let parsedIP := parseIP (addressString id.localAddress)
      let action := route r [] parsedIP id.localPort
      if action = .block then ⟨true, none⟩
      else if !env.endpoint then ⟨false, none⟩
      else
        match chooseOutbound env action destination with
        | .error _ => ⟨true, none⟩
        | .ok outbound => if env.accepting then ⟨true, some ⟨outbound, destination⟩⟩ else ⟨true, none⟩

def flowAction (r : Router) (id : EndpointID) : RouteAction :=
  route r [] (parseIP (addressString id.localAddress)) id.localPort

end

/-- The addressed write: the datagram that leaves, or the refusal of a connected socket. -/
def PacketConn.writeTo (conn : PacketConn) (payload : Bytes) (destination : UDPAddr) :
    Except WriteError (Bytes × UDPAddr) :=
  match conn with
  | .connected _ => .error .writeToConnected
  | .listening => .ok (payload, destination)
  | .dispatcher => .ok (payload, destination)

def udpBufferSize : ℕ := 4096

structure RelayLog where
  read : List Bytes
  sent : List (Bytes × UDPAddr)
  deriving DecidableEq, Repr

/-- The client-to-outbound loop of `proxyUDP` over the datagrams that arrive before the inbound
side fails; a failed write ends the loop. -/
def proxyUDP (flow : UDPFlow) : List Bytes → RelayLog
  | [] => ⟨[], []⟩
  | datagram :: rest =>
    let payload := datagram.take udpBufferSize
    match flow.outbound.writeTo payload flow.destination with
    | .error _ => ⟨[payload], []⟩
    | .ok packet => ⟨payload :: (proxyUDP flow rest).read, packet :: (proxyUDP flow rest).sent⟩

theorem proxyUDP_connected {flow : UDPFlow} {target : Bytes} (h : flow.outbound = .connected target)
    (datagram : Bytes) (rest : List Bytes) :
    proxyUDP flow (datagram :: rest) = ⟨[datagram.take udpBufferSize], []⟩ := by
  simp [proxyUDP, h, PacketConn.writeTo]

/-- Over an unconnected outbound every datagram is read and sent on. -/
theorem proxyUDP_unconnected (flow : UDPFlow) (h : ∀ target, flow.outbound ≠ .connected target)
    (datagrams : List Bytes) :
    proxyUDP flow datagrams =
      ⟨datagrams.map (·.take udpBufferSize),
        (datagrams.map (·.take udpBufferSize)).map (·, flow.destination)⟩ := by
  have hwrite : ∀ payload, flow.outbound.writeTo payload flow.destination =
      .ok (payload, flow.destination) := by
    intro payload
    cases hout : flow.outbound with
    | connected target => exact absurd hout (h target)
    | listening => rfl
    | dispatcher => rfl
  induction datagrams with
  | nil => rfl
  | cons datagram rest ih => simp only [proxyUDP, hwrite, ih, List.map_cons]

theorem chooseOutbound_direct {env : UDPEnvironment} {destination : UDPAddr}
    {outbound : PacketConn} (h : chooseOutbound env .direct destination = .ok outbound) :
    ∃ target, outbound = .connected target := by
  simp only [chooseOutbound, dialUDP, if_true] at h
  cases hdial : env.dialContext with
  | some e => simp [hdial] at h
  | none =>
    simp only [hdial, Conn.asPacketConn, Except.ok.injEq] at h
    exact ⟨_, h.symm⟩

theorem chooseOutbound_proxy {env : UDPEnvironment} {destination : UDPAddr}
    {outbound : PacketConn} (h : chooseOutbound env .proxy destination = .ok outbound) :
    outbound = .dispatcher := by
  simp only [chooseOutbound, reduceCtorEq, if_false] at h
  cases hdial : env.dispatcherDial with
  | some e => simp [hdial] at h
  | none =>
    simp only [hdial, Except.ok.injEq] at h
    exact h.symm

variable {addressString : Bytes → Bytes}

/-- A started flow goes to the flow's address, was not blocked, and uses the outbound chosen for
its action. -/
theorem handleUDP_flow {r : Router} {env : UDPEnvironment} {id : EndpointID} {flow : UDPFlow}
    (h : (handleUDP addressString r env id).flow = some flow) :
    netstackUDPAddress id.localAddress id.localPort = some flow.destination ∧
      flowAction addressString r id ≠ .block ∧
      chooseOutbound env (flowAction addressString r id) flow.destination = .ok flow.outbound := by
  have haction : route r [] (parseIP (addressString id.localAddress)) id.localPort =
      flowAction addressString r id := rfl
  simp only [handleUDP, haction] at h
  split at h
  · simp at h
  · split at h
    · simp at h
    · rename_i destination hdest
      split at h
      · simp at h
      · rename_i hblock
        split at h
        · simp at h
        · split at h
          · simp at h
          · rename_i outbound hout
            split at h
            · simp only [Option.some.injEq] at h
              subst h
              exact ⟨hdest, hblock, hout⟩
            · simp at h

/-- A flow hands every datagram it reads on to its destination exactly when the route is through
the proxy, and it then reads all of them: a direct flow has a connected socket, which refuses the
addressed write. -/
theorem udp_relay_delivers_iff (r : Router) (env : UDPEnvironment) (id : EndpointID)
    {flow : UDPFlow} {destination : UDPAddr}
    (hdest : netstackUDPAddress id.localAddress id.localPort = some destination)
    (h : (handleUDP addressString r env id).flow = some flow) :
    ((∀ datagrams,
        (proxyUDP flow datagrams).sent = (proxyUDP flow datagrams).read.map (·, destination)) ↔
      flowAction addressString r id = .proxy) ∧
    (flowAction addressString r id = .proxy →
      ∀ datagrams, (proxyUDP flow datagrams).read = datagrams.map (·.take udpBufferSize)) := by
  obtain ⟨hflow, hblock, hout⟩ := handleUDP_flow h
  obtain rfl : flow.destination = destination := Option.some.inj (hflow.symm.trans hdest)
  cases haction : flowAction addressString r id with
  | block => exact absurd haction hblock
  | direct =>
    rw [haction] at hout
    obtain ⟨target, htarget⟩ := chooseOutbound_direct hout
    simp only [reduceCtorEq, iff_false, false_implies, and_true]
    intro hall
    have hsent := hall [[]]
    rw [proxyUDP_connected htarget] at hsent
    simp at hsent
  | proxy =>
    rw [haction] at hout
    have hlog := proxyUDP_unconnected flow (by simp [chooseOutbound_proxy hout])
    simp only [hlog, implies_true, and_self]

/-- Surroundings in which nothing fails. -/
def willing : UDPEnvironment := ⟨true, true, none, none, none, true⟩

def plainRouter (mode : Bytes) : Router := newRouter ⟨mode, [], [], [], [], [], []⟩

theorem udp_relay_delivers_proxied :
    (proxyUDP ⟨.dispatcher, ⟨parseIP (goString "8.8.8.8"), 53⟩⟩ [[1, 2], [3]]).sent =
      [[1, 2], [3]].map (·, ⟨parseIP (goString "8.8.8.8"), 53⟩) := by
  have hdest : netstackUDPAddress [8, 8, 8, 8] 53 = some ⟨parseIP (goString "8.8.8.8"), 53⟩ := by
    decide +kernel
  have hflow : (handleUDP ipString (plainRouter modeGlobal) willing ⟨[8, 8, 8, 8], 53⟩).flow =
      some ⟨.dispatcher, ⟨parseIP (goString "8.8.8.8"), 53⟩⟩ := by
    decide +kernel
  have hdelivers := udp_relay_delivers_iff _ _ ⟨[8, 8, 8, 8], 53⟩ hdest hflow
  have hproxy : flowAction ipString (plainRouter modeGlobal) ⟨[8, 8, 8, 8], 53⟩ = .proxy := by
    decide +kernel
  rw [hdelivers.1.mpr hproxy, hdelivers.2 hproxy]
  rfl

/-- A datagram for a private address, whose text is the one that `net.IP` has for it: the flow starts and
reads it, and sends nothing. -/
theorem direct_udp_flow_sends_nothing :
    (handleUDP ipString (plainRouter modeRule) willing ⟨[192, 168, 1, 1], 53⟩).flow =
        some ⟨.connected (goString "192.168.1.1:53"), ⟨parseIP (goString "192.168.1.1"), 53⟩⟩ ∧
      proxyUDP ⟨.connected (goString "192.168.1.1:53"), ⟨parseIP (goString "192.168.1.1"), 53⟩⟩
        [[1, 2]] = ⟨[[1, 2]], []⟩ := by
  constructor <;> decide +kernel

end FoloXray.Netstack
