import FoloXray.Netstack.Handlers

/-! # Paths through the handlers

Every way through a handler, as a run of its statements: the exit paths, `startWork`, the deferred
calls of the work, and one invocation of `handleUDP` as a whole.
-/

namespace FoloXray.Netstack.Handlers
open Foundation Routing

section Paths

variable {s : State} {i : ℕ} {transport : Transport}

@[simp] theorem setPoint_points (s : State) (i : ℕ) (q : Point) :
    (s.setPoint i q).points = Function.update s.points i q := rfl

@[simp] theorem setPoint_setPoint (s : State) (i : ℕ) (p q : Point) :
    (s.setPoint i p).setPoint i q = s.setPoint i q := by
  simp [State.setPoint]

@[simp] theorem setWork_setWork (s : State) (i : ℕ) (v w : Work) :
    (s.setWork i v).setWork i w = s.setWork i w := by
  simp [State.setWork]

/-- The state after `n` receives from a token channel. -/
def State.dropTokens (s : State) (transport : Transport) (n : ℕ) : State :=
  { s with tokens := Function.update s.tokens transport (s.tokens transport - n) }

theorem dropTokens_zero (s : State) (transport : Transport) : s.dropTokens transport 0 = s := by
  simp [State.dropTokens]

/-- An exit path runs to its end and receives as often as it says. -/
theorem reaches_exit {code : List Statement} {answer : Bool}
    (hi : s.points i = .exit transport code answer)
    (hcount : code.count .release ≤ s.tokens transport) :
    Reaches step s
      ((s.dropTokens transport (code.count .release)).setPoint i (.returned transport answer)) := by
  induction code generalizing s with
  | nil =>
    rw [List.count_nil, dropTokens_zero]
    exact .single (a := .exec i) (by simp [step, hi])
  | cons statement code ih =>
    by_cases hrelease : statement = .release
    · subst hrelease
      rw [List.count_cons_self] at hcount ⊢
      have hne : s.tokens transport ≠ 0 := by omega
      have hstep : step s (.exec i) =
          some ((s.dropTokens transport 1).setPoint i (.exit transport code answer)) := by
        simp [step, hi, State.execute, hne, State.dropTokens]
      apply Reaches.head hstep
      have hrest := ih (s := (s.dropTokens transport 1).setPoint i (.exit transport code answer))
        (by simp) (by simp [State.setPoint, State.dropTokens]; omega)
      convert hrest using 1
      simp [State.setPoint, State.dropTokens, Nat.sub_sub, Nat.add_comm]
    · rw [List.count_cons_of_ne hrelease] at hcount ⊢
      have hstep : step s (.exec i) = some (s.setPoint i (.exit transport code answer)) := by
        cases statement with
        | release => exact absurd rfl hrelease
        | _ => simp [step, hi, State.execute]
      apply Reaches.head hstep
      have hrest := ih (s := s.setPoint i (.exit transport code answer)) (by simp) hcount
      convert hrest using 1
      simp [State.setPoint, State.dropTokens]

theorem reaches_setPoint_exit {code : List Statement} {n : ℕ} (answer : Bool)
    (hn : code.count .release = n) (hle : n ≤ s.tokens transport) :
    Reaches step (s.setPoint i (.exit transport code answer))
      ((s.dropTokens transport n).setPoint i (.returned transport answer)) := by
  subst hn
  have hi : (s.setPoint i (.exit transport code answer)).points i = .exit transport code answer := by
    simp
  have hexit := reaches_exit hi hle
  simpa [State.setPoint, State.dropTokens] using hexit

theorem reaches_deferred {code : List Statement} (hi : s.works i = .deferred transport code)
    (hcount : code.count .release ≤ s.tokens transport) :
    Reaches step s
      ((s.dropTokens transport (code.count .release)).setWork i (.deferred transport [])) := by
  induction code generalizing s with
  | nil =>
    rw [List.count_nil, dropTokens_zero, State.setWork, ← hi, Function.update_eq_self]
    exact .refl s
  | cons statement code ih =>
    by_cases hrelease : statement = .release
    · subst hrelease
      rw [List.count_cons_self] at hcount ⊢
      have hne : s.tokens transport ≠ 0 := by omega
      have hstep : step s (.workExec i) =
          some ((s.dropTokens transport 1).setWork i (.deferred transport code)) := by
        simp [step, hi, State.execute, hne, State.dropTokens]
      apply Reaches.head hstep
      have hrest := ih (s := (s.dropTokens transport 1).setWork i (.deferred transport code))
        (by simp [State.setWork]) (by simp [State.setWork, State.dropTokens]; omega)
      convert hrest using 1
      simp [State.setWork, State.dropTokens, Nat.sub_sub, Nat.add_comm]
    · rw [List.count_cons_of_ne hrelease] at hcount ⊢
      have hstep : step s (.workExec i) = some (s.setWork i (.deferred transport code)) := by
        cases statement with
        | release => exact absurd rfl hrelease
        | _ => simp [step, hi, State.execute]
      apply Reaches.head hstep
      have hrest := ih (s := s.setWork i (.deferred transport code)) (by simp [State.setWork]) hcount
      convert hrest using 1
      simp [State.setWork, State.dropTokens]

def validID : EndpointID := ⟨[10, 0, 0, 1], 443⟩

theorem reaches_workLock (hi : s.points i = entry validID transport) :
    Reaches step s (s.setPoint i (.workLock transport)) := by
  cases transport with
  | tcp =>
    have hendpoint : step s (.endpoint i true) = some (s.setPoint i (.tcpAddress validID)) := by
      simp [step, hi, entry]
    have haddress : step (s.setPoint i (.tcpAddress validID)) (.address i) =
        some (s.setPoint i (.workLock .tcp)) := by
      simp [step, validID, netstackAddress]
    exact .head hendpoint (.single haddress)
  | udp =>
    have haddress : step s (.address i) = some (s.setPoint i .udpRoute) := by
      simp [step, hi, entry, validID, netstackUDPAddress, netstackAddress]
    have hroute : step (s.setPoint i .udpRoute) (.route i .proxy) =
        some (s.setPoint i (.udpEndpoint .proxy)) := by
      simp [step]
    have hendpoint : step (s.setPoint i (.udpEndpoint .proxy)) (.endpoint i true) =
        some (s.setPoint i (.udpDial .proxy)) := by
      simp [step]
    have hdial : step (s.setPoint i (.udpDial .proxy)) (.dial i .packetConn) =
        some (s.setPoint i (.workLock .udp)) := by
      simp [step, hasOutbound]
    exact .head haddress (.head hroute (.head hendpoint (.single hdial)))

/-- The handler gives up: the endpoint of a TCP request fails, a datagram is blocked. -/
theorem reaches_givenUp (hi : s.points i = entry validID transport)
    (hpos : s.tokens transport ≠ 0) :
    ∃ answer, Reaches step s
      ((s.dropTokens transport 1).setPoint i (.returned transport answer)) := by
  have hpos : 1 ≤ s.tokens transport := by omega
  cases transport with
  | tcp =>
    have hendpoint : step s (.endpoint i false) =
        some (s.setPoint i (.exit .tcp (endpointFailed .tcp) false)) := by
      simp [step, hi, entry]
    exact ⟨false, .head hendpoint (reaches_setPoint_exit false rfl hpos)⟩
  | udp =>
    have haddress : step s (.address i) = some (s.setPoint i .udpRoute) := by
      simp [step, hi, entry, validID, netstackUDPAddress, netstackAddress]
    have hroute : step (s.setPoint i .udpRoute) (.route i .block) =
        some (s.setPoint i (.exit .udp [.release] true)) := by
      simp [step]
    exact ⟨true, .head haddress (.head hroute (reaches_setPoint_exit true rfl hpos))⟩

theorem reaches_entry (id : EndpointID) (hi : s.points i = .absent)
    (hlt : s.tokens transport < transport.limit) :
    Reaches step s
      ({ s with tokens := Function.update s.tokens transport (s.tokens transport + 1) }.setPoint i
        (entry id transport)) := by
  have hcall : step s (.call i transport id) =
      some (s.setPoint i (.select transport id)) := by
    simp [step, hi]
  have hselect : step (s.setPoint i (.select transport id)) (.select i) =
      some ({ s with tokens := Function.update s.tokens transport (s.tokens transport + 1) }.setPoint
        i (entry id transport)) := by
    simp [step, State.setPoint, hlt]
  exact .head hcall (.single hselect)

theorem reaches_refused (id : EndpointID) (hi : s.points i = .absent)
    (hge : transport.limit ≤ s.tokens transport) :
    Reaches step s (s.setPoint i (.returned transport false)) := by
  have hcall : step s (.call i transport id) =
      some (s.setPoint i (.select transport id)) := by
    simp [step, hi]
  have hselect : step (s.setPoint i (.select transport id)) (.select i) =
      some (s.setPoint i (.exit transport (selectRefused transport) false)) := by
    simp [step, State.setPoint, not_lt.mpr hge]
  have hnone : (selectRefused transport).count .release = 0 := by cases transport <;> rfl
  have hexit := @reaches_setPoint_exit s i transport _ _ false hnone (Nat.zero_le _)
  rw [dropTokens_zero] at hexit
  exact .head hcall (.head hselect hexit)

theorem reaches_workRefused (hi : s.points i = .workCheck transport) (hclosed : s.closed)
    (hpos : s.tokens transport ≠ 0) :
    Reaches step s
      ({ s.dropTokens transport 1 with lifeMu := s.lifeMu.rUnlock i }.setPoint i
        (.returned transport true)) := by
  have hcheck : step s (.workCheck i) = some (s.setPoint i (.workUnlock transport false)) := by
    simp [step, hi, hclosed]
  have hunlock : step (s.setPoint i (.workUnlock transport false)) (.workUnlock i) =
      some ({ s with lifeMu := s.lifeMu.rUnlock i }.setPoint i
        (.exit transport (workRefused transport) true)) := by
    simp [step, State.setPoint]
  have hone : (workRefused transport).count .release = 1 := by cases transport <;> rfl
  have hexit := @reaches_setPoint_exit { s with lifeMu := s.lifeMu.rUnlock i } i _ _ _ true hone
    (Nat.one_le_iff_ne_zero.mpr hpos)
  exact .head hcheck (.head hunlock hexit)

theorem reaches_workStarted (hi : s.points i = .workCheck transport) (hopen : s.closed = false) :
    Reaches step s
      (({ s with lifeMu := s.lifeMu.rUnlock i, work := s.work + 1 }.setWork i
        (.running transport)).setPoint i (.returned transport true)) := by
  have hcheck : step s (.workCheck i) = some (s.setPoint i (.workAdd transport)) := by
    simp [step, hi, hopen]
  have hadd : step (s.setPoint i (.workAdd transport)) (.workAdd i) =
      some (({ s with work := s.work + 1 }.setWork i (.counted transport)).setPoint i
        (.workUnlock transport true)) := by
    simp [step, State.setPoint, State.setWork]
  have hunlock : step (({ s with work := s.work + 1 }.setWork i (.counted transport)).setPoint i
      (.workUnlock transport true)) (.workUnlock i) =
      some (({ s with lifeMu := s.lifeMu.rUnlock i, work := s.work + 1 }.setWork i
        (.counted transport)).setPoint i (.workGo transport)) := by
    simp [step, State.setPoint, State.setWork]
  have hgo : step (({ s with lifeMu := s.lifeMu.rUnlock i, work := s.work + 1 }.setWork i
      (.counted transport)).setPoint i (.workGo transport)) (.workGo i) =
      some (({ s with lifeMu := s.lifeMu.rUnlock i, work := s.work + 1 }.setWork i
        (.running transport)).setPoint i (.returned transport true)) := by
    simp [step, State.setPoint, State.setWork]
  exact .head hcheck (.head hadd (.head hunlock (.single hgo)))

/-- The work comes to its end and gives the token back. -/
theorem reaches_workGiven (hi : s.works i = .running transport) (hpos : s.tokens transport ≠ 0) :
    Reaches step s ((s.dropTokens transport 1).setWork i (.deferred transport [])) := by
  have hreturn : step s (.proxyReturn i) =
      some (s.setWork i (.deferred transport (deferredCalls transport))) := by
    simp [step, hi]
  have hone : (deferredCalls transport).count .release = 1 := by cases transport <;> rfl
  have hdeferred : Reaches step (s.setWork i (.deferred transport (deferredCalls transport)))
      ((s.dropTokens transport 1).setWork i (.deferred transport [])) := by
    have hi' : (s.setWork i (.deferred transport (deferredCalls transport))).works i =
        .deferred transport (deferredCalls transport) := by
      simp [State.setWork]
    have hend := reaches_deferred hi' (by rw [hone]; exact Nat.one_le_iff_ne_zero.mpr hpos)
    rw [hone] at hend
    simpa [State.setWork, State.dropTokens] using hend
  exact .head hreturn hdeferred

end Paths

def dialedIn (env : UDPEnvironment) (action : RouteAction) : Dialed :=
  match if action = .direct then env.dialContext else env.dispatcherDial with
  | some _ => .failed
  | none => .packetConn

theorem hasOutbound_dialedIn (env : UDPEnvironment) (action : RouteAction) (destination : UDPAddr) :
    hasOutbound action (dialedIn env action) = (chooseOutbound env action destination).isOk := by
  by_cases hdirect : action = .direct
  · subst hdirect
    cases hdial : env.dialContext <;>
      simp [dialedIn, chooseOutbound, dialUDP, hdial, hasOutbound, Conn.asPacketConn, Except.isOk,
        Except.toBool]
  · cases hdial : env.dispatcherDial <;>
      simp [dialedIn, chooseOutbound, hdirect, hdial, hasOutbound, Except.isOk, Except.toBool]

section Datagram

variable {s : State} {i : ℕ} {env : UDPEnvironment} {id : EndpointID} {router : Router}
  {addressString : Bytes → Bytes}

/-- The end of an invocation agrees with an outcome of `handleUDP`. -/
def Ended (i : ℕ) (outcome : UDPOutcome) (t : State) : Prop :=
  t.points i = .returned .udp outcome.handled ∧
    t.works i = if outcome.flow.isSome then .running .udp else .absent

/-- An exit path with one receive, from a state that has a token. -/
theorem ended_exit {code : List Statement} {answer : Bool} (hone : code.count .release = 1)
    (hpos : 0 < s.tokens .udp) (hw : s.works i = .absent) :
    ∃ t, Reaches step (s.setPoint i (.exit .udp code answer)) t ∧ Ended i ⟨answer, none⟩ t := by
  refine ⟨_, reaches_setPoint_exit answer hone hpos, ?_, ?_⟩
  · simp
  · simpa [State.setPoint, State.dropTokens] using hw

/-- `startWork` with no writer around: the flow is started or refused. -/
theorem ended_startWork {flow : UDPFlow} (hfree : s.lifeMu.writer = .absent)
    (hpos : 0 < s.tokens .udp) (hw : s.works i = .absent) :
    ∃ t, Reaches step (s.setPoint i (.workLock .udp)) t ∧
      Ended i ⟨true, if s.closed then none else some flow⟩ t := by
  have hlock : ∃ m, s.lifeMu.rLock i = some m := by simp [RWMutex.rLock, hfree]
  rcases hlock with ⟨m, hm⟩
  have hstep : step (s.setPoint i (.workLock .udp)) (.workLock i) =
      some ({ s with lifeMu := m }.setPoint i (.workCheck .udp)) := by
    simp [step, State.setPoint, hm]
  have hpoint : ({ s with lifeMu := m }.setPoint i (.workCheck .udp)).points i =
      .workCheck .udp := by
    simp
  cases hclosed : s.closed with
  | true =>
    refine ⟨_, .head hstep (reaches_workRefused hpoint hclosed hpos.ne'), ?_, ?_⟩
    · simp
    · simpa [State.setPoint, State.dropTokens] using hw
  | false =>
    refine ⟨_, .head hstep (reaches_workStarted hpoint hclosed), ?_, ?_⟩
    · simp
    · simp [State.setPoint, State.setWork]

theorem ended_udpRoute {action : RouteAction} {destination : UDPAddr}
    (hfree : s.lifeMu.writer = .absent) (hpos : 0 < s.tokens .udp) (hw : s.works i = .absent)
    (haccepting : env.accepting = !s.closed) :
    ∃ t, Reaches step (s.setPoint i .udpRoute) t ∧
      Ended i (if action = .block then ⟨true, none⟩
        else if !env.endpoint then ⟨false, none⟩
        else
          match chooseOutbound env action destination with
          | .error _ => ⟨true, none⟩
          | .ok outbound =>
            if env.accepting then ⟨true, some ⟨outbound, destination⟩⟩ else ⟨true, none⟩) t := by
  by_cases hblock : action = .block
  · have hroute : step (s.setPoint i .udpRoute) (.route i action) =
        some (s.setPoint i (.exit .udp [.release] true)) := by
      simp [step, hblock]
    rw [if_pos hblock]
    rcases @ended_exit s i [.release] true rfl hpos hw with ⟨t, ht, hended⟩
    exact ⟨t, .head hroute ht, hended⟩
  have hroute : step (s.setPoint i .udpRoute) (.route i action) =
      some (s.setPoint i (.udpEndpoint action)) := by
    simp [step, hblock]
  rw [if_neg hblock]
  cases hendpoint : env.endpoint with
  | false =>
    have hstep : step (s.setPoint i (.udpEndpoint action)) (.endpoint i false) =
        some (s.setPoint i (.exit .udp (endpointFailed .udp) false)) := by
      simp [step]
    rcases @ended_exit s i (endpointFailed .udp) false rfl hpos hw with ⟨t, ht, hended⟩
    exact ⟨t, .head hroute (.head hstep ht), hended⟩
  | true =>
    have hstep : step (s.setPoint i (.udpEndpoint action)) (.endpoint i true) =
        some (s.setPoint i (.udpDial action)) := by
      simp [step]
    have houtbound := hasOutbound_dialedIn env action destination
    cases hchoice : chooseOutbound env action destination with
    | error e =>
      rw [hchoice] at houtbound
      have hdial : step (s.setPoint i (.udpDial action)) (.dial i (dialedIn env action)) =
          some (s.setPoint i (.exit .udp [.release, .closeInbound] true)) := by
        simp [step, houtbound, Except.isOk, Except.toBool]
      rcases @ended_exit s i [.release, .closeInbound] true rfl hpos hw with ⟨t, ht, hended⟩
      exact ⟨t, .head hroute (.head hstep (.head hdial ht)), hended⟩
    | ok outbound =>
      rw [hchoice] at houtbound
      have hdial : step (s.setPoint i (.udpDial action)) (.dial i (dialedIn env action)) =
          some (s.setPoint i (.workLock .udp)) := by
        simp [step, houtbound, Except.isOk, Except.toBool]
      rcases @ended_startWork s i ⟨outbound, destination⟩ hfree hpos hw with ⟨t, ht, hended⟩
      refine ⟨t, .head hroute (.head hstep (.head hdial ht)), ?_⟩
      cases hclosed : s.closed <;> simpa [haccepting, hclosed] using hended

/-- The statements of one invocation compute what `handleUDP` says: with the answers of the
surroundings it returns the same result, and it starts a flow exactly when `handleUDP` does. -/
theorem reaches_handleUDP (hi : s.points i = .absent) (hw : s.works i = .absent)
    (hfree : s.lifeMu.writer = .absent)
    (htoken : env.tokenFree = decide (s.tokens .udp < Transport.udp.limit))
    (haccepting : env.accepting = !s.closed) :
    ∃ t, Reaches step s t ∧ Ended i (handleUDP addressString router env id) t := by
  by_cases hlt : s.tokens .udp < Transport.udp.limit
  · have htokenFree : env.tokenFree = true := by simpa [hlt] using htoken
    have hentry := reaches_entry id hi hlt
    have hpos : 0 < Function.update s.tokens .udp (s.tokens .udp + 1) .udp := by simp
    cases hdestination : netstackUDPAddress id.localAddress id.localPort with
    | none =>
      have houtcome : handleUDP addressString router env id = ⟨false, none⟩ := by
        simp [handleUDP, htokenFree, hdestination]
      rw [houtcome]
      rcases @ended_exit { s with
        tokens := Function.update s.tokens .udp (s.tokens .udp + 1) } i [.release] false rfl hpos hw
        with ⟨t, ht, hended⟩
      refine ⟨t, hentry.trans (.head (a := .address i) ?_ ht), hended⟩
      simp [step, entry, hdestination]
    | some destination =>
      rcases @ended_udpRoute { s with
        tokens := Function.update s.tokens .udp (s.tokens .udp + 1) } i env
        (flowAction addressString router id) destination hfree hpos hw haccepting with ⟨t, ht, hended⟩
      refine ⟨t, hentry.trans (.head (a := .address i) ?_ ht), ?_⟩
      · simp [step, entry, hdestination]
      · simp only [handleUDP, htokenFree, hdestination, Bool.not_true, Bool.false_eq_true, if_false]
        exact hended
  · have htokenFree : env.tokenFree = false := by simpa [hlt] using htoken
    have houtcome : handleUDP addressString router env id = ⟨false, none⟩ := by simp [handleUDP, htokenFree]
    rw [houtcome]
    refine ⟨_, reaches_refused id hi (not_lt.mp hlt), ?_, ?_⟩
    · simp
    · simpa [State.setPoint] using hw

end Datagram

end FoloXray.Netstack.Handlers
