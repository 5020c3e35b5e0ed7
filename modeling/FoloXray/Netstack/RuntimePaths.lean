import FoloXray.Foundation.Refinement
import FoloXray.Netstack.Admission
import FoloXray.Netstack.HandlerPaths
import FoloXray.Netstack.RuntimeSteps

/-! # The runtime's handler steps as paths of the handlers

In the runtime a handler is one decision between its token and `startWork`, and `startWork` is one
step.  Each of these is a path through the statements of the handlers, so the accounts of the
handlers hold of the runtime.
-/

namespace FoloXray.Netstack.Handlers
open Foundation

/-- The read locks that an invocation's goroutine holds outside `startWork`: `handleUDP` runs inside
`injectPacket`. -/
def outerLocks : Transport → ℕ
  | .tcp => 0
  | .udp => 1

/-- Where a call of the runtime is in its handler, and its read locks outside `startWork`. -/
def Matches : Phase → Point → ℕ → Prop
  | .tokenHeld transport, p, n => p = entry validID transport ∧ n = outerLocks transport
  | .workWaiting transport, p, n => p = .workLock transport ∧ n = outerLocks transport
  | .workNested transport, p, n => p = .workCheck transport ∧ n = outerLocks transport
  | .injectHeld _, p, n | .udpStart, p, n | .readLocked _, p, n | .readHeld _, p, n =>
    p = .absent ∧ n = 1
  | .absent, p, n | .injectWaiting _, p, n | .readWaiting _, p, n => p = .absent ∧ n = 0
  | .injectReleasing _, _, n | .readReleasing _, _, n => n = 1
  | .injectReturned _, _, n | .tcpReturned, _, n | .readReturned _, _, n => n = 0

def Carries : Flow → Work → Prop
  | .absent, w => w = .absent
  | .running transport, w => w = .running transport
  | .finishing, w => ∃ transport, w = .deferred transport []
  | .done, w => w = .done

def closerOf : ClosePhase → Closer
  | .uncalled => .uncalled
  | .waiting => .waiting
  | .locked => .locked
  | .cancelling | .clearing | .closing => .unlocked
  | .draining => .draining
  | .finished => .finished

structure Matched (r : Netstack.State) (s : State) : Prop where
  lifeMu : s.lifeMu = r.lifeMu
  closed : s.closed = r.closed
  tokens : s.tokens = r.tokens
  work : s.work = r.work
  closer : s.closer = closerOf r.closer
  calls : ∀ i, Matches (r.calls i) (s.points i) (s.outer i)
  flows : ∀ i, Carries (r.flows i) (s.works i)

theorem matched_initial : Matched Netstack.initial initial :=
  ⟨rfl, rfl, rfl, rfl, rfl, fun _ => ⟨rfl, rfl⟩, fun _ => rfl⟩

section Matching

variable {r r' : Netstack.State} {s : State} {a : Netstack.Action} {i : ℕ} {transport : Transport}

theorem matches_after (transport : Transport) (p : Point) :
    Matches transport.after p (outerLocks transport) := by
  cases transport <;> rfl

theorem matches_update {calls : ℕ → Phase} {points : ℕ → Point} {outer : ℕ → ℕ} {phase : Phase}
    {q : Point} {n : ℕ} (hm : ∀ j, Matches (calls j) (points j) (outer j))
    (hi : Matches phase q n) (j : ℕ) :
    Matches (Function.update calls i phase j) (Function.update points i q j)
      (Function.update outer i n j) := by
  by_cases hji : j = i
  · subst hji
    simpa using hi
  · simpa [hji] using hm j

theorem carries_update {flows : ℕ → Flow} {works : ℕ → Work} {flow : Flow} {w : Work}
    (hm : ∀ j, Carries (flows j) (works j)) (hi : Carries flow w) (j : ℕ) :
    Carries (Function.update flows i flow j) (Function.update works i w j) := by
  by_cases hji : j = i
  · subst hji
    simpa using hi
  · simpa [hji] using hm j

/-- A call of the runtime moves and the handlers stand still. -/
theorem Matched.stay {phase : Phase} (hm : Matched r s) (hphase : Matches phase (s.points i) (s.outer i)) :
    Matched (r.setCall i phase) s := by
  refine ⟨hm.lifeMu, hm.closed, hm.tokens, hm.work, hm.closer, ?_, hm.flows⟩
  intro j
  have hj := matches_update (i := i) hm.calls hphase j
  rwa [Function.update_eq_self, Function.update_eq_self] at hj

theorem Matched.point {phase : Phase} {q : Point} (hm : Matched r s)
    (hphase : Matches phase q (s.outer i)) : Matched (r.setCall i phase) (s.setPoint i q) := by
  refine ⟨hm.lifeMu, hm.closed, hm.tokens, hm.work, hm.closer, ?_, hm.flows⟩
  intro j
  have hj := matches_update (i := i) hm.calls hphase j
  rwa [Function.update_eq_self] at hj

theorem Matched.lock {phase : Phase} {m : RWMutex ℕ} (hm : Matched r s)
    (hlock : r.lifeMu.rLock i = some m) (hphase : Matches phase (s.points i) (s.outer i + 1)) :
    ∃ s', Reaches step s s' ∧ Matched ({ r with lifeMu := m }.setCall i phase) s' := by
  have hstep : step s (.readerLock i) =
      some { s with lifeMu := m, outer := Function.update s.outer i (s.outer i + 1) } := by
    simp [step, hm.lifeMu, hlock]
  refine ⟨_, .single hstep, rfl, hm.closed, hm.tokens, hm.work, hm.closer, ?_, hm.flows⟩
  intro j
  have hj := matches_update (i := i) hm.calls hphase j
  rwa [Function.update_eq_self] at hj

theorem Matched.unlock {phase : Phase} (hm : Matched r s) (hone : s.outer i = 1)
    (hphase : Matches phase (s.points i) 0) :
    ∃ s', Reaches step s s' ∧
      Matched ({ r with lifeMu := r.lifeMu.rUnlock i }.setCall i phase) s' := by
  have hstep : step s (.readerUnlock i) =
      some { s with lifeMu := s.lifeMu.rUnlock i, outer := Function.update s.outer i 0 } := by
    simp [step, hone]
  refine ⟨_, .single hstep, ?_, hm.closed, hm.tokens, hm.work, hm.closer, ?_, hm.flows⟩
  · rw [← hm.lifeMu]
    rfl
  · intro j
    have hj := matches_update (i := i) hm.calls hphase j
    rwa [Function.update_eq_self] at hj

/-- The parts of the runtime that the handlers do not see. -/
theorem Matched.congr (hm : Matched r s) (hmu : r'.lifeMu = r.lifeMu)
    (hclosed : r'.closed = r.closed) (htokens : r'.tokens = r.tokens) (hwork : r'.work = r.work)
    (hcloser : closerOf r'.closer = closerOf r.closer) (hcalls : r'.calls = r.calls)
    (hflows : r'.flows = r.flows) : Matched r' s := by
  refine ⟨?_, ?_, ?_, ?_, ?_, ?_, ?_⟩
  · rw [hmu, hm.lifeMu]
  · rw [hclosed, hm.closed]
  · rw [htokens, hm.tokens]
  · rw [hwork, hm.work]
  · rw [hcloser, hm.closer]
  · rw [hcalls]
    exact hm.calls
  · rw [hflows]
    exact hm.flows

theorem Matched.dropTokens (hm : Matched r s) (hdrop : r.dropToken transport = some r') :
    s.tokens transport ≠ 0 ∧ Matched r' (s.dropTokens transport 1) := by
  rcases dropToken_some hdrop with ⟨hne, rfl⟩
  refine ⟨?_, hm.lifeMu, hm.closed, ?_, hm.work, hm.closer, hm.calls, hm.flows⟩
  · rwa [hm.tokens]
  · simp [State.dropTokens, hm.tokens]

theorem Matched.tryToken {refused : Phase} (hm : Matched r s) (hi : s.points i = .absent)
    (hn : s.outer i = outerLocks transport)
    (hrefused : ∀ p, Matches refused p (outerLocks transport)) :
    ∃ s', Reaches step s s' ∧ Matched (r.tryToken i transport refused) s' := by
  rcases tryToken_cases r i transport refused with ⟨hlt, heq⟩ | ⟨hge, heq⟩
  · rw [← hm.tokens] at hlt
    refine ⟨_, reaches_entry validID hi hlt, ?_⟩
    have hadded : Matched (r.addToken transport)
        { s with tokens := Function.update s.tokens transport (s.tokens transport + 1) } :=
      ⟨hm.lifeMu, hm.closed, by rw [hm.tokens]; rfl, hm.work, hm.closer, hm.calls, hm.flows⟩
    rw [heq]
    exact hadded.point ⟨rfl, hn⟩
  · rw [← hm.tokens] at hge
    refine ⟨_, reaches_refused validID hi hge, ?_⟩
    rw [heq]
    apply hm.point
    rw [hn]
    exact hrefused _

theorem Matched.workBody (hm : Matched r s) (hi : r.calls i = .workNested transport)
    (hwork : r.startWork i transport = some r') : ∃ s', Reaches step s s' ∧ Matched r' s' := by
  have hmatches := hm.calls i
  rw [hi] at hmatches
  rcases hmatches with ⟨hpoint, hn⟩
  have hafter : Matches transport.after (.returned transport true) (s.outer i) := by
    rw [hn]
    exact matches_after transport _
  rcases startWork_some hwork with ⟨hclosed, hne, rfl⟩ | ⟨hopen, rfl⟩
  · rw [← hm.closed] at hclosed
    have hpos : s.tokens transport ≠ 0 := by rwa [hm.tokens]
    refine ⟨_, reaches_workRefused hpoint hclosed hpos, ?_⟩
    have hunlocked : Matched { r with
        lifeMu := r.lifeMu.rUnlock i
        tokens := Function.update r.tokens transport (r.tokens transport - 1) }
        { s.dropTokens transport 1 with lifeMu := s.lifeMu.rUnlock i } :=
      ⟨by rw [hm.lifeMu], hm.closed, by simp [State.dropTokens, hm.tokens], hm.work, hm.closer,
        hm.calls, hm.flows⟩
    exact hunlocked.point hafter
  · rw [← hm.closed] at hopen
    refine ⟨_, reaches_workStarted hpoint hopen, ?_⟩
    have hstarted : Matched { r with
        lifeMu := r.lifeMu.rUnlock i
        work := r.work + 1
        flows := Function.update r.flows i (.running transport) }
        ({ s with lifeMu := s.lifeMu.rUnlock i, work := s.work + 1 }.setWork i
          (.running transport)) :=
      ⟨by rw [← hm.lifeMu]; rfl, hm.closed, hm.tokens, by rw [← hm.work]; rfl, hm.closer, hm.calls,
        carries_update hm.flows rfl⟩
    exact hstarted.point hafter

/-- Every step of the runtime is a path of the handlers. -/
theorem Matched.step {l : List Netstack.Event} (hm : Matched r s) (hst : Netstack.Transition r a r' l) :
    ∃ s', Reaches Handlers.step s s' ∧ Matched r' s' := by
  have hcalls := hm.calls
  cases hst with
  | @injectRefused i packet e hi _ =>
    specialize hcalls i
    rw [hi] at hcalls
    exact ⟨s, .refl s, hm.stay hcalls.2⟩
  | @injectCalled i packet hi _ =>
    specialize hcalls i
    rw [hi] at hcalls
    exact ⟨s, .refl s, hm.stay hcalls⟩
  | @injectLock i packet m hi hlock =>
    specialize hcalls i
    rw [hi] at hcalls
    exact hm.lock hlock ⟨hcalls.1, by rw [hcalls.2]⟩
  | @injectDeliver i packet udp hi =>
    specialize hcalls i
    rw [hi] at hcalls
    rcases deliver_cases r packet udp with ⟨error, heq⟩ | heq
    · rw [heq]
      exact ⟨s, .refl s, hm.stay hcalls.2⟩
    · rw [heq]
      exact ⟨s, .refl s, hm.stay hcalls⟩
  | @udpToken i hi =>
    specialize hcalls i
    rw [hi] at hcalls
    exact hm.tryToken hcalls.1 hcalls.2 fun _ => rfl
  | @tcpToken i hi =>
    specialize hcalls i
    rw [hi] at hcalls
    exact hm.tryToken hcalls.1 hcalls.2 fun _ => rfl
  | @proceed i transport hi =>
    specialize hcalls i
    rw [hi] at hcalls
    exact ⟨_, reaches_workLock hcalls.1, hm.point ⟨rfl, hcalls.2⟩⟩
  | @giveUp i transport u hi hdrop =>
    specialize hcalls i
    rw [hi] at hcalls
    rcases hm.dropTokens hdrop with ⟨hpos, hdropped⟩
    rcases reaches_givenUp hcalls.1 hpos with ⟨answer, hreaches⟩
    refine ⟨_, hreaches, hdropped.point ?_⟩
    rw [show (s.dropTokens transport 1).outer i = outerLocks transport from hcalls.2]
    exact matches_after transport _
  | @workLock i transport m hi hlock =>
    specialize hcalls i
    rw [hi] at hcalls
    have hstep : Handlers.step s (.workLock i) =
        some ({ s with lifeMu := m }.setPoint i (.workCheck transport)) := by
      simp [Handlers.step, hcalls.1, hm.lifeMu, hlock]
    have hlocked : Matched { r with lifeMu := m } { s with lifeMu := m } :=
      ⟨rfl, hm.closed, hm.tokens, hm.work, hm.closer, hm.calls, hm.flows⟩
    exact ⟨_, .single hstep, hlocked.point ⟨rfl, hcalls.2⟩⟩
  | workBody hi hwork => exact hm.workBody hi hwork
  | @injectUnlock i error hi =>
    specialize hcalls i
    rw [hi] at hcalls
    exact hm.unlock hcalls rfl
  | @readRefused i hi =>
    specialize hcalls i
    rw [hi] at hcalls
    exact ⟨s, .refl s, hm.stay hcalls.2⟩
  | @readCalled i capacity hi _ =>
    specialize hcalls i
    rw [hi] at hcalls
    exact ⟨s, .refl s, hm.stay hcalls⟩
  | @readLock i capacity m hi hlock =>
    specialize hcalls i
    rw [hi] at hcalls
    exact hm.lock hlock ⟨hcalls.1, by rw [hcalls.2]⟩
  | @readMuLock i capacity hi _ =>
    specialize hcalls i
    rw [hi] at hcalls
    have hmu : Matched { r with readMu := some (some i) } s := hm.congr rfl rfl rfl rfl rfl rfl rfl
    exact ⟨s, .refl s, hmu.stay hcalls⟩
  | @readBody i capacity u result l hi hread =>
    specialize hcalls i
    rw [hi] at hcalls
    have hcontrol := readPacket_control hread
    have hmatched : Matched u s :=
      hm.congr hcontrol.lifeMu hcontrol.closed hcontrol.tokens hcontrol.work
        (by rw [hcontrol.closer]) hcontrol.calls hcontrol.flows
    exact ⟨s, .refl s, hmatched.stay hcalls.2⟩
  | @readUnlock i result hi =>
    specialize hcalls i
    rw [hi] at hcalls
    have hmu : Matched { r with readMu := none } s := hm.congr rfl rfl rfl rfl rfl rfl rfl
    exact hmu.unlock hcalls rfl
  | @flowToken i transport u hi hdrop =>
    have hflow := hm.flows i
    rw [hi] at hflow
    rcases hm.dropTokens hdrop with ⟨hpos, hdropped⟩
    refine ⟨_, reaches_workGiven hflow hpos, ?_⟩
    exact ⟨hdropped.lifeMu, hdropped.closed, hdropped.tokens, hdropped.work, hdropped.closer,
      hdropped.calls, carries_update hdropped.flows ⟨transport, rfl⟩⟩
  | @flowDone i hi hne =>
    have hflow := hm.flows i
    rw [hi] at hflow
    rcases hflow with ⟨transport, hflow⟩
    have hpos : s.work ≠ 0 := by rwa [hm.work]
    have hstep : Handlers.step s (.workExec i) =
        some ({ s with work := s.work - 1 }.setWork i .done) := by
      simp [Handlers.step, hflow, hpos]
    refine ⟨_, .single hstep, ?_⟩
    exact ⟨hm.lifeMu, hm.closed, hm.tokens, by rw [← hm.work]; rfl, hm.closer, hm.calls,
      carries_update hm.flows rfl⟩
  | enqueue _ _ => exact ⟨s, .refl s, hm.congr rfl rfl rfl rfl rfl rfl rfl⟩
  | @closeCall m hcloser hlock =>
    have hstep : Handlers.step s .closeCall = some { s with lifeMu := m, closer := .waiting } := by
      simp [Handlers.step, hm.closer, hcloser, closerOf, hm.lifeMu, hlock]
    exact ⟨_, .single hstep, rfl, hm.closed, hm.tokens, hm.work, rfl, hm.calls, hm.flows⟩
  | @closeLock m hcloser hlock =>
    have hstep : Handlers.step s .closeLock = some { s with lifeMu := m, closer := .locked } := by
      simp [Handlers.step, hm.closer, hcloser, closerOf, hm.lifeMu, hlock]
    exact ⟨_, .single hstep, rfl, hm.closed, hm.tokens, hm.work, rfl, hm.calls, hm.flows⟩
  | closeSet hcloser =>
    have hset : Handlers.step s .closeSet = some { s with closed := true, closer := .set } := by
      simp [Handlers.step, hm.closer, hcloser, closerOf]
    have hunlock : Handlers.step { s with closed := true, closer := .set } .closeUnlock =
        some { s with closed := true, lifeMu := s.lifeMu.unlock, closer := .unlocked } := by
      simp [Handlers.step]
    exact ⟨_, .head hset (.single hunlock), by rw [hm.lifeMu], rfl, hm.tokens, hm.work, rfl,
      hm.calls, hm.flows⟩
  | closeReadMu hcloser _ =>
    exact ⟨s, .refl s, hm.congr rfl rfl rfl rfl (by rw [hcloser]; rfl) rfl rfl⟩
  | closeClear hcloser hclear =>
    have hcontrol := clearPending_control hclear
    exact ⟨s, .refl s, hm.congr hcontrol.lifeMu hcontrol.closed hcontrol.tokens hcontrol.work
      (by rw [hcloser]; rfl) hcontrol.calls hcontrol.flows⟩
  | closeLink hcloser hclose =>
    have hcontrol := closeLink_control hclose
    have hstep : Handlers.step s .closeLink = some { s with closer := .draining } := by
      simp [Handlers.step, hm.closer, hcloser, closerOf]
    refine ⟨_, .single hstep, ?_, ?_, ?_, ?_, rfl, ?_, ?_⟩
    · exact hm.lifeMu.trans hcontrol.lifeMu.symm
    · exact hm.closed.trans hcontrol.closed.symm
    · exact hm.tokens.trans hcontrol.tokens.symm
    · exact hm.work.trans hcontrol.work.symm
    · intro j
      rw [hcontrol.calls]
      exact hm.calls j
    · intro j
      rw [hcontrol.flows]
      exact hm.flows j
  | closeWait hcloser hwork =>
    have hstep : Handlers.step s .closeWait = some { s with closer := .finished } := by
      simp [Handlers.step, hm.closer, hcloser, closerOf, hm.work, hwork]
    exact ⟨_, .single hstep, hm.lifeMu, hm.closed, hm.tokens, hm.work, rfl, hm.calls, hm.flows⟩

theorem handlers_simulate_runtime :
    Simulates Netstack.step Matched fun s t => ∃ a, Handlers.step s a = some t := by
  intro r a r' s hm hst
  rcases hm.step (Netstack.transition_of_step hst) with ⟨s', hreaches, hm'⟩
  exact ⟨s', hm', hreaches.transitions⟩

/-- The accounts of the handlers, read off the runtime: the token channels stay within their limits,
and once `close` has returned no flow of the runtime is left. -/
theorem runtime_admission {as : List Netstack.Action}
    (hrun : run Netstack.step Netstack.initial as = some r) :
    (∀ transport, r.tokens transport ≤ transport.limit) ∧
      (r.closer = .finished → ∀ i, r.flows i = .absent ∨ r.flows i = .done) := by
  rcases handlers_simulate_runtime.run matched_initial hrun with ⟨s, hm, hpath⟩
  rcases reaches_of_transitions hpath with ⟨bs, hbs⟩
  have ha := accounts_of_run hbs
  constructor
  · intro transport
    rw [← hm.tokens]
    exact ha.tokens.bounded transport
  · intro hfinished i
    have hcloser : s.closer = .finished := by
      rw [hm.closer, hfinished]
      rfl
    have hidle := ha.work.idle (ha.waited hcloser) i
    have hflow := hm.flows i
    cases hi : r.flows i with
    | absent => exact .inl rfl
    | done => exact .inr rfl
    | running transport =>
      rw [hi] at hflow
      simp [show s.works i = .running transport from hflow] at hidle
    | finishing =>
      rw [hi] at hflow
      rcases hflow with ⟨transport, hflow⟩
      simp [hflow] at hidle

end Matching

end FoloXray.Netstack.Handlers
