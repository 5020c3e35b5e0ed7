import FoloXray.Wrapper.Engine

/-! # Inversion of the engine's steps

One relation lists every branch of every step with its guard, and every step is one of them.  The
bodies of the entry points are characterised by the status they return.
-/

namespace FoloXray.Wrapper
open Foundation Routing

inductive Transition (s : State) : Action → State → Prop
  | call {i entry} (h : s.calls i = .absent) :
      Transition s (.call i entry) (s.setCall i entry.start)
  | lock {i entry} (h : s.calls i = .waiting entry) (hfree : s.owner = none) :
      Transition s (.lock i) ({ s with owner := some i }.setCall i (.locked entry))
  | startJSON {i x} (h : s.calls i = .locked .startJSON) :
      Transition s (.startJSON i x)
        ({ s with
          engine := (s.engine.startJSON s.instanceCount x).1
          instanceCount := s.instanceCount + 1 }.setCall i
          (.unlocking .startJSON (s.engine.startJSON s.instanceCount x).2))
  | netstackRefused {i configures} (h : s.calls i = .locked .netstackStart)
      (hnone : (s.engine.netstackStart s.netstack configures).2 = none) :
      Transition s (.netstackStart i configures)
        ({ s with engine := (s.engine.netstackStart s.netstack configures).1.1 }.setCall i
          (.unlocking .netstackStart (s.engine.netstackStart s.netstack configures).1.2))
  | netstackStarted {i configures runtime} (h : s.calls i = .locked .netstackStart)
      (hsome : (s.engine.netstackStart s.netstack configures).2 = some runtime) :
      Transition s (.netstackStart i configures)
        (({ s with
          engine := (s.engine.netstackStart s.netstack configures).1.1
          netstack := some s.runtimeCount
          runtimeCount := s.runtimeCount + 1 }.setRuntime s.runtimeCount runtime).setCall i
          (.unlocking .netstackStart (s.engine.netstackStart s.netstack configures).1.2))
  | netstackStop {i} (h : s.calls i = .locked .netstackStop) :
      Transition s (.netstackStop i)
        ({ s with engine := { s.engine with error := clearErrorLocked } }.setCall i
          (.unlocking .netstackStop .ok))
  | stopIdle {i} (h : s.calls i = .locked .stop) (hinst : s.engine.coreInstance = none) :
      Transition s (.stopCheck i)
        ({ s with engine := { s.engine with state := .idle, error := clearErrorLocked } }.setCall i
          (.unlocking .stop .ok))
  | stopRunning {i} (h : s.calls i = .locked .stop) (hinst : s.engine.coreInstance ≠ none) :
      Transition s (.stopCheck i) (s.setCall i (.detaching .stop))
  | detachNone {i closer} (h : s.calls i = .detaching closer) (hnone : s.netstack = none) :
      Transition s (.detach i) (s.setCall i closer.afterDetach)
  | detachSome {i closer k} (h : s.calls i = .detaching closer) (hk : s.netstack = some k) :
      Transition s (.detach i) ({ s with netstack := none }.setCall i (.detached closer k))
  | closeBegin {i closer k runtime} (h : s.calls i = .detached closer k)
      (hk : s.runtimes k = some runtime) :
      Transition s (.closeBegin i)
        ((s.setRuntime k { runtime with closed := true }).setCall i (.draining closer k))
  | closeEnd {i closer k runtime} (h : s.calls i = .draining closer k)
      (hk : s.runtimes k = some runtime) (hwork : runtime.work = 0) :
      Transition s (.closeEnd i)
        ((s.setRuntime k { runtime with finished := true }).setCall i closer.afterDetach)
  | instanceClose {i closes} (h : s.calls i = .closingInstance) :
      Transition s (.instanceClose i closes)
        ({ s with engine := (s.engine.stopped closes).1 }.setCall i
          (.unlocking .stop (s.engine.stopped closes).2))
  | unlock {i entry status} (h : s.calls i = .unlocking entry status) :
      Transition s (.unlock i) ({ s with owner := none }.setCall i (.returned entry status))
  | startWork {k runtime} (hk : s.runtimes k = some runtime) (hopen : runtime.closed = false) :
      Transition s (.startWork k) (s.setRuntime k { runtime with work := runtime.work + 1 })
  | finishWork {k runtime} (hk : s.runtimes k = some runtime) (hwork : runtime.work ≠ 0) :
      Transition s (.finishWork k) (s.setRuntime k { runtime with work := runtime.work - 1 })

theorem transition_of_step {s t : State} {a : Action} (h : step s a = some t) :
    Transition s a t := by
  cases a with
  | call i entry =>
    simp only [step, Option.ite_none_right_eq_some, Option.some.injEq] at h
    obtain ⟨hi, rfl⟩ := h
    exact .call hi
  | lock i =>
    simp only [step] at h
    split at h
    · rename_i entry hi
      simp only [Option.ite_none_right_eq_some, Option.some.injEq] at h
      obtain ⟨hfree, rfl⟩ := h
      exact .lock hi hfree
    · simp at h
  | startJSON i x =>
    simp only [step, Option.ite_none_right_eq_some, Option.some.injEq] at h
    obtain ⟨hi, rfl⟩ := h
    exact .startJSON hi
  | netstackStart i configures =>
    simp only [step, Option.ite_none_right_eq_some] at h
    obtain ⟨hi, h⟩ := h
    split at h
    · rename_i hnone
      cases h
      exact .netstackRefused hi hnone
    · rename_i runtime hsome
      cases h
      exact .netstackStarted hi hsome
  | netstackStop i =>
    simp only [step, Option.ite_none_right_eq_some, Option.some.injEq] at h
    obtain ⟨hi, rfl⟩ := h
    exact .netstackStop hi
  | stopCheck i =>
    simp only [step, Option.ite_none_right_eq_some] at h
    obtain ⟨hi, h⟩ := h
    split at h
    · rename_i hinst
      cases h
      exact .stopIdle hi hinst
    · rename_i hinst
      cases h
      exact .stopRunning hi hinst
  | detach i =>
    simp only [step] at h
    split at h
    · rename_i closer hi
      split at h
      · rename_i hnone
        cases h
        exact .detachNone hi hnone
      · rename_i k hk
        cases h
        exact .detachSome hi hk
    · simp at h
  | closeBegin i =>
    simp only [step] at h
    split at h
    · rename_i closer k hi
      obtain ⟨runtime, hk, rfl⟩ := Option.map_eq_some_iff.mp h
      exact .closeBegin hi hk
    · simp at h
  | closeEnd i =>
    simp only [step] at h
    split at h
    · rename_i closer k hi
      obtain ⟨runtime, hk, h⟩ := Option.bind_eq_some_iff.mp h
      simp only [Option.ite_none_right_eq_some, Option.some.injEq] at h
      obtain ⟨hwork, rfl⟩ := h
      exact .closeEnd hi hk hwork
    · simp at h
  | instanceClose i closes =>
    simp only [step, Option.ite_none_right_eq_some, Option.some.injEq] at h
    obtain ⟨hi, rfl⟩ := h
    exact .instanceClose hi
  | unlock i =>
    simp only [step] at h
    split at h
    · rename_i entry status hi
      cases h
      exact .unlock hi
    · simp at h
  | startWork k =>
    obtain ⟨runtime, hk, h⟩ := Option.bind_eq_some_iff.mp h
    split at h
    · simp at h
    · rename_i hopen
      cases h
      exact .startWork hk (by simpa using hopen)
  | finishWork k =>
    obtain ⟨runtime, hk, h⟩ := Option.bind_eq_some_iff.mp h
    split at h
    · simp at h
    · rename_i hwork
      cases h
      exact .finishWork hk hwork

theorem copyConfig_error {config : Option Bytes} {code : Status}
    (h : copyConfig config = .error code) : code = .invalidArgument := by
  unfold copyConfig at h
  split at h
  · cases h
    rfl
  · split at h
    · cases h
      rfl
    · cases h

/-- `FoloXrayStartJSON` records an error, or starts a new instance from the idle state. -/
theorem Engine.startJSON_cases (e : Engine) (fresh : ℕ) (x : StartInput) :
    (∃ slot status, status ≠ .ok ∧ e.startJSON fresh x = ({ e with error := slot }, status)) ∨
      e.coreInstance = none ∧ e.state ≠ .running ∧
        e.startJSON fresh x =
          (⟨some fresh, x.routing.getD (modeConfig modeRule), .running, clearErrorLocked,
            some x.now⟩, .ok) := by
  unfold Engine.startJSON
  split
  · exact .inl ⟨_, .invalidState, by decide, rfl⟩
  · rename_i hidle
    split
    · rename_i code hcopy
      cases copyConfig_error hcopy
      exact .inl ⟨_, .invalidArgument, by decide, rfl⟩
    · split
      · exact .inl ⟨_, .invalidConfiguration, by decide, rfl⟩
      · split
        · exact .inl ⟨_, .startFailed, by decide, rfl⟩
        · split
          · exact .inl ⟨_, .startFailed, by decide, rfl⟩
          · simp only [ne_eq, not_or, not_not] at hidle
            exact .inr ⟨hidle.1, hidle.2, rfl⟩

/-- `FoloXrayNetstackStart` records an error, or creates a runtime for the running instance with a
router built from the current configuration, when none is registered. -/
theorem Engine.netstackStart_cases (e : Engine) (registered : Option ℕ) (configures : Bool) :
    (∃ slot status, status ≠ .ok ∧
      e.netstackStart registered configures = (({ e with error := slot }, status), none)) ∨
      ∃ inst, e.coreInstance = some inst ∧ e.state = .running ∧ registered = none ∧
        e.netstackStart registered configures =
          (({ e with error := clearErrorLocked }, .ok),
            some ⟨inst, newRouter e.routerConfig, false, 0, false⟩) := by
  unfold Engine.netstackStart
  split
  · exact .inl ⟨_, .invalidState, by decide, rfl⟩
  · rename_i hrunning
    simp only [ne_eq, not_or, not_not] at hrunning
    obtain ⟨inst, hinst⟩ := Option.ne_none_iff_exists'.mp hrunning.1
    split
    · exact .inl ⟨_, .startFailed, by decide, rfl⟩
    · rename_i runtime hstart
      simp only [startNetstack, newNetstackRuntime, hinst, ne_eq,
        Option.ite_none_left_eq_some, not_not, Option.ite_none_right_eq_some,
        Option.some.injEq] at hstart
      obtain ⟨hfree, -, rfl⟩ := hstart
      exact .inr ⟨inst, hinst, hrunning.2, hfree, rfl⟩

/-- However `Close` of the instance answers, `FoloXrayStop` ends idle without an instance. -/
theorem Engine.stopped_idle (e : Engine) (closes : Bool) :
    (e.stopped closes).1.coreInstance = none ∧ (e.stopped closes).1.state = .idle := by
  cases closes <;> exact ⟨rfl, rfl⟩

def Phase.holdsLock : Phase → Bool
  | .locked _ | .closingInstance | .unlocking _ _ => true
  | .detaching closer | .detached closer _ | .draining closer _ => closer == .stop
  | _ => false

/-- The call is a `FoloXrayStop` that found an instance and has not closed it yet. -/
def Phase.stopping : Phase → Bool
  | .closingInstance => true
  | .detaching closer | .detached closer _ | .draining closer _ => closer == .stop
  | _ => false

/-- The call is a `FoloXrayStop` that has emptied `netstack`. -/
def Phase.emptied : Phase → Bool
  | .closingInstance => true
  | .detached closer _ | .draining closer _ => closer == .stop
  | _ => false

/-- The call is a `FoloXrayStop` that has done its work and still owns the mutex. -/
def Phase.ended : Phase → Bool
  | .unlocking entry _ => entry == .stop
  | _ => false

/-- Whoever is inside the engine mutex owns it, and a stopping call keeps the instance and an empty
`netstack` to itself until it drops the instance. -/
structure Guarded (s : State) : Prop where
  owner : ∀ i, (s.calls i).holdsLock → s.owner = some i
  stopping : ∀ i, (s.calls i).stopping → s.engine.coreInstance ≠ none
  emptied : ∀ i, (s.calls i).emptied → s.netstack = none
  ended : ∀ i, (s.calls i).ended → s.engine.coreInstance = none

theorem guarded_initial : Guarded initial := by
  constructor <;> intro i hi <;>
    simp [initial, Phase.holdsLock, Phase.stopping, Phase.emptied, Phase.ended] at hi

theorem Phase.holdsLock_of_stopping {p : Phase} (h : p.stopping) : p.holdsLock := by
  cases p <;> simp_all [Phase.stopping, Phase.holdsLock]

theorem Phase.stopping_of_emptied {p : Phase} (h : p.emptied) : p.stopping := by
  cases p <;> simp_all [Phase.stopping, Phase.emptied]

theorem Phase.holdsLock_of_ended {p : Phase} (h : p.ended) : p.holdsLock := by
  cases p <;> simp_all [Phase.ended, Phase.holdsLock]

section Preservation

variable {s t : State} {i : ℕ} {q : Phase}

/-- A move outside the bodies: mutex and instance stay, `netstack` is at most emptied, and the call
enters no protected region. -/
theorem Guarded.quiet (hs : Guarded s) (hcalls : t.calls = Function.update s.calls i q)
    (howner : t.owner = s.owner) (hinst : t.engine.coreInstance = s.engine.coreInstance)
    (hnet : s.netstack = none → t.netstack = none)
    (hlock : q.holdsLock → (s.calls i).holdsLock) (hstop : q.stopping → (s.calls i).stopping)
    (hempty : q.emptied → t.netstack = none) (hended : q.ended = false) : Guarded t := by
  constructor <;> intro j hj <;> rw [hcalls] at hj <;> by_cases hji : j = i
  · subst hji
    rw [Function.update_self] at hj
    rw [howner]
    exact hs.owner j (hlock hj)
  · rw [Function.update_of_ne hji] at hj
    rw [howner]
    exact hs.owner j hj
  · subst hji
    rw [Function.update_self] at hj
    rw [hinst]
    exact hs.stopping j (hstop hj)
  · rw [Function.update_of_ne hji] at hj
    rw [hinst]
    exact hs.stopping j hj
  · subst hji
    rw [Function.update_self] at hj
    exact hempty hj
  · rw [Function.update_of_ne hji] at hj
    exact hnet (hs.emptied j hj)
  · subst hji
    rw [Function.update_self, hended] at hj
    simp at hj
  · rw [Function.update_of_ne hji] at hj
    rw [hinst]
    exact hs.ended j hj

/-- A move of the only call that can be inside the mutex. -/
theorem Guarded.exclusive (hcalls : t.calls = Function.update s.calls i q)
    (halone : ∀ j, j ≠ i → ¬ (s.calls j).holdsLock) (howner : q.holdsLock → t.owner = some i)
    (hstop : q.stopping → t.engine.coreInstance ≠ none)
    (hempty : q.emptied → t.netstack = none)
    (hended : q.ended → t.engine.coreInstance = none) : Guarded t := by
  have hself : ∀ j, (t.calls j).holdsLock → j = i ∧ t.calls j = q := by
    intro j hj
    by_cases hji : j = i
    · subst hji
      exact ⟨rfl, by rw [hcalls, Function.update_self]⟩
    · rw [hcalls, Function.update_of_ne hji] at hj
      exact absurd hj (halone j hji)
  constructor <;> intro j hj
  · obtain ⟨rfl, hq⟩ := hself j hj
    exact howner (hq ▸ hj)
  · obtain ⟨rfl, hq⟩ := hself j (Phase.holdsLock_of_stopping hj)
    exact hstop (hq ▸ hj)
  · obtain ⟨rfl, hq⟩ := hself j (Phase.holdsLock_of_stopping (Phase.stopping_of_emptied hj))
    exact hempty (hq ▸ hj)
  · obtain ⟨rfl, hq⟩ := hself j (Phase.holdsLock_of_ended hj)
    exact hended (hq ▸ hj)

theorem Guarded.alone (hs : Guarded s) (hi : (s.calls i).holdsLock) :
    ∀ j, j ≠ i → ¬ (s.calls j).holdsLock := by
  intro j hji hj
  have howner := (hs.owner j hj).symm.trans (hs.owner i hi)
  exact hji (Option.some.inj howner)

/-- The owner of the mutex has done the body of its entry point and is about to release it. -/
theorem Guarded.unlocking (hs : Guarded s) {entry : Entry} {status : Status}
    (hi : (s.calls i).holdsLock)
    (hcalls : t.calls = Function.update s.calls i (.unlocking entry status))
    (howner : t.owner = s.owner) (hended : entry = .stop → t.engine.coreInstance = none) :
    Guarded t := by
  apply Guarded.exclusive hcalls (hs.alone hi)
  · intro _
    rw [howner]
    exact hs.owner i hi
  · simp [Phase.stopping]
  · simp [Phase.emptied]
  · simpa [Phase.ended] using hended

end Preservation

theorem Closer.afterDetach_holdsLock {closer : Closer} (h : closer.afterDetach.holdsLock) :
    closer = .stop := by
  cases closer <;> simp_all [Closer.afterDetach, Phase.holdsLock]

theorem Guarded.step {s t : State} {a : Action} (hs : Guarded s) (h : Transition s a t) :
    Guarded t := by
  cases h with
  | @call i entry hi =>
    have hstart : entry.start.holdsLock = false := by cases entry <;> rfl
    refine hs.quiet rfl rfl rfl id ?_ ?_ ?_ (by cases entry <;> rfl)
    · simp [hstart]
    · intro hstop
      simp [Phase.holdsLock_of_stopping hstop] at hstart
    · intro hempty
      simp [Phase.holdsLock_of_stopping (Phase.stopping_of_emptied hempty)] at hstart
  | @lock i entry hi hfree =>
    have halone : ∀ j, j ≠ i → ¬ (s.calls j).holdsLock := by
      intro j _ hj
      simpa [hfree] using hs.owner j hj
    exact Guarded.exclusive rfl halone (fun _ => rfl) (by simp [Phase.stopping])
      (by simp [Phase.emptied]) (by simp [Phase.ended])
  | startJSON hi => exact hs.unlocking (by simp [hi, Phase.holdsLock]) rfl rfl (by simp)
  | netstackRefused hi _ => exact hs.unlocking (by simp [hi, Phase.holdsLock]) rfl rfl (by simp)
  | netstackStarted hi _ => exact hs.unlocking (by simp [hi, Phase.holdsLock]) rfl rfl (by simp)
  | netstackStop hi => exact hs.unlocking (by simp [hi, Phase.holdsLock]) rfl rfl (by simp)
  | stopIdle hi hinst =>
    exact hs.unlocking (by simp [hi, Phase.holdsLock]) rfl rfl (fun _ => hinst)
  | @stopRunning i hi hinst =>
    have hheld : (s.calls i).holdsLock := by simp [hi, Phase.holdsLock]
    exact Guarded.exclusive rfl (hs.alone hheld) (fun _ => hs.owner i hheld) (fun _ => hinst)
      (by simp [Phase.emptied]) (by simp [Phase.ended])
  | @detachNone i closer hi hnone =>
    refine hs.quiet rfl rfl rfl id ?_ ?_ (fun _ => hnone) (by cases closer <;> rfl)
    · intro hlock
      simp [hi, Phase.holdsLock, Closer.afterDetach_holdsLock hlock]
    · intro hstop
      simp [hi, Phase.stopping, Closer.afterDetach_holdsLock (Phase.holdsLock_of_stopping hstop)]
  | @detachSome i closer k hi hk =>
    refine hs.quiet rfl rfl rfl (fun _ => rfl) ?_ ?_ (fun _ => rfl) rfl
    · simp [hi, Phase.holdsLock]
    · simp [hi, Phase.stopping]
  | @closeBegin i closer k runtime hi hk =>
    refine hs.quiet rfl rfl rfl id ?_ ?_ ?_ rfl
    · simp [hi, Phase.holdsLock]
    · simp [hi, Phase.stopping]
    · intro hempty
      exact hs.emptied i (by simpa [hi, Phase.emptied] using hempty)
  | @closeEnd i closer k runtime hi hk hwork =>
    refine hs.quiet rfl rfl rfl id ?_ ?_ ?_ (by cases closer <;> rfl)
    · intro hlock
      simp [hi, Phase.holdsLock, Closer.afterDetach_holdsLock hlock]
    · intro hstop
      simp [hi, Phase.stopping, Closer.afterDetach_holdsLock (Phase.holdsLock_of_stopping hstop)]
    · intro hempty
      have hcloser := Closer.afterDetach_holdsLock
        (Phase.holdsLock_of_stopping (Phase.stopping_of_emptied hempty))
      exact hs.emptied i (by simp [hi, Phase.emptied, hcloser])
  | @instanceClose i closes hi =>
    exact hs.unlocking (by simp [hi, Phase.holdsLock]) rfl rfl
      (fun _ => (s.engine.stopped_idle closes).1)
  | @unlock i entry status hi =>
    have hheld : (s.calls i).holdsLock := by simp [hi, Phase.holdsLock]
    exact Guarded.exclusive rfl (hs.alone hheld) (by simp [Phase.holdsLock])
      (by simp [Phase.stopping]) (by simp [Phase.emptied]) (by simp [Phase.ended])
  | startWork _ _ => exact ⟨hs.owner, hs.stopping, hs.emptied, hs.ended⟩
  | finishWork _ _ => exact ⟨hs.owner, hs.stopping, hs.emptied, hs.ended⟩

theorem guarded_of_run {as : List Action} {s : State} (h : run step initial as = some s) :
    Guarded s :=
  run_invariant (fun _ _ _ hs hstep => hs.step (transition_of_step hstep)) guarded_initial h

end FoloXray.Wrapper
