import FoloXray.Foundation.Custody
import FoloXray.Wrapper.EngineSteps

/-! # The order of teardown

Where a runtime is between its creation and the end of its `close`: registered in `netstack`, or in
the hands of exactly one call that took it from there.  `FoloXrayStop` closes the instance under the
engine mutex, but `FoloXrayNetstackStop` closes a runtime it took without that mutex.
-/

namespace FoloXray.Wrapper
open Foundation Routing

/-- The runtime that a call has taken and not closed yet. -/
def Phase.held : Phase → Option ℕ
  | .detached _ k | .draining _ k => some k
  | _ => none

/-- Who keeps which runtime: `none` stands for `netstack`, `some i` for the call `i`. -/
def State.keeps (s : State) : Option ℕ → Option ℕ
  | none => s.netstack
  | some i => (s.calls i).held

/-- The runtime exists and its `close` has not returned. -/
def State.Unfinished (s : State) (k : ℕ) : Prop :=
  ∃ runtime, s.runtimes k = some runtime ∧ runtime.finished = false

/-- Every runtime that has not finished is kept exactly once, one whose flows are awaited refuses
new ones, and a finished one is closed and runs no flow. -/
structure Accounted (s : State) : Prop where
  created : ∀ k runtime, s.runtimes k = some runtime → k < s.runtimeCount
  custody : Custody s.Unfinished s.keeps
  closed : ∀ i closer k runtime, s.calls i = .draining closer k → s.runtimes k = some runtime →
    runtime.closed
  drained : ∀ k runtime, s.runtimes k = some runtime → runtime.finished →
    runtime.closed ∧ runtime.work = 0

theorem accounted_initial : Accounted initial := by
  constructor
  · simp [initial]
  · constructor
    · intro k
      simp only [State.Unfinished, initial, reduceCtorEq, false_and, exists_false, false_iff]
      rintro ⟨_ | i, h⟩ <;> cases h
    · rintro (_ | i) k r h <;> cases h
  · simp [initial]
  · simp [initial]

section Preservation

variable {s t : State} {i : ℕ} {q : Phase}

theorem keeps_eq (hcalls : t.calls = Function.update s.calls i q) (hnet : t.netstack = s.netstack) :
    t.keeps = Function.update s.keeps (some i) q.held := by
  funext o
  cases o with
  | none => simp [State.keeps, hnet]
  | some j =>
    by_cases hji : j = i
    · subst hji
      simp [State.keeps, hcalls]
    · simp [State.keeps, hcalls, hji]

/-- What is known about calls that wait for flows survives a move of a call that does not start to
wait and a change of runtimes that opens none. -/
theorem Accounted.closed_move (hs : Accounted s) (hcalls : t.calls = Function.update s.calls i q)
    (hq : ∀ closer k, q ≠ .draining closer k)
    (hruntimes : ∀ k r, t.runtimes k = some r → k < s.runtimeCount →
      ∃ r', s.runtimes k = some r' ∧ (r'.closed → r.closed)) :
    ∀ j closer k r, t.calls j = .draining closer k → t.runtimes k = some r → r.closed := by
  intro j closer k r hj hk
  rw [hcalls] at hj
  by_cases hji : j = i
  · subst hji
    rw [Function.update_self] at hj
    exact absurd hj (hq closer k)
  · rw [Function.update_of_ne hji] at hj
    have hkept : s.keeps (some j) = some k := by simp [State.keeps, hj, Phase.held]
    obtain ⟨r₀, hr₀, -⟩ := (hs.custody.kept k).mpr ⟨_, hkept⟩
    obtain ⟨r', hr', hclosed⟩ := hruntimes k r hk (hs.created k r₀ hr₀)
    exact hclosed (hs.closed j closer k r' hj hr')

/-- A move of a call that keeps no runtime before or after. -/
theorem Accounted.idleMove (hs : Accounted s) {p : Phase} (hi : s.calls i = p)
    (hp : p.held = none) (hq : q.held = none) (hcalls : t.calls = Function.update s.calls i q)
    (hruntimes : t.runtimes = s.runtimes) (hnet : t.netstack = s.netstack)
    (hcount : t.runtimeCount = s.runtimeCount) : Accounted t := by
  constructor
  · rw [hruntimes, hcount]
    exact hs.created
  · have hkeeps : t.keeps = s.keeps := by
      rw [keeps_eq hcalls hnet, hq, ← hp, ← hi]
      exact Function.update_eq_self (some i) s.keeps
    rw [hkeeps]
    exact hs.custody.congr fun k => by simp only [State.Unfinished, hruntimes]
  · refine hs.closed_move hcalls ?_ fun k r hk _ => ⟨r, hruntimes ▸ hk, id⟩
    rintro closer k rfl
    cases hq
  · rw [hruntimes]
    exact hs.drained

/-- A new runtime is registered by a call that keeps none. -/
theorem Accounted.register (hs : Accounted s) {runtime : Runtime}
    (hcalls : t.calls = Function.update s.calls i q) (hi : (s.calls i).held = none)
    (hq : q.held = none) (hnone : s.netstack = none)
    (hnet : t.netstack = some s.runtimeCount) (hcount : t.runtimeCount = s.runtimeCount + 1)
    (hruntimes : t.runtimes = Function.update s.runtimes s.runtimeCount (some runtime))
    (hnew : runtime.finished = false) : Accounted t := by
  have hother : ∀ k, k ≠ s.runtimeCount → t.runtimes k = s.runtimes k := by
    intro k hk
    rw [hruntimes, Function.update_of_ne hk]
  have hself : t.runtimes s.runtimeCount = some runtime := by
    rw [hruntimes, Function.update_self]
  constructor
  · intro k r hk
    by_cases hkn : k = s.runtimeCount
    · omega
    · have := hs.created k r (hother k hkn ▸ hk)
      omega
  · have hkeeps : t.keeps = Function.update s.keeps none (some s.runtimeCount) := by
      funext o
      cases o with
      | none => simp [State.keeps, hnet]
      | some j =>
        by_cases hji : j = i
        · subst hji
          simp [State.keeps, hcalls, hq, hi]
        · simp [State.keeps, hcalls, hji]
    rw [hkeeps]
    refine hs.custody.acquire (k := none) hnone ?_ ?_
    · rintro ⟨r, hr, -⟩
      exact lt_irrefl _ (hs.created _ r hr)
    · intro k
      by_cases hkn : k = s.runtimeCount
      · subst hkn
        simp [State.Unfinished, hself, hnew]
      · simp [State.Unfinished, hother k hkn, hkn]
  · refine hs.closed_move hcalls ?_ ?_
    · rintro closer k rfl
      cases hq
    · intro k r hk hlt
      exact ⟨r, hother k hlt.ne ▸ hk, id⟩
  · intro k r hk hf
    by_cases hkn : k = s.runtimeCount
    · subst hkn
      rw [hself] at hk
      cases hk
      simp [hnew] at hf
    · exact hs.drained k r (hother k hkn ▸ hk) hf

theorem Accounted.take (hs : Accounted s) {k : ℕ} {closer : Closer}
    (hi : (s.calls i).held = none) (hk : s.netstack = some k) :
    Accounted ({ s with netstack := none }.setCall i (.detached closer k)) := by
  constructor
  · exact hs.created
  · have hkeeps : State.keeps ({ s with netstack := none }.setCall i (.detached closer k)) =
        Function.update (Function.update s.keeps none none) (some i) (some k) := by
      funext o
      cases o with
      | none => simp [State.keeps, State.setCall]
      | some j =>
        by_cases hji : j = i
        · subst hji
          simp [State.keeps, State.setCall, Phase.held]
        · simp [State.keeps, State.setCall, hji]
    rw [hkeeps]
    exact hs.custody.transfer (k := none) hk hi
  · exact hs.closed_move rfl (by simp) fun _ r hr _ => ⟨r, hr, id⟩
  · exact hs.drained

theorem update_eq_some_iff {runtimes : ℕ → Option Runtime} {k j : ℕ} {r x : Runtime} :
    Function.update runtimes k (some r) j = some x ↔
      j = k ∧ x = r ∨ j ≠ k ∧ runtimes j = some x := by
  by_cases hjk : j = k
  · subst hjk
    simp [eq_comm]
  · simp [hjk]

section Amend

variable {k : ℕ} {r r' : Runtime}

/-- The runtime of a call or of a flow changes without finishing or reopening, while the call moves
on with the same runtime. -/
theorem Accounted.amend (hs : Accounted s) (hcalls : t.calls = Function.update s.calls i q)
    (hk : s.runtimes k = some r) (hruntimes : t.runtimes = Function.update s.runtimes k (some r'))
    (hheld : q.held = (s.calls i).held)
    (hq : ∀ closer k', q = .draining closer k' → q = s.calls i ∨ k' = k ∧ r'.closed)
    (hnet : t.netstack = s.netstack) (hcount : t.runtimeCount = s.runtimeCount)
    (hfin : r'.finished = r.finished) (hclosed : r.closed → r'.closed)
    (hwork : r.finished → r'.work = 0) : Accounted t := by
  have hlookup : ∀ j x, t.runtimes j = some x → ∃ x', s.runtimes j = some x' ∧
      (x'.closed → x.closed) := by
    intro j x hj
    rw [hruntimes, update_eq_some_iff] at hj
    rcases hj with ⟨rfl, rfl⟩ | ⟨-, hj⟩
    · exact ⟨r, hk, hclosed⟩
    · exact ⟨x, hj, id⟩
  constructor
  · intro j x hj
    obtain ⟨x', hx', -⟩ := hlookup j x hj
    rw [hcount]
    exact hs.created j x' hx'
  · have hkeeps : t.keeps = s.keeps := by
      rw [keeps_eq hcalls hnet, hheld]
      exact Function.update_eq_self (some i) s.keeps
    rw [hkeeps]
    apply hs.custody.congr
    intro j
    by_cases hjk : j = k
    · subst hjk
      simp [State.Unfinished, hruntimes, hk, hfin]
    · simp [State.Unfinished, hruntimes, hjk]
  · intro j closer k' x hj hx
    obtain ⟨x', hx', hopen⟩ := hlookup k' x hx
    rw [hcalls] at hj
    by_cases hji : j = i
    · subst hji
      rw [Function.update_self] at hj
      rcases hq closer k' hj with hsame | ⟨rfl, hnow⟩
      · exact hopen (hs.closed j closer k' x' (hsame ▸ hj) hx')
      · rw [hruntimes, Function.update_self] at hx
        cases hx
        exact hnow
    · rw [Function.update_of_ne hji] at hj
      exact hopen (hs.closed j closer k' x' hj hx')
  · intro j x hj hf
    rw [hruntimes, update_eq_some_iff] at hj
    rcases hj with ⟨rfl, rfl⟩ | ⟨-, hj⟩
    · rw [hfin] at hf
      exact ⟨hclosed (hs.drained j r hk hf).1, hwork hf⟩
    · exact hs.drained j x hj hf

theorem Accounted.flow (hs : Accounted s) {work : ℕ} (hk : s.runtimes k = some r)
    (hwork : r.finished → work = 0) : Accounted (s.setRuntime k { r with work := work }) :=
  hs.amend (i := 0) (q := s.calls 0) (Function.update_eq_self 0 s.calls).symm hk rfl rfl
    (fun _ _ _ => .inl rfl) rfl rfl rfl id hwork

theorem Accounted.finish (hs : Accounted s) {closer : Closer} (hi : s.calls i = .draining closer k)
    (hk : s.runtimes k = some r) (hwork : r.work = 0) (hq : q.held = none) :
    Accounted ((s.setRuntime k { r with finished := true }).setCall i q) := by
  constructor
  · intro j x hj
    rcases update_eq_some_iff.mp hj with ⟨rfl, -⟩ | ⟨-, hj⟩
    · exact hs.created j r hk
    · exact hs.created j x hj
  · have hkeeps : State.keeps ((s.setRuntime k { r with finished := true }).setCall i q) =
        Function.update s.keeps (some i) q.held := keeps_eq rfl rfl
    rw [hkeeps, hq]
    refine hs.custody.release (k := some i) (r := k) (by simp [State.keeps, hi, Phase.held]) ?_
    intro j
    by_cases hjk : j = k
    · subst hjk
      simp [State.Unfinished, State.setCall, State.setRuntime]
    · simp [State.Unfinished, State.setCall, State.setRuntime, hjk]
  · refine hs.closed_move rfl ?_ ?_
    · rintro c k' rfl
      cases hq
    · intro j x hj _
      rcases update_eq_some_iff.mp hj with ⟨rfl, rfl⟩ | ⟨-, hj⟩
      · exact ⟨r, hk, id⟩
      · exact ⟨x, hj, id⟩
  · intro j x hj hf
    rcases update_eq_some_iff.mp hj with ⟨rfl, rfl⟩ | ⟨-, hj⟩
    · exact ⟨hs.closed i closer j r hi hk, hwork⟩
    · exact hs.drained j x hj hf

end Amend

end Preservation

theorem Accounted.step {s t : State} {a : Action} (hs : Accounted s) (h : Transition s a t) :
    Accounted t := by
  cases h with
  | @call i entry hi =>
    exact hs.idleMove hi rfl (by cases entry <;> rfl) rfl rfl rfl rfl
  | lock hi _ => exact hs.idleMove hi rfl rfl rfl rfl rfl rfl
  | startJSON hi => exact hs.idleMove hi rfl rfl rfl rfl rfl rfl
  | netstackRefused hi _ => exact hs.idleMove hi rfl rfl rfl rfl rfl rfl
  | @netstackStarted i configures runtime hi hsome =>
    rcases s.engine.netstackStart_cases s.netstack configures with
      ⟨slot, status, -, heq⟩ | ⟨inst, -, -, hnone, heq⟩
    · simp [heq] at hsome
    · rw [heq] at hsome
      cases hsome
      exact hs.register rfl (by rw [hi]; rfl) rfl hnone rfl rfl rfl rfl
  | netstackStop hi => exact hs.idleMove hi rfl rfl rfl rfl rfl rfl
  | stopIdle hi _ => exact hs.idleMove hi rfl rfl rfl rfl rfl rfl
  | stopRunning hi _ => exact hs.idleMove hi rfl rfl rfl rfl rfl rfl
  | @detachNone i closer hi _ =>
    exact hs.idleMove hi rfl (by cases closer <;> rfl) rfl rfl rfl rfl
  | detachSome hi hk => exact hs.take (by rw [hi]; rfl) hk
  | @closeBegin i closer k runtime hi hk =>
    have hunfinished : s.Unfinished k :=
      (hs.custody.kept k).mpr ⟨some i, by simp [State.keeps, hi, Phase.held]⟩
    obtain ⟨r, hr, hf⟩ := hunfinished
    rw [hk] at hr
    cases hr
    refine hs.amend rfl hk rfl (by rw [hi]; rfl) ?_ rfl rfl rfl (fun _ => rfl) (by simp [hf])
    rintro c k' heq
    cases heq
    exact .inr ⟨rfl, rfl⟩
  | @closeEnd i closer k runtime hi hk hwork =>
    exact hs.finish hi hk hwork (by cases closer <;> rfl)
  | instanceClose hi => exact hs.idleMove hi rfl rfl rfl rfl rfl rfl
  | unlock hi => exact hs.idleMove hi rfl rfl rfl rfl rfl rfl
  | startWork hk hopen =>
    refine hs.flow hk fun hf => ?_
    have := (hs.drained _ _ hk hf).1
    simp [hopen] at this
  | finishWork hk _ =>
    refine hs.flow hk fun hf => ?_
    have := (hs.drained _ _ hk hf).2
    omega

theorem accounted_of_run {as : List Action} {s : State} (h : run step initial as = some s) :
    Accounted s :=
  run_invariant (fun _ _ _ hs hstep => hs.step (transition_of_step hstep)) accounted_initial h

def Phase.detachedByNetstackStop : Phase → Option ℕ
  | .detached .netstackStop k | .draining .netstackStop k => some k
  | _ => none

theorem Phase.detachedByNetstackStop_of_held {p : Phase} {k : ℕ} (h : p.held = some k)
    (hlock : p.holdsLock = false) : p.detachedByNetstackStop = some k := by
  cases p with
  | detached closer k' => cases closer <;> simp_all [held, holdsLock, detachedByNetstackStop]
  | draining closer k' => cases closer <;> simp_all [held, holdsLock, detachedByNetstackStop]
  | _ => simp [held] at h

theorem Phase.held_of_detachedByNetstackStop {p : Phase} {k : ℕ}
    (h : p.detachedByNetstackStop = some k) : p.held = some k := by
  cases p with
  | detached closer k' => cases closer <;> simp_all [held, detachedByNetstackStop]
  | draining closer k' => cases closer <;> simp_all [held, detachedByNetstackStop]
  | _ => simp [detachedByNetstackStop] at h

/-- When `FoloXrayStop` is about to close the instance, all runtimes ever created for it have
finished exactly when no `FoloXrayNetstackStop` call is still closing one of them. -/
theorem instance_closed_last_iff {as : List Action} {s : State} {i : ℕ}
    (hrun : run step initial as = some s) (hi : s.calls i = .closingInstance) :
    (∀ k runtime, s.runtimes k = some runtime →
      s.engine.coreInstance = some runtime.coreInstance →
      runtime.finished ∧ runtime.closed ∧ runtime.work = 0) ↔
      ∀ j k runtime, (s.calls j).detachedByNetstackStop = some k →
        s.runtimes k = some runtime → s.engine.coreInstance ≠ some runtime.coreInstance := by
  have hguarded := guarded_of_run hrun
  have haccounted := accounted_of_run hrun
  have halone := hguarded.alone (i := i) (by simp [hi, Phase.holdsLock])
  constructor
  · intro hall j k runtime hj hk hinst
    obtain ⟨r, hr, hf⟩ := (haccounted.custody.kept k).mpr
      ⟨some j, Phase.held_of_detachedByNetstackStop hj⟩
    rw [hk] at hr
    cases hr
    have := (hall k runtime hk hinst).1
    simp [hf] at this
  · intro hnone k runtime hk hinst
    have hfinished : runtime.finished := by
      by_contra hf
      obtain ⟨o, ho⟩ := (haccounted.custody.kept k).mp ⟨runtime, hk, by simpa using hf⟩
      cases o with
      | none =>
        have hempty : s.netstack = none := hguarded.emptied i (by simp [hi, Phase.emptied])
        simp [State.keeps, hempty] at ho
      | some j =>
        have hji : j ≠ i := by
          rintro rfl
          simp [State.keeps, hi, Phase.held] at ho
        have hj : (s.calls j).detachedByNetstackStop = some k :=
          Phase.detachedByNetstackStop_of_held ho (by simpa using halone j hji)
        exact hnone j k runtime hj hk hinst
    exact ⟨hfinished, haccounted.drained k runtime hk hfinished⟩

/-- The engine and a network stack start, and a flow begins on it. -/
def flowing : List Action :=
  [.call 0 .startJSON, .lock 0, .startJSON 0 ⟨some [0x7b, 0x7d], true, true, true, none, 7⟩,
    .unlock 0, .call 1 .netstackStart, .lock 1, .netstackStart 1 true, .unlock 1, .startWork 0]

/-- `FoloXrayStop` alone closes the runtime once its flow has ended. -/
def orderlyStop : List Action :=
  flowing ++ [.call 2 .stop, .lock 2, .stopCheck 2, .detach 2, .closeBegin 2, .finishWork 0,
    .closeEnd 2]

theorem instance_closed_last_orderly :
    ∃ s, run step initial orderlyStop = some s ∧ s.calls 2 = .closingInstance ∧
      ∀ runtime, s.runtimes 0 = some runtime → s.engine.coreInstance = some runtime.coreInstance →
        runtime.finished ∧ runtime.closed ∧ runtime.work = 0 := by
  let s := (run step initial orderlyStop).get (by decide)
  have hs : run step initial orderlyStop = some s := (Option.some_get _).symm
  have hclosing : s.calls 2 = .closingInstance := by decide
  have hnone : ∀ j, (s.calls j).detachedByNetstackStop = none := by
    rintro (_ | _ | _ | j) <;> rfl
  refine ⟨s, hs, hclosing, (instance_closed_last_iff hs hclosing).mpr ?_ 0⟩
  intro j k runtime hj
  rw [hnone j] at hj
  cases hj

/-- `FoloXrayNetstackStop` has taken the runtime when `FoloXrayStop` finds none registered and goes
on to close the instance under a running flow. -/
def racingStop : List Action :=
  flowing ++ [.call 2 .netstackStop, .detach 2, .call 3 .stop, .lock 3, .stopCheck 3, .detach 3]

theorem instance_closed_under_flow :
    ∃ s runtime, run step initial racingStop = some s ∧ s.calls 3 = .closingInstance ∧
      s.runtimes 0 = some runtime ∧ s.engine.coreInstance = some runtime.coreInstance ∧
      runtime.closed = false ∧ runtime.work = 1 := by
  let s := (run step initial racingStop).get (by decide)
  let runtime := (s.runtimes 0).get (by decide)
  exact ⟨s, runtime, (Option.some_get _).symm, by decide, (Option.some_get _).symm, by decide,
    by decide, by decide⟩

end FoloXray.Wrapper
