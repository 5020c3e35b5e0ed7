import FoloXray.Foundation.Refinement
import FoloXray.Wrapper.EngineSteps

/-! # The lifecycle that the engine implements

What the entry points are for, as a machine with two states: idle, or running one instance under
one routing configuration, with or without an attached runtime.  Every interleaving of the entry
points is a run of this machine, and a call that fails takes no part in it.
-/

namespace FoloXray.Wrapper
open Foundation Routing

inductive Lifecycle where
  | idle
  | running (inst : ℕ) (cfg : Config) (attached : Bool)

inductive Lifecycle.Next : Lifecycle → Lifecycle → Prop
  | start (inst : ℕ) (cfg : Config) : Next .idle (.running inst cfg false)
  | attach (inst : ℕ) (cfg : Config) : Next (.running inst cfg false) (.running inst cfg true)
  | detach (inst : ℕ) (cfg : Config) : Next (.running inst cfg true) (.running inst cfg false)
  | stop (inst : ℕ) (cfg : Config) : Next (.running inst cfg false) .idle

/-- The globals show the abstract state; the registered runtime belongs to the running instance and
has the router of its configuration. -/
def Represents (s : State) : Lifecycle → Prop
  | .idle => s.engine.coreInstance = none ∧ s.engine.state = .idle ∧ s.netstack = none
  | .running inst cfg attached =>
    s.engine.coreInstance = some inst ∧ s.engine.state = .running ∧ s.engine.routerConfig = cfg ∧
      s.netstack.isSome = attached ∧
      ∀ k, s.netstack = some k → ∃ runtime, s.runtimes k = some runtime ∧
        runtime.coreInstance = inst ∧ runtime.router = newRouter cfg

theorem represents_initial : Represents initial .idle := ⟨rfl, rfl, rfl⟩

section Represents

variable {s t : State} {l : Lifecycle}

theorem Represents.idle_of_none (h : Represents s l) (hinst : s.engine.coreInstance = none) :
    l = .idle := by
  cases l with
  | idle => rfl
  | running inst cfg attached => simp [h.1] at hinst

theorem Represents.running_of_some (h : Represents s l) {inst : ℕ}
    (hinst : s.engine.coreInstance = some inst) :
    l = .running inst s.engine.routerConfig s.netstack.isSome := by
  cases l with
  | idle => simp [h.1] at hinst
  | running inst' cfg attached =>
    obtain ⟨hinst', -, hcfg, hattached, -⟩ := h
    rw [hinst'] at hinst
    cases hinst
    rw [hcfg, hattached]

def SameRuntimes (s t : State) : Prop :=
  ∀ k runtime, s.runtimes k = some runtime → ∃ runtime', t.runtimes k = some runtime' ∧
    runtime'.coreInstance = runtime.coreInstance ∧ runtime'.router = runtime.router

theorem SameRuntimes.refl (s : State) : SameRuntimes s s :=
  fun _ runtime h => ⟨runtime, h, rfl, rfl⟩

theorem SameRuntimes.update {k : ℕ} {runtime runtime' : Runtime}
    (hk : s.runtimes k = some runtime)
    (ht : t.runtimes = Function.update s.runtimes k (some runtime'))
    (hinst : runtime'.coreInstance = runtime.coreInstance)
    (hrouter : runtime'.router = runtime.router) : SameRuntimes s t := by
  intro j r hj
  by_cases hjk : j = k
  · subst hjk
    rw [hk] at hj
    cases hj
    exact ⟨runtime', by rw [ht, Function.update_self], hinst, hrouter⟩
  · exact ⟨r, by rw [ht, Function.update_of_ne hjk, hj], rfl, rfl⟩

/-- A step that leaves the instance, the state, the routing configuration, the registered runtime
and the identity of every runtime alone. -/
theorem Represents.stutter (h : Represents s l)
    (hinst : t.engine.coreInstance = s.engine.coreInstance)
    (hcfg : t.engine.routerConfig = s.engine.routerConfig)
    (hstate : t.engine.state = s.engine.state) (hnet : t.netstack = s.netstack)
    (hruntimes : SameRuntimes s t) :
    ∃ l', Represents t l' ∧ Relation.ReflTransGen Lifecycle.Next l l' := by
  refine ⟨l, ?_, .refl⟩
  cases l with
  | idle => exact ⟨hinst.trans h.1, hstate.trans h.2.1, hnet.trans h.2.2⟩
  | running inst cfg attached =>
    obtain ⟨h1, h2, h3, h4, h5⟩ := h
    refine ⟨hinst.trans h1, hstate.trans h2, hcfg.trans h3, by rw [hnet, h4], ?_⟩
    intro k hk
    obtain ⟨runtime, hruntime, hi, hr⟩ := h5 k (hnet ▸ hk)
    obtain ⟨runtime', hruntime', hi', hr'⟩ := hruntimes k runtime hruntime
    exact ⟨runtime', hruntime', hi'.trans hi, hr'.trans hr⟩

end Represents

/-- Every step of the engine is a transition of the lifecycle or none at all. -/
theorem Represents.step {s t : State} {a : Action} {l : Lifecycle} (hs : Guarded s)
    (hl : Represents s l) (h : Transition s a t) :
    ∃ l', Represents t l' ∧ Relation.ReflTransGen Lifecycle.Next l l' := by
  cases h with
  | call _ => exact hl.stutter rfl rfl rfl rfl (.refl s)
  | lock _ _ => exact hl.stutter rfl rfl rfl rfl (.refl s)
  | @startJSON i x hi =>
    rcases s.engine.startJSON_cases s.instanceCount x with ⟨slot, status, -, heq⟩ | ⟨hinst, -, heq⟩
    · rw [heq]
      exact hl.stutter rfl rfl rfl rfl (.refl s)
    · obtain rfl := hl.idle_of_none hinst
      have hnet : s.netstack = none := hl.2.2
      refine ⟨.running s.instanceCount (x.routing.getD (modeConfig modeRule)) false, ?_,
        .single (.start _ _)⟩
      rw [heq]
      refine ⟨rfl, rfl, rfl, ?_, ?_⟩
      · simp [State.setCall, hnet]
      · simp [State.setCall, hnet]
  | @netstackRefused i configures hi hnone =>
    rcases s.engine.netstackStart_cases s.netstack configures with
      ⟨slot, status, -, heq⟩ | ⟨inst, -, -, -, heq⟩
    · rw [heq]
      exact hl.stutter rfl rfl rfl rfl (.refl s)
    · simp [heq] at hnone
  | @netstackStarted i configures runtime hi hsome =>
    rcases s.engine.netstackStart_cases s.netstack configures with
      ⟨slot, status, -, heq⟩ | ⟨inst, hinst, hstate, hnet, heq⟩
    · simp [heq] at hsome
    · obtain rfl := hl.running_of_some hinst
      rw [heq] at hsome ⊢
      cases hsome
      rw [hnet]
      refine ⟨.running inst s.engine.routerConfig true, ?_, .single (.attach _ _)⟩
      refine ⟨hinst, hstate, rfl, rfl, ?_⟩
      intro k hk
      cases hk
      exact ⟨_, Function.update_self _ _ _, rfl, rfl⟩
  | netstackStop _ => exact hl.stutter rfl rfl rfl rfl (.refl s)
  | stopIdle _ hinst =>
    obtain rfl := hl.idle_of_none hinst
    exact ⟨.idle, ⟨hinst, rfl, hl.2.2⟩, .refl⟩
  | stopRunning _ _ => exact hl.stutter rfl rfl rfl rfl (.refl s)
  | detachNone _ _ => exact hl.stutter rfl rfl rfl rfl (.refl s)
  | @detachSome i closer k hi hk =>
    cases l with
    | idle => simp [hl.2.2] at hk
    | running inst cfg attached =>
      obtain ⟨hinst, hstate, hcfg, hattached, -⟩ := hl
      rw [hk] at hattached
      cases hattached
      refine ⟨.running inst cfg false, ⟨hinst, hstate, hcfg, rfl, ?_⟩, .single (.detach _ _)⟩
      simp [State.setCall]
  | closeBegin _ hk =>
    exact hl.stutter rfl rfl rfl rfl (.update hk rfl rfl rfl)
  | closeEnd _ hk _ =>
    exact hl.stutter rfl rfl rfl rfl (.update hk rfl rfl rfl)
  | @instanceClose i closes hi =>
    have hnet : s.netstack = none := hs.emptied i (by simp [hi, Phase.emptied])
    obtain ⟨inst, hinst⟩ := Option.ne_none_iff_exists'.mp
      (hs.stopping i (by simp [hi, Phase.stopping]))
    obtain rfl := hl.running_of_some hinst
    rw [hnet]
    have hidle := s.engine.stopped_idle closes
    exact ⟨.idle, ⟨hidle.1, hidle.2, rfl⟩, .single (.stop _ _)⟩
  | unlock _ => exact hl.stutter rfl rfl rfl rfl (.refl s)
  | startWork hk _ =>
    exact hl.stutter rfl rfl rfl rfl (.update hk rfl rfl rfl)
  | finishWork hk _ =>
    exact hl.stutter rfl rfl rfl rfl (.update hk rfl rfl rfl)

theorem engine_simulates :
    Simulates step (fun s l => Guarded s ∧ Represents s l) Lifecycle.Next := by
  intro s a t l ⟨hs, hl⟩ hstep
  have h := transition_of_step hstep
  obtain ⟨l', hl', hnext⟩ := hl.step hs h
  exact ⟨l', ⟨hs.step h, hl'⟩, hnext⟩

theorem represents_of_run {as : List Action} {s : State} (h : run step initial as = some s) :
    ∃ l, Represents s l ∧ Relation.ReflTransGen Lifecycle.Next .idle l := by
  obtain ⟨l, ⟨-, hl⟩, hnext⟩ := engine_simulates.run ⟨guarded_initial, represents_initial⟩ h
  exact ⟨l, hl, hnext⟩

/-- The call that takes the step; flows belong to no call. -/
def Action.caller : Action → Option ℕ
  | .call i _ | .lock i | .startJSON i _ | .netstackStart i _ | .netstackStop i | .stopCheck i
  | .detach i | .closeBegin i | .closeEnd i | .instanceClose i _ | .unlock i => some i
  | .startWork _ | .finishWork _ => none

def Closer.entry : Closer → Entry
  | .stop => .stop
  | .netstackStop => .netstackStop

def Phase.entry : Phase → Option Entry
  | .absent => none
  | .waiting entry | .locked entry | .unlocking entry _ | .returned entry _ => some entry
  | .detaching closer | .detached closer _ | .draining closer _ => some closer.entry
  | .closingInstance => some .stop

def Phase.status : Phase → Option Status
  | .unlocking _ status | .returned _ status => some status
  | _ => none

def State.observed (s : State) : Option ℕ × RunState × Config × Option ℕ × Option ℕ :=
  (s.engine.coreInstance, s.engine.state, s.engine.routerConfig, s.engine.startedAt, s.netstack)

section Calls

variable {s t : State} {a : Action} {i : ℕ}

/-- A call keeps its entry point and, once decided, its status. -/
structure Settled (p q : Phase) : Prop where
  entry : ∀ entry, p.entry = some entry → q.entry = some entry
  status : ∀ status, p.status = some status → q.status = some status

theorem Settled.refl (p : Phase) : Settled p p := ⟨fun _ h => h, fun _ h => h⟩

theorem Settled.of_undecided {p q : Phase} (hentry : p.entry = q.entry) (hstatus : p.status = none) :
    Settled p q :=
  ⟨fun _ h => hentry ▸ h, fun _ h => by simp [hstatus] at h⟩

private theorem settled_update {j : ℕ} {p q : Phase} (hj : s.calls j = p) (h : Settled p q) :
    Settled (s.calls i) (Function.update s.calls j q i) := by
  by_cases hij : i = j
  · subst hij
    rwa [Function.update_self, hj]
  · rw [Function.update_of_ne hij]
    exact .refl _

theorem Transition.settled (h : Transition s a t) (i : ℕ) : Settled (s.calls i) (t.calls i) := by
  cases h with
  | call hi => exact settled_update hi ⟨by simp [Phase.entry], by simp [Phase.status]⟩
  | lock hi _ => exact settled_update hi (.of_undecided rfl rfl)
  | startJSON hi => exact settled_update hi (.of_undecided rfl rfl)
  | netstackRefused hi _ => exact settled_update hi (.of_undecided rfl rfl)
  | netstackStarted hi _ => exact settled_update hi (.of_undecided rfl rfl)
  | netstackStop hi => exact settled_update hi (.of_undecided rfl rfl)
  | stopIdle hi _ => exact settled_update hi (.of_undecided rfl rfl)
  | stopRunning hi _ => exact settled_update hi (.of_undecided rfl rfl)
  | @detachNone _ closer hi _ =>
    exact settled_update hi (.of_undecided (by cases closer <;> rfl) rfl)
  | detachSome hi _ => exact settled_update hi (.of_undecided rfl rfl)
  | closeBegin hi _ => exact settled_update hi (.of_undecided rfl rfl)
  | @closeEnd _ closer _ _ hi _ _ =>
    exact settled_update hi (.of_undecided (by cases closer <;> rfl) rfl)
  | instanceClose hi => exact settled_update hi (.of_undecided rfl rfl)
  | unlock hi => exact settled_update hi ⟨fun _ h => h, fun _ h => h⟩
  | startWork _ _ => exact .refl _
  | finishWork _ _ => exact .refl _

theorem settled_of_run {as : List Action} {u : State} (h : run step t as = some u) (i : ℕ) :
    Settled (t.calls i) (u.calls i) := by
  apply run_invariant (P := fun v => Settled (t.calls i) (v.calls i)) _ (.refl _) h
  intro v a w hv hstep
  have hvw := (transition_of_step hstep).settled i
  exact ⟨fun e he => hvw.entry e (hv.entry e he), fun st hst => hvw.status st (hv.status st hst)⟩

/-- `FoloXrayNetstackStop` only decides on success. -/
def Phase.Harmless (p : Phase) : Prop :=
  p.entry = some .netstackStop → ∀ status, p.status = some status → status = .ok

theorem harmless_of_run {as : List Action} (h : run step initial as = some s) :
    ∀ i, (s.calls i).Harmless := by
  refine run_invariant (P := fun s => ∀ i, (s.calls i).Harmless) (fun s a t hs hstep => ?_)
    (fun _ h => nomatch h) h
  have hkeep : ∀ {j : ℕ} {q : Phase}, q.Harmless →
      ∀ i, (Function.update s.calls j q i).Harmless := by
    intro j q hq
    rw [Function.forall_update_iff s.calls (p := fun _ p => p.Harmless)]
    exact ⟨hq, fun i _ => hs i⟩
  cases transition_of_step hstep with
  | @call _ entry _ => exact hkeep (by cases entry <;> simp [Phase.Harmless, Entry.start, Phase.status])
  | lock _ _ => exact hkeep (by simp [Phase.Harmless, Phase.status])
  | startJSON _ => exact hkeep (by simp [Phase.Harmless, Phase.entry])
  | netstackRefused _ _ => exact hkeep (by simp [Phase.Harmless, Phase.entry])
  | netstackStarted _ _ => exact hkeep (by simp [Phase.Harmless, Phase.entry])
  | netstackStop _ => exact hkeep (by simp [Phase.Harmless, Phase.status])
  | stopIdle _ _ => exact hkeep (by simp [Phase.Harmless, Phase.entry])
  | stopRunning _ _ => exact hkeep (by simp [Phase.Harmless, Phase.status])
  | @detachNone _ closer _ _ =>
    exact hkeep (by cases closer <;> simp [Phase.Harmless, Closer.afterDetach, Phase.status])
  | detachSome _ _ => exact hkeep (by simp [Phase.Harmless, Phase.status])
  | closeBegin _ _ => exact hkeep (by simp [Phase.Harmless, Phase.status])
  | @closeEnd _ closer _ _ _ _ _ =>
    exact hkeep (by cases closer <;> simp [Phase.Harmless, Closer.afterDetach, Phase.status])
  | instanceClose _ => exact hkeep (by simp [Phase.Harmless, Phase.entry])
  | @unlock i _ _ hi =>
    have hharmless := hs i
    rw [hi] at hharmless
    exact hkeep hharmless
  | startWork _ _ => exact hs
  | finishWork _ _ => exact hs

/-- A step of a call leaves the observed fields alone, or decides on success, or belongs to one of
the two stopping entry points. -/
theorem Transition.own_effect (h : Transition s a t) (ha : a.caller = some i) :
    t.observed = s.observed ∨ (t.calls i).status = some .ok ∨
      ∃ closer : Closer, (t.calls i).entry = some closer.entry := by
  have hown : ∀ {q : Phase}, Function.update s.calls i q i = q := fun {q} =>
    Function.update_self i q s.calls
  cases h with
  | call _ => exact .inl rfl
  | lock _ _ => exact .inl rfl
  | @startJSON j x hj =>
    cases ha
    rcases s.engine.startJSON_cases s.instanceCount x with ⟨slot, status, -, heq⟩ | ⟨-, -, heq⟩
    · left
      rw [heq]
      rfl
    · right; left
      simp only [heq, State.setCall, hown, Phase.status]
  | @netstackRefused j configures hj hnone =>
    rcases s.engine.netstackStart_cases s.netstack configures with
      ⟨slot, status, -, heq⟩ | ⟨inst, -, -, -, heq⟩
    · left
      rw [heq]
      rfl
    · simp [heq] at hnone
  | @netstackStarted j configures runtime hj hsome =>
    cases ha
    rcases s.engine.netstackStart_cases s.netstack configures with
      ⟨slot, status, -, heq⟩ | ⟨inst, -, -, -, heq⟩
    · simp [heq] at hsome
    · right; left
      simp only [heq, State.setCall, State.setRuntime, hown, Phase.status]
  | netstackStop _ => exact .inl rfl
  | stopIdle _ _ =>
    cases ha
    exact .inr (.inr ⟨.stop, by simp only [State.setCall, hown]; rfl⟩)
  | stopRunning _ _ => exact .inl rfl
  | detachNone _ _ => exact .inl rfl
  | @detachSome j closer k hj hk =>
    cases ha
    exact .inr (.inr ⟨closer, by simp only [State.setCall, hown]; rfl⟩)
  | closeBegin _ _ => exact .inl rfl
  | closeEnd _ _ _ => exact .inl rfl
  | instanceClose _ =>
    cases ha
    exact .inr (.inr ⟨.stop, by simp only [State.setCall, hown]; rfl⟩)
  | unlock _ => exact .inl rfl
  | startWork _ _ => cases ha
  | finishWork _ _ => cases ha

/-- A call that fails, other than `FoloXrayStop`, takes no step that touches the observed fields. -/
theorem failed_call_observes {as bs : List Action} {u : State} {entry : Entry} {status : Status}
    (hrun : run step initial as = some s) (hstep : step s a = some t) (ha : a.caller = some i)
    (hbs : run step t bs = some u) (hu : u.calls i = .returned entry status)
    (hfailed : status ≠ .ok) (hstop : entry ≠ .stop) : t.observed = s.observed := by
  have hrun' : run step initial (as ++ a :: bs) = some u := by
    rw [run_append, hrun]
    exact run_cons_eq_some.mpr ⟨t, hstep, hbs⟩
  have hnetstop : entry ≠ .netstackStop := by
    rintro rfl
    exact hfailed (harmless_of_run hrun' i (by rw [hu]; rfl) status (by rw [hu]; rfl))
  have hsettled := settled_of_run hbs i
  rw [hu] at hsettled
  rcases (transition_of_step hstep).own_effect ha with hsame | hok | ⟨closer, hcloser⟩
  · exact hsame
  · exact absurd (Option.some.inj (hsettled.status _ hok)) hfailed
  · have heq := Option.some.inj (hsettled.entry _ hcloser)
    cases closer with
    | stop => exact absurd heq hstop
    | netstackStop => exact absurd heq hnetstop

/-- When `FoloXrayStop` releases the mutex the engine is idle and nothing is registered. -/
theorem stop_ends_idle {as : List Action} {status : Status} (hrun : run step initial as = some s)
    (hstep : step s (.unlock i) = some t) (ht : t.calls i = .returned .stop status) :
    t.engine.state = .idle ∧ t.engine.coreInstance = none ∧ t.netstack = none := by
  obtain ⟨l, hl, -⟩ := represents_of_run hrun
  cases transition_of_step hstep with
  | @unlock _ entry status' hi =>
    simp only [State.setCall, Function.update_self, Phase.returned.injEq] at ht
    obtain ⟨rfl, rfl⟩ := ht
    have hnone := (guarded_of_run hrun).ended i (by simp [hi, Phase.ended])
    obtain rfl := hl.idle_of_none hnone
    exact ⟨hl.2.1, hl.1, hl.2.2⟩

end Calls

/-- In every interleaving of the entry points the engine runs exactly when it has an instance, a
registered runtime belongs to that instance and routes by the configuration of its start, a call
that fails leaves the observed fields alone, and a `FoloXrayStop` ends idle and empty. -/
theorem engine_lifecycle {as : List Action} {s : State} (hrun : run step initial as = some s) :
    (s.engine.state = .running ↔ s.engine.coreInstance ≠ none) ∧
    (∀ k, s.netstack = some k → ∃ runtime, s.runtimes k = some runtime ∧
      s.engine.state = .running ∧ s.engine.coreInstance = some runtime.coreInstance ∧
      runtime.router = newRouter s.engine.routerConfig) ∧
    (∀ a t bs u i entry status, step s a = some t → a.caller = some i → run step t bs = some u →
      u.calls i = .returned entry status → status ≠ .ok → entry ≠ .stop →
      t.observed = s.observed) ∧
    ∀ i t status, step s (.unlock i) = some t → t.calls i = .returned .stop status →
      t.engine.state = .idle ∧ t.engine.coreInstance = none ∧ t.netstack = none := by
  obtain ⟨l, hl, -⟩ := represents_of_run hrun
  refine ⟨?_, ?_, ?_, ?_⟩
  · cases l with
    | idle => simp [hl.1, hl.2.1]
    | running inst cfg attached => simp [hl.1, hl.2.1]
  · intro k hk
    cases l with
    | idle => simp [hl.2.2] at hk
    | running inst cfg attached =>
      obtain ⟨hinst, hstate, hcfg, -, hruntime⟩ := hl
      obtain ⟨runtime, hr, hi, hrouter⟩ := hruntime k hk
      exact ⟨runtime, hr, hstate, by rw [hinst, hi], by rw [hrouter, hcfg]⟩
  · intro a t bs u i entry status hstep ha hbs hu hfailed hstop
    exact failed_call_observes hrun hstep ha hbs hu hfailed hstop
  · intro i t status hstep ht
    exact stop_ends_idle hrun hstep ht

/-- An engine and its network stack have started, and a second start owns the mutex. -/
def startedTwice : List Action :=
  [.call 0 .startJSON, .lock 0, .startJSON 0 ⟨some [0x7b, 0x7d], true, true, true, none, 7⟩,
    .unlock 0, .call 1 .netstackStart, .lock 1, .netstackStart 1 true, .unlock 1,
    .call 2 .startJSON, .lock 2]

def secondStart : Action := .startJSON 2 ⟨some [0x7b, 0x7d], true, true, true, none, 9⟩

theorem engine_lifecycle_startedTwice :
    ∃ s t, run step initial startedTwice = some s ∧ step s secondStart = some t ∧
      s.engine.state = .running ∧ t.observed = s.observed := by
  let s := (run step initial startedTwice).get (by decide)
  let t := (step s secondStart).get (by decide)
  have hs : run step initial startedTwice = some s := (Option.some_get _).symm
  have ht : step s secondStart = some t := (Option.some_get _).symm
  have hu : run step t [.unlock 2] = some ((run step t [.unlock 2]).get (by decide)) :=
    (Option.some_get _).symm
  obtain ⟨hstate, -, hfailed, -⟩ := engine_lifecycle hs
  exact ⟨s, t, hs, ht, hstate.mpr (by decide),
    hfailed _ _ _ _ 2 .startJSON .invalidState ht rfl hu (by decide) (by decide) (by decide)⟩

end FoloXray.Wrapper
