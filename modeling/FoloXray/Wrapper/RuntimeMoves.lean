import FoloXray.Foundation.Refinement
import FoloXray.Netstack.RuntimeSteps
import FoloXray.Wrapper.Teardown

/-! # Runtimes of the engine model and the runtime in detail

The engine model keeps of a runtime only whether it refuses work, how many flows it runs and whether
its `close` has returned.  Four moves change these, the engine's steps make no others, and every
step of the runtime in detail is one of them or none.
-/

namespace FoloXray.Wrapper
open Foundation Routing

inductive Runtime.Move (r : Runtime) : Runtime → Prop
  | closeBegin : Move r { r with closed := true }
  | closeEnd (h : r.work = 0) : Move r { r with finished := true }
  | startWork (h : r.closed = false) : Move r { r with work := r.work + 1 }
  | finishWork (h : r.work ≠ 0) : Move r { r with work := r.work - 1 }

section Engine

variable {s t : State} {a : Action} {k j : ℕ} {r x x' : Runtime}

theorem setRuntime_move (hk : s.runtimes k = some r) (hj : s.runtimes j = some x)
    (hmove : x.Move x') :
    ∃ r', (s.setRuntime j x').runtimes k = some r' ∧ Relation.ReflTransGen Runtime.Move r r' := by
  by_cases hkj : k = j
  · subst hkj
    cases hk.symm.trans hj
    exact ⟨x', Function.update_self .., .single hmove⟩
  · exact ⟨r, (Function.update_of_ne hkj ..).trans hk, .refl⟩

theorem Transition.runtime_moves (hs : Accounted s) (h : Transition s a t)
    (hk : s.runtimes k = some r) :
    ∃ r', t.runtimes k = some r' ∧ Relation.ReflTransGen Runtime.Move r r' := by
  cases h with
  | netstackStarted hi hsome =>
    have hne : k ≠ s.runtimeCount := (hs.created k r hk).ne
    exact ⟨r, (Function.update_of_ne hne ..).trans hk, .refl⟩
  | closeBegin hi hj => exact setRuntime_move hk hj .closeBegin
  | closeEnd hi hj hwork => exact setRuntime_move hk hj (.closeEnd hwork)
  | startWork hj hopen => exact setRuntime_move hk hj (.startWork hopen)
  | finishWork hj hwork => exact setRuntime_move hk hj (.finishWork hwork)
  | _ => exact ⟨r, hk, .refl⟩

theorem runtime_moves_of_run {as : List Action} (hs : Accounted s) (hrun : run step s as = some t)
    (hk : s.runtimes k = some r) :
    ∃ r', t.runtimes k = some r' ∧ Relation.ReflTransGen Runtime.Move r r' := by
  induction as generalizing s r with
  | nil =>
    cases hrun
    exact ⟨r, hk, .refl⟩
  | cons a as ih =>
    obtain ⟨u, hsu, hut⟩ := run_cons_eq_some.mp hrun
    have htransition := transition_of_step hsu
    obtain ⟨r₁, hr₁, hmoves₁⟩ := htransition.runtime_moves hs hk
    obtain ⟨r₂, hr₂, hmoves₂⟩ := ih (hs.step htransition) hut hr₁
    exact ⟨r₂, hr₂, hmoves₁.trans hmoves₂⟩

end Engine

section Detail

variable (inst : ℕ) (router : Router)

def viewRuntime (s : Netstack.State) : Runtime :=
  ⟨inst, router, s.closed, s.work, decide (s.closer = .finished)⟩

variable {inst router} {s t : Netstack.State} {a : Netstack.Action}

theorem viewRuntime_congr (hclosed : t.closed = s.closed) (hwork : t.work = s.work)
    (hcloser : t.closer = .finished ↔ s.closer = .finished) :
    viewRuntime inst router t = viewRuntime inst router s := by
  simp [viewRuntime, hclosed, hwork, hcloser]

theorem viewRuntime_moves {l : List Netstack.Event} (h : Netstack.Transition s a t l) :
    viewRuntime inst router t = viewRuntime inst router s ∨
      (viewRuntime inst router s).Move (viewRuntime inst router t) := by
  cases h with
  | udpToken hi =>
    rcases Netstack.tryToken_cases s _ .udp (.injectReleasing none) with ⟨-, heq⟩ | ⟨-, heq⟩
    · rw [heq]; exact .inl rfl
    · rw [heq]; exact .inl rfl
  | tcpToken hi =>
    rcases Netstack.tryToken_cases s _ .tcp .tcpReturned with ⟨-, heq⟩ | ⟨-, heq⟩
    · rw [heq]; exact .inl rfl
    · rw [heq]; exact .inl rfl
  | giveUp hi ht =>
    obtain ⟨-, rfl⟩ := Netstack.dropToken_some ht
    exact .inl rfl
  | workBody hi ht =>
    rcases Netstack.startWork_some ht with ⟨-, -, rfl⟩ | ⟨hopen, rfl⟩
    · exact .inl rfl
    · exact .inr (.startWork hopen)
  | readBody hi hread =>
    have hcontrol := Netstack.readPacket_control hread
    exact .inl (viewRuntime_congr hcontrol.closed hcontrol.work
      (iff_of_eq (congrArg (· = Netstack.ClosePhase.finished) hcontrol.closer)))
  | flowToken hi ht =>
    obtain ⟨-, rfl⟩ := Netstack.dropToken_some ht
    exact .inl rfl
  | flowDone hi hwork => exact .inr (.finishWork hwork)
  | closeCall hcloser hm => exact .inl (viewRuntime_congr rfl rfl (by simp [hcloser]))
  | closeLock hcloser hm => exact .inl (viewRuntime_congr rfl rfl (by simp [hcloser]))
  | closeSet hcloser =>
    have hview : viewRuntime inst router
        { s with closed := true, lifeMu := s.lifeMu.unlock, closer := .cancelling } =
        { viewRuntime inst router s with closed := true } := by
      simp [viewRuntime, hcloser]
    rw [hview]
    exact .inr .closeBegin
  | closeReadMu hcloser hfree => exact .inl (viewRuntime_congr rfl rfl (by simp [hcloser]))
  | closeClear hcloser hclear =>
    have hcontrol := Netstack.clearPending_control hclear
    exact .inl (viewRuntime_congr hcontrol.closed hcontrol.work (by simp [hcloser]))
  | closeLink hcloser hclose =>
    have hcontrol := Netstack.closeLink_control hclose
    exact .inl (viewRuntime_congr hcontrol.closed hcontrol.work (by simp [hcloser]))
  | closeWait hcloser hwork => exact .inr (.closeEnd hwork)
  | _ => exact .inl rfl

/-- The runtime in detail is simulated by the moves of the engine model. -/
theorem netstack_simulates :
    Simulates Netstack.step (fun s r => r = viewRuntime inst router s) Runtime.Move := by
  rintro s a t r rfl hst
  refine ⟨_, rfl, ?_⟩
  rcases viewRuntime_moves (Netstack.transition_of_step hst) with heq | hmove
  · rw [heq]
  · exact .single hmove

/-- Every run of the runtime in detail, seen from the engine model, makes only the moves that the
engine model allows from a new runtime. -/
theorem netstack_run_moves {as : List Netstack.Action}
    (hrun : run Netstack.step Netstack.initial as = some s) :
    Relation.ReflTransGen Runtime.Move ⟨inst, router, false, 0, false⟩
      (viewRuntime inst router s) := by
  obtain ⟨r, rfl, hmoves⟩ := netstack_simulates.run rfl hrun
  exact hmoves

end Detail

end FoloXray.Wrapper
