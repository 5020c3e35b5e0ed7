import FoloXray.Foundation.Runs
import Mathlib.Logic.Relation

/-! # Simulation of a step function by an abstract transition relation

Related states stay related: every concrete step is matched by some abstract transitions, possibly
none.  Then every run is matched as a whole.
-/

namespace FoloXray.Foundation

variable {σ α τ : Type*} {step : σ → α → Option σ} {R : σ → τ → Prop} {next : τ → τ → Prop}

/-- Each step of the concrete system is matched by abstract transitions from the related state. -/
def Simulates (step : σ → α → Option σ) (R : σ → τ → Prop) (next : τ → τ → Prop) : Prop :=
  ∀ s a t x, R s x → step s a = some t → ∃ y, R t y ∧ Relation.ReflTransGen next x y

theorem Simulates.run (h : Simulates step R next) {s u : σ} {x : τ} {as : List α} (hs : R s x)
    (hrun : Foundation.run step s as = some u) : ∃ y, R u y ∧ Relation.ReflTransGen next x y := by
  induction as generalizing s x with
  | nil =>
    cases hrun
    exact ⟨x, hs, .refl⟩
  | cons a as ih =>
    obtain ⟨t, hst, htu⟩ := run_cons_eq_some.mp hrun
    obtain ⟨y, hy, hxy⟩ := h s a t x hs hst
    obtain ⟨z, hz, hyz⟩ := ih hy htu
    exact ⟨z, hz, hxy.trans hyz⟩

/-- Transitions that are steps of a step function make up a run of it. -/
theorem reaches_of_transitions {x y : σ}
    (h : Relation.ReflTransGen (fun s t => ∃ a, step s a = some t) x y) : Reaches step x y := by
  induction h with
  | refl => exact .refl x
  | tail _ hstep ih =>
    rcases hstep with ⟨a, ha⟩
    exact ih.trans (.single ha)

theorem Reaches.transitions {x y : σ} (h : Reaches step x y) :
    Relation.ReflTransGen (fun s t => ∃ a, step s a = some t) x y := by
  rcases h with ⟨as, has⟩
  induction as generalizing x with
  | nil =>
    cases has
    exact .refl
  | cons a as ih =>
    rcases run_cons_eq_some.mp has with ⟨z, hxz, hzy⟩
    exact .head ⟨a, hxz⟩ (ih hzy)

end FoloXray.Foundation
