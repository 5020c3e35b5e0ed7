import Mathlib.Logic.Function.Basic
import Mathlib.Data.Nat.Notation

/-! # Runs of a partial step function

A system is a partial step function: an action of some party either fires in the
current state or is blocked there. A run is a literal list of actions. The rules
below turn a statement about one step into a statement about every run, with and
without a side condition that each step of the run has to meet, and with a record of
what the steps of the run have emitted.
-/

namespace FoloXray.Foundation

variable {σ α : Type*} (step : σ → α → Option σ)

/-- Fire the listed actions in order; a blocked action blocks the run. -/
def run : σ → List α → Option σ
  | s, [] => some s
  | s, a :: as => (step s a).bind fun t => run t as

/-- Every action of the list is taken in a state that meets the side condition. -/
def Meets (C : σ → α → Prop) : σ → List α → Prop
  | _, [] => True
  | s, a :: as => C s a ∧ ∀ t ∈ step s a, Meets C t as

instance decidableMeets (C : σ → α → Prop) [∀ s a, Decidable (C s a)] :
    ∀ s as, Decidable (Meets step C s as)
  | _, [] => isTrue trivial
  | s, a :: as =>
    have := fun t => decidableMeets C t as
    inferInstanceAs (Decidable (C s a ∧ ∀ t ∈ step s a, Meets step C t as))

/-- What the actions of a run emit, in order; `f` says what one action emits. -/
def emits {β : Type*} (f : σ → α → List β) : σ → List α → List β
  | _, [] => []
  | s, a :: as => f s a ++ (step s a).elim [] fun t => emits f t as

def Reaches (s t : σ) : Prop := ∃ as, run step s as = some t

@[simp] theorem run_nil (s : σ) : run step s [] = some s := rfl

variable {step}

theorem run_cons_eq_some {s u : σ} {a : α} {as : List α} :
    run step s (a :: as) = some u ↔ ∃ t, step s a = some t ∧ run step t as = some u :=
  Option.bind_eq_some_iff

theorem run_append (s : σ) (as bs : List α) :
    run step s (as ++ bs) = (run step s as).bind fun t => run step t bs := by
  induction as generalizing s with
  | nil => rfl
  | cons a as ih =>
    cases h : step s a with
    | none => simp [run, h]
    | some t => simp [run, h, ih]

theorem meets_cons {C : σ → α → Prop} {s t : σ} {a : α} {as : List α} (ha : C s a)
    (hstep : step s a = some t) (h : Meets step C t as) : Meets step C s (a :: as) := by
  refine ⟨ha, ?_⟩
  intro u hu
  rw [hstep, Option.mem_some_iff] at hu
  subst hu
  exact h

theorem Reaches.refl (s : σ) : Reaches step s s := ⟨[], rfl⟩

theorem Reaches.trans {s t u : σ} (h : Reaches step s t) (k : Reaches step t u) :
    Reaches step s u := by
  obtain ⟨as, has⟩ := h
  obtain ⟨bs, hbs⟩ := k
  exact ⟨as ++ bs, by rw [run_append, has]; exact hbs⟩

theorem Reaches.head {s t u : σ} {a : α} (h : step s a = some t) (k : Reaches step t u) :
    Reaches step s u := by
  obtain ⟨as, has⟩ := k
  exact ⟨a :: as, run_cons_eq_some.mpr ⟨t, h, has⟩⟩

theorem Reaches.single {s t : σ} {a : α} (h : step s a = some t) : Reaches step s t :=
  .head h (.refl t)

/-- An invariant of one step is an invariant of every run. -/
theorem run_invariant {P : σ → Prop}
    (hstep : ∀ s a t, P s → step s a = some t → P t)
    {s u : σ} {as : List α} (hs : P s) (hrun : run step s as = some u) : P u := by
  induction as generalizing s with
  | nil => cases hrun; exact hs
  | cons a as ih =>
    obtain ⟨t, hst, htu⟩ := run_cons_eq_some.mp hrun
    exact ih (hstep s a t hs hst) htu

/-- A property kept by every step that meets the side condition holds after every run whose
steps all meet it. -/
theorem run_invariant_of_meets {P : σ → Prop} {C : σ → α → Prop}
    (hstep : ∀ s a t, P s → C s a → step s a = some t → P t)
    {s u : σ} {as : List α} (hs : P s) (hmeets : Meets step C s as)
    (hrun : run step s as = some u) : P u := by
  induction as generalizing s with
  | nil => cases hrun; exact hs
  | cons a as ih =>
    obtain ⟨t, hst, htu⟩ := run_cons_eq_some.mp hrun
    exact ih (hstep s a t hs hmeets.1 hst) (hmeets.2 t hst) htu

theorem meets_of_forall {C : σ → α → Prop} {as : List α} (h : ∀ a ∈ as, ∀ s, C s a) (s : σ) :
    Meets step C s as := by
  induction as generalizing s with
  | nil => trivial
  | cons a as ih =>
    constructor
    · exact h a List.mem_cons_self s
    · exact fun t _ => ih (fun b hb => h b (List.mem_cons_of_mem a hb)) t

theorem Meets.imp {C D : σ → α → Prop} {s : σ} {as : List α} (h : Meets step C s as)
    (hCD : ∀ s a, C s a → D s a) : Meets step D s as := by
  induction as generalizing s with
  | nil => trivial
  | cons a as ih =>
    constructor
    · exact hCD s a h.1
    · exact fun t ht => ih (h.2 t ht)

theorem Meets.and {C D : σ → α → Prop} {s : σ} {as : List α} (hC : Meets step C s as)
    (hD : Meets step D s as) : Meets step (fun s a => C s a ∧ D s a) s as := by
  induction as generalizing s with
  | nil => trivial
  | cons a as ih =>
    constructor
    · exact ⟨hC.1, hD.1⟩
    · exact fun t ht => ih (hC.2 t ht) (hD.2 t ht)

/-- If a flag is raised by some steps, and never lowered, it is down behind a run exactly if the run has
no such step. -/
theorem meets_not_iff {P : σ → Prop} {B : σ → α → Prop}
    (hstep : ∀ s a t, step s a = some t → (P t ↔ P s ∨ B s a))
    {s u : σ} {as : List α} (hs : ¬ P s) (hrun : run step s as = some u) :
    Meets step (fun s a => ¬ B s a) s as ↔ ¬ P u := by
  constructor
  · intro hmeets
    refine run_invariant_of_meets (P := fun s => ¬ P s) ?_ hs hmeets hrun
    intro s a t hs ha hst
    rw [hstep s a t hst, not_or]
    exact ⟨hs, ha⟩
  · intro hu
    induction as generalizing s with
    | nil => trivial
    | cons a as ih =>
      obtain ⟨t, hst, htu⟩ := run_cons_eq_some.mp hrun
      -- a flag that is up behind the first step is up at the end
      have ht : ¬ P t := fun ht =>
        hu (run_invariant (fun s a t h hst => (hstep s a t hst).mpr (.inl h)) ht htu)
      have ha : ¬ B s a := fun ha => ht ((hstep s a t hst).mpr (.inr ha))
      exact meets_cons ha hst (ih ht htu)

/-- If in every state with the invariant every action of a kind uses up work, a run of such actions is no
longer than the work there is. -/
theorem length_add_work_le_of_invariant {P : σ → Prop} {own : α → Prop} {work : σ → ℕ}
    (hP : ∀ s a t, P s → step s a = some t → P t)
    (hstep : ∀ s a t, P s → own a → step s a = some t → work t < work s)
    {s u : σ} {as : List α} (hs : P s) (has : ∀ a ∈ as, own a) (hrun : run step s as = some u) :
    as.length + work u ≤ work s := by
  induction as generalizing s with
  | nil =>
    cases hrun
    exact Nat.le_of_eq (Nat.zero_add _)
  | cons a as ih =>
    obtain ⟨t, hst, htu⟩ := run_cons_eq_some.mp hrun
    have hless := hstep s a t hs (has a List.mem_cons_self) hst
    have hrest := ih (hP s a t hs hst) (fun b hb => has b (List.mem_cons_of_mem a hb)) htu
    rw [List.length_cons]
    omega

/-- If every action of a kind uses up work, a run of such actions is no longer than the work there is. -/
theorem length_add_work_le {own : α → Prop} {work : σ → ℕ}
    (hstep : ∀ s a t, own a → step s a = some t → work t < work s)
    {s u : σ} {as : List α} (has : ∀ a ∈ as, own a) (hrun : run step s as = some u) :
    as.length + work u ≤ work s :=
  length_add_work_le_of_invariant (P := fun _ => True) (fun _ _ _ _ _ => trivial)
    (fun s a t _ => hstep s a t) trivial has hrun

/-- Then some run of such actions comes to a state that allows no more of them. -/
theorem exists_run_to_rest {P : σ → Prop} {own : α → Prop} {work : σ → ℕ}
    (hP : ∀ s a t, P s → step s a = some t → P t)
    (hstep : ∀ s a t, P s → own a → step s a = some t → work t < work s) {s : σ} (hs : P s) :
    ∃ as u, (∀ a ∈ as, own a) ∧ run step s as = some u ∧ ∀ a, own a → step u a = none := by
  induction hn : work s using Nat.strongRecOn generalizing s with
  | ind n ih =>
    by_cases hmore : ∃ a t, own a ∧ step s a = some t
    · obtain ⟨a, t, ha, hst⟩ := hmore
      obtain ⟨as, u, has, hrun, hrest⟩ := ih (work t) (hn ▸ hstep s a t hs ha hst) (hP s a t hs hst) rfl
      refine ⟨a :: as, u, ?_, run_cons_eq_some.mpr ⟨t, hst, hrun⟩, hrest⟩
      simpa using ⟨ha, has⟩
    · refine ⟨[], s, by simp, rfl, ?_⟩
      intro a ha
      refine Option.eq_none_iff_forall_ne_some.mpr ?_
      intro t hst
      exact hmore ⟨a, t, ha, hst⟩

/-- A relation between the state and the record, kept by every step that meets the side condition,
holds after every run whose steps all meet it. -/
theorem emits_invariant_of_meets {β : Type*} {f : σ → α → List β} {P : σ → List β → Prop}
    {C : σ → α → Prop}
    (hstep : ∀ s l a t, P s l → C s a → step s a = some t → P t (l ++ f s a))
    {s u : σ} {l : List β} {as : List α} (hs : P s l) (hmeets : Meets step C s as)
    (hrun : run step s as = some u) : P u (l ++ emits step f s as) := by
  induction as generalizing s l with
  | nil =>
    cases hrun
    simpa [emits] using hs
  | cons a as ih =>
    rcases run_cons_eq_some.mp hrun with ⟨t, hst, htu⟩
    have ht := ih (hstep s l a t hs hmeets.1 hst) (hmeets.2 t hst) htu
    simpa [emits, hst] using ht

/-- Steps that meet the side condition emit nothing, so a run of such steps does not. -/
theorem emits_eq_nil_of_meets {β : Type*} {f : σ → α → List β} {C : σ → α → Prop}
    (hf : ∀ s a, C s a → f s a = []) {s : σ} {as : List α} (hmeets : Meets step C s as) :
    emits step f s as = [] := by
  induction as generalizing s with
  | nil => rfl
  | cons a as ih =>
    rw [emits, hf s a hmeets.1, List.nil_append]
    cases hst : step s a with
    | none => rfl
    | some t => exact ih (hmeets.2 t hst)

theorem emits_invariant {β : Type*} {f : σ → α → List β} {P : σ → List β → Prop}
    (hstep : ∀ s l a t, P s l → step s a = some t → P t (l ++ f s a))
    {s u : σ} {l : List β} {as : List α} (hs : P s l) (hrun : run step s as = some u) :
    P u (l ++ emits step f s as) :=
  emits_invariant_of_meets (C := fun _ _ => True) (fun s l a t h _ => hstep s l a t h) hs
    (meets_of_forall (fun _ _ _ => trivial) s) hrun

section Short

variable {β : Type*} {f : σ → α → List β} {P : σ → List β → Prop} {n : ℕ}

/-- A relation that the steps keep while the record is short holds after a run with a short record. -/
theorem emits_invariant_of_short
    (hstep : ∀ s l a t, P s l → (l ++ f s a).length < n → step s a = some t → P t (l ++ f s a))
    {s u : σ} {l : List β} {as : List α} (hs : P s l) (hrun : run step s as = some u)
    (hshort : (l ++ emits step f s as).length < n) : P u (l ++ emits step f s as) := by
  refine emits_invariant (P := fun s l => l.length < n → P s l) ?_ (fun _ => hs) hrun hshort
  intro s l a t h hst hlen
  refine hstep s l a t (h ?_) hlen hst
  rw [List.length_append] at hlen
  omega

theorem meets_of_short
    (hstep : ∀ s l a t, P s l → (l ++ f s a).length < n → step s a = some t → P t (l ++ f s a))
    {s : σ} {l : List β} {as : List α} (hs : P s l)
    (hshort : (l ++ emits step f s as).length < n) :
    Meets step (fun s _ => ∃ l, P s l) s as := by
  induction as generalizing s l with
  | nil => trivial
  | cons a as ih =>
    constructor
    · exact ⟨l, hs⟩
    · intro t hst
      rw [Option.mem_def] at hst
      rw [emits, hst, Option.elim_some, ← List.append_assoc] at hshort
      apply ih (hstep s l a t hs _ hst) hshort
      rw [List.length_append] at hshort
      omega

end Short

end FoloXray.Foundation
