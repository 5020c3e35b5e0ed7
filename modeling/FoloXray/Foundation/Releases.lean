import Mathlib.Logic.Function.Basic
import Mathlib.Data.List.Nodup
import Mathlib.Data.Nat.Notation

/-! # Uses and releases of counted resources

A resource is created with one reference, used while it is held, and released by dropping the
reference. The books connect the log of these events with the resources still held and with their
reference counts.
-/

namespace FoloXray.Foundation

inductive Handling (ρ : Type*) where
  | use (r : ρ)
  | release (r : ρ)
  deriving DecidableEq, Repr

variable {ρ : Type*}

def Handling.resource : Handling ρ → ρ
  | .use r => r
  | .release r => r

def Disciplined (log : List (Handling ρ)) : Prop :=
  log.Pairwise fun e f => ∀ r, e = .release r → f.resource ≠ r

theorem disciplined_concat {log : List (Handling ρ)} {e : Handling ρ} (h : Disciplined log)
    (he : .release e.resource ∉ log) : Disciplined (log ++ [e]) := by
  apply List.pairwise_append.mpr
  refine ⟨h, List.pairwise_singleton _ e, ?_⟩
  intro f hf g hg r hr hres
  rw [List.mem_singleton.mp hg] at hres
  subst hr hres
  exact he hf

variable [DecidableEq ρ] {held : List ρ} {known known' : ρ → Prop} {refs : ρ → ℕ}
  {log : List (Handling ρ)} {r : ρ}

/-- The held resources are distinct and unreleased, and every known resource has one reference
until its release and none afterwards. -/
structure Books (held : List ρ) (known : ρ → Prop) (refs : ρ → ℕ) (log : List (Handling ρ)) :
    Prop where
  disciplined : Disciplined log
  distinct : held.Nodup
  known_of_held : ∀ r ∈ held, known r
  known_of_release : ∀ r, .release r ∈ log → known r
  unreleased : ∀ r ∈ held, .release r ∉ log
  counts : ∀ r, known r → refs r = if .release r ∈ log then 0 else 1

theorem Books.use (h : Books held known refs log) (hr : r ∈ held) :
    Books held known refs (log ++ [.use r]) := by
  have hmem : ∀ r', .release r' ∈ log ++ [.use r] ↔ .release r' ∈ log := by simp
  constructor
  · exact disciplined_concat h.disciplined (h.unreleased r hr)
  · exact h.distinct
  · exact h.known_of_held
  · intro r' hr'
    exact h.known_of_release r' ((hmem r').mp hr')
  · intro r' hr' hrel
    exact h.unreleased r' hr' ((hmem r').mp hrel)
  · intro r' hr'
    rw [h.counts r' hr']
    simp only [hmem]

theorem Books.release (h : Books (r :: held) known refs log) :
    Books held known (Function.update refs r (refs r - 1)) (log ++ [.release r]) := by
  have hmem : ∀ r', .release r' ∈ log ++ [.release r] ↔ .release r' ∈ log ∨ r' = r := by simp
  have hself := h.unreleased r List.mem_cons_self
  have hknown := h.known_of_held r List.mem_cons_self
  rcases List.nodup_cons.mp h.distinct with ⟨hnot, hnodup⟩
  constructor
  · exact disciplined_concat h.disciplined hself
  · exact hnodup
  · intro r' hr'
    exact h.known_of_held r' (List.mem_cons_of_mem r hr')
  · intro r' hr'
    rcases (hmem r').mp hr' with hr' | rfl
    · exact h.known_of_release r' hr'
    · exact hknown
  · intro r' hr' hrel
    rcases (hmem r').mp hrel with hrel | rfl
    · exact h.unreleased r' (List.mem_cons_of_mem r hr') hrel
    · exact hnot hr'
  · intro r' hr'
    have hcount := h.counts r' hr'
    by_cases heq : r' = r
    · subst heq
      rw [if_neg hself] at hcount
      simp [hcount]
    · rw [Function.update_of_ne heq, hcount]
      simp only [hmem, heq, or_false]

theorem Books.releaseAll {rs : List ρ} (h : Books (rs ++ held) known refs log) :
    Books held known (rs.foldl (fun refs r => Function.update refs r (refs r - 1)) refs)
      (log ++ rs.map .release) := by
  induction rs generalizing refs log with
  | nil => simpa using h
  | cons r rs ih =>
    have hrest := ih h.release
    simpa using hrest

theorem Books.create (h : Books held known refs log) (hr : ¬ known r)
    (hknown : ∀ r', known' r' ↔ known r' ∨ r' = r) :
    Books (held ++ [r]) known' (Function.update refs r 1) log := by
  have hnot : r ∉ held := fun hmem => hr (h.known_of_held r hmem)
  have hunreleased : .release r ∉ log := fun hmem => hr (h.known_of_release r hmem)
  constructor
  · exact h.disciplined
  · simpa [List.nodup_append, h.distinct] using fun r' hr' => ne_of_mem_of_not_mem hr' hnot
  · intro r' hr'
    rcases List.mem_append.mp hr' with hr' | hr'
    · exact (hknown r').mpr (.inl (h.known_of_held r' hr'))
    · exact (hknown r').mpr (.inr (List.mem_singleton.mp hr'))
  · intro r' hr'
    exact (hknown r').mpr (.inl (h.known_of_release r' hr'))
  · intro r' hr'
    rcases List.mem_append.mp hr' with hr' | hr'
    · exact h.unreleased r' hr'
    · rwa [List.mem_singleton.mp hr']
  · intro r' hr'
    by_cases heq : r' = r
    · subst heq
      rw [Function.update_self, if_neg hunreleased]
    · rw [Function.update_of_ne heq]
      exact h.counts r' (((hknown r').mp hr').resolve_right heq)

end FoloXray.Foundation
