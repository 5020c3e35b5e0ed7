import Mathlib.Logic.Function.Basic

/-! # Custody of resources

Resources that are each kept by exactly one of several keepers for as long as they live, under the
three changes of custody: a keeper takes a new resource, hands one over, or ends one.
-/

namespace FoloXray.Foundation

variable {κ ρ : Type*} {live live' : ρ → Prop} {keeps : κ → Option ρ}

/-- The live resources are the kept ones, and no resource has two keepers. -/
structure Custody (live : ρ → Prop) (keeps : κ → Option ρ) : Prop where
  kept : ∀ r, live r ↔ ∃ k, keeps k = some r
  unique : ∀ k k' r, keeps k = some r → keeps k' = some r → k = k'

theorem Custody.congr (h : Custody live keeps) (hlive : ∀ r, live' r ↔ live r) :
    Custody live' keeps :=
  ⟨fun r => (hlive r).trans (h.kept r), h.unique⟩

variable [DecidableEq κ]

theorem Custody.acquire (h : Custody live keeps) {k : κ} {r : ρ} (hk : keeps k = none)
    (hr : ¬ live r) (hlive : ∀ r', live' r' ↔ live r' ∨ r' = r) :
    Custody live' (Function.update keeps k (some r)) := by
  have hother : ∀ j r', j ≠ k → Function.update keeps k (some r) j = some r' →
      keeps j = some r' ∧ r' ≠ r := by
    intro j r' hjk hj
    rw [Function.update_of_ne hjk] at hj
    refine ⟨hj, ?_⟩
    rintro rfl
    exact hr ((h.kept r').mpr ⟨j, hj⟩)
  have hself : Function.update keeps k (some r) k = some r := Function.update_self ..
  constructor
  · intro r'
    rw [hlive, h.kept]
    constructor
    · rintro (⟨j, hj⟩ | rfl)
      · have hjk : j ≠ k := by
          rintro rfl
          rw [hk] at hj
          cases hj
        exact ⟨j, by rwa [Function.update_of_ne hjk]⟩
      · exact ⟨k, hself⟩
    · rintro ⟨j, hj⟩
      by_cases hjk : j = k
      · subst hjk
        rw [hself] at hj
        exact .inr (Option.some.inj hj).symm
      · exact .inl ⟨j, (hother j r' hjk hj).1⟩
  · intro j j' r' hj hj'
    by_cases hjk : j = k <;> by_cases hjk' : j' = k
    · rw [hjk, hjk']
    · subst hjk
      rw [hself] at hj
      cases hj
      exact absurd rfl (hother j' r hjk' hj').2
    · subst hjk'
      rw [hself] at hj'
      cases hj'
      exact absurd rfl (hother j r hjk hj).2
    · exact h.unique j j' r' (hother j r' hjk hj).1 (hother j' r' hjk' hj').1

theorem Custody.release (h : Custody live keeps) {k : κ} {r : ρ} (hk : keeps k = some r)
    (hlive : ∀ r', live' r' ↔ live r' ∧ r' ≠ r) : Custody live' (Function.update keeps k none) := by
  have hold : ∀ j r', Function.update keeps k none j = some r' → j ≠ k ∧ keeps j = some r' := by
    intro j r' hj
    by_cases hjk : j = k
    · subst hjk
      rw [Function.update_self] at hj
      cases hj
    · rw [Function.update_of_ne hjk] at hj
      exact ⟨hjk, hj⟩
  constructor
  · intro r'
    rw [hlive, h.kept]
    constructor
    · rintro ⟨⟨j, hj⟩, hne⟩
      have hjk : j ≠ k := by
        rintro rfl
        rw [hk] at hj
        exact hne (Option.some.inj hj).symm
      exact ⟨j, by rwa [Function.update_of_ne hjk]⟩
    · rintro ⟨j, hj⟩
      obtain ⟨hjk, hj⟩ := hold j r' hj
      refine ⟨⟨j, hj⟩, ?_⟩
      rintro rfl
      exact hjk (h.unique j k r' hj hk)
  · intro j j' r' hj hj'
    exact h.unique j j' r' (hold j r' hj).2 (hold j' r' hj').2

/-- A keeper hands its resource over to one with empty hands. -/
theorem Custody.transfer (h : Custody live keeps) {k k' : κ} {r : ρ} (hk : keeps k = some r)
    (hk' : keeps k' = none) :
    Custody live (Function.update (Function.update keeps k none) k' (some r)) := by
  have hlive : live r := (h.kept r).mpr ⟨k, hk⟩
  have hne : k' ≠ k := by
    rintro rfl
    rw [hk] at hk'
    cases hk'
  have hreleased : Custody (fun r' => live r' ∧ r' ≠ r) (Function.update keeps k none) :=
    h.release hk fun _ => Iff.rfl
  apply hreleased.acquire
  · rwa [Function.update_of_ne hne]
  · simp
  · intro r'
    by_cases hr : r' = r
    · subst hr
      simp [hlive]
    · simp [hr]

end FoloXray.Foundation
