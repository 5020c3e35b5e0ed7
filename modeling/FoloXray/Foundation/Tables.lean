import Mathlib.Data.List.Basic
import Mathlib.Logic.Function.Basic

/-! # Tables filled by assignment and searched in order

A partial function filled by a list of assignments, later ones replacing earlier ones, and the
first value found along a list of keys.
-/

namespace FoloXray.Foundation

variable {κ ν : Type*}

section Assign

variable [DecidableEq κ]

def assignAll (m : κ → Option ν) (entries : List (κ × ν)) : κ → Option ν :=
  entries.foldl (fun m e => Function.update m e.1 (some e.2)) m

@[simp] theorem assignAll_nil (m : κ → Option ν) : assignAll m [] = m := rfl

@[simp] theorem assignAll_cons (m : κ → Option ν) (e : κ × ν) (entries : List (κ × ν)) :
    assignAll m (e :: entries) = assignAll (Function.update m e.1 (some e.2)) entries := rfl

theorem assignAll_append (m : κ → Option ν) (xs ys : List (κ × ν)) :
    assignAll m (xs ++ ys) = assignAll (assignAll m xs) ys := by
  simp [assignAll]

theorem assignAll_of_notMem (m : κ → Option ν) {entries : List (κ × ν)} {k : κ}
    (h : ∀ v, (k, v) ∉ entries) : assignAll m entries k = m k := by
  induction entries generalizing m with
  | nil => rfl
  | cons e entries ih =>
    have hne : k ≠ e.1 := by
      intro heq
      apply h e.2
      simp [heq]
    rw [assignAll_cons, ih _ fun v hv => h v (List.mem_cons_of_mem _ hv)]
    exact Function.update_of_ne hne _ _

/-- A key all of whose assignments agree holds the assigned value. -/
theorem assignAll_of_mem (m : κ → Option ν) {entries : List (κ × ν)} {k : κ} {v : ν}
    (hmem : (k, v) ∈ entries) (hagree : ∀ v', (k, v') ∈ entries → v' = v) :
    assignAll m entries k = some v := by
  induction entries generalizing m with
  | nil => simp at hmem
  | cons e entries ih =>
    rw [assignAll_cons]
    have htail : ∀ v', (k, v') ∈ entries → v' = v :=
      fun v' hv => hagree v' (List.mem_cons_of_mem _ hv)
    by_cases hlater : (k, v) ∈ entries
    · exact ih _ hlater htail
    · have hkey : e = (k, v) := ((List.mem_cons.mp hmem).resolve_right hlater).symm
      have hnone : ∀ v', (k, v') ∉ entries := by
        intro v' hv
        apply hlater
        rwa [htail v' hv] at hv
      rw [assignAll_of_notMem _ hnone, hkey]
      simp

def LastEntry (entries : List (κ × ν)) (k : κ) (v : ν) : Prop :=
  ∃ before after, entries = before ++ (k, v) :: after ∧ ∀ e ∈ after, e.1 ≠ k

theorem assignAll_of_ne (m : κ → Option ν) {entries : List (κ × ν)} {k : κ}
    (h : ∀ e ∈ entries, e.1 ≠ k) : assignAll m entries k = m k :=
  assignAll_of_notMem m fun v hv => h (k, v) hv rfl

theorem LastEntry.assignAll_eq (m : κ → Option ν) {entries : List (κ × ν)} {k : κ} {v : ν}
    (h : LastEntry entries k v) : assignAll m entries k = some v := by
  obtain ⟨before, after, rfl, hafter⟩ := h
  rw [assignAll_append, assignAll_cons, assignAll_of_ne _ hafter, Function.update_self]

/-- Every key either has a last entry or none at all. -/
theorem lastEntry_or (entries : List (κ × ν)) (k : κ) :
    (∃ v, LastEntry entries k v) ∨ ∀ e ∈ entries, e.1 ≠ k := by
  induction entries with
  | nil => exact .inr (by simp)
  | cons e entries ih =>
    rcases ih with ⟨v, before, after, rfl, hafter⟩ | hnone
    · exact .inl ⟨v, e :: before, after, rfl, hafter⟩
    · by_cases hkey : e.1 = k
      · subst hkey
        exact .inl ⟨e.2, [], entries, rfl, hnone⟩
      · right
        simpa [hkey] using hnone

theorem assignAll_eq_some_iff {entries : List (κ × ν)} {k : κ} {v : ν} :
    assignAll (fun _ => none) entries k = some v ↔ LastEntry entries k v := by
  refine ⟨?_, LastEntry.assignAll_eq _⟩
  intro h
  rcases lastEntry_or entries k with ⟨v', hlast⟩ | hnone
  · rw [hlast.assignAll_eq, Option.some.injEq] at h
    exact h ▸ hlast
  · rw [assignAll_of_ne _ hnone] at h
    cases h

theorem assignAll_eq_none_iff {entries : List (κ × ν)} {k : κ} :
    assignAll (fun _ => none) entries k = none ↔ ∀ e ∈ entries, e.1 ≠ k := by
  refine ⟨?_, assignAll_of_ne _⟩
  intro h
  rcases lastEntry_or entries k with ⟨v, hlast⟩ | hnone
  · rw [hlast.assignAll_eq] at h
    cases h
  · exact hnone

/-- Entries that all carry one value are told apart only by their keys. -/
theorem assignAll_of_const (m : κ → Option ν) {entries : List (κ × ν)} {v : ν}
    (h : ∀ e ∈ entries, e.2 = v) (k : κ) :
    assignAll m entries k = if ∃ e ∈ entries, e.1 = k then some v else m k := by
  split
  · rename_i hmem
    obtain ⟨e, he, rfl⟩ := hmem
    apply assignAll_of_mem
    · rw [← h e he]
      exact he
    · intro v' hv'
      exact h _ hv'
  · rename_i hnone
    apply assignAll_of_ne
    intro e he hkey
    exact hnone ⟨e, he, hkey⟩

end Assign

/-- The first key with a value, along a list that is ordered by `before`. -/
theorem findSome?_of_first {before : κ → κ → Prop} {f : κ → Option ν} {l : List κ} {k : κ} {v : ν}
    (hsorted : l.Pairwise before) (hmem : k ∈ l) (hvalue : f k = some v)
    (hfirst : ∀ k' ∈ l, before k' k → f k' = none) : l.findSome? f = some v := by
  induction l with
  | nil => simp at hmem
  | cons x l ih =>
    rw [List.pairwise_cons] at hsorted
    rcases List.mem_cons.mp hmem with heq | htail
    · rw [List.findSome?_cons, ← heq, hvalue]
    · rw [List.findSome?_cons, hfirst x List.mem_cons_self (hsorted.1 k htail)]
      exact ih hsorted.2 htail fun k' hk' => hfirst k' (List.mem_cons_of_mem _ hk')

end FoloXray.Foundation
