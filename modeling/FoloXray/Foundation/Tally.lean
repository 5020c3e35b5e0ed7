import Mathlib.Data.Set.Card

/-! # Counting holders

A counter that goes up when a party takes a grant and down when the party gives it back.  The tally
connects the counter with the parties that hold a grant and with the log of takes and returns, in
which every party takes at most once and gives back at most once.
-/

namespace FoloXray.Foundation

inductive Grant (ι : Type*) where
  | take (i : ι)
  | give (i : ι)
  deriving DecidableEq, Repr

variable {ι : Type*} {n : ℕ} {holds holds' : ι → Prop} {log : List (Grant ι)} {i : ι}

/-- The counter is the number of holders, and the holders are those who took and did not give
back. -/
structure Tally (n : ℕ) (holds : ι → Prop) (log : List (Grant ι)) : Prop where
  nodup : log.Nodup
  take_of_give : ∀ i, .give i ∈ log → .take i ∈ log
  holds_iff : ∀ i, holds i ↔ .take i ∈ log ∧ .give i ∉ log
  finite : {i | holds i}.Finite
  card : n = {i | holds i}.ncard

theorem Tally.empty (h : ∀ i, ¬ holds i) : Tally 0 holds [] := by
  have hempty : {i | holds i} = ∅ := Set.eq_empty_iff_forall_notMem.mpr h
  constructor
  · exact List.nodup_nil
  · simp
  · intro i
    simp [h i]
  · rw [hempty]
    exact Set.finite_empty
  · rw [hempty, Set.ncard_empty]

theorem Tally.congr (h : Tally n holds log) (hiff : ∀ i, holds' i ↔ holds i) :
    Tally n holds' log := by
  have heq : holds' = holds := funext fun i => propext (hiff i)
  rw [heq]
  exact h

/-- A party that has not taken a grant yet takes one. -/
theorem Tally.take (h : Tally n holds log) (hnew : .take i ∉ log)
    (hiff : ∀ j, holds' j ↔ j = i ∨ holds j) : Tally (n + 1) holds' (log ++ [.take i]) := by
  have hnot : .give i ∉ log := fun hgive => hnew (h.take_of_give i hgive)
  have hidle : i ∉ {j | holds j} := fun hi => hnew ((h.holds_iff i).mp hi).1
  have hset : {j | holds' j} = insert i {j | holds j} := Set.ext hiff
  constructor
  · simpa [List.nodup_append, h.nodup] using fun e he => ne_of_mem_of_not_mem he hnew
  · intro j hj
    simp only [List.mem_append, List.mem_singleton, reduceCtorEq, or_false] at hj
    exact List.mem_append_left _ (h.take_of_give j hj)
  · intro j
    rw [hiff, h.holds_iff]
    by_cases hj : j = i
    · subst hj
      simp [hnot]
    · simp [hj]
  · rw [hset]
    exact h.finite.insert i
  · rw [hset, Set.ncard_insert_of_notMem hidle h.finite, h.card]

/-- A holder gives its grant back; the counter is then above zero. -/
theorem Tally.give (h : Tally n holds log) (hi : holds i)
    (hiff : ∀ j, holds' j ↔ holds j ∧ j ≠ i) : Tally (n - 1) holds' (log ++ [.give i]) := by
  rcases (h.holds_iff i).mp hi with ⟨htake, hnot⟩
  have hset : {j | holds' j} = {j | holds j} \ {i} := Set.ext hiff
  constructor
  · simpa [List.nodup_append, h.nodup] using fun e he => ne_of_mem_of_not_mem he hnot
  · intro j hj
    simp only [List.mem_append, List.mem_singleton, Grant.give.injEq] at hj
    rcases hj with hj | rfl
    · exact List.mem_append_left _ (h.take_of_give j hj)
    · exact List.mem_append_left _ htake
  · intro j
    rw [hiff, h.holds_iff]
    simp [and_assoc]
  · rw [hset]
    exact h.finite.sdiff
  · have hmem : i ∈ {j | holds j} := hi
    rw [hset, Set.ncard_sdiff_singleton_of_mem hmem, h.card]

theorem Tally.pos (h : Tally n holds log) (hi : holds i) : 0 < n := by
  rw [h.card]
  exact (Set.ncard_pos h.finite).mpr ⟨i, hi⟩

theorem Tally.not_holds_of_zero (h : Tally 0 holds log) (i : ι) : ¬ holds i :=
  fun hi => absurd (h.pos hi) (lt_irrefl 0)

theorem Tally.encard_log (h : Tally n holds log) :
    {i | .take i ∈ log ∧ .give i ∉ log}.encard = n := by
  have hset : {i | .take i ∈ log ∧ .give i ∉ log} = {i | holds i} := by
    ext i
    exact (h.holds_iff i).symm
  rw [hset, h.card, h.finite.cast_ncard_eq]

/-- A party that holds nothing has given back what it took. -/
theorem Tally.give_of_not_holds (h : Tally n holds log) (hi : ¬ holds i) (htake : .take i ∈ log) :
    .give i ∈ log := by
  by_contra hnot
  exact hi ((h.holds_iff i).mpr ⟨htake, hnot⟩)

end FoloXray.Foundation
