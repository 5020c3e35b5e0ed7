import Mathlib.Data.List.GetD

/-! # The parts of a sequence

`StandsAt data i w` says that the sequence `data` has the part `w` at position `i`.  A format is
described by the parts it is put together from; the rules below turn such a description into what a
reader finds at a position.
-/

namespace FoloXray.Foundation

variable {α : Type}

def StandsAt (data : List α) (i : ℕ) (w : List α) : Prop :=
  ∃ u v, data = u ++ (w ++ v) ∧ u.length = i

section Rules

variable {data w w' : List α} {i : ℕ}

theorem standsAt_zero (w v : List α) : StandsAt (w ++ v) 0 w := ⟨[], v, rfl, rfl⟩

theorem standsAt_append :
    StandsAt data i (w ++ w') ↔ StandsAt data i w ∧ StandsAt data (i + w.length) w' := by
  constructor
  · rintro ⟨u, v, rfl, rfl⟩
    refine ⟨⟨u, w' ++ v, ?_, rfl⟩, u ++ w, v, ?_, List.length_append⟩
    · rw [List.append_assoc]
    · simp only [List.append_assoc]
  · rintro ⟨⟨u, v, rfl, rfl⟩, u', v', heq, hlen⟩
    rw [← List.append_assoc] at heq
    rcases List.append_inj heq (by rw [List.length_append, hlen]) with ⟨-, rfl⟩
    exact ⟨u, v', by rw [List.append_assoc], rfl⟩

theorem StandsAt.left (h : StandsAt data i (w ++ w')) : StandsAt data i w :=
  (standsAt_append.mp h).1

theorem StandsAt.right (h : StandsAt data i (w ++ w')) : StandsAt data (i + w.length) w' :=
  (standsAt_append.mp h).2

theorem StandsAt.tail {a : α} (h : StandsAt data i (a :: w)) : StandsAt data (i + 1) w :=
  StandsAt.right (w := [a]) h

theorem StandsAt.length_le (h : StandsAt data i w) : i + w.length ≤ data.length := by
  rcases h with ⟨u, v, rfl, rfl⟩
  simp only [List.length_append]
  omega

theorem StandsAt.getD {a d : α} (h : StandsAt data i (a :: w)) : data.getD i d = a := by
  rcases h with ⟨u, v, rfl, rfl⟩
  rw [List.getD_append_right _ _ _ _ (Nat.le_refl _), Nat.sub_self]
  rfl

theorem StandsAt.slice_eq (h : StandsAt data i w) : (data.drop i).take w.length = w := by
  rcases h with ⟨u, v, rfl, rfl⟩
  rw [List.drop_left, List.take_left]

theorem StandsAt.getElem? (h : StandsAt data i w) {j : ℕ} (hj : j < w.length) : data[i + j]? = w[j]? := by
  rcases h with ⟨u, v, rfl, rfl⟩
  rw [List.getElem?_append_right (Nat.le_add_right _ _), Nat.add_sub_cancel_left,
    List.getElem?_append_left hj]

/-- Two parts of one length are equal if the sequences agree where they stand. -/
theorem StandsAt.eq_of_agree {data' : List α} (h : StandsAt data i w) (h' : StandsAt data' i w')
    (hlen : w.length = w'.length)
    (hagree : ∀ j, i ≤ j → j < i + w.length → data[j]? = data'[j]?) : w = w' := by
  apply List.ext_getElem?
  intro j
  by_cases hj : j < w.length
  · rw [← h.getElem? hj, ← h'.getElem? (hlen ▸ hj)]
    exact hagree (i + j) (Nat.le_add_right i j) (Nat.add_lt_add_left hj i)
  · rw [List.getElem?_eq_none (Nat.not_lt.mp hj), List.getElem?_eq_none (hlen ▸ Nat.not_lt.mp hj)]

/-- Replacing a part by one of the same length leaves everything around it. -/
theorem getElem?_replace {u v : List α} (hlen : w.length = w'.length) {j : ℕ}
    (hj : j < u.length ∨ u.length + w.length ≤ j) : (u ++ (w ++ v))[j]? = (u ++ (w' ++ v))[j]? := by
  rcases hj with hj | hj
  · rw [List.getElem?_append_left hj, List.getElem?_append_left hj]
  · rw [List.getElem?_append_right (by omega), List.getElem?_append_right (by omega),
      List.getElem?_append_right (by omega), List.getElem?_append_right (by omega), hlen]

end Rules

end FoloXray.Foundation
