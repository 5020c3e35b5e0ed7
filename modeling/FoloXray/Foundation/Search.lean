import Mathlib.Data.List.GetD
import Mathlib.Order.Lattice
import Mathlib.Order.Nat

/-! # Binary search for the first index

The search of a sorted table for the first index at which a monotone test holds, and its use on a
table of disjoint ranges: the range whose end is the first not below a value is the only one that
can contain it.
-/

namespace FoloXray.Foundation

/-- The search between `i` and `j`; each round at least halves the distance, so `fuel ≥ j - i`
rounds are enough. -/
def searchLoop (f : ℕ → Bool) : (fuel i j : ℕ) → ℕ
  | 0, i, _ => i
  | fuel + 1, i, j =>
    if i < j then
      let h := (i + j) / 2
      if f h then searchLoop f fuel i h else searchLoop f fuel (h + 1) j
    else i

/-- The first index below `n` at which `f` holds, or `n`. -/
def sortSearch (n : ℕ) (f : ℕ → Bool) : ℕ := searchLoop f n 0 n

/-- `k` separates the indices below `n`: the test fails before it and holds from it on. -/
structure Separates (f : ℕ → Bool) (n k : ℕ) : Prop where
  le : k ≤ n
  before : ∀ i < k, f i = false
  after : ∀ i, k ≤ i → i < n → f i = true

section Search

variable {f : ℕ → Bool} {n : ℕ}

theorem searchLoop_separates (hmono : ∀ a b, a ≤ b → b < n → f a = true → f b = true)
    {fuel i j : ℕ} (hfuel : j - i ≤ fuel) (hle : i ≤ j) (hj : j ≤ n)
    (hbefore : ∀ k < i, f k = false) (hafter : ∀ k, j ≤ k → k < n → f k = true) :
    Separates f n (searchLoop f fuel i j) := by
  induction fuel generalizing i j with
  | zero =>
    obtain rfl : i = j := by omega
    exact ⟨hj, hbefore, hafter⟩
  | succ fuel ih =>
    rw [searchLoop]
    by_cases hlt : i < j
    · rw [if_pos hlt]
      dsimp only
      cases hmid : f ((i + j) / 2) with
      | true =>
        rw [if_pos rfl]
        apply ih (by omega) (by omega) (by omega) hbefore
        intro k hk hkn
        exact hmono _ _ hk hkn hmid
      | false =>
        rw [if_neg Bool.false_ne_true]
        apply ih (by omega) (by omega) hj _ hafter
        intro k hk
        by_contra htrue
        have := hmono k ((i + j) / 2) (by omega) (by omega) (by simpa using htrue)
        rw [hmid] at this
        cases this
    · obtain rfl : i = j := by omega
      rw [if_neg hlt]
      exact ⟨hj, hbefore, hafter⟩

theorem sortSearch_separates (hmono : ∀ a b, a ≤ b → b < n → f a = true → f b = true) :
    Separates f n (sortSearch n f) := by
  apply searchLoop_separates hmono (by omega) (Nat.zero_le n) le_rfl
  · intro k hk
    omega
  · intro k hk hkn
    omega

end Search

section Ranges

variable {κ α : Type*} [LinearOrder α] (key : κ → α)

/-- The ranges of a table, in the order of their keys: none is empty, and each ends before the next
one starts. -/
structure Ascending (rs : List (κ × κ)) : Prop where
  nonempty : ∀ r ∈ rs, key r.1 ≤ key r.2
  disjoint : rs.Pairwise fun r r' => key r.2 < key r'.1

/-- One pass over the table, with the end of the previous range. -/
def ascendsFrom (a : κ) : List (κ × κ) → Bool
  | [] => true
  | r :: rs => decide (key a < key r.1) && decide (key r.1 ≤ key r.2) && ascendsFrom r.2 rs

variable {key} {rs : List (κ × κ)}

theorem above_of_ascendsFrom {a : κ} (h : ascendsFrom key a rs = true) :
    ∀ r ∈ rs, key a < key r.1 := by
  induction rs generalizing a with
  | nil => simp
  | cons r rs ih =>
    simp only [ascendsFrom, Bool.and_eq_true, decide_eq_true_eq] at h
    intro r' hr'
    rcases List.mem_cons.mp hr' with rfl | hr'
    · exact h.1.1
    · calc key a < key r.1 := h.1.1
        _ ≤ key r.2 := h.1.2
        _ < key r'.1 := ih h.2 r' hr'

theorem ascending_of_ascendsFrom {a : κ} (h : ascendsFrom key a rs = true) : Ascending key rs := by
  induction rs generalizing a with
  | nil => exact ⟨by simp, List.Pairwise.nil⟩
  | cons r rs ih =>
    simp only [ascendsFrom, Bool.and_eq_true, decide_eq_true_eq] at h
    have htail := ih h.2
    constructor
    · intro r' hr'
      rcases List.mem_cons.mp hr' with rfl | hr'
      · exact h.1.2
      · exact htail.nonempty r' hr'
    · rw [List.pairwise_cons]
      exact ⟨above_of_ascendsFrom h.2, htail.disjoint⟩

theorem Ascending.ends_mono (h : Ascending key rs) (d : κ × κ) {i j : ℕ} (hij : i ≤ j)
    (hj : j < rs.length) : key (rs.getD i d).2 ≤ key (rs.getD j d).2 := by
  rcases hij.eq_or_lt with rfl | hlt
  · exact le_rfl
  · have hi : i < rs.length := hlt.trans hj
    rw [List.getD_eq_getElem _ _ hi, List.getD_eq_getElem _ _ hj]
    calc key rs[i].2 ≤ key rs[j].1 :=
          (List.pairwise_iff_getElem.mp h.disjoint i j hi hj hlt).le
      _ ≤ key rs[j].2 := h.nonempty _ (List.getElem_mem hj)

/-- The search for the first end that is not below a value finds the range that contains the value,
if there is one. -/
theorem Ascending.search_iff (h : Ascending key rs) (d : κ × κ) {x : κ} {test : ℕ → Bool}
    (htest : ∀ i, test i = decide (key x ≤ key (rs.getD i d).2)) :
    sortSearch rs.length test < rs.length ∧
        key (rs.getD (sortSearch rs.length test) d).1 ≤ key x ↔
      ∃ r ∈ rs, key r.1 ≤ key x ∧ key x ≤ key r.2 := by
  have hsep : Separates test rs.length (sortSearch rs.length test) := by
    apply sortSearch_separates
    intro a b hab hb ha
    rw [htest, decide_eq_true_eq] at ha ⊢
    exact ha.trans (h.ends_mono d hab hb)
  constructor
  · rintro ⟨hlt, hstart⟩
    refine ⟨_, ?_, hstart, ?_⟩
    · rw [List.getD_eq_getElem _ _ hlt]
      exact List.getElem_mem hlt
    · have hend := hsep.after _ le_rfl hlt
      rwa [htest, decide_eq_true_eq] at hend
  · rintro ⟨r, hr, hstart, hend⟩
    obtain ⟨k, hk, rfl⟩ := List.getElem_of_mem hr
    have hge : sortSearch rs.length test ≤ k := by
      by_contra hbefore
      have hfalse := hsep.before k (not_le.mp hbefore)
      rw [htest, decide_eq_false_iff_not, List.getD_eq_getElem _ _ hk] at hfalse
      exact hfalse hend
    -- an earlier range that ends at or after the value would overlap this one
    have heq : sortSearch rs.length test = k := by
      by_contra hne
      have hlt : sortSearch rs.length test < k := lt_of_le_of_ne hge hne
      have hearlier := hsep.after _ le_rfl (hlt.trans hk)
      rw [htest, decide_eq_true_eq, List.getD_eq_getElem _ _ (hlt.trans hk)] at hearlier
      have hgap := List.pairwise_iff_getElem.mp h.disjoint _ k (hlt.trans hk) hk hlt
      exact absurd (hearlier.trans_lt hgap) (not_lt.mpr hstart)
    rw [heq]
    refine ⟨hk, ?_⟩
    rwa [List.getD_eq_getElem _ _ hk]

end Ranges

end FoloXray.Foundation
