import Mathlib.Data.List.Basic

/-! # Prefix-free codes

A set of words none of which is a proper beginning of another.  A stream then has at most one word
at its head, so reading word after word finds the longest beginning of the stream that is a
concatenation of words.
-/

namespace FoloXray.Foundation

variable {α : Type*} {C : List α → Prop}

def PrefixFree (C : List α → Prop) : Prop := ∀ v w, C v → C w → v <+: w → v = w

/-- The words `ws` make up the longest beginning of `xs` that is a concatenation of words. -/
structure LongestParse (C : List α → Prop) (ws : List (List α)) (xs : List α) : Prop where
  words : ∀ w ∈ ws, C w
  head : ws.flatten <+: xs
  longest : ∀ vs : List (List α), (∀ v ∈ vs, C v) → vs.flatten <+: xs →
    vs.flatten <+: ws.flatten

/-- Two words at the head of one stream are the same word. -/
theorem PrefixFree.unique (hC : PrefixFree C) {v w xs : List α} (hv : C v) (hw : C w)
    (hvx : v <+: xs) (hwx : w <+: xs) : v = w := by
  rcases List.prefix_or_prefix_of_prefix hvx hwx with h | h
  · exact hC v w hv hw h
  · exact (hC w v hw hv h).symm

/-- A stream with no word at its head has the empty parse. -/
theorem LongestParse.nil {xs : List α} (h : ∀ w, C w → ¬ w <+: xs) : LongestParse C [] xs where
  words := by simp
  head := by simp
  longest := by
    intro vs hvs hhead
    cases vs with
    | nil => simp
    | cons v vs =>
      have hv : v <+: xs := (List.prefix_append v vs.flatten).trans (by simpa using hhead)
      exact absurd hv (h v (hvs v (by simp)))

/-- A word at the head comes first in the longest parse. -/
theorem LongestParse.cons (hC : PrefixFree C) {w rest : List α} {ws : List (List α)} (hw : C w)
    (h : LongestParse C ws rest) : LongestParse C (w :: ws) (w ++ rest) where
  words := by
    intro v hv
    rcases List.mem_cons.mp hv with rfl | hv
    · exact hw
    · exact h.words v hv
  head := by
    rw [List.flatten_cons]
    exact (List.prefix_append_right_inj w).mpr h.head
  longest := by
    intro vs hvs hhead
    cases vs with
    | nil => simp
    | cons v vs =>
      rw [List.flatten_cons] at hhead
      have hv : v = w := hC.unique (hvs v (by simp)) hw
        ((List.prefix_append v vs.flatten).trans hhead) (List.prefix_append w rest)
      subst hv
      simp only [List.flatten_cons]
      apply (List.prefix_append_right_inj v).mpr
      apply h.longest
      · exact fun u hu => hvs u (List.mem_cons_of_mem v hu)
      · exact (List.prefix_append_right_inj v).mp hhead

end FoloXray.Foundation
