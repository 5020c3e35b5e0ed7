import Mathlib.Data.List.Basic
import FoloXray.Foundation.Stream

/-! # Computations on a byte sequence with their accesses

A computation records every index and slice expression it evaluates and every round of its loops,
and has no result once a run-time check fails; the failing access is recorded as well.  `Yields` is
the rule of such programs: a result that was reached without leaving the sequence.
-/

namespace FoloXray.Foundation

/-- An index or slice expression, or a round of one of the loops `L` at a position. -/
inductive Access (L : Type) where
  | index (i : ℕ)
  | slice (lo hi : ℕ)
  | round (loop : L) (pos : ℕ)
  deriving DecidableEq, Repr

def Access.Within {L : Type} (n : ℕ) : Access L → Prop
  | .index i => i < n
  | .slice lo hi => lo ≤ hi ∧ hi ≤ n
  | .round _ pos => pos < n

structure Checked (L α : Type) where
  accesses : List (Access L)
  result : Option α

namespace Checked

variable {L α β : Type}

protected def bind (x : Checked L α) (f : α → Checked L β) : Checked L β :=
  match x.result with
  | none => ⟨x.accesses, none⟩
  | some a => ⟨x.accesses ++ (f a).accesses, (f a).result⟩

instance : Monad (Checked L) where
  pure a := ⟨[], some a⟩
  bind := Checked.bind

def index (data : Bytes) (i : ℕ) : Checked L UInt8 := ⟨[.index i], data[i]?⟩

/-- `data[lo:hi]` -/
def slice (data : Bytes) (lo hi : ℕ) : Checked L Bytes :=
  ⟨[.slice lo hi], if lo ≤ hi ∧ hi ≤ data.length then some ((data.take hi).drop lo) else none⟩

def round (loop : L) (pos : ℕ) : Checked L Unit := ⟨[.round loop pos], some ()⟩

/-- The positions at which the body of a loop was entered. -/
def rounds [DecidableEq L] (x : Checked L α) (loop : L) : List ℕ :=
  x.accesses.filterMap fun
    | .round l pos => if l = loop then some pos else none
    | _ => none

/-- The computation ends with the result, and every access lay in the sequence. -/
structure Yields (n : ℕ) (x : Checked L α) (a : α) : Prop where
  result : x.result = some a
  within : ∀ e ∈ x.accesses, e.Within n

section Rules

variable {n : ℕ} {x : Checked L α} {f : α → Checked L β} {a : α} {b : β}

theorem bind_of_result (h : x.result = some a) :
    (x >>= f) = ⟨x.accesses ++ (f a).accesses, (f a).result⟩ := by
  change Checked.bind x f = _
  simp only [Checked.bind, h]

theorem yields_pure (n : ℕ) (a : α) : Yields n (pure a : Checked L α) a :=
  ⟨rfl, fun _ he => absurd he List.not_mem_nil⟩

theorem yields_index {data : Bytes} {i : ℕ} (h : i < data.length) :
    Yields data.length (index data i : Checked L UInt8) (data.getD i 0) where
  result := by simp [index, h]
  within := by simpa [index, Access.Within] using h

theorem yields_slice {data : Bytes} {lo hi : ℕ} (hlo : lo ≤ hi) (hhi : hi ≤ data.length) :
    Yields data.length (slice data lo hi : Checked L Bytes) ((data.take hi).drop lo) where
  result := if_pos ⟨hlo, hhi⟩
  within := by simpa [slice, Access.Within] using ⟨hlo, hhi⟩

theorem yields_round {loop : L} {pos : ℕ} (h : pos < n) : Yields n (round loop pos) () where
  result := rfl
  within := by simpa [round, Access.Within] using h

theorem Yields.bind (hx : Yields n x a) (hf : Yields n (f a) b) : Yields n (x >>= f) b := by
  rw [bind_of_result hx.result]
  refine ⟨hf.result, ?_⟩
  intro e he
  rcases List.mem_append.mp he with he | he
  · exact hx.within e he
  · exact hf.within e he

variable [DecidableEq L]

theorem Yields.rounds_bind (hx : Yields n x a) (loop : L) :
    (x >>= f).rounds loop = x.rounds loop ++ (f a).rounds loop := by
  rw [bind_of_result hx.result]
  exact List.filterMap_append

theorem rounds_bind_eq_nil {loop : L} (hx : x.rounds loop = []) (hf : ∀ a, (f a).rounds loop = []) :
    (x >>= f).rounds loop = [] := by
  change (Checked.bind x f).rounds loop = []
  unfold Checked.bind
  split
  · exact hx
  · exact List.filterMap_append.trans (List.append_eq_nil_iff.mpr ⟨hx, hf _⟩)

theorem rounds_ite_eq_nil {c : Prop} [Decidable c] {y : Checked L α} {loop : L}
    (hx : x.rounds loop = []) (hy : y.rounds loop = []) :
    (if c then x else y).rounds loop = [] := by
  split
  · exact hx
  · exact hy

@[simp] theorem rounds_pure (a : α) (loop : L) : (pure a : Checked L α).rounds loop = [] := rfl

@[simp] theorem rounds_index (data : Bytes) (i : ℕ) (loop : L) :
    (index data i : Checked L UInt8).rounds loop = [] := rfl

@[simp] theorem rounds_slice (data : Bytes) (lo hi : ℕ) (loop : L) :
    (slice data lo hi : Checked L Bytes).rounds loop = [] := rfl

@[simp] theorem rounds_round (loop loop' : L) (pos : ℕ) :
    (round loop pos : Checked L Unit).rounds loop' = if loop = loop' then [pos] else [] := by
  by_cases h : loop = loop' <;> simp [rounds, round, h]

end Rules

end Checked

end FoloXray.Foundation
