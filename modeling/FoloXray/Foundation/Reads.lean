import Mathlib.Data.List.Basic

/-! # Computations that index a sequence

A computation records every position at which it indexes a fixed sequence.  It ends without a
result once a run-time check fails, in particular when a position is out of range; the failing
position is recorded as well.
-/

namespace FoloXray.Foundation

structure Reads (α : Type) where
  positions : List ℕ
  result : Option α

namespace Reads

variable {α β : Type}

protected def bind (x : Reads α) (f : α → Reads β) : Reads β :=
  match x.result with
  | none => ⟨x.positions, none⟩
  | some a => ⟨x.positions ++ (f a).positions, (f a).result⟩

instance : Monad Reads where
  pure a := ⟨[], some a⟩
  bind := Reads.bind

def index (l : List α) (i : ℕ) : Reads α := ⟨[i], l[i]?⟩

/-- Take the value of a checked operation that does not index the sequence. -/
def ofOption (x : Option α) : Reads α := ⟨[], x⟩

def Below (n : ℕ) (x : Reads α) : Prop := ∀ i ∈ x.positions, i < n

theorem below_of_nil {n : ℕ} {x : Reads α} (h : x.positions = []) : x.Below n := by
  simp [Below, h]

theorem below_pure (n : ℕ) (a : α) : (pure a : Reads α).Below n := below_of_nil rfl

theorem below_ofOption (n : ℕ) (x : Option α) : (ofOption x).Below n := below_of_nil rfl

theorem below_index {n i : ℕ} (l : List α) (h : i < n) : (index l i).Below n := by
  intro k hk
  rwa [List.mem_singleton.mp hk]

theorem Below.bind {n : ℕ} {x : Reads α} {f : α → Reads β} (hx : x.Below n)
    (hf : ∀ a, (f a).Below n) : (x >>= f).Below n := by
  obtain ⟨positions, result⟩ := x
  cases result with
  | none => exact hx
  | some a =>
    intro i hi
    rcases List.mem_append.mp hi with hi | hi
    · exact hx i hi
    · exact hf a i hi

end Reads

end FoloXray.Foundation
