import Mathlib.Data.Nat.Notation

/-! # Machines that read one symbol at a time

A step reads one symbol, moves to another state and puts out any number of symbols.  A stream that comes
in pieces takes the machine through the same states, and gives the same output, as the whole stream.
-/

namespace FoloXray.Foundation

variable {σ α β : Type*} (step : σ → α → σ × List β)

/-- Read the symbols from the left; the state behind them, and all that was put out. -/
def transduce : σ → List α → σ × List β
  | s, [] => (s, [])
  | s, x :: xs =>
    let r := transduce (step s x).1 xs
    (r.1, (step s x).2 ++ r.2)

@[simp] theorem transduce_nil (s : σ) : transduce step s [] = (s, []) := rfl

variable {step}

theorem transduce_cons (s : σ) (x : α) (xs : List α) :
    transduce step s (x :: xs) = ((transduce step (step s x).1 xs).1,
      (step s x).2 ++ (transduce step (step s x).1 xs).2) := rfl

theorem transduce_append (s : σ) (xs ys : List α) :
    transduce step s (xs ++ ys) = ((transduce step (transduce step s xs).1 ys).1,
      (transduce step s xs).2 ++ (transduce step (transduce step s xs).1 ys).2) := by
  induction xs generalizing s with
  | nil => rfl
  | cons x xs ih => simp only [List.cons_append, transduce_cons, ih, List.append_assoc]

/-- In a state that a step does not leave, each symbol gives what one step gives. -/
theorem transduce_fixed {s : σ} {f : α → List β} (h : ∀ x, step s x = (s, f x)) (xs : List α) :
    transduce step s xs = (s, xs.flatMap f) := by
  induction xs with
  | nil => rfl
  | cons x xs ih => rw [transduce_cons, h, ih, List.flatMap_cons]

end FoloXray.Foundation
