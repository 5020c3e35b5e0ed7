import Mathlib.Data.List.Basic
import Mathlib.Data.Nat.Notation

/-! # Copying loops

One direction of a relay: a loop reads pieces of what its source has delivered and writes them to its
sink, one at a time, and closes the sink behind the end of the source.  The source may also be cut off,
and then what could not be read any more is lost.
-/

namespace FoloXray.Foundation

/-- Where a copying loop is: at a read, at a write with what it has read, at the close behind its end, or
at its end. -/
inductive CopyLoop (α : Type*) where
  | reading
  | writing (chunk : List α)
  | closing
  | finished
  deriving DecidableEq, Repr

namespace CopyLoop

variable {α : Type*}

def chunk : CopyLoop α → List α
  | writing chunk => chunk
  | _ => []

/-- What the loop has to do behind the end of its source, with so much left to read. -/
def work (left : ℕ) : CopyLoop α → ℕ
  | reading => 3 * left + 2
  | writing _ => 3 * left + 3
  | closing => 1
  | finished => 0

theorem work_mono {left left' : ℕ} (h : left ≤ left') (loop : CopyLoop α) :
    loop.work left ≤ loop.work left' := by
  cases loop with
  | reading | writing =>
    simp only [work]
    omega
  | closing | finished => exact Nat.le_refl _

end CopyLoop

/-- What the source has delivered, whether that was all, what of it can still be read, the loop, and what
the sink was given. -/
structure Copying (α : Type*) where
  delivered : List α
  ended : Bool
  left : List α
  loop : CopyLoop α
  sent : List α

namespace Copying

variable {α : Type*} {c c' : Copying α} {own : Bool} {lost : List α}

inductive Step : (own : Bool) → Copying α → Copying α → Prop where
  | deliver {c : Copying α} (items : List α) (hopen : c.ended = false) :
    Step false c { c with delivered := c.delivered ++ items, left := c.left ++ items }
  | finish {c : Copying α} : Step false c { c with ended := true }
  | read {c : Copying α} (chunk rest : List α) (hloop : c.loop = .reading)
    (hleft : c.left = chunk ++ rest) (hchunk : chunk ≠ []) :
    Step true c { c with loop := .writing chunk, left := rest }
  | write {c : Copying α} (chunk : List α) (hloop : c.loop = .writing chunk) :
    Step true c { c with loop := .reading, sent := c.sent ++ chunk }
  | ends {c : Copying α} (hloop : c.loop = .reading) (hleft : c.left = []) (hended : c.ended = true) :
    Step true c { c with loop := .closing }
  | close {c : Copying α} (hloop : c.loop = .closing) : Step true c { c with loop := .finished }

/-- The source is cut off: only the first part of what was left can still be read. -/
def cut (c : Copying α) (rest : List α) : Copying α := { c with ended := true, left := rest }

/-- What is sent, on its way, left and lost is what was delivered, in this order; nothing is lost before
the end of the source, and the loop ends behind all that can be read. -/
structure Sound (c : Copying α) (lost : List α) : Prop where
  stream : c.sent ++ (c.loop.chunk ++ (c.left ++ lost)) = c.delivered
  kept : c.ended = false → lost = []
  ended : c.loop = .closing ∨ c.loop = .finished → c.ended = true ∧ c.left = []

theorem Sound.running (h : c.Sound lost) (hopen : c.ended = false) :
    ¬ (c.loop = .closing ∨ c.loop = .finished) := by
  intro hloop
  rw [(h.ended hloop).1] at hopen
  cases hopen

theorem Sound.step (h : c.Sound lost) (hstep : Step own c c') : c'.Sound lost := by
  have hstream := h.stream
  cases hstep with
  | deliver items hopen =>
    have hlost := h.kept hopen
    subst hlost
    refine ⟨?_, fun _ => rfl, fun hend => absurd hend (h.running hopen)⟩
    rw [← hstream]
    simp only [List.append_assoc, List.append_nil]
  | finish => exact ⟨hstream, nofun, fun hend => ⟨rfl, (h.ended hend).2⟩⟩
  | read chunk rest hloop hleft hchunk =>
    rw [hloop, hleft] at hstream
    refine ⟨?_, h.kept, nofun⟩
    rw [← hstream]
    simp only [CopyLoop.chunk, List.append_assoc, List.nil_append]
  | write chunk hloop =>
    rw [hloop] at hstream
    refine ⟨?_, h.kept, nofun⟩
    rw [← hstream]
    simp only [CopyLoop.chunk, List.append_assoc, List.nil_append]
  | ends hloop hleft hended =>
    rw [hloop] at hstream
    exact ⟨hstream, h.kept, fun _ => ⟨hended, hleft⟩⟩
  | close hloop =>
    rw [hloop] at hstream
    exact ⟨hstream, h.kept, fun _ => h.ended (.inl hloop)⟩

/-- A source that is cut off before its end loses what is left behind the cut. -/
theorem Sound.cut (h : c.Sound lost) (hopen : c.ended = false) {rest lost' : List α}
    (hleft : c.left = rest ++ lost') : (c.cut rest).Sound lost' := by
  have hstream := h.stream
  rw [h.kept hopen, List.append_nil, hleft] at hstream
  exact ⟨hstream, nofun, fun hend => absurd hend (h.running hopen)⟩

theorem Sound.sent_prefix (h : c.Sound lost) : c.sent <+: c.delivered := ⟨_, h.stream⟩

theorem Sound.sent_append_lost (h : c.Sound lost) (hloop : c.loop = .finished) :
    c.sent ++ lost = c.delivered := by
  have hstream := h.stream
  rw [hloop, (h.ended (.inr hloop)).2] at hstream
  exact hstream

theorem Sound.sent_ne (h : c.Sound lost) (hlost : lost ≠ []) : c.sent ≠ c.delivered := by
  intro heq
  have hstream := h.stream
  rw [← heq, List.append_right_eq_self] at hstream
  exact hlost (List.append_eq_nil_iff.mp (List.append_eq_nil_iff.mp hstream).2).2

/-- What the loop has to do behind the end of its source. -/
def work (c : Copying α) : ℕ := c.loop.work c.left.length

theorem work_lt (hstep : Step true c c') : c'.work < c.work := by
  cases hstep with
  | read chunk rest hloop hleft hchunk =>
    have hpos := List.length_pos_iff.mpr hchunk
    simp only [work, hloop, hleft, CopyLoop.work, List.length_append]
    omega
  | write chunk hloop =>
    simp only [work, hloop, CopyLoop.work]
    omega
  | ends hloop hleft hended =>
    simp only [work, hloop, hleft, CopyLoop.work]
    omega
  | close hloop =>
    simp only [work, hloop, CopyLoop.work]
    omega

theorem cut_work_le {rest lost' : List α} (hleft : c.left = rest ++ lost') : (c.cut rest).work ≤ c.work := by
  refine CopyLoop.work_mono ?_ c.loop
  rw [hleft, List.length_append]
  exact Nat.le_add_right _ _

theorem ended_of_step (h : c.ended = true) (hstep : Step own c c') : c'.ended = true := by
  cases hstep with
  | finish => rfl
  | _ => exact h

end Copying

end FoloXray.Foundation
