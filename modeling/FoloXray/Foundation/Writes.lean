import FoloXray.Foundation.Stream

/-! # The calls that a writer receives

A writer is observed through its calls: what each one was offered, and the count and the error it
returned.  Nothing is asked of the counts; what a call accepts is the part of the offered bytes that its
count covers.
-/

namespace FoloXray.Foundation

structure WriteCall (ε : Type*) where
  offered : Bytes
  count : ℤ
  error : Option ε
  deriving DecidableEq, Repr

namespace WriteCall

variable {ε : Type*} (c : WriteCall ε)

/-- The bytes that are accepted: none for a negative count, and never more than there are. -/
def accepted : Bytes := c.offered.take c.count.toNat

def rest : Bytes := c.offered.drop c.count.toNat

def Clean : Prop := c.error = none ∧ 0 < c.count ∧ c.count ≤ c.offered.length

theorem accepted_append_rest : c.accepted ++ c.rest = c.offered := List.take_append_drop _ _

theorem Clean.length_rest_lt {c : WriteCall ε} (h : c.Clean) : c.rest.length < c.offered.length := by
  obtain ⟨-, hpos, hle⟩ := h
  rw [rest, List.length_drop]
  omega

end WriteCall

variable {σ ε : Type*}

/-- The call that offers some bytes to a writer in some state. -/
def ByteWriter.call (w : ByteWriter σ ε) (s : σ) (p : Bytes) : WriteCall ε :=
  ⟨p, (w.write s p).1.1, (w.write s p).1.2⟩

def ByteWriter.recorded (w : ByteWriter σ ε) : ByteWriter (σ × List (WriteCall ε)) ε where
  write s p := ((w.write s.1 p).1, (w.write s.1 p).2, s.2 ++ [w.call s.1 p])

/-- Every call is offered exactly what the calls before it have left of the payload: no byte that was
accepted is offered again, and none is passed over. -/
def Handed (payload : Bytes) (calls : List (WriteCall ε)) : Prop :=
  ∀ before c after, calls = before ++ c :: after → before.flatMap WriteCall.accepted ++ c.offered = payload

variable {payload : Bytes} {c : WriteCall ε} {calls : List (WriteCall ε)}

theorem handed_nil (payload : Bytes) : Handed payload ([] : List (WriteCall ε)) := by
  intro before c after h
  exact absurd h.symm (List.append_ne_nil_of_right_ne_nil _ (List.cons_ne_nil c after))

theorem Handed.cons (h : Handed c.rest calls) : Handed c.offered (c :: calls) := by
  intro before d after hsplit
  cases before with
  | nil =>
    rw [List.nil_append, List.cons.injEq] at hsplit
    rw [hsplit.1]
    rfl
  | cons b before =>
    rw [List.cons_append, List.cons.injEq] at hsplit
    rw [← hsplit.1, List.flatMap_cons, List.append_assoc, h before d after hsplit.2,
      c.accepted_append_rest]

theorem Handed.accepted_front (h : Handed payload calls) : calls.flatMap WriteCall.accepted <+: payload := by
  rcases List.eq_nil_or_concat calls with rfl | ⟨before, c, rfl⟩
  · exact List.nil_prefix
  · have hlast := h before c [] (List.concat_eq_append ..)
    rw [List.concat_eq_append, List.flatMap_append, List.flatMap_singleton, ← hlast,
      List.prefix_append_right_inj]
    exact List.take_prefix _ _

end FoloXray.Foundation
