import FoloXray.Foundation.Stream

/-! # Outcomes and slices

A call ends with a result, with an error value, or in a failed run-time check.  A slice is a window
on an array: indexing is checked against its length, cutting it short against its capacity, so a
slice can be cut past its own length but never past the end of the array behind it.
-/

namespace FoloXray.Foundation

/-- How a call ends; `panicked` is a failed run-time check. -/
inductive Outcome (ε α : Type) where
  | ok (a : α)
  | error (e : ε)
  | panicked
  deriving DecidableEq, Repr

namespace Outcome

variable {ε ε' α β : Type}

protected def bind : Outcome ε α → (α → Outcome ε β) → Outcome ε β
  | .ok a, f => f a
  | .error e, _ => .error e
  | .panicked, _ => .panicked

instance : Monad (Outcome ε) where
  pure := .ok
  bind := Outcome.bind

def mapError (f : ε → ε') : Outcome ε α → Outcome ε' α
  | .ok a => .ok a
  | .error e => .error (f e)
  | .panicked => .panicked

/-- Return early with an error if the condition holds. -/
def failIf (c : Prop) [Decidable c] (e : ε) : Outcome ε Unit := if c then .error e else .ok ()

def isPanicked : Outcome ε α → Bool
  | .panicked => true
  | _ => false

def okWith (x : Outcome ε α) (p : α → Prop) [DecidablePred p] : Bool :=
  match x with
  | .ok a => decide (p a)
  | _ => false

theorem exists_of_okWith {x : Outcome ε α} {p : α → Prop} [DecidablePred p]
    (h : x.okWith p = true) : ∃ a, x = .ok a ∧ p a := by
  cases x with
  | ok a => exact ⟨a, rfl, of_decide_eq_true h⟩
  | error e => cases h
  | panicked => cases h

theorem isPanicked_iff {x : Outcome ε α} : x.isPanicked = true ↔ x = .panicked := by
  cases x <;> simp [isPanicked]

@[simp] theorem pure_eq_ok (a : α) : (pure a : Outcome ε α) = .ok a := rfl

@[simp] theorem ok_bind (a : α) (f : α → Outcome ε β) : (Outcome.ok a >>= f) = f a := rfl

@[simp] theorem error_bind (e : ε) (f : α → Outcome ε β) : (Outcome.error e >>= f) = .error e := rfl

@[simp] theorem panicked_bind (f : α → Outcome ε β) : (Outcome.panicked >>= f) = .panicked := rfl

theorem bind_eq_panicked_iff {x : Outcome ε α} {f : α → Outcome ε β} :
    (x >>= f) = .panicked ↔ x = .panicked ∨ ∃ a, x = .ok a ∧ f a = .panicked := by
  cases x <;> simp

theorem bind_eq_ok_iff {x : Outcome ε α} {f : α → Outcome ε β} {b : β} :
    (x >>= f) = .ok b ↔ ∃ a, x = .ok a ∧ f a = .ok b := by
  cases x <;> simp

theorem bind_ne_panicked {x : Outcome ε α} {f : α → Outcome ε β} (hx : x ≠ .panicked)
    (hf : ∀ a, x = .ok a → f a ≠ .panicked) : (x >>= f) ≠ .panicked := by
  rw [Ne, bind_eq_panicked_iff]
  rintro (h | ⟨a, ha, h⟩)
  · exact hx h
  · exact hf a ha h

@[simp] theorem mapError_eq_panicked_iff {f : ε → ε'} {x : Outcome ε α} :
    x.mapError f = .panicked ↔ x = .panicked := by
  cases x <;> simp [mapError]

section

variable {c : Prop} [Decidable c] {e : ε}

theorem failIf_of (h : c) : failIf c e = .error e := if_pos h

theorem failIf_of_not (h : ¬c) : failIf c e = .ok () := if_neg h

theorem failIf_eq_ok_iff {u : Unit} : failIf c e = .ok u ↔ ¬c := by
  by_cases h : c <;> simp [failIf, h]

theorem failIf_ne_panicked : failIf c e ≠ .panicked := by
  by_cases h : c <;> simp [failIf, h]

theorem failIf_bind_eq_panicked_iff {f : Unit → Outcome ε β} :
    (failIf c e >>= f) = .panicked ↔ ¬c ∧ f () = .panicked := by
  by_cases h : c <;> simp [failIf, h]

theorem failIf_bind_eq_ok_iff {f : Unit → Outcome ε β} {b : β} :
    (failIf c e >>= f) = .ok b ↔ ¬c ∧ f () = .ok b := by
  by_cases h : c <;> simp [failIf, h]

end

end Outcome

/-- A slice: the cells from its first element to the end of its capacity, and its length. -/
structure Slice (α : Type) where
  cells : List α
  len : ℕ
  len_le : len ≤ cells.length
  deriving DecidableEq, Repr

namespace Slice

variable {ε α : Type}

def empty : Slice α := ⟨[], 0, le_rfl⟩

def cap (s : Slice α) : ℕ := s.cells.length

def elems (s : Slice α) : List α := s.cells.take s.len

def index (s : Slice α) (i : ℕ) : Outcome ε α :=
  if h : i < s.len then .ok (s.cells.get ⟨i, h.trans_le s.len_le⟩) else .panicked

/-- `s[:n]`, checked against the capacity. -/
def upTo (s : Slice α) (n : ℕ) : Outcome ε (Slice α) :=
  if h : n ≤ s.cap then .ok ⟨s.cells, n, h⟩ else .panicked

/-- `s[n:]`, checked against the length. -/
def startingAt (s : Slice α) (n : ℕ) : Outcome ε (Slice α) :=
  if n ≤ s.len then
    .ok ⟨s.cells.drop n, s.len - n, by rw [List.length_drop]; exact Nat.sub_le_sub_right s.len_le n⟩
  else .panicked

def withSpare (l spare : List α) : Slice α := ⟨l ++ spare, l.length, by simp⟩

def ofList (l : List α) : Slice α := ⟨l, l.length, le_rfl⟩

@[simp] theorem cells_withSpare (l spare : List α) : (withSpare l spare).cells = l ++ spare := rfl

@[simp] theorem len_withSpare (l spare : List α) : (withSpare l spare).len = l.length := rfl

@[simp] theorem cap_withSpare (l spare : List α) :
    (withSpare l spare).cap = l.length + spare.length := List.length_append

@[simp] theorem index_zero_withSpare (a : α) (l spare : List α) :
    ((withSpare (a :: l) spare).index 0 : Outcome ε α) = .ok a := rfl

@[simp] theorem cap_ofList (l : List α) : (ofList l).cap = l.length := rfl

theorem startingAt_withSpare {l spare : List α} {n : ℕ} (h : n ≤ l.length) :
    ((withSpare l spare).startingAt n : Outcome ε _) = .ok (withSpare (l.drop n) spare) := by
  simp [startingAt, withSpare, h, List.drop_append_of_le_length]

theorem upTo_of_le {s : Slice α} {n : ℕ} (h : n ≤ s.cap) :
    (s.upTo n : Outcome ε _) = .ok ⟨s.cells, n, h⟩ := dif_pos h

theorem startingAt_of_le {s : Slice α} {n : ℕ} (h : n ≤ s.len) :
    ∃ t : Slice α, (s.startingAt n : Outcome ε _) = .ok t ∧ t.len = s.len - n := by
  simp [startingAt, h]

theorem index_of_lt {s : Slice α} {i : ℕ} (h : i < s.len) :
    (s.index i : Outcome ε α) = .ok (s.cells.get ⟨i, h.trans_le s.len_le⟩) := dif_pos h

theorem upTo_eq_panicked_iff {s : Slice α} {n : ℕ} :
    (s.upTo n : Outcome ε _) = .panicked ↔ s.cap < n := by
  by_cases h : n ≤ s.cap
  · simp [upTo, h]
  · simp [upTo, h, not_le.mp h]

end Slice

/-- How much room an implementation gives a byte slice of a given length. -/
structure Allocator where
  capacity : ℕ → ℕ
  le_capacity : ∀ n, n ≤ capacity n

def exactAllocator : Allocator := ⟨id, fun _ => le_rfl⟩

/-- The bytes of a string in a new slice, whose spare room is cleared. -/
def Allocator.byteSlice (alloc : Allocator) (s : Bytes) : Slice UInt8 :=
  .withSpare s (List.replicate (alloc.capacity s.length - s.length) 0)

def stringIndex {ε : Type} (s : Bytes) (i : ℕ) : Outcome ε UInt8 := (Slice.ofList s).index i

/-- `s[lo:hi]` of a string. -/
def stringSlice {ε : Type} (s : Bytes) (lo hi : ℕ) : Outcome ε Bytes :=
  if lo ≤ hi ∧ hi ≤ s.length then .ok ((s.take hi).drop lo) else .panicked

section Strings

variable {ε : Type} {s : Bytes}

theorem stringSlice_of_le {lo hi : ℕ} (hlo : lo ≤ hi) (hhi : hi ≤ s.length) :
    (stringSlice s lo hi : Outcome ε Bytes) = .ok ((s.take hi).drop lo) := if_pos ⟨hlo, hhi⟩

theorem stringIndex_getD {i : ℕ} (h : i < s.length) :
    (stringIndex s i : Outcome ε UInt8) = .ok (s.getD i 0) := by
  rw [List.getD_eq_getElem?_getD, List.getElem?_eq_getElem h]
  exact Slice.index_of_lt h

theorem stringIndex_head (h : s ≠ []) : (stringIndex s 0 : Outcome ε UInt8) = .ok (s.head h) := by
  have hpos : 0 < s.length := List.length_pos_iff.mpr h
  rw [← List.getElem_zero_eq_head hpos]
  exact Slice.index_of_lt hpos

theorem stringIndex_last (h : s ≠ []) :
    (stringIndex s (s.length - 1) : Outcome ε UInt8) = .ok (s.getLast h) := by
  have hlt : s.length - 1 < s.length := Nat.sub_lt (List.length_pos_iff.mpr h) Nat.one_pos
  rw [List.getLast_eq_getElem]
  exact Slice.index_of_lt hlt

end Strings

end FoloXray.Foundation
