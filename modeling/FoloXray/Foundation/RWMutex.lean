import Mathlib.Data.List.Basic

/-! # A reader-writer mutex

A mutex that a party may hold several times for reading, in which a writer that waits already keeps
new readers out, so that it is not starved.
-/

namespace FoloXray.Foundation

variable {τ : Type*}

inductive Writer where
  | absent
  | waiting
  | holding
  deriving DecidableEq, Repr

/-- The read locks that are held, one entry for each, and the writer. -/
structure RWMutex (τ : Type*) where
  readers : List τ
  writer : Writer
  exclusive : writer = .holding → readers = []

def RWMutex.unlocked : RWMutex τ := ⟨[], .absent, by simp⟩

/-- A reader gets in only while there is no writer, not even a waiting one. -/
def RWMutex.rLock (m : RWMutex τ) (i : τ) : Option (RWMutex τ) :=
  if h : m.writer = .absent then some ⟨i :: m.readers, m.writer, by simp [h]⟩ else none

def RWMutex.rUnlock [DecidableEq τ] (m : RWMutex τ) (i : τ) : RWMutex τ :=
  ⟨m.readers.erase i, m.writer, fun h => by simp [m.exclusive h]⟩

def RWMutex.request (m : RWMutex τ) : Option (RWMutex τ) :=
  if m.writer = .absent then some ⟨m.readers, .waiting, by simp⟩ else none

/-- The waiting writer gets in once all readers are gone. -/
def RWMutex.grant (m : RWMutex τ) : Option (RWMutex τ) :=
  if m.writer = .waiting then
    if h : m.readers = [] then some ⟨m.readers, .holding, fun _ => h⟩ else none
  else none

def RWMutex.unlock (m : RWMutex τ) : RWMutex τ := ⟨m.readers, .absent, by simp⟩

section Lemmas

variable {m m' : RWMutex τ} {i j : τ}

theorem RWMutex.rLock_some (h : m.rLock i = some m') :
    m.writer = .absent ∧ m'.writer = .absent ∧ m'.readers = i :: m.readers := by
  unfold RWMutex.rLock at h
  split at h
  · rename_i hw
    cases h
    exact ⟨hw, hw, rfl⟩
  · cases h

theorem RWMutex.request_some (h : m.request = some m') :
    m.writer = .absent ∧ m'.writer = .waiting ∧ m'.readers = m.readers := by
  unfold RWMutex.request at h
  split at h
  · rename_i hw
    cases h
    exact ⟨hw, rfl, rfl⟩
  · cases h

theorem RWMutex.grant_some (h : m.grant = some m') :
    m.writer = .waiting ∧ m.readers = [] ∧ m'.writer = .holding ∧ m'.readers = [] := by
  unfold RWMutex.grant at h
  split at h
  · rename_i hw
    split at h
    · rename_i hr
      cases h
      exact ⟨hw, hr, rfl, hr⟩
    · cases h
  · cases h

@[simp] theorem RWMutex.rUnlock_writer [DecidableEq τ] (m : RWMutex τ) (i : τ) :
    (m.rUnlock i).writer = m.writer := rfl

@[simp] theorem RWMutex.rUnlock_readers [DecidableEq τ] (m : RWMutex τ) (i : τ) :
    (m.rUnlock i).readers = m.readers.erase i := rfl

end Lemmas

/-- The mutex has one entry for each read lock that a party holds, and the writer where it is. -/
structure RWMutex.Held [DecidableEq τ] (m : RWMutex τ) (held : τ → ℕ) (w : Writer) : Prop where
  readers : ∀ i, m.readers.count i = held i
  writer : m.writer = w

section Held

variable [DecidableEq τ] {m m' : RWMutex τ} {held held' : τ → ℕ} {w : Writer} {i : τ}

theorem RWMutex.Held.congr (h : m.Held held w) (hheld : ∀ j, held' j = held j) :
    m.Held held' w := by
  constructor
  · intro j
    rw [hheld]
    exact h.readers j
  · exact h.writer

theorem RWMutex.Held.rLock (h : m.Held held w) (hm : m.rLock i = some m')
    (hi : held' i = held i + 1) (hother : ∀ j, j ≠ i → held' j = held j) : m'.Held held' w := by
  rcases RWMutex.rLock_some hm with ⟨hfree, hwriter, hreaders⟩
  constructor
  · intro j
    rw [hreaders]
    by_cases hji : j = i
    · subst hji
      rw [List.count_cons_self, h.readers, hi]
    · rw [List.count_cons_of_ne (Ne.symm hji), h.readers, hother j hji]
  · rw [hwriter, ← h.writer, hfree]

theorem RWMutex.Held.rUnlock (h : m.Held held w) (hi : held' i + 1 = held i)
    (hother : ∀ j, j ≠ i → held' j = held j) : (m.rUnlock i).Held held' w := by
  constructor
  · intro j
    rw [RWMutex.rUnlock_readers]
    by_cases hji : j = i
    · subst hji
      rw [List.count_erase_self, h.readers, ← hi]
      rfl
    · rw [List.count_erase_of_ne hji, h.readers, hother j hji]
  · exact h.writer

theorem RWMutex.Held.request (h : m.Held held w) (hm : m.request = some m') :
    m'.Held held .waiting := by
  rcases RWMutex.request_some hm with ⟨-, hwriter, hreaders⟩
  constructor
  · rw [hreaders]
    exact h.readers
  · exact hwriter

theorem RWMutex.Held.grant (h : m.Held held w) (hm : m.grant = some m') :
    m'.Held held .holding := by
  rcases RWMutex.grant_some hm with ⟨-, hempty, hwriter, hreaders⟩
  constructor
  · rw [hreaders, ← hempty]
    exact h.readers
  · exact hwriter

theorem RWMutex.Held.unlock (h : m.Held held w) : m.unlock.Held held .absent :=
  ⟨h.readers, rfl⟩

theorem RWMutex.Held.eq_zero (h : m.Held held .holding) (i : τ) : held i = 0 := by
  rw [← h.readers, m.exclusive h.writer]
  rfl

end Held

end FoloXray.Foundation
