import FoloXray.Foundation.Stream

/-! # Buffers

`common/buf`: a buffer is a piece of pooled storage with its content in the middle.  The storage behind
the content still holds what the last user of the storage has left there, and a few callers read it.
-/

namespace FoloXray.Buffers

open Foundation

def bufSize : ℕ := 8192

structure Buffer where
  bytes : Bytes
  spare : Bytes
  deriving DecidableEq, Repr

/-- The storage of a new buffer, as it comes out of the pool. -/
structure Storage where
  bytes : Bytes
  length_eq : bytes.length = bufSize

namespace Buffer

def new (storage : Storage) : Buffer := ⟨[], storage.bytes⟩

def write (b : Buffer) (data : Bytes) : Buffer :=
  ⟨b.bytes ++ data.take b.spare.length, b.spare.drop data.length⟩

/-- `Extend`; nothing if it panics, as it also does when the length is negative. -/
def extend (b : Buffer) (n : ℤ) : Option Buffer :=
  if 0 ≤ n ∧ n ≤ b.spare.length then
    some ⟨b.bytes ++ b.spare.take n.toNat, b.spare.drop n.toNat⟩
  else none

/-- `BytesRange`, which may reach into the storage behind the content; nothing if it panics. -/
def bytesRange (b : Buffer) (lo hi : ℕ) : Option Bytes :=
  if lo ≤ hi ∧ hi ≤ b.bytes.length + b.spare.length then
    some (((b.bytes ++ b.spare).drop lo).take (hi - lo))
  else none

def cap (b : Buffer) : ℕ := b.bytes.length + b.spare.length

variable {b : Buffer} {data : Bytes}

@[simp] theorem cap_new (storage : Storage) : (new storage).cap = bufSize := by
  rw [cap, new, storage.length_eq, List.length_nil, Nat.zero_add]

@[simp] theorem cap_write (b : Buffer) (data : Bytes) : (b.write data).cap = b.cap := by
  simp only [cap, write, List.length_append, List.length_take, List.length_drop]
  omega

theorem write_of_le (h : data.length ≤ b.spare.length) :
    b.write data = ⟨b.bytes ++ data, b.spare.drop data.length⟩ := by
  rw [write, List.take_of_length_le h]

theorem extend_of_le {n : ℕ} (h : n ≤ b.spare.length) :
    b.extend n = some ⟨b.bytes ++ b.spare.take n, b.spare.drop n⟩ := by
  rw [extend, if_pos (by omega), Int.toNat_natCast]

end Buffer

/-- `MultiBuffer`; an entry may be `nil`. -/
abbrev MultiBuffer := List (Option Buffer)

def entryLen (b : Option Buffer) : ℕ := b.elim 0 fun b => b.bytes.length

def entryBytes (b : Option Buffer) : Bytes := b.elim [] Buffer.bytes

def multiBytes (mb : MultiBuffer) : Bytes := (mb.map entryBytes).flatten

@[simp] theorem entryLen_eq (b : Option Buffer) : entryLen b = (entryBytes b).length := by
  cases b <;> rfl

@[simp] theorem multiBytes_nil : multiBytes [] = [] := rfl

@[simp] theorem multiBytes_cons (b : Option Buffer) (mb : MultiBuffer) :
    multiBytes (b :: mb) = entryBytes b ++ multiBytes mb := rfl

theorem multiBytes_append (mb mb' : MultiBuffer) :
    multiBytes (mb ++ mb') = multiBytes mb ++ multiBytes mb' := by
  rw [multiBytes, List.map_append, List.flatten_append]
  rfl

end FoloXray.Buffers
