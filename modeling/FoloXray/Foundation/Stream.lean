import Mathlib.Tactic

/-! # Byte streams behind `io.Reader` and `io.Writer`

A reader delivers a byte stream in non-empty chunks of its own choice, then end of file. A
writer accepts any part of what it is offered. `readFull` is the loop of `io.ReadFull`; its
result depends only on the bytes of the stream, never on the chunking.
-/

namespace FoloXray.Foundation

abbrev Bytes := List UInt8

/-- What is left of a stream, already cut into the chunks the reads will return. -/
structure ByteReader where
  chunks : List Bytes
  nonempty : ∀ c ∈ chunks, c ≠ []

def ByteReader.bytes (r : ByteReader) : Bytes := r.chunks.flatten

inductive ReadError where
  | eof
  | unexpectedEOF
  deriving DecidableEq, Repr

/-- `Read` into a buffer of `n` bytes: the next chunk, or its first `n` bytes; `none` is end of
file. -/
def ByteReader.read (n : ℕ) : ByteReader → Option (Bytes × ByteReader)
  | ⟨[], _⟩ => none
  | ⟨c :: cs, h⟩ =>
    if hlt : n < c.length then
      some (c.take n, ⟨c.drop n :: cs, by
        intro d hd
        rcases List.mem_cons.mp hd with rfl | hd
        · exact List.ne_nil_of_length_pos (by rw [List.length_drop]; omega)
        · exact h d (List.mem_cons_of_mem c hd)⟩)
    else some (c, ⟨cs, fun d hd => h d (List.mem_cons_of_mem c hd)⟩)

theorem ByteReader.read_none {n : ℕ} {r : ByteReader} (h : r.read n = none) : r.bytes = [] := by
  obtain ⟨chunks, hne⟩ := r
  cases chunks with
  | nil => rfl
  | cons c cs =>
    simp only [ByteReader.read] at h
    split at h <;> cases h

/-- A read returns a non-empty part of at most `n` bytes and leaves the rest of the stream. -/
theorem ByteReader.read_some {n : ℕ} {r r' : ByteReader} {part : Bytes} (hn : 0 < n)
    (h : r.read n = some (part, r')) :
    r.bytes = part ++ r'.bytes ∧ 0 < part.length ∧ part.length ≤ n := by
  obtain ⟨chunks, hne⟩ := r
  cases chunks with
  | nil => cases h
  | cons c cs =>
    simp only [ByteReader.read] at h
    split at h
    · rename_i hlt
      cases h
      refine ⟨?_, ?_, ?_⟩
      · simp only [ByteReader.bytes, List.flatten_cons]
        rw [← List.append_assoc, List.take_append_drop]
      · rw [List.length_take]
        omega
      · rw [List.length_take]
        omega
    · rename_i hge
      cases h
      exact ⟨rfl, List.length_pos_of_ne_nil (hne part List.mem_cons_self), by omega⟩

/-- The loop of `io.ReadAtLeast` with the whole buffer as minimum: `got` is what the buffer
holds so far. -/
def readLoop (want : ℕ) (got : Bytes) (r : ByteReader) : Except ReadError Bytes × ByteReader :=
  if _hgot : want ≤ got.length then (.ok got, r)
  else
    match _hread : r.read (want - got.length) with
    | none => (.error (if got = [] then .eof else .unexpectedEOF), r)
    | some (part, r') => readLoop want (got ++ part) r'
termination_by want - got.length
decreasing_by
  have := ByteReader.read_some (by omega) _hread
  rw [List.length_append]
  omega

def readFull (n : ℕ) (r : ByteReader) : Except ReadError Bytes × ByteReader := readLoop n [] r

theorem readLoop_enough {want : ℕ} {got : Bytes} {r : ByteReader} (hgot : got.length ≤ want)
    (hlen : want ≤ got.length + r.bytes.length) :
    ∃ r', readLoop want got r = (.ok (got ++ r.bytes.take (want - got.length)), r') ∧
      r'.bytes = r.bytes.drop (want - got.length) := by
  fun_induction readLoop want got r with
  | case1 got r hdone =>
    have hzero : want - got.length = 0 := by omega
    exact ⟨r, by simp [hzero], by simp [hzero]⟩
  | case2 got r hmore hread =>
    rw [ByteReader.read_none hread] at hlen
    simp only [List.length_nil] at hlen
    omega
  | case3 got r hmore part r' hread ih =>
    obtain ⟨hbytes, hpos, hle⟩ := ByteReader.read_some (by omega) hread
    rw [hbytes] at hlen
    simp only [List.length_append] at hlen ih
    obtain ⟨u, hloop, hu⟩ := ih (by omega) (by omega)
    have hrest : want - (got.length + part.length) = want - got.length - part.length := by omega
    refine ⟨u, ?_, ?_⟩
    · rw [hloop, hbytes, List.take_append, List.take_of_length_le hle, List.append_assoc, hrest]
    · rw [hu, hbytes, List.drop_append, List.drop_of_length_le hle, List.nil_append, hrest]

theorem readLoop_short {want : ℕ} {got : Bytes} {r : ByteReader}
    (hlen : got.length + r.bytes.length < want) :
    ∃ r', readLoop want got r =
        (.error (if got = [] ∧ r.bytes = [] then .eof else .unexpectedEOF), r') ∧
      r'.bytes = [] := by
  fun_induction readLoop want got r with
  | case1 got r hdone => omega
  | case2 got r hmore hread =>
    have hnil := ByteReader.read_none hread
    exact ⟨r, by simp [hnil], hnil⟩
  | case3 got r hmore part r' hread ih =>
    obtain ⟨hbytes, hpos, hle⟩ := ByteReader.read_some (by omega) hread
    rw [hbytes] at hlen
    simp only [List.length_append] at hlen ih
    obtain ⟨u, hloop, hu⟩ := ih (by omega)
    have hpart : part ≠ [] := List.ne_nil_of_length_pos hpos
    refine ⟨u, ?_, hu⟩
    rw [hloop, hbytes]
    simp [hpart]

/-- With enough bytes left `io.ReadFull` returns exactly the next `n` of them. -/
theorem readFull_enough {n : ℕ} {r : ByteReader} (h : n ≤ r.bytes.length) :
    ∃ r', readFull n r = (.ok (r.bytes.take n), r') ∧ r'.bytes = r.bytes.drop n := by
  simpa [readFull] using
    @readLoop_enough n [] r (Nat.zero_le n) (by simpa using h)

/-- With too few bytes left it fails, with `io.EOF` exactly on an empty stream, and consumes
everything. -/
theorem readFull_short {n : ℕ} {r : ByteReader} (h : r.bytes.length < n) :
    ∃ r', readFull n r = (.error (if r.bytes = [] then .eof else .unexpectedEOF), r') ∧
      r'.bytes = [] := by
  simpa [readFull] using @readLoop_short n [] r (by simpa using h)

/-- An `io.Writer` with state `σ`: the count and the error each `Write` call returns. -/
structure ByteWriter (σ ε : Type*) where
  write : σ → Bytes → (ℤ × Option ε) × σ

/-- Every call on a non-empty buffer accepts at least one byte and at most the buffer, without
an error. -/
def ByteWriter.Progresses {σ ε : Type*} (w : ByteWriter σ ε) : Prop :=
  ∀ s p, p ≠ [] → (w.write s p).1.2 = none ∧ 0 < (w.write s p).1.1 ∧
    (w.write s p).1.1 ≤ p.length

end FoloXray.Foundation
