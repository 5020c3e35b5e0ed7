import FoloXray.Foundation.Slice

/-! # Decoders and encoders over a bounded buffer

A decoder fills a buffer of bounded size from a reader and looks at what it has got.  It accepts a word
if it turns it into its result in whatever chunks the word comes, whatever follows it, without reading a
byte of that.  An encoder appends to a buffer of bounded size, and what does not fit in is dropped.
-/

namespace FoloXray.Foundation

/-- A 16-bit number as two bytes, the high one first. -/
def twoBytes (n : ℕ) : Bytes := [UInt8.ofNat (n / 256), UInt8.ofNat n]

theorem twoBytes_value {n : ℕ} (h : n < 65536) :
    (UInt8.ofNat (n / 256)).toNat * 256 + (UInt8.ofNat n).toNat = n := by
  rw [UInt8.toNat_ofNat', UInt8.toNat_ofNat']
  omega

/-- A number in the given number of bytes, the high one first. -/
def numberBytes : (n value : ℕ) → Bytes
  | 0, _ => []
  | n + 1, value => numberBytes n (value / 256) ++ [UInt8.ofNat value]

/-- The number that bytes stand for, the high one first. -/
def bytesNumber (b : Bytes) : ℕ := b.foldl (fun acc c => acc * 256 + c.toNat) 0

theorem length_numberBytes (n value : ℕ) : (numberBytes n value).length = n := by
  induction n generalizing value with
  | zero => rfl
  | succ n ih => rw [numberBytes, List.length_append, ih, List.length_singleton]

theorem bytesNumber_numberBytes {n value : ℕ} (h : value < 256 ^ n) :
    bytesNumber (numberBytes n value) = value := by
  induction n generalizing value with
  | zero => exact (Nat.lt_one_iff.mp h).symm
  | succ n ih =>
    have hfront := ih (Nat.div_lt_of_lt_mul (by rwa [Nat.pow_succ, Nat.mul_comm] at h))
    unfold bytesNumber at hfront ⊢
    rw [numberBytes, List.foldl_append, hfront, List.foldl_cons, List.foldl_nil, UInt8.toNat_ofNat']
    omega

def ByteReader.ofBytes (w : Bytes) : ByteReader :=
  ⟨if w = [] then [] else [w], by
    intro c hc
    split at hc
    · exact absurd hc List.not_mem_nil
    · rwa [List.mem_singleton.mp hc]⟩

@[simp] theorem ByteReader.bytes_ofBytes (w : Bytes) : (ByteReader.ofBytes w).bytes = w := by
  by_cases h : w = [] <;> simp [ByteReader.bytes, ByteReader.ofBytes, h]

structure Intake where
  buffer : Bytes
  reader : ByteReader

inductive FillError where
  | outOfBound (last : ℕ)
  | read (e : ReadError)
  deriving DecidableEq, Repr

abbrev Decoder (ε α : Type) := StateT Intake (Outcome ε) α

namespace Decoder

variable {ε ε' α β : Type}

/-- Read exactly `n` bytes behind what the buffer holds. -/
def fill (cap n : ℕ) : Decoder FillError Unit := fun s =>
  if cap < s.buffer.length + n then .error (.outOfBound (s.buffer.length + n))
  else
    match readFull n s.reader with
    | (.ok part, r) => .ok ((), ⟨s.buffer ++ part, r⟩)
    | (.error e, _) => .error (.read e)

def clear : Decoder ε Unit := fun s => .ok ((), ⟨[], s.reader⟩)

/-- The buffer from the position `-n` on: its last `n` bytes, but all of them if `n` is zero. -/
def bytesFrom (n : ℕ) : Decoder ε Bytes := fun s =>
  if s.buffer.length < n then .panicked
  else .ok (if n = 0 then s.buffer else s.buffer.drop (s.buffer.length - n), s)

def lift (x : Outcome ε α) : Decoder ε α := fun s => x >>= fun a => .ok (a, s)

def fail (e : ε) : Decoder ε α := fun _ => .error e

def mapError (f : ε → ε') (d : Decoder ε α) : Decoder ε' α := fun s => Outcome.mapError f (d s)

def take (cap n : ℕ) : Decoder FillError Bytes := do
  fill cap n
  bytesFrom n

def takeByte (cap : ℕ) : Decoder FillError UInt8 := do
  let part ← take cap 1
  pure (part.headD 0)

def fresh (d : Decoder ε α) : Decoder ε α := fun s =>
  d ⟨[], s.reader⟩ >>= fun r => .ok (r.1, ⟨s.buffer, r.2.reader⟩)

def content : Decoder ε Bytes := fun s => .ok (s.buffer, s)

def takeUint16 : Decoder FillError ℕ := do
  let bytes ← fresh (take 2 2)
  pure ((bytes.getD 0 0).toNat * 256 + (bytes.getD 1 0).toNat)

def times (d : Decoder ε α) : ℕ → Decoder ε (List α)
  | 0 => pure []
  | n + 1 => do
    let a ← d
    let as ← times d n
    pure (a :: as)

/-- Nothing, if the decoder fails with the error that stands for the end of the stream. -/
def untilEnd (atEnd : ε → Bool) (d : Decoder ε α) : Decoder ε (Option α) := fun s =>
  match d s with
  | .ok (a, t) => .ok (some a, t)
  | .error e => if atEnd e then .ok (none, s) else .error e
  | .panicked => .panicked

theorem bind_apply (d : Decoder ε α) (f : α → Decoder ε β) (s : Intake) :
    (d >>= f) s = d s >>= fun r => f r.1 r.2 := rfl

theorem bind_of_ok {d : Decoder ε α} {a : α} {s t : Intake} (h : d s = .ok (a, t)) (f : α → Decoder ε β) :
    (d >>= f) s = f a t := by
  rw [bind_apply, h]
  rfl

/-- The decoder turns the word `w` into `a`, and leaves what follows it. -/
def Accepts (cap : ℕ) (d : Decoder ε α) (w : Bytes) (a : α) : Prop :=
  ∀ s rest, s.reader.bytes = w ++ rest → s.buffer.length + w.length ≤ cap →
    ∃ s', d s = .ok (a, s') ∧ s'.reader.bytes = rest ∧ s'.buffer.length ≤ s.buffer.length + w.length

/-- The decoder turns the word `w` into `a`, and has appended it to its buffer. -/
def Collects (cap : ℕ) (d : Decoder ε α) (w : Bytes) (a : α) : Prop :=
  ∀ s rest, s.reader.bytes = w ++ rest → s.buffer.length + w.length ≤ cap →
    ∃ s', d s = .ok (a, s') ∧ s'.reader.bytes = rest ∧ s'.buffer = s.buffer ++ w

section Collects

variable {cap n : ℕ} {d : Decoder ε α} {f : α → Decoder ε β} {w w' : Bytes} {a : α} {b : β}

theorem Collects.accepts (h : Collects cap d w a) : Accepts cap d w a := by
  intro s rest hbytes hroom
  obtain ⟨t, hd, ht, hbuffer⟩ := h s rest hbytes hroom
  refine ⟨t, hd, ht, ?_⟩
  rw [hbuffer, List.length_append]

theorem collects_pure (a : α) : Collects cap (pure a : Decoder ε α) [] a :=
  fun s _ hbytes _ => ⟨s, rfl, hbytes, (List.append_nil _).symm⟩

theorem Collects.bind (h : Collects cap d w a) (h' : Collects cap (f a) w' b) :
    Collects cap (d >>= f) (w ++ w') b := by
  intro s rest hbytes hroom
  rw [List.append_assoc] at hbytes
  rw [List.length_append] at hroom
  obtain ⟨t, hd, ht, hbuffer⟩ := h s (w' ++ rest) hbytes (by omega)
  obtain ⟨u, hf, hu, hbuffer'⟩ := h' t rest ht (by rw [hbuffer, List.length_append]; omega)
  refine ⟨u, ?_, hu, ?_⟩
  · rw [bind_of_ok hd]
    exact hf
  · rw [hbuffer', hbuffer, List.append_assoc]

theorem Collects.bind_pure (h : Collects cap d w a) (h' : Collects cap (f a) [] b) :
    Collects cap (d >>= f) w b := by
  have hbind := h.bind h'
  rwa [List.append_nil] at hbind

theorem Collects.mapError (h : Collects cap d w a) (g : ε → ε') : Collects cap (d.mapError g) w a := by
  intro s rest hbytes hroom
  obtain ⟨t, hd, ht⟩ := h s rest hbytes hroom
  refine ⟨t, ?_, ht⟩
  rw [Decoder.mapError, hd]
  rfl

theorem collects_lift {x : Outcome ε α} (h : x = .ok a) : Collects cap (lift x) [] a := by
  rw [h]
  exact collects_pure a

theorem collects_fill (hw : w.length = n) : Collects cap (fill cap n) w () := by
  intro s rest hbytes hroom
  have henough : n ≤ s.reader.bytes.length := by
    rw [hbytes, List.length_append, hw]
    exact Nat.le_add_right _ _
  obtain ⟨r, hread, hr⟩ := readFull_enough henough
  rw [hbytes, List.take_left' hw] at hread
  rw [hbytes, List.drop_left' hw] at hr
  refine ⟨⟨s.buffer ++ w, r⟩, ?_, hr, rfl⟩
  rw [fill, if_neg (by omega), hread]

theorem collects_take (hw : w.length = n) (hn : n ≠ 0) : Collects cap (take cap n) w w := by
  intro s rest hbytes hroom
  obtain ⟨t, hfill, ht, hbuffer⟩ := collects_fill hw s rest hbytes hroom
  refine ⟨t, ?_, ht, hbuffer⟩
  have hlast : t.buffer.drop (t.buffer.length - n) = w := by
    rw [hbuffer]
    exact List.drop_left' (by rw [List.length_append]; omega)
  have hle : n ≤ t.buffer.length := by
    rw [hbuffer, List.length_append]
    omega
  rw [take, bind_of_ok hfill, bytesFrom, if_neg (not_lt.mpr hle), if_neg hn, hlast]

theorem collects_takeByte (c : UInt8) : Collects cap (takeByte cap) [c] c :=
  (collects_take rfl one_ne_zero).bind_pure (collects_pure c)

end Collects

section Accepts

variable {cap n : ℕ} {d : Decoder ε α} {f : α → Decoder ε β} {w w' : Bytes} {a : α} {b : β}

theorem accepts_pure (a : α) : Accepts cap (pure a : Decoder ε α) [] a :=
  fun s _ hbytes _ => ⟨s, rfl, hbytes, Nat.le_add_right _ _⟩

theorem Accepts.bind (h : Accepts cap d w a) (h' : Accepts cap (f a) w' b) :
    Accepts cap (d >>= f) (w ++ w') b := by
  intro s rest hbytes hroom
  rw [List.append_assoc] at hbytes
  rw [List.length_append] at hroom
  obtain ⟨t, hd, ht, hlen⟩ := h s (w' ++ rest) hbytes (by omega)
  obtain ⟨u, hf, hu, hlen'⟩ := h' t rest ht (by omega)
  refine ⟨u, ?_, hu, ?_⟩
  · rw [bind_apply, hd, Outcome.ok_bind]
    exact hf
  · rw [List.length_append]
    omega

theorem Accepts.bind_silent (h : Accepts cap d [] a) (h' : Accepts cap (f a) w b) :
    Accepts cap (d >>= f) w b :=
  h.bind h'

theorem Accepts.bind_pure (h : Accepts cap d w a) (h' : Accepts cap (f a) [] b) :
    Accepts cap (d >>= f) w b := by
  have hbind := h.bind h'
  rwa [List.append_nil] at hbind

theorem Accepts.mapError (h : Accepts cap d w a) (g : ε → ε') :
    Accepts cap (d.mapError g) w a := by
  intro s rest hbytes hroom
  obtain ⟨t, hd, ht⟩ := h s rest hbytes hroom
  refine ⟨t, ?_, ht⟩
  rw [Decoder.mapError, hd]
  rfl

theorem accepts_clear : Accepts cap (clear : Decoder ε Unit) [] () :=
  fun s _ hbytes _ => ⟨⟨[], s.reader⟩, rfl, hbytes, Nat.zero_le _⟩

theorem accepts_lift {x : Outcome ε α} (h : x = .ok a) : Accepts cap (lift x) [] a := by
  intro s rest hbytes _
  refine ⟨s, ?_, hbytes, Nat.le_add_right _ _⟩
  rw [lift, h]
  rfl

theorem accepts_take (hw : w.length = n) (hn : n ≠ 0) : Accepts cap (take cap n) w w :=
  (collects_take hw hn).accepts

theorem accepts_takeByte (c : UInt8) : Accepts cap (takeByte cap) [c] c :=
  (accepts_take rfl one_ne_zero).bind_pure (accepts_pure c)

theorem accepts_times {ws : List Bytes} {as : List α} (h : List.Forall₂ (Accepts cap d) ws as) :
    Accepts cap (times d as.length) ws.flatten as := by
  induction h with
  | nil => exact accepts_pure []
  | cons hfirst _ ih => exact hfirst.bind (ih.bind_pure (accepts_pure _))

/-- A decoder that never runs out of room decodes the word wherever it stands. -/
theorem exists_run (h : ∀ cap, Accepts cap d w a) {s : Intake} {rest : Bytes}
    (hbytes : s.reader.bytes = w ++ rest) : ∃ t, d s = .ok (a, t) ∧ t.reader.bytes = rest := by
  obtain ⟨t, hd, ht, -⟩ := h (s.buffer.length + w.length) s rest hbytes le_rfl
  exact ⟨t, hd, ht⟩

/-- A buffer of its own must have room for the word. -/
theorem Accepts.fresh {cap' : ℕ} (h : Accepts cap' d w a) (hw : w.length ≤ cap') :
    Accepts cap (fresh d) w a := by
  intro s rest hbytes _
  obtain ⟨t, hd, ht, -⟩ := h ⟨[], s.reader⟩ rest hbytes (by rwa [List.length_nil, Nat.zero_add])
  refine ⟨⟨s.buffer, t.reader⟩, ?_, ht, Nat.le_add_right _ _⟩
  rw [Decoder.fresh, hd]
  rfl

theorem accepts_fresh_take {cap' : ℕ} (hw : w.length = n) (hn : n ≤ cap') :
    Accepts cap (fresh (take cap' n)) w w := by
  by_cases hzero : n = 0
  · subst hzero
    obtain rfl := List.length_eq_zero_iff.mp hw
    intro s rest hbytes _
    obtain ⟨r, hread, hr⟩ := readFull_enough (Nat.zero_le s.reader.bytes.length)
    refine ⟨⟨s.buffer, r⟩, ?_, ?_, Nat.le_add_right _ _⟩
    · simp [fresh, take, bind_apply, fill, bytesFrom, hread]
    · rw [hr, List.drop_zero, hbytes, List.nil_append]
  · exact (accepts_take hw hzero).fresh (by omega)

theorem accepts_takeUint16 {v : ℕ} (h : v < 65536) : Accepts cap takeUint16 (twoBytes v) v := by
  refine (accepts_fresh_take rfl le_rfl).bind_pure ?_
  have hvalue := twoBytes_value h
  simp only [twoBytes, List.getD_cons_zero, List.getD_cons_succ]
  rw [hvalue]
  exact accepts_pure v

theorem Accepts.untilEnd (h : Accepts cap d w a) (atEnd : ε → Bool) :
    Accepts cap (d.untilEnd atEnd) w (some a) := by
  intro s rest hbytes hroom
  obtain ⟨t, hd, ht⟩ := h s rest hbytes hroom
  exact ⟨t, by rw [Decoder.untilEnd, hd], ht⟩

theorem fresh_take_of_end {cap' : ℕ} {s : Intake} (hn : n ≠ 0) (hcap : n ≤ cap')
    (hend : s.reader.bytes = []) : fresh (take cap' n) s = .error (.read .eof) := by
  have hshort : s.reader.bytes.length < n := by
    rw [hend, List.length_nil]
    omega
  obtain ⟨r, hread, -⟩ := readFull_short hshort
  rw [if_pos hend] at hread
  have hfill : fill cap' n ⟨[], s.reader⟩ = .error (.read .eof) := by
    rw [fill, if_neg (by rw [List.length_nil]; omega), hread]
  rw [fresh, take, bind_apply, hfill]
  rfl

end Accepts

/-- The decoder does not panic, and its result and the input it leaves have the property. -/
def Ensures (d : Decoder ε α) (s : Intake) (post : α → Intake → Prop) : Prop :=
  match d s with
  | .ok (a, t) => post a t
  | .error _ => True
  | .panicked => False

section Ensures

variable {cap n : ℕ} {d : Decoder ε α} {f : α → Decoder ε β} {s : Intake}
variable {post : α → Intake → Prop} {post' : β → Intake → Prop}

theorem ensures_pure {a : α} (h : post a s) : Ensures (pure a : Decoder ε α) s post := h

theorem ensures_fail (e : ε) : Ensures (fail e) s post := trivial

theorem Ensures.bind (h : Ensures d s post) (h' : ∀ a t, post a t → Ensures (f a) t post') :
    Ensures (d >>= f) s post' := by
  unfold Ensures at h ⊢
  rw [bind_apply]
  cases hd : d s with
  | ok r =>
    rw [hd] at h
    exact h' r.1 r.2 h
  | error e => trivial
  | panicked =>
    rw [hd] at h
    exact h.elim

theorem Ensures.mono {post₂ : α → Intake → Prop} (h : Ensures d s post)
    (himp : ∀ a t, post a t → post₂ a t) : Ensures d s post₂ := by
  unfold Ensures at h ⊢
  cases hd : d s with
  | ok r =>
    rw [hd] at h
    exact himp r.1 r.2 h
  | error e => trivial
  | panicked =>
    rw [hd] at h
    exact h.elim

theorem Ensures.mapError (h : Ensures d s post) (g : ε → ε') : Ensures (d.mapError g) s post := by
  unfold Ensures at h ⊢
  rw [Decoder.mapError]
  cases hd : d s with
  | ok r =>
    rw [hd] at h
    exact h
  | error e => trivial
  | panicked =>
    rw [hd] at h
    exact h.elim

theorem Ensures.of_ok (h : Ensures d s post) {a : α} {t : Intake} (hd : d s = .ok (a, t)) :
    post a t := by
  unfold Ensures at h
  rwa [hd] at h

theorem Ensures.ne_panicked (h : Ensures d s post) : d s ≠ .panicked := by
  intro hd
  unfold Ensures at h
  rwa [hd] at h

theorem ensures_lift {x : Outcome ε α} (hx : x ≠ .panicked) (h : ∀ a, x = .ok a → post a s) :
    Ensures (lift x) s post := by
  unfold Ensures lift
  cases x with
  | ok a => exact h a rfl
  | error e => trivial
  | panicked => exact hx rfl

theorem ensures_clear (s : Intake) : Ensures (clear : Decoder ε Unit) s fun _ t => t = ⟨[], s.reader⟩ := rfl

theorem ensures_content (s : Intake) :
    Ensures (content : Decoder ε Bytes) s fun b t => b = s.buffer ∧ t = s :=
  ⟨rfl, rfl⟩

theorem ensures_lift_any {x : Outcome ε α} (hx : x ≠ .panicked) (s : Intake) :
    Ensures (lift x) s fun _ _ => True :=
  ensures_lift hx fun _ _ => trivial

/-- The bytes that are read fit in behind the others, and are taken off the stream. -/
theorem ensures_fill (cap n : ℕ) (s : Intake) :
    Ensures (fill cap n) s fun _ t => ∃ part : Bytes, t.buffer = s.buffer ++ part ∧ part.length = n ∧
      s.reader.bytes = part ++ t.reader.bytes ∧ s.buffer.length + n ≤ cap := by
  unfold Ensures fill
  by_cases hroom : cap < s.buffer.length + n
  · rw [if_pos hroom]
    trivial
  · rw [if_neg hroom]
    by_cases henough : n ≤ s.reader.bytes.length
    · obtain ⟨r, hread, hr⟩ := readFull_enough henough
      rw [hread]
      refine ⟨_, rfl, List.length_take_of_le henough, ?_, not_lt.mp hroom⟩
      rw [hr, List.take_append_drop]
    · obtain ⟨r, hread, -⟩ := readFull_short (not_le.mp henough)
      rw [hread]
      trivial

/-- Looking at the last bytes does not fail behind enough of them. -/
theorem ensures_bytesFrom (h : n ≤ s.buffer.length) :
    Ensures (bytesFrom n : Decoder ε Bytes) s fun part t => t = s ∧
      part = if n = 0 then s.buffer else s.buffer.drop (s.buffer.length - n) := by
  unfold Ensures bytesFrom
  rw [if_neg (not_lt.mpr h)]
  exact ⟨rfl, rfl⟩

theorem ensures_take (hn : n ≠ 0) (s : Intake) :
    Ensures (take cap n) s fun part t => t.buffer = s.buffer ++ part ∧ part.length = n ∧
      s.reader.bytes = part ++ t.reader.bytes := by
  refine (ensures_fill cap n s).bind ?_
  rintro - t ⟨part, ht, hlen, hbytes, -⟩
  have hle : n ≤ t.buffer.length := by
    rw [ht, List.length_append]
    omega
  refine (ensures_bytesFrom hle).mono ?_
  rintro part' u ⟨rfl, rfl⟩
  have hlast : u.buffer.drop (u.buffer.length - n) = part := by
    rw [ht]
    exact List.drop_left' (by rw [List.length_append]; omega)
  rw [if_neg hn, hlast]
  exact ⟨ht, hlen, hbytes⟩

theorem ensures_takeByte (s : Intake) :
    Ensures (takeByte cap) s fun c t => t.buffer = s.buffer ++ [c] := by
  refine (ensures_take one_ne_zero s).bind ?_
  rintro part t ⟨ht, hlen, -⟩
  obtain ⟨c, rfl⟩ := List.length_eq_one_iff.mp hlen
  exact ht

theorem Ensures.fresh (h : Ensures d ⟨[], s.reader⟩ post) :
    Ensures (fresh d) s fun a t => t.buffer = s.buffer ∧ ∃ u, u.reader = t.reader ∧ post a u := by
  unfold Ensures Decoder.fresh at *
  cases hd : d ⟨[], s.reader⟩ with
  | ok r =>
    rw [hd] at h
    exact ⟨rfl, r.2, rfl, h⟩
  | error e => trivial
  | panicked =>
    rw [hd] at h
    exact h.elim

theorem Ensures.untilEnd (h : Ensures d s post) (atEnd : ε → Bool) :
    Ensures (d.untilEnd atEnd) s fun r t => r = none ∧ t = s ∨ ∃ a, r = some a ∧ post a t := by
  unfold Ensures Decoder.untilEnd at *
  cases hd : d s with
  | ok r =>
    rw [hd] at h
    exact .inr ⟨r.1, rfl, h⟩
  | error e =>
    dsimp only
    cases atEnd e with
    | true => exact .inl ⟨rfl, rfl⟩
    | false => trivial
  | panicked =>
    rw [hd] at h
    exact h.elim

theorem ensures_fresh_take (cap n : ℕ) (s : Intake) :
    Ensures (fresh (take cap n)) s fun part t =>
      part.length = n ∧ n ≤ cap ∧ s.reader.bytes = part ++ t.reader.bytes := by
  have htake : Ensures (take cap n) ⟨[], s.reader⟩ fun part t =>
      part.length = n ∧ n ≤ cap ∧ s.reader.bytes = part ++ t.reader.bytes := by
    refine (ensures_fill cap n _).bind ?_
    rintro - t ⟨part, ht, hlen, hbytes, hroom⟩
    rw [List.nil_append] at ht
    rw [List.length_nil, Nat.zero_add] at hroom
    refine (ensures_bytesFrom (by rw [ht, hlen])).mono ?_
    rintro part' u ⟨rfl, rfl⟩
    have hwhole : (if n = 0 then u.buffer else u.buffer.drop (u.buffer.length - n)) = part := by
      rw [ht, hlen, Nat.sub_self, List.drop_zero, ite_self]
    rw [hwhole]
    exact ⟨hlen, hroom, hbytes⟩
  refine htake.fresh.mono ?_
  rintro part t ⟨-, u, hu, hlen, hroom, hbytes⟩
  exact ⟨hlen, hroom, hu ▸ hbytes⟩

theorem ensures_takeUint16 (s : Intake) :
    Ensures takeUint16 s fun v t => v < 65536 ∧ t.reader.bytes.length + 2 = s.reader.bytes.length := by
  refine (ensures_fresh_take 2 2 s).bind ?_
  rintro part t ⟨hlen, -, hbytes⟩
  refine ⟨?_, by rw [hbytes, List.length_append]; omega⟩
  have hhigh := (part.getD 0 0).toNat_lt
  have hlow := (part.getD 1 0).toNat_lt
  omega

/-- What holds of every result holds of all results one after another. -/
theorem ensures_times {P : α → Prop} (h : ∀ s, Ensures d s fun a _ => P a) (n : ℕ) (s : Intake) :
    Ensures (times d n) s fun as _ => ∀ a ∈ as, P a := by
  induction n generalizing s with
  | zero => exact ensures_pure (List.forall_mem_nil _)
  | succ n ih =>
    refine (h s).bind fun a t ha => (ih t).bind fun as u has => ?_
    exact ensures_pure (List.forall_mem_cons.mpr ⟨ha, has⟩)

end Ensures

end Decoder

inductive PutError where
  | bufferFull
  deriving DecidableEq, Repr

/-- What has been appended before an error stays in the buffer. -/
def Encoder (ε α : Type) := Bytes → Outcome ε α × Bytes

namespace Encoder

variable {ε ε' α β : Type}

protected def bind (e : Encoder ε α) (f : α → Encoder ε β) : Encoder ε β := fun b =>
  match e b with
  | (.ok a, b') => f a b'
  | (.error x, b') => (.error x, b')
  | (.panicked, b') => (.panicked, b')

instance : Monad (Encoder ε) where
  pure a := fun b => (.ok a, b)
  bind := Encoder.bind

theorem bind_of_ok {e : Encoder ε α} {a : α} {b b' : Bytes} (h : e b = (.ok a, b')) (f : α → Encoder ε β) :
    (e >>= f) b = f a b' := by
  have hbind : (e >>= f) b = Encoder.bind e f b := rfl
  rw [hbind, Encoder.bind, h]

def put (cap : ℕ) (data : Bytes) : Encoder ε Unit := fun b => (.ok (), b ++ data.take (cap - b.length))

def putByte (cap : ℕ) (c : UInt8) : Encoder PutError Unit := fun b =>
  if b.length = cap then (.error .bufferFull, b) else (.ok (), b ++ [c])

/-- Append bytes for which there has to be room. -/
def extend (cap : ℕ) (data : Bytes) : Encoder ε Unit := fun b =>
  if cap < b.length + data.length then (.panicked, b) else (.ok (), b ++ data)

def fail (e : ε) : Encoder ε Unit := fun b => (.error e, b)

def panic : Encoder ε Unit := fun b => (.panicked, b)

def mapError (f : ε → ε') (e : Encoder ε α) : Encoder ε' α := fun b =>
  (Outcome.mapError f (e b).1, (e b).2)

/-- The same encoder with its error ignored. -/
def ignore (e : Encoder ε Unit) : Encoder ε' Unit := fun b =>
  match e b with
  | (.panicked, b') => (.panicked, b')
  | (_, b') => (.ok (), b')

/-- The same encoder, where an error is a failed run-time check. -/
def must (e : Encoder ε Unit) : Encoder ε' Unit := fun b =>
  match e b with
  | (.ok (), b') => (.ok (), b')
  | (_, b') => (.panicked, b')

/-- Put the number of bytes that the encoder appends into two bytes in front of them. -/
def withLength (cap : ℕ) (e : Encoder ε Unit) : Encoder ε Unit := fun b =>
  match (extend cap [0, 0] >>= fun _ => e) b with
  | (.ok (), b') =>
    let length := b'.length - b.length - 2
    (.ok (), (b'.set b.length (UInt8.ofNat (length / 256))).set (b.length + 1) (UInt8.ofNat length))
  | r => r

def run (e : Encoder ε Unit) : Outcome ε Bytes := (e []).1 >>= fun _ => .ok (e []).2

/-- With room for it, the encoder appends exactly the word `w`. -/
def Emits (cap : ℕ) (e : Encoder ε Unit) (w : Bytes) : Prop :=
  ∀ b : Bytes, b.length + w.length ≤ cap → e b = (.ok (), b ++ w)

variable {cap : ℕ} {e e' : Encoder ε Unit} {w w' : Bytes}

theorem emits_nil : Emits cap (pure () : Encoder ε Unit) [] := by
  intro b _
  rw [List.append_nil]
  rfl

theorem Emits.seq (h : Emits cap e w) (h' : Emits cap e' w') :
    Emits cap (e >>= fun _ => e') (w ++ w') := by
  intro b hroom
  rw [List.length_append] at hroom
  have hfirst := h b (by omega)
  have hsecond := h' (b ++ w) (by rw [List.length_append]; omega)
  rw [List.append_assoc] at hsecond
  rw [Encoder.bind_of_ok hfirst]
  exact hsecond

theorem Emits.mapError (h : Emits cap e w) (f : ε → ε') : Emits cap (e.mapError f) w := by
  intro b hroom
  rw [Encoder.mapError, h b hroom]
  rfl

theorem Emits.ignore (h : Emits cap e w) : Emits cap (e.ignore : Encoder ε' Unit) w := by
  intro b hroom
  rw [Encoder.ignore, h b hroom]

theorem Emits.must (h : Emits cap e w) : Emits cap (e.must : Encoder ε' Unit) w := by
  intro b hroom
  rw [Encoder.must, h b hroom]

theorem set_set_append (b : Bytes) (c d c' d' : UInt8) (w : Bytes) :
    ((b ++ c :: d :: w).set b.length c').set (b.length + 1) d' = b ++ c' :: d' :: w := by
  induction b with
  | nil => rfl
  | cons x b ih =>
    rw [List.cons_append, List.cons_append, List.length_cons, List.set_cons_succ, List.set_cons_succ, ih]

theorem emits_put (data : Bytes) : Emits cap (put cap data : Encoder ε Unit) data := by
  intro b hroom
  rw [put, List.take_of_length_le (by omega)]

theorem emits_extend (data : Bytes) : Emits cap (extend cap data : Encoder ε Unit) data := by
  intro b hroom
  rw [extend, if_neg (by omega)]

theorem Emits.withLength (h : Emits cap e w) : Emits cap (e.withLength cap) (twoBytes w.length ++ w) := by
  intro b hroom
  have hboth := (emits_extend (ε := ε) [0, 0]).seq h b (by simpa [twoBytes] using hroom)
  have hlength : (b ++ 0 :: 0 :: w).length - b.length - 2 = w.length := by
    rw [List.length_append, List.length_cons, List.length_cons]
    omega
  rw [List.cons_append, List.cons_append, List.nil_append] at hboth
  rw [Encoder.withLength, hboth]
  simp only [hlength, set_set_append]
  rfl

theorem emits_putByte (c : UInt8) : Emits cap (putByte cap c) [c] := by
  intro b hroom
  rw [List.length_singleton] at hroom
  rw [putByte, if_neg (by omega)]

theorem Emits.run (h : Emits cap e w) (hw : w.length ≤ cap) : e.run = .ok w := by
  have hbuffer := h [] (by rwa [List.length_nil, Nat.zero_add])
  rw [Encoder.run, hbuffer, Outcome.ok_bind, List.nil_append]

/-- The encoder appends the word `w`, or as much of it as there is room for. -/
def Cuts (cap : ℕ) (e : Encoder ε Unit) (w : Bytes) : Prop :=
  ∀ b : Bytes, b.length ≤ cap → e b = (.ok (), (b ++ w).take cap)

theorem cuts_put (data : Bytes) : Cuts cap (put cap data : Encoder ε Unit) data := by
  intro b hb
  rw [put, List.take_append, List.take_of_length_le hb]

theorem Cuts.seq (h : Cuts cap e w) (h' : Cuts cap e' w') : Cuts cap (e >>= fun _ => e') (w ++ w') := by
  intro b hb
  rw [Encoder.bind_of_ok (h b hb), h' _ (List.length_take_le _ _), ← List.append_assoc]
  congr 1
  -- either the first word fills the buffer, or nothing of it is cut off
  rcases le_total (b ++ w).length cap with hle | hle
  · rw [List.take_of_length_le hle]
  · rw [List.take_append_of_le_length hle, List.take_append_of_le_length (by rw [List.length_take]; omega),
      List.take_take, min_self]

/-- A word that fits, and then one that may be cut off. -/
theorem Emits.run_cuts (h : Emits cap e w) (hw : w.length ≤ cap) (h' : Cuts cap e' w') :
    (e >>= fun _ => e').run = .ok ((w ++ w').take cap) := by
  have hfirst := h [] (by rwa [List.length_nil, Nat.zero_add])
  rw [List.nil_append] at hfirst
  rw [Encoder.run, Encoder.bind_of_ok hfirst, h' w hw, Outcome.ok_bind]

end Encoder

end FoloXray.Foundation
