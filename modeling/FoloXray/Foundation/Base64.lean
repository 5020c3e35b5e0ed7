import FoloXray.Foundation.Encoding
import Mathlib.Data.List.TakeWhile

/-! # Base64 text, written and read

What a decoder accepts determines the bytes it returns through the values of the alphabet's bytes alone:
padding and line breaks carry none.  So two decoders whose alphabets agree where they overlap return the
same bytes on every text that both accept, and every decoder reads back what its encoder writes.
-/

namespace FoloXray.Foundation.Base64

def digits (enc : Base64) (values : List ℕ) : Bytes := values.map (enc.alphabet.getD · 0)

/-- The padding of a last quantum that lacks `n` values. -/
def pads (enc : Base64) (n : ℕ) : Bytes := enc.padChar.elim [] (List.replicate n)

def encodeToString (enc : Base64) : Bytes → Bytes
  | a :: b :: c :: rest =>
    let val := a.toNat * 65536 + b.toNat * 256 + c.toNat
    enc.digits [val / 262144, val / 4096 % 64, val / 64 % 64, val % 64] ++ encodeToString enc rest
  | [a, b] =>
    let val := a.toNat * 65536 + b.toNat * 256
    enc.digits [val / 262144, val / 4096 % 64, val / 64 % 64] ++ enc.pads 1
  | [a] =>
    let val := a.toNat * 65536
    enc.digits [val / 262144, val / 4096 % 64] ++ enc.pads 2
  | [] => []

/-- An alphabet of 64 bytes that has no line break and not the padding byte. -/
structure Lawful (enc : Base64) : Prop where
  length : enc.alphabet.length = 64
  nodup : enc.alphabet.Nodup
  newline : ∀ c ∈ enc.alphabet, isNewline c = false
  pad : ∀ c ∈ enc.alphabet, enc.padChar ≠ some c
  padBreak : ∀ c, enc.padChar = some c → isNewline c = false

section Values

variable {enc : Base64}

theorem decodeMap_ne_none_iff {c : UInt8} : enc.decodeMap c ≠ none ↔ c ∈ enc.alphabet := by
  rw [decodeMap, Ne, List.idxOf?_eq_none_iff, not_not]

/-- A byte of the alphabet has the value of its position. -/
theorem decodeMap_digit (h : enc.Lawful) {v : ℕ} (hv : v < 64) :
    enc.decodeMap (enc.alphabet.getD v 0) = some v := by
  have hlt : v < enc.alphabet.length := by rw [h.length]; exact hv
  rw [decodeMap, List.getD_eq_getElem?_getD, List.getElem?_eq_getElem hlt, Option.getD_some,
    List.idxOf?_eq_some_iff]
  refine ⟨hlt, rfl, fun j hj heq => ?_⟩
  exact hj.ne (h.nodup.getElem_inj_iff.mp heq)

def filler (enc : Base64) (c : UInt8) : Prop := isNewline c = true ∨ enc.padChar = some c

theorem Lawful.decodeMap_filler (h : enc.Lawful) {c : UInt8} (hc : enc.filler c) :
    enc.decodeMap c = none := by
  by_contra hsome
  have hmem := decodeMap_ne_none_iff.mp hsome
  rcases hc with hbreak | hpad
  · rw [h.newline c hmem] at hbreak
    cases hbreak
  · exact h.pad c hmem hpad

theorem Lawful.filterMap_filler (h : enc.Lawful) {s : Bytes} (hs : ∀ c ∈ s, enc.filler c) :
    s.filterMap enc.decodeMap = [] :=
  List.filterMap_eq_nil_iff.mpr fun c hc => h.decodeMap_filler (hs c hc)

end Values

/-- The bytes that a sequence of values spells, four by four. -/
def unpack : List ℕ → Bytes
  | a :: b :: c :: d :: rest => quantum [a, b, c, d] ++ unpack rest
  | [a, b, c] => quantum [a, b, c]
  | [a, b] => quantum [a, b]
  | [a] => quantum [a]
  | [] => []

theorem unpack_short {values : List ℕ} (h : values.length ≤ 3) : unpack values = quantum values := by
  match values, h with
  | [], _ => rfl
  | [_], _ => rfl
  | [_, _], _ => rfl
  | [_, _, _], _ => rfl

theorem unpack_append {values : List ℕ} (h : values.length = 4) (rest : List ℕ) :
    unpack (values ++ rest) = quantum values ++ unpack rest := by
  match values, h with
  | [_, _, _, _], _ => rfl

section Decoding

variable {enc : Base64}

theorem drop_takeWhile (p : UInt8 → Bool) (s : Bytes) :
    s.drop (s.takeWhile p).length = s.dropWhile p := by
  induction s with
  | nil => rfl
  | cons c s ih =>
    by_cases hc : p c = true
    · simp [hc, ih]
    · simp [hc]

theorem newlines_of_drop {s : Bytes} (h : s.drop (s.takeWhile isNewline).length = []) :
    ∀ c ∈ s, isNewline c = true := by
  rw [drop_takeWhile, List.dropWhile_eq_nil_iff] at h
  exact h

/-- Behind the first padding byte stand line breaks and at most one more padding byte. -/
theorem padding_ok {pad : UInt8} {dbuf : List ℕ} {si : ℕ} {src out : Bytes}
    (hpad : enc.padChar = some pad) (h : padding pad dbuf si src = .ok out) :
    out = quantum dbuf ∧ dbuf.length ≤ 3 ∧ ∀ c ∈ src, enc.filler c := by
  dsimp only [padding] at h
  split at h
  · rename_i hlen
    split at h
    · cases h
    · rename_i c rest hrest
      split at h
      · cases h
      · rename_i hc
        split at h
        · rename_i hbreaks
          cases h
          refine ⟨rfl, by omega, ?_⟩
          have hsplit : src = src.takeWhile isNewline ++ c :: rest := by
            rw [← hrest, drop_takeWhile, List.takeWhile_append_dropWhile]
          intro d hd
          rw [hsplit, List.mem_append, List.mem_cons] at hd
          rcases hd with hd | rfl | hd
          · exact .inl (List.mem_takeWhile_imp hd)
          · rw [not_not.mp hc]
            exact .inr hpad
          · exact .inl (newlines_of_drop hbreaks d hd)
        · cases h
  · rename_i hlen
    split at h
    · rename_i hbreaks
      cases h
      exact ⟨rfl, by omega, fun c hc => .inl (newlines_of_drop hbreaks c hc)⟩
    · cases h
  · cases h

/-- A decoder accepts a text of its alphabet, line breaks and padding, and returns what the values
spell. -/
theorem decodeFrom_ok (hl : enc.Lawful) {si : ℕ} {dbuf : List ℕ} {src out : Bytes}
    (h : enc.decodeFrom si dbuf src = .ok out) (hlen : dbuf.length ≤ 3) :
    out = unpack (dbuf ++ src.filterMap enc.decodeMap) ∧
      ∀ c ∈ src, enc.decodeMap c ≠ none ∨ enc.filler c := by
  fun_induction decodeFrom enc si dbuf src generalizing out with
  | case1 si =>
    cases h
    exact ⟨rfl, by simp⟩
  | case2 => cases h
  | case3 si dbuf hne hend =>
    cases h
    refine ⟨?_, by simp⟩
    rw [List.filterMap_nil, List.append_nil, unpack_short hlen]
  | case4 si dbuf c rest v hv hfull ih =>
    cases hrest : enc.decodeFrom (si + 1) [] rest with
    | error e =>
      rw [hrest] at h
      cases h
    | ok decoded =>
      rw [hrest] at h
      cases h
      obtain ⟨hdecoded, hbytes⟩ := ih hrest (Nat.zero_le 3)
      constructor
      · have hfour : (dbuf ++ [v]).length = 4 := by simp [hfull]
        have hunpack := unpack_append hfour (rest.filterMap enc.decodeMap)
        rw [List.append_assoc, List.singleton_append] at hunpack
        rw [List.filterMap_cons_some hv, hunpack, hdecoded, List.nil_append]
      · exact List.forall_mem_cons.mpr ⟨.inl (by rw [hv]; nofun), hbytes⟩
  | case5 si dbuf c rest v hv hroom ih =>
    obtain ⟨hdecoded, hbytes⟩ := ih h (by rw [List.length_append, List.length_singleton]; omega)
    constructor
    · rw [List.filterMap_cons_some hv, List.append_cons, hdecoded]
    · exact List.forall_mem_cons.mpr ⟨.inl (by rw [hv]; nofun), hbytes⟩
  | case6 si dbuf c rest hv hbreak ih =>
    obtain ⟨hdecoded, hbytes⟩ := ih h hlen
    constructor
    · rw [List.filterMap_cons_none hv, hdecoded]
    · exact List.forall_mem_cons.mpr ⟨.inr (.inl hbreak), hbytes⟩
  | case7 si dbuf c rest hv hbreak hpad =>
    obtain ⟨hout, hshort, hfill⟩ := padding_ok hpad h
    constructor
    · rw [List.filterMap_cons_none hv, hl.filterMap_filler hfill, List.append_nil, hout,
        unpack_short hshort]
    · exact List.forall_mem_cons.mpr ⟨.inr (.inr hpad), fun d hd => .inr (hfill d hd)⟩
  | case8 => cases h

theorem decodeString_ok (hl : enc.Lawful) {s out : Bytes} (h : enc.decodeString s = .ok out) :
    out = unpack (s.filterMap enc.decodeMap) ∧ ∀ c ∈ s, enc.decodeMap c ≠ none ∨ enc.filler c :=
  decodeFrom_ok hl h (Nat.zero_le 3)

end Decoding

/-- Two encodings give a byte the same value if both have it, and neither pads with a byte of the
other's alphabet. -/
structure Compatible (enc₁ enc₂ : Base64) : Prop where
  value : ∀ c v₁ v₂, enc₁.decodeMap c = some v₁ → enc₂.decodeMap c = some v₂ → v₁ = v₂
  pad₁ : ∀ c, enc₁.padChar = some c → enc₂.decodeMap c = none
  pad₂ : ∀ c, enc₂.padChar = some c → enc₁.decodeMap c = none

section Agreement

variable {enc₁ enc₂ : Base64}

theorem decodeMap_eq_of_accepted (hl₁ : enc₁.Lawful) (hl₂ : enc₂.Lawful) (hc : Compatible enc₁ enc₂)
    {c : UInt8} (h₁ : enc₁.decodeMap c ≠ none ∨ enc₁.filler c)
    (h₂ : enc₂.decodeMap c ≠ none ∨ enc₂.filler c) : enc₁.decodeMap c = enc₂.decodeMap c := by
  cases hv₁ : enc₁.decodeMap c with
  | none =>
    cases hv₂ : enc₂.decodeMap c with
    | none => rfl
    | some v₂ =>
      exfalso
      rcases h₁.resolve_left (not_not_intro hv₁) with hbreak | hpad
      · rw [hl₂.decodeMap_filler (.inl hbreak)] at hv₂
        cases hv₂
      · rw [hc.pad₁ c hpad] at hv₂
        cases hv₂
  | some v₁ =>
    cases hv₂ : enc₂.decodeMap c with
    | some v₂ => rw [hc.value c v₁ v₂ hv₁ hv₂]
    | none =>
      exfalso
      rcases h₂.resolve_left (not_not_intro hv₂) with hbreak | hpad
      · rw [hl₁.decodeMap_filler (.inl hbreak)] at hv₁
        cases hv₁
      · rw [hc.pad₂ c hpad] at hv₁
        cases hv₁

theorem decodeString_unique (hl₁ : enc₁.Lawful) (hl₂ : enc₂.Lawful) (hc : Compatible enc₁ enc₂)
    {s out₁ out₂ : Bytes} (h₁ : enc₁.decodeString s = .ok out₁)
    (h₂ : enc₂.decodeString s = .ok out₂) : out₁ = out₂ := by
  obtain ⟨rfl, hbytes₁⟩ := decodeString_ok hl₁ h₁
  obtain ⟨rfl, hbytes₂⟩ := decodeString_ok hl₂ h₂
  congr 1
  apply List.filterMap_congr
  intro c hmem
  exact decodeMap_eq_of_accepted hl₁ hl₂ hc (hbytes₁ c hmem) (hbytes₂ c hmem)

end Agreement

section RoundTrip

variable {enc : Base64}

/-- A value is added to a quantum that has room for more. -/
theorem decodeFrom_digit (hl : enc.Lawful) {v : ℕ} (hv : v < 64) {dbuf : List ℕ}
    (hroom : dbuf.length ≠ 3) (si : ℕ) (rest : Bytes) :
    enc.decodeFrom si dbuf (enc.alphabet.getD v 0 :: rest) =
      enc.decodeFrom (si + 1) (dbuf ++ [v]) rest := by
  rw [decodeFrom, decodeMap_digit hl hv]
  exact if_neg hroom

theorem decodeFrom_fourth (hl : enc.Lawful) {v : ℕ} (hv : v < 64) {dbuf : List ℕ}
    (hfull : dbuf.length = 3) (si : ℕ) (rest : Bytes) :
    enc.decodeFrom si dbuf (enc.alphabet.getD v 0 :: rest) =
      (enc.decodeFrom (si + 1) [] rest).map (quantum (dbuf ++ [v]) ++ ·) := by
  rw [decodeFrom, decodeMap_digit hl hv]
  refine (if_pos hfull).trans ?_
  cases enc.decodeFrom (si + 1) [] rest with
  | error e => rfl
  | ok decoded => rfl

theorem decodeFrom_pad (hl : enc.Lawful) {pad : UInt8} (hpad : enc.padChar = some pad) (si : ℕ)
    (dbuf : List ℕ) (rest : Bytes) :
    enc.decodeFrom si dbuf (pad :: rest) = padding pad dbuf (si + 1) rest := by
  have hbreak : ¬ isNewline pad = true := by simp [hl.padBreak pad hpad]
  rw [decodeFrom, hl.decodeMap_filler (.inr hpad)]
  dsimp only
  rw [if_neg hbreak, if_pos hpad]

theorem decodeFrom_four (hl : enc.Lawful) {a b c d : ℕ} (ha : a < 64) (hb : b < 64) (hc : c < 64)
    (hd : d < 64) (si : ℕ) (rest : Bytes) :
    enc.decodeFrom si [] (enc.digits [a, b, c, d] ++ rest) =
      (enc.decodeFrom (si + 4) [] rest).map (quantum [a, b, c, d] ++ ·) := by
  simp only [digits, List.map_cons, List.map_nil, List.cons_append, List.nil_append]
  rw [decodeFrom_digit hl ha (by decide), decodeFrom_digit hl hb (by simp),
    decodeFrom_digit hl hc (by simp), decodeFrom_fourth hl hd (by simp)]
  rfl

theorem decodeFrom_three (hl : enc.Lawful) {a b c : ℕ} (ha : a < 64) (hb : b < 64) (hc : c < 64)
    (si : ℕ) : enc.decodeFrom si [] (enc.digits [a, b, c] ++ enc.pads 1) = .ok (quantum [a, b, c]) := by
  simp only [digits, List.map_cons, List.map_nil, List.cons_append, List.nil_append]
  rw [decodeFrom_digit hl ha (by decide), decodeFrom_digit hl hb (by simp),
    decodeFrom_digit hl hc (by simp)]
  cases hpad : enc.padChar with
  | none => simp [pads, hpad, decodeFrom]
  | some pad => simp [pads, hpad, decodeFrom_pad hl hpad, padding]

theorem decodeFrom_two (hl : enc.Lawful) {a b : ℕ} (ha : a < 64) (hb : b < 64) (si : ℕ) :
    enc.decodeFrom si [] (enc.digits [a, b] ++ enc.pads 2) = .ok (quantum [a, b]) := by
  simp only [digits, List.map_cons, List.map_nil, List.cons_append, List.nil_append]
  rw [decodeFrom_digit hl ha (by decide), decodeFrom_digit hl hb (by simp)]
  cases hpad : enc.padChar with
  | none => simp [pads, hpad, decodeFrom]
  | some pad =>
    simp [pads, hpad, decodeFrom_pad hl hpad, padding, hl.padBreak pad hpad, List.replicate]

theorem ofNat_eq_of_mod {n : ℕ} {b : UInt8} (h : n % 256 = b.toNat) : UInt8.ofNat n = b := by
  apply UInt8.toNat_inj.mp
  rw [UInt8.toNat_ofNat']
  exact h

theorem quantum_four {val : ℕ} {a b c : UInt8}
    (hval : val = a.toNat * 65536 + b.toNat * 256 + c.toNat) :
    quantum [val / 262144, val / 4096 % 64, val / 64 % 64, val % 64] = [a, b, c] := by
  have ha := a.toNat_lt
  have hb := b.toNat_lt
  have hc := c.toNat_lt
  have hwhole : val / 262144 * 262144 + val / 4096 % 64 * 4096 + val / 64 % 64 * 64 + val % 64 = val := by
    omega
  simp only [quantum, List.getD_cons_zero, List.getD_cons_succ, hwhole]
  simp only [List.length_cons, List.length_nil, List.take_succ_cons, List.take_zero]
  rw [ofNat_eq_of_mod (b := a) (by omega), ofNat_eq_of_mod (b := b) (by omega),
    ofNat_eq_of_mod (b := c) (by omega)]

theorem quantum_three {val : ℕ} {a b : UInt8} (hval : val = a.toNat * 65536 + b.toNat * 256) :
    quantum [val / 262144, val / 4096 % 64, val / 64 % 64] = [a, b] := by
  have ha := a.toNat_lt
  have hb := b.toNat_lt
  have hwhole : val / 262144 * 262144 + val / 4096 % 64 * 4096 + val / 64 % 64 * 64 + 0 = val := by
    omega
  simp only [quantum, List.getD_cons_zero, List.getD_cons_succ, List.getD_nil, hwhole]
  simp only [List.length_cons, List.length_nil, List.take_succ_cons, List.take_zero]
  rw [ofNat_eq_of_mod (b := a) (by omega), ofNat_eq_of_mod (b := b) (by omega)]

theorem quantum_two {val : ℕ} {a : UInt8} (hval : val = a.toNat * 65536) :
    quantum [val / 262144, val / 4096 % 64] = [a] := by
  have ha := a.toNat_lt
  have hwhole : val / 262144 * 262144 + val / 4096 % 64 * 4096 + 0 * 64 + 0 = val := by
    omega
  simp only [quantum, List.getD_cons_zero, List.getD_cons_succ, List.getD_nil, hwhole]
  simp only [List.length_cons, List.length_nil, List.take_succ_cons, List.take_zero]
  rw [ofNat_eq_of_mod (b := a) (by omega)]

theorem decodeFrom_encodeToString (hl : enc.Lawful) (b : Bytes) (si : ℕ) :
    enc.decodeFrom si [] (enc.encodeToString b) = .ok b := by
  fun_induction encodeToString enc b generalizing si with
  | case1 a b c rest val ih =>
    have ha := a.toNat_lt
    have hb := b.toNat_lt
    have hc := c.toNat_lt
    have hval : val = a.toNat * 65536 + b.toNat * 256 + c.toNat := rfl
    rw [decodeFrom_four hl (by omega) (by omega) (by omega) (by omega), ih, quantum_four hval]
    rfl
  | case2 a b val =>
    have ha := a.toNat_lt
    have hb := b.toNat_lt
    have hval : val = a.toNat * 65536 + b.toNat * 256 := rfl
    rw [decodeFrom_three hl (by omega) (by omega) (by omega), quantum_three hval]
  | case3 a val =>
    have ha := a.toNat_lt
    have hval : val = a.toNat * 65536 := rfl
    rw [decodeFrom_two hl (by omega) (by omega), quantum_two hval]
  | case4 => rfl

theorem decodeString_encodeToString (hl : enc.Lawful) (b : Bytes) :
    enc.decodeString (enc.encodeToString b) = .ok b :=
  decodeFrom_encodeToString hl b 0

end RoundTrip

end FoloXray.Foundation.Base64
