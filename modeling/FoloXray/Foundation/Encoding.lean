import FoloXray.Foundation.Address
import FoloXray.Foundation.Slice

/-! # Hexadecimal and base64 text

Hexadecimal digits are decoded in pairs into a destination of limited room.  Base64 is decoded
without the strict check of trailing bits: line breaks are skipped, padding is required or refused
as the encoding says, and an error names the offset of the offending byte.
-/

namespace FoloXray.Foundation

inductive HexError where
  | invalidByte (b : UInt8)
  | oddLength
  deriving DecidableEq, Repr

/-- Decode pairs of digits into a destination of `room` bytes. -/
def hexDecode : (room : ℕ) → Bytes → Outcome HexError Bytes
  | room, p :: q :: rest =>
    match hexDigit p, hexDigit q with
    | none, _ => .error (.invalidByte p)
    | some _, none => .error (.invalidByte q)
    | some a, some b =>
      match room with
      | 0 => .panicked
      | room + 1 => do
        let decoded ← hexDecode room rest
        pure (UInt8.ofNat (a * 16 + b) :: decoded)
  | _, [p] => .error (if hexDigit p = none then .invalidByte p else .oddLength)
  | _, [] => .ok []

def hexDecodeString (s : Bytes) : Outcome HexError Bytes := hexDecode s.length s

def hexEncodeDigit (n : ℕ) : UInt8 := UInt8.ofNat (if n < 10 then 0x30 + n else 0x57 + n)

def hexEncodeToString (bytes : Bytes) : Bytes :=
  bytes.flatMap fun b => [hexEncodeDigit (b.toNat / 16), hexEncodeDigit (b.toNat % 16)]

def AllHex (s : Bytes) : Prop := ∀ c ∈ s, hexDigit c ≠ none

instance : DecidablePred AllHex := fun s => inferInstanceAs (Decidable (∀ c ∈ s, hexDigit c ≠ none))

/-- With room for half of its digits a decoding never fails a run-time check. -/
theorem hexDecode_ne_panicked {room : ℕ} {s : Bytes} (h : s.length ≤ 2 * room) :
    hexDecode room s ≠ .panicked := by
  fun_induction hexDecode room s with
  | case3 => simp at h
  | case4 p q rest a b hb ha room ih =>
    refine Outcome.bind_ne_panicked (ih ?_) fun _ _ => nofun
    simp only [List.length_cons] at h
    omega
  | _ => simp

theorem hexDecodeString_ne_panicked (s : Bytes) : hexDecodeString s ≠ .panicked :=
  hexDecode_ne_panicked (by omega)

theorem allHex_cons {c : UInt8} {s : Bytes} : AllHex (c :: s) ↔ hexDigit c ≠ none ∧ AllHex s :=
  List.forall_mem_cons

theorem hexDecode_eq_ok {room : ℕ} {s decoded : Bytes} (h : hexDecode room s = .ok decoded) :
    AllHex s ∧ s.length = 2 * decoded.length := by
  fun_induction hexDecode room s generalizing decoded with
  | case4 p q rest a b hb ha room ih =>
    obtain ⟨more, hmore, hd⟩ := Outcome.bind_eq_ok_iff.mp h
    obtain ⟨hall, hlen⟩ := ih hmore
    cases hd
    constructor
    · simp [allHex_cons, ha, hb, hall]
    · simp only [List.length_cons, hlen]
      omega
  | case6 => cases h; simp [AllHex]
  | _ => simp at h

theorem exists_hexDecode {room : ℕ} {s : Bytes} (hall : AllHex s) (hlen : s.length = 2 * room) :
    ∃ decoded, hexDecode room s = .ok decoded := by
  fun_induction hexDecode room s with
  | case1 room p q rest hp => exact absurd hp (allHex_cons.mp hall).1
  | case2 room p q rest a hq hp => exact absurd hq (allHex_cons.mp (allHex_cons.mp hall).2).1
  | case3 => simp at hlen
  | case4 p q rest a b hb ha room ih =>
    simp only [List.length_cons] at hlen
    obtain ⟨more, hmore⟩ := ih (allHex_cons.mp (allHex_cons.mp hall).2).2 (by omega)
    exact ⟨_, by rw [hmore]; rfl⟩
  | case5 => simp at hlen; omega
  | case6 => exact ⟨[], rfl⟩

theorem exists_hexDecode_error {room : ℕ} {s : Bytes} (hall : ¬AllHex s)
    (hlen : s.length ≤ 2 * room) : ∃ e, hexDecode room s = .error e := by
  cases h : hexDecode room s with
  | ok decoded => exact absurd (hexDecode_eq_ok h).1 hall
  | error e => exact ⟨e, rfl⟩
  | panicked => exact absurd h (hexDecode_ne_panicked hlen)

/-- A base64 alphabet, in the order of its values, and the padding byte if there is one. -/
structure Base64 where
  alphabet : Bytes
  padChar : Option UInt8
  deriving DecidableEq, Repr

namespace Base64

def stdAlphabet : Bytes :=
  goString "ABCDEFGHIJKLMNOPQRSTUVWXYZabcdefghijklmnopqrstuvwxyz0123456789+/"

def urlAlphabet : Bytes :=
  goString "ABCDEFGHIJKLMNOPQRSTUVWXYZabcdefghijklmnopqrstuvwxyz0123456789-_"

def equalsSign : UInt8 := 0x3d

def stdEncoding : Base64 := ⟨stdAlphabet, some equalsSign⟩
def urlEncoding : Base64 := ⟨urlAlphabet, some equalsSign⟩
def rawStdEncoding : Base64 := ⟨stdAlphabet, none⟩
def rawURLEncoding : Base64 := ⟨urlAlphabet, none⟩

abbrev CorruptInputError := ℕ

def isNewline (c : UInt8) : Bool := c == 0x0a || c == 0x0d

def decodeMap (enc : Base64) (c : UInt8) : Option ℕ := enc.alphabet.idxOf? c

/-- The bytes of a quantum of two, three or four six-bit values. -/
def quantum (dbuf : List ℕ) : Bytes :=
  let val := dbuf.getD 0 0 * 262144 + dbuf.getD 1 0 * 4096 + dbuf.getD 2 0 * 64 + dbuf.getD 3 0
  [UInt8.ofNat (val / 65536), UInt8.ofNat (val / 256), UInt8.ofNat val].take (dbuf.length - 1)

/-- What follows the first padding byte of the last quantum, at offset `si`: a second padding byte
if the quantum has only two values, and nothing else but line breaks. -/
def padding (pad : UInt8) (dbuf : List ℕ) (si : ℕ) (src : Bytes) :
    Except CorruptInputError Bytes :=
  let breaks := (src.takeWhile isNewline).length
  match dbuf.length with
  | 2 =>
    match src.drop breaks with
    | [] => .error (si + breaks)
    | c :: rest =>
      if c ≠ pad then .error (si + breaks - 1)
      else
        let more := (rest.takeWhile isNewline).length
        if rest.drop more = [] then .ok (quantum dbuf) else .error (si + breaks + 1 + more)
  | 3 => if src.drop breaks = [] then .ok (quantum dbuf) else .error (si + breaks)
  | _ => .error (si - 1)

/-- Decode from offset `si` on, with the values `dbuf` of the current quantum already read. -/
def decodeFrom (enc : Base64) : (si : ℕ) → (dbuf : List ℕ) → Bytes → Except CorruptInputError Bytes
  | si, dbuf, [] =>
    if dbuf = [] then .ok []
    else if dbuf.length = 1 ∨ enc.padChar ≠ none then .error (si - dbuf.length)
    else .ok (quantum dbuf)
  | si, dbuf, c :: rest =>
    match enc.decodeMap c with
    | some v =>
      if dbuf.length = 3 then do
        let decoded ← decodeFrom enc (si + 1) [] rest
        pure (quantum (dbuf ++ [v]) ++ decoded)
      else decodeFrom enc (si + 1) (dbuf ++ [v]) rest
    | none =>
      if isNewline c then decodeFrom enc (si + 1) dbuf rest
      else if enc.padChar = some c then padding c dbuf (si + 1) rest
      else .error si

def decodeString (enc : Base64) (s : Bytes) : Except CorruptInputError Bytes := decodeFrom enc 0 [] s

end Base64

end FoloXray.Foundation
