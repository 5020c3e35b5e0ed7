import FoloXray.Foundation.Stream

/-! # The SHA-1 digest

The message is padded to whole blocks of sixty-four bytes and folded, block by block, into five
32-bit words.
-/

namespace FoloXray.Foundation.SHA1

structure Words where
  a : UInt32
  b : UInt32
  c : UInt32
  d : UInt32
  e : UInt32
  deriving DecidableEq, Repr

def initial : Words := ⟨0x67452301, 0xefcdab89, 0x98badcfe, 0x10325476, 0xc3d2e1f0⟩

def rotateLeft (x n : UInt32) : UInt32 := x <<< n ||| x >>> (32 - n)

/-- The big-endian bytes of a number, `n` of them. -/
def bigEndian (n value : ℕ) : Bytes :=
  (List.range n).map fun i => UInt8.ofNat (value / 256 ^ (n - 1 - i))

def word (bytes : Bytes) : UInt32 := bytes.foldl (fun acc x => acc <<< 8 ||| x.toUInt32) 0

/-- A set bit, zeros up to the length field, and the length of the message in bits. -/
def pad (m : Bytes) : Bytes :=
  m ++ [0x80] ++ List.replicate ((119 - m.length % 64) % 64) 0 ++ bigEndian 8 (8 * m.length)

/-- Append `n` words to a message schedule whose newest word comes first. -/
def extendSchedule : ℕ → List UInt32 → List UInt32
  | 0, w => w
  | n + 1, w =>
    extendSchedule n
      (rotateLeft (w.getD 2 0 ^^^ w.getD 7 0 ^^^ w.getD 13 0 ^^^ w.getD 15 0) 1 :: w)

def schedule (block : Bytes) : List UInt32 :=
  (extendSchedule 64 ((List.range 16).map fun t => word ((block.drop (4 * t)).take 4)).reverse).reverse

/-- The mixing function and the constant of round `t`. -/
def mix (t : ℕ) (s : Words) : UInt32 × UInt32 :=
  if t < 20 then (s.b &&& s.c ||| ~~~s.b &&& s.d, 0x5a827999)
  else if t < 40 then (s.b ^^^ s.c ^^^ s.d, 0x6ed9eba1)
  else if t < 60 then ((s.b ||| s.c) &&& s.d ||| s.b &&& s.c, 0x8f1bbcdc)
  else (s.b ^^^ s.c ^^^ s.d, 0xca62c1d6)

def rounds : ℕ → List UInt32 → Words → Words
  | _, [], s => s
  | t, w :: ws, s =>
    let (f, k) := mix t s
    rounds (t + 1) ws ⟨rotateLeft s.a 5 + f + s.e + w + k, s.a, rotateLeft s.b 30, s.c, s.d⟩

def compress (s : Words) (block : Bytes) : Words :=
  let t := rounds 0 (schedule block) s
  ⟨s.a + t.a, s.b + t.b, s.c + t.c, s.d + t.d, s.e + t.e⟩

/-- Fold the first `n` blocks of the padded message. -/
def blocks : ℕ → Bytes → Words → Words
  | 0, _, s => s
  | n + 1, m, s => blocks n (m.drop 64) (compress s (m.take 64))

def sum (m : Bytes) : Bytes :=
  let s := blocks ((pad m).length / 64) (pad m) initial
  [s.a, s.b, s.c, s.d, s.e].flatMap fun x => bigEndian 4 x.toNat

theorem length_bigEndian (n value : ℕ) : (bigEndian n value).length = n := by
  simp [bigEndian]

theorem length_sum (m : Bytes) : (sum m).length = 20 := by
  simp [sum, length_bigEndian]

example : sum [0x61, 0x62, 0x63] =
    [0xa9, 0x99, 0x3e, 0x36, 0x47, 0x06, 0x81, 0x6a, 0xba, 0x3e, 0x25, 0x71, 0x78, 0x50, 0xc2,
      0x6c, 0x9c, 0xd0, 0xd8, 0x9d] := by decide +kernel

end FoloXray.Foundation.SHA1
