import FoloXray.Vmess.Header

/-! # A suite of ciphers

The ciphers of VMess put a text under a key stream and a tag behind it; the block cipher is invertible.
Here are both, made out of any hash: the laws that a suite asks for hold of this construction.
-/

namespace FoloXray.Vmess

open Foundation

def xorStream (stream : ℕ → UInt8) (text : Bytes) : Bytes := text.mapIdx fun i c => c ^^^ stream i

theorem length_xorStream (stream : ℕ → UInt8) (text : Bytes) : (xorStream stream text).length = text.length :=
  List.length_mapIdx

theorem xorStream_xorStream (stream : ℕ → UInt8) (text : Bytes) :
    xorStream stream (xorStream stream text) = text := by
  apply List.ext_getElem
  · rw [length_xorStream, length_xorStream]
  · intro i h h'
    simp only [xorStream, List.getElem_mapIdx, UInt8.xor_assoc, UInt8.xor_self, UInt8.xor_zero]

/-- A cipher with a key stream for each nonce and a tag over what is sent. -/
def streamAead (stream : (nonce : Bytes) → ℕ → UInt8) (tag : (nonce text : Bytes) → Bytes)
    (length_tag : ∀ nonce text, (tag nonce text).length = 16) : Aead where
  nonceSize := 12
  overhead := 16
  encrypt nonce text := xorStream (stream nonce) text ++ tag nonce (xorStream (stream nonce) text)
  decrypt nonce sealed :=
    if 16 ≤ sealed.length ∧
        sealed.drop (sealed.length - 16) = tag nonce (sealed.take (sealed.length - 16)) then
      some (xorStream (stream nonce) (sealed.take (sealed.length - 16)))
    else none
  overhead_le := le_rfl
  length_encrypt nonce text := by rw [List.length_append, length_xorStream, length_tag]
  decrypt_encrypt nonce text := by
    have hlen : (xorStream (stream nonce) text ++ tag nonce (xorStream (stream nonce) text)).length =
        (xorStream (stream nonce) text).length + 16 := by
      rw [List.length_append, length_tag]
    rw [hlen, Nat.add_sub_cancel, List.drop_left, List.take_left, if_pos ⟨Nat.le_add_left _ _, rfl⟩,
      xorStream_xorStream]
  length_decrypt nonce sealed text h := by
    split at h
    · rename_i hcond
      rw [← Option.some.inj h, length_xorStream, List.length_take]
      omega
    · cases h

def feistelRound (f : Bytes → Bytes) (x : Bytes × Bytes) : Bytes × Bytes :=
  (x.2, x.1.zipWith (· ^^^ ·) (f x.2))

def feistelUndo (f : Bytes → Bytes) (x : Bytes × Bytes) : Bytes × Bytes :=
  (x.2.zipWith (· ^^^ ·) (f x.1), x.1)

section Feistel

variable {f : Bytes → Bytes} {n : ℕ} {x : Bytes × Bytes}

def Halved (n : ℕ) (x : Bytes × Bytes) : Prop := x.1.length = n ∧ x.2.length = n

theorem halved_feistelRound (hf : ∀ b, (f b).length = n) (hx : Halved n x) : Halved n (feistelRound f x) := by
  refine ⟨hx.2, ?_⟩
  rw [feistelRound, List.length_zipWith, hf, hx.1, Nat.min_self]

theorem feistelUndo_feistelRound (hf : ∀ b, (f b).length = n) (hx : Halved n x) :
    feistelUndo f (feistelRound f x) = x := by
  refine Prod.ext ?_ rfl
  apply List.ext_getElem
  · simp only [feistelUndo, feistelRound, List.length_zipWith, hf, hx.1, Nat.min_self]
  · intro i h h'
    simp only [feistelUndo, feistelRound, List.getElem_zipWith, UInt8.xor_assoc, UInt8.xor_self,
      UInt8.xor_zero]

theorem foldr_feistelUndo {fs : List (Bytes → Bytes)} (hfs : ∀ f ∈ fs, ∀ b, (f b).length = n)
    (hx : Halved n x) : fs.foldr feistelUndo (fs.foldl (fun x f => feistelRound f x) x) = x := by
  induction fs generalizing x with
  | nil => rfl
  | cons f fs ih =>
    obtain ⟨hf, hfs⟩ := List.forall_mem_cons.mp hfs
    rw [List.foldl_cons, List.foldr_cons, ih hfs (halved_feistelRound hf hx),
      feistelUndo_feistelRound hf hx]

theorem halved_foldl {fs : List (Bytes → Bytes)} (hfs : ∀ f ∈ fs, ∀ b, (f b).length = n)
    (hx : Halved n x) : Halved n (fs.foldl (fun x f => feistelRound f x) x) := by
  induction fs generalizing x with
  | nil => exact hx
  | cons f fs ih =>
    obtain ⟨hf, hfs⟩ := List.forall_mem_cons.mp hfs
    exact ih hfs (halved_feistelRound hf hx)

end Feistel

def digest (n : ℕ) (b : Bytes) : Bytes := (List.range n).map fun i => (fnv1a (UInt8.ofNat i :: b)).toUInt8

theorem length_digest (n : ℕ) (b : Bytes) : (digest n b).length = n := by
  rw [digest, List.length_map, List.length_range]

def hashAead (key additional : Bytes) : Aead :=
  streamAead (fun nonce i => (fnv1a (key ++ nonce ++ numberBytes 4 i)).toUInt8)
    (fun nonce text => digest 16 (key ++ additional ++ nonce ++ text)) fun _ _ => length_digest 16 _

def hashRounds (key : Bytes) : List (Bytes → Bytes) :=
  (List.range 4).map fun i b => digest 8 (UInt8.ofNat i :: (key ++ b))

theorem length_hashRounds (key : Bytes) : ∀ f ∈ hashRounds key, ∀ b, (f b).length = 8 := by
  intro f hf b
  obtain ⟨i, -, rfl⟩ := List.mem_map.mp hf
  exact length_digest 8 _

/-- The two halves of a block, which is filled up if it is too short. -/
def halves (block : Bytes) : Bytes × Bytes :=
  ((block ++ List.replicate 16 0).take 8, ((block ++ List.replicate 16 0).drop 8).take 8)

theorem halved_halves (block : Bytes) : Halved 8 (halves block) := by
  simp only [Halved, halves, List.length_take, List.length_drop, List.length_append, List.length_replicate]
  omega

theorem halves_append {a b : Bytes} (ha : a.length = 8) (hb : b.length = 8) : halves (a ++ b) = (a, b) := by
  rw [halves, List.append_assoc, List.take_left' ha, List.drop_left' ha, List.take_left' hb]

def hashSuite : Suite where
  gcm := hashAead
  chacha key := hashAead key []
  kdf key path := path.foldl (fun k salt => digest 32 (salt ++ k)) key
  sha256 := digest 32
  md5 := digest 16
  shake nonce n := UInt16.ofNat (fnv1a (nonce ++ numberBytes 4 n)).toNat
  crc32 := fnv1a
  encryptBlock key block :=
    let x := (hashRounds key).foldl (fun x f => feistelRound f x) (halves block)
    x.1 ++ x.2
  decryptBlock key block :=
    let x := (hashRounds key).foldr feistelUndo (halves block)
    x.1 ++ x.2
  gcm_overhead _ _ := rfl
  length_encryptBlock key block := by
    have hx := halved_foldl (length_hashRounds key) (halved_halves block)
    rw [List.length_append, hx.1, hx.2]
  decryptBlock_encryptBlock key block h := by
    have hx := halved_foldl (length_hashRounds key) (halved_halves block)
    dsimp only
    rw [halves_append hx.1 hx.2, Prod.mk.eta, foldr_feistelUndo (length_hashRounds key) (halved_halves block)]
    have hblock : block = block.take 8 ++ block.drop 8 := (List.take_append_drop 8 block).symm
    rw [hblock, halves_append (by rw [List.length_take]; omega) (by rw [List.length_drop]; omega)]

end FoloXray.Vmess
