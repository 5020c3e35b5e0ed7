import FoloXray.Buffers.Buffer
import FoloXray.Foundation.Codec
import FoloXray.Protocol.Headers

/-! # The body of a VMess connection

`common/crypto` and `proxy/vmess/encoding`: the body is cut into chunks, each sealed with a nonce of its
own, behind its size and in front of some padding.  The sizes are masked by a stream of numbers, out of
which the lengths of the paddings are drawn as well, or sealed themselves; so both sides have to draw in
step.  A chunk with nothing in it is the end.  The ciphers and the stream are parameters.
-/

namespace FoloXray.Vmess

open Foundation Buffers
open Protocol (TransferType)

/-- `cipher.AEAD` for one key, with the additional data of VMess, which is empty. -/
structure Aead where
  nonceSize : ℕ
  overhead : ℕ
  encrypt : (nonce text : Bytes) → Bytes
  decrypt : (nonce sealed : Bytes) → Option Bytes
  overhead_le : overhead ≤ 16
  length_encrypt : ∀ nonce text, (encrypt nonce text).length = text.length + overhead
  decrypt_encrypt : ∀ nonce text, decrypt nonce (encrypt nonce text) = some text
  length_decrypt : ∀ nonce sealed text, decrypt nonce sealed = some text →
    text.length + overhead = sealed.length

def noOpAuthenticator : Aead where
  nonceSize := 0
  overhead := 0
  encrypt _ text := text
  decrypt _ sealed := some sealed
  overhead_le := Nat.zero_le _
  length_encrypt _ _ := rfl
  decrypt_encrypt _ _ := rfl
  length_decrypt _ _ _ h := congrArg List.length (Option.some.inj h).symm

/-- The nonce of the chunk with the given number, of which 16 bits are used. -/
def generateChunkNonce (iv : Bytes) (size count : ℕ) : Bytes := (twoBytes count ++ iv.drop 2).take size

inductive SizeParser where
  | plain
  | shake
  | aead
  deriving DecidableEq, Repr

/-- What both sides of one direction of a body share; `mask` are the numbers of the stream. -/
structure Body where
  aead : Aead
  iv : Bytes
  lengthAead : Aead
  lengthIV : Bytes
  mask : ℕ → UInt16
  sizeParser : SizeParser
  globalPadding : Bool

/-- How many masks, nonces for sizes and nonces for chunks have been used. -/
structure Position where
  masks : ℕ
  lengths : ℕ
  chunks : ℕ
  deriving DecidableEq, Repr

namespace Body

variable (k : Body)

def sizeBytes : ℕ :=
  match k.sizeParser with
  | .plain | .shake => 2
  | .aead => 2 + k.lengthAead.overhead

def maxPaddingLen : ℕ := if k.globalPadding then 64 else 0

def nextPaddingLen (p : Position) : ℕ × Position :=
  if k.globalPadding then ((k.mask p.masks).toNat % 64, { p with masks := p.masks + 1 }) else (0, p)

def lengthNonce (p : Position) : Bytes := generateChunkNonce k.lengthIV k.lengthAead.nonceSize p.lengths

def nonce (p : Position) : Bytes := generateChunkNonce k.iv k.aead.nonceSize p.chunks

def encode (p : Position) (size : UInt16) : Bytes × Position :=
  match k.sizeParser with
  | .plain => (twoBytes size.toNat, p)
  | .shake => (twoBytes (k.mask p.masks ^^^ size).toNat, { p with masks := p.masks + 1 })
  | .aead =>
    (k.lengthAead.encrypt (k.lengthNonce p) (twoBytes (size - UInt16.ofNat k.lengthAead.overhead).toNat),
      { p with lengths := p.lengths + 1 })

def uint16 (b : Bytes) : UInt16 := UInt16.ofNat ((b.getD 0 0).toNat * 256 + (b.getD 1 0).toNat)

def decode (p : Position) (b : Bytes) : Option UInt16 × Position :=
  match k.sizeParser with
  | .plain => (some (uint16 b), p)
  | .shake => (some (k.mask p.masks ^^^ uint16 b), { p with masks := p.masks + 1 })
  | .aead =>
    ((k.lengthAead.decrypt (k.lengthNonce p) b).map fun b => uint16 b + UInt16.ofNat k.lengthAead.overhead,
      { p with lengths := p.lengths + 1 })

variable (noise : ℕ → ℕ → UInt8)

/-- `seal`; nothing if the chunk is too large, and then a padding has been drawn all the same.  `noise` are
the random bytes that a chunk is padded with. -/
def sealChunk (p : Position) (b : Bytes) : Option Bytes × Position :=
  let encryptedSize := b.length + k.aead.overhead
  let padding := k.nextPaddingLen p
  if bufSize < k.sizeBytes + encryptedSize + padding.1 then (none, padding.2)
  else
    let size := k.encode padding.2 (UInt16.ofNat (encryptedSize + padding.1))
    (some (size.1 ++ (k.aead.encrypt (k.nonce size.2) b ++ (List.range padding.1).map (noise size.2.chunks))),
      { size.2 with chunks := size.2.chunks + 1 })

def payloadSize : ℕ := bufSize - k.aead.overhead - k.sizeBytes - k.maxPaddingLen

theorem sizeBytes_le : k.sizeBytes ≤ 18 := by
  have := k.lengthAead.overhead_le
  unfold sizeBytes
  split <;> omega

theorem maxPaddingLen_le : k.maxPaddingLen ≤ 64 := by
  unfold maxPaddingLen
  split <;> omega

theorem payloadSize_pos : 0 < k.payloadSize := by
  have hoverhead := k.aead.overhead_le
  have hsize := k.sizeBytes_le
  have hpadding := k.maxPaddingLen_le
  unfold payloadSize bufSize
  omega

/-- The loop of `writeStream`; nothing if a chunk is too large. -/
def writeStream (p : Position) (bytes : Bytes) : Option (List Bytes) × Position :=
  match k.sealChunk noise p (bytes.take k.payloadSize) with
  | (none, p') => (none, p')
  | (some eb, p') =>
    if _hrest : bytes.drop k.payloadSize = [] then (some [eb], p')
    else
      let r := writeStream p' (bytes.drop k.payloadSize)
      (r.1.map (eb :: ·), r.2)
termination_by bytes.length
decreasing_by
  have hpos := k.payloadSize_pos
  have hlength := List.length_pos_of_ne_nil _hrest
  rw [List.length_drop] at hlength ⊢
  omega

/-- `writePacket`; packets that are too large are left out. -/
def writePacket (p : Position) : List Bytes → List Bytes × Position
  | [] => ([], p)
  | b :: mb =>
    if b = [] then writePacket p mb
    else
      match k.sealChunk noise p b with
      | (none, p') => writePacket p' mb
      | (some eb, p') =>
        let r := writePacket p' mb
        (eb :: r.1, r.2)

inductive WriteError where
  | sizeTooLarge
  deriving DecidableEq, Repr

/-- `WriteMultiBuffer`: what is handed on.  Writing nothing writes the end. -/
def writeMultiBuffer (transferType : TransferType) (p : Position) (mb : List Bytes) :
    Outcome WriteError (List Bytes) × Position :=
  if mb.all (· = []) then
    match k.sealChunk noise p [] with
    | (none, p') => (.panicked, p')
    | (some eb, p') => (.ok [eb], p')
  else
    match transferType with
    | .stream =>
      match k.writeStream noise p mb.flatten with
      | (none, p') => (.error .sizeTooLarge, p')
      | (some ebs, p') => (.ok ebs, p')
    | .packet =>
      let r := k.writePacket noise p mb
      (.ok r.1, r.2)

inductive ReadError where
  | read (e : FillError)
  | decrypt
  | waiting
  deriving DecidableEq, Repr

def ReadError.isEOF (e : ReadError) : Bool := e = .read (.read .eof)

/-- The state of a reader; `pending` is a size that has been read ahead, with its padding. -/
structure ReaderState where
  position : Position
  pending : Option (ℕ × ℕ)
  done : Bool
  deriving DecidableEq, Repr

/-- `readSize` without a size that has been read ahead. -/
def readNextSize (p : Position) : Decoder ReadError ((ℕ × ℕ) × Position) := do
  let bytes ← (Decoder.fresh (Decoder.take k.sizeBytes k.sizeBytes)).mapError .read
  let padding := k.nextPaddingLen p
  let size := k.decode padding.2 bytes
  match size.1 with
  | none => .fail .decrypt
  | some v => pure ((v.toNat, padding.1), size.2)

def readSize (st : ReaderState) : Decoder ReadError ((ℕ × ℕ) × Position) :=
  match st.pending with
  | some pending => pure (pending, st.position)
  | none => k.readNextSize st.position

/-- `BytesTo`, where a position that is negative counts from the end. -/
def bytesTo (b : Bytes) (stop : ℤ) : Bytes := b.take (if stop < 0 then stop + b.length else stop).toNat

/-- `Open` on the bytes of a chunk, with its padding taken off. -/
def openChunk (p : Position) (b : Bytes) (padding : ℕ) : Outcome ReadError Bytes :=
  match k.aead.decrypt (k.nonce p) (bytesTo b (b.length - padding)) with
  | none => .error .decrypt
  | some text => .ok text

/-- The rest of a chunk; one that is larger than a buffer is read into a slice. -/
def readChunk (p : Position) (size padding : ℕ) : Decoder ReadError Bytes := do
  let b ← (Decoder.fresh (Decoder.take (max bufSize size) size)).mapError .read
  .lift (k.openChunk p b padding)

inductive Round where
  | chunk (bytes : Bytes) (size : ℕ)
  | waiting
  | eof
  deriving DecidableEq, Repr

/-- `readInternal` behind a size, which has been read just now or earlier. -/
def readBehind (soft : Option (ℕ × ℕ)) (r : (ℕ × ℕ) × Position) :
    Decoder ReadError (Round × ReaderState) := do
  let (size, padding) := r.1
  if size = k.aead.overhead + padding then pure (.eof, ⟨r.2, none, true⟩)
  else if soft.any (·.2 < size) then pure (.waiting, ⟨r.2, some (size, padding), false⟩)
  else do
    match ← (k.readChunk r.2 size padding).untilEnd ReadError.isEOF with
    | none => pure (.eof, ⟨r.2, none, false⟩)
    | some b => pure (.chunk b size, ⟨{ r.2 with chunks := r.2.chunks + 1 }, none, false⟩)

/-- `readInternal`; `soft` is what `BufferedBytes` says at its two calls, if it is asked.  The end of the
connection counts as the end of the body. -/
def readInternal (soft : Option (ℕ × ℕ)) (st : ReaderState) : Decoder ReadError (Round × ReaderState) :=
  if soft.any (·.1 < k.sizeBytes) then pure (.waiting, st)
  else if st.done then pure (.eof, st)
  else do
    match ← (k.readSize st).untilEnd ReadError.isEOF with
    | none => pure (.eof, st)
    | some r => k.readBehind soft r

def buffersOf (b : Bytes) : List Bytes :=
  if _h : b = [] then [] else b.take bufSize :: buffersOf (b.drop bufSize)
termination_by b.length
decreasing_by
  have hlength := List.length_pos_of_ne_nil _h
  rw [List.length_drop, bufSize]
  omega

/-- `MergeBytes`: the last buffer is filled up first. -/
def mergeBytes (dest : List Bytes) (src : Bytes) : List Bytes :=
  match dest.getLast? with
  | none => buffersOf src
  | some last =>
    dest.dropLast ++ (last ++ src.take (bufSize - last.length)) ::
      buffersOf (src.drop (bufSize - last.length))

def addChunk (mb : List Bytes) (b : Bytes) (size : ℕ) : List Bytes :=
  if size ≤ bufSize then mb ++ [b] else mergeBytes mb b

/-- The chunks that are read for as long as `BufferedBytes` says that they have come. -/
def readSoft : List (ℕ × ℕ) → ReaderState → List Bytes → Decoder ReadError (List Bytes × ReaderState)
  | [], st, mb => pure (mb, st)
  | soft :: softs, st, mb => do
    let r ← k.readInternal (some soft) st
    match r.1 with
    | .chunk b size => readSoft softs r.2 (addChunk mb b size)
    | .waiting | .eof => pure (mb, r.2)

/-- `ReadMultiBuffer`; nothing at the end of file. -/
def readMultiBuffer (softs : List (ℕ × ℕ)) (st : ReaderState) :
    Decoder ReadError (Option (List Bytes) × ReaderState) := do
  let r ← k.readInternal none st
  match r.1 with
  | .chunk b size => do
    let r' ← k.readSoft (softs.take 15) r.2 (addChunk [] b size)
    pure (some r'.1, r'.2)
  | .waiting => .fail .waiting
  | .eof => pure (none, r.2)

/-- `ReadMultiBuffer` call by call until the end of file; the buffers of all calls, and whether the end
has been met. -/
def readAll : List (List (ℕ × ℕ)) → ReaderState → Decoder ReadError (List Bytes × Bool)
  | [], _ => pure ([], false)
  | softs :: calls, st => do
    let r ← k.readMultiBuffer softs st
    match r.1 with
    | none => pure ([], true)
    | some mb => do
      let r' ← readAll calls r.2
      pure (mb ++ r'.1, r'.2)

end Body

end FoloXray.Vmess
