import FoloXray.Vision.Traffic

/-! # The reader of Vision

`XtlsUnpadding` and `VisionReader` of `proxy/proxy.go`.  A buffer can end anywhere in a block, so the
counters of the block are kept from one buffer to the next.
-/

namespace FoloXray.Vision

open Foundation Buffers

/-- `Advance`, for which a negative number counts from the end. -/
def advance (b : Bytes) (n : ℤ) : Bytes := b.drop (if n < 0 then n + b.length else n).toNat

/-- One round of the loop of `XtlsUnpadding` up to the end of a block: a command byte, as much content as
there is, or as much padding. -/
def unpadRound (data : UInt8) (rest : Bytes) (newbuffer : Buffer) (s : Unpadder) :
    Bytes × Buffer × Unpadder :=
  let b := data :: rest
  if 0 < s.remainingCommand then (rest, newbuffer, s.command data)
  else if 0 < s.remainingContent then
    let len := min s.remainingContent b.length
    (b.drop len.toNat, newbuffer.write (b.take len.toNat),
      { s with remainingContent := s.remainingContent - len })
  else
    let len := min s.remainingPadding b.length
    (advance b len, newbuffer, { s with remainingPadding := s.remainingPadding - len })

/-- The loop of `XtlsUnpadding`; nothing if the fuel is used up. -/
def unpadLoop : ℕ → Bytes → Buffer → Unpadder → Option (Buffer × Unpadder)
  | 0, _, _, _ => none
  | _ + 1, [], newbuffer, s => some (newbuffer, s)
  | fuel + 1, data :: rest, newbuffer, s =>
    let (b, newbuffer, s) := unpadRound data rest newbuffer s
    if s.blockDone then
      if s.currentCommand = commandPaddingContinue then unpadLoop fuel b newbuffer s.nextBlock
      else some (newbuffer.write b, s.nextBlock)
    else unpadLoop fuel b newbuffer s

def opens (userUUID b : Bytes) : Bool := decide (21 ≤ b.length) && userUUID == b.take 16

def xtlsUnpadding (storage : Storage) (userUUID : Bytes) (b : Buffer) (s : Unpadder) :
    Option (Buffer × Unpadder) :=
  if s.isInitial then
    if opens userUUID b.bytes then
      unpadLoop (b.bytes.length + 1) (b.bytes.drop 16) (.new storage) { s with remainingCommand := 5 }
    else some (b, s)
  else unpadLoop (b.bytes.length + 1) b.bytes (.new storage) s

structure VisionReader where
  userUUID : Bytes
  filter : Filter
  withinPaddingBuffers : Bool
  readerSwitchToDirectCopy : Bool
  unpadder : Unpadder
  deriving DecidableEq, Repr

def newVisionReader (ts : TrafficState) : VisionReader where
  userUUID := ts.userUUID
  filter := ts.filter
  withinPaddingBuffers := ts.withinPaddingBuffers
  readerSwitchToDirectCopy := ts.readerSwitchToDirectCopy
  unpadder := ts.unpadder

namespace VisionReader

/-- The loop over the buffers of one read; what comes out empty is left out. -/
def unpadAll (userUUID : Bytes) (fresh : ℕ → Storage) :
    ℕ → Unpadder → List Buffer → Option (List Buffer × Unpadder)
  | _, s, [] => some ([], s)
  | i, s, b :: bs => do
    let (nb, s') ← xtlsUnpadding (fresh i) userUUID b s
    let (nbs, s'') ← unpadAll userUUID fresh (i + 1) s' bs
    some (if 0 < nb.bytes.length then nb :: nbs else nbs, s'')

/-- Where the counters stand behind the buffers decides whether the next read is still padded. -/
def setFlags (r : VisionReader) : VisionReader :=
  if 0 < r.unpadder.remainingContent || 0 < r.unpadder.remainingPadding ||
      r.unpadder.currentCommand == commandPaddingContinue then
    { r with withinPaddingBuffers := true }
  else if r.unpadder.currentCommand = commandPaddingEnd then { r with withinPaddingBuffers := false }
  else if r.unpadder.currentCommand = commandPaddingDirect then
    { r with withinPaddingBuffers := false, readerSwitchToDirectCopy := true }
  else r

/-- The first half of `ReadMultiBuffer`, on buffers that are not all empty. -/
def unpad (fresh : ℕ → Storage) (r : VisionReader) (mb : List Buffer) :
    Option (List Buffer × VisionReader) :=
  if r.withinPaddingBuffers || 0 < r.filter.numberOfPacketToFilter then
    (unpadAll r.userUUID fresh 0 r.unpadder mb).map fun (mb', s) =>
      (mb', { r with unpadder := s }.setFlags)
  else some (mb, r)

/-- `ReadMultiBuffer` on what the reader below gives; an error of that reader goes with it. -/
def readMultiBuffer (fresh : ℕ → Storage) (r : VisionReader) (mb : List Buffer) :
    Option (List Buffer × VisionReader) :=
  if mb.all fun b => b.bytes.isEmpty then some (mb, r)
  else
    (r.unpad fresh mb).bind fun (mb', r') =>
      (r'.filter.filterTraffic (mb'.map some)).map fun f => (mb', { r' with filter := f })

end VisionReader

end FoloXray.Vision
