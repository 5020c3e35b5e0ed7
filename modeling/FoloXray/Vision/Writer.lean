import FoloXray.Vision.Traffic

/-! # The writer of Vision

`XtlsPadding`, `ReshapeMultiBuffer` and `VisionWriter` of `proxy/proxy.go`.  What is random in them, and
what the pool puts into a new buffer, is given from outside.
-/

namespace FoloXray.Vision

open Foundation Buffers

/-- What one call of `XtlsPadding` takes from outside: its two random numbers, of which it uses one, and
the storage of the new buffer. -/
structure Chance where
  long : Fin 500
  short : Fin 256
  storage : Storage

/-- The length of the padding, cut so that the block with the identifier fits in a buffer. -/
def paddingLength (chance : Chance) (contentLen : ℤ) (longPadding : Bool) : ℤ :=
  min (if contentLen < 900 && longPadding then chance.long.val + 900 - contentLen else chance.short.val)
    ((bufSize : ℤ) - 21 - contentLen)

/-- `XtlsPadding`; nothing if it panics.  The identifier is the caller's to forget. -/
def xtlsPadding (chance : Chance) (b : Option Buffer) (command : UInt8) (userUUID : Bytes)
    (longPadding : Bool) : Option Buffer :=
  let contentLen := entryLen b
  let paddingLen := paddingLength chance contentLen longPadding
  let newbuffer := (Buffer.new chance.storage).write userUUID
  let newbuffer := newbuffer.write (command :: (twoBytes contentLen ++ twoBytes paddingLen.toNat))
  let newbuffer := newbuffer.write (entryBytes b)
  newbuffer.extend paddingLen

def lastIndex (sep s : Bytes) : Option ℕ :=
  ((List.range (s.length + 1)).filter fun i => sep.isPrefixOf (s.drop i)).getLast?

/-- Where a buffer that is too long is cut: before its last TLS record if that stands well inside, and in
the middle otherwise. -/
def reshapeIndex (content : Bytes) : ℕ :=
  match lastIndex tlsApplicationDataStart content with
  | some i => if i < 21 ∨ bufSize - 21 < i then bufSize / 2 else i
  | none => bufSize / 2

def reshapeEntry (storage : Storage) : Option Buffer → MultiBuffer
  | none => [none]
  | some b =>
    if bufSize - 21 ≤ b.bytes.length then
      let i := reshapeIndex b.bytes
      [some ⟨b.bytes.take i, b.bytes.drop i ++ b.spare⟩, some ((Buffer.new storage).write (b.bytes.drop i))]
    else [some b]

/-- `ReshapeMultiBuffer`; without a buffer that is too long the loop is not entered, and would give the
same buffers. -/
def reshapeMultiBuffer (fresh : ℕ → Storage) (mb : MultiBuffer) : MultiBuffer :=
  if mb.all fun b => entryLen b < bufSize - 21 then mb
  else (mb.zipIdx.map fun (b, i) => reshapeEntry (fresh i) b).flatten

/-- The fields of `VisionWriter`, with those of the traffic state that it writes. -/
structure VisionWriter where
  filter : Filter
  isPadding : Bool
  writerSwitchToDirectCopy : Bool
  writeOnceUserUUID : Bytes
  deriving DecidableEq, Repr

def newVisionWriter (ts : TrafficState) : VisionWriter where
  filter := ts.filter
  isPadding := ts.isPadding
  writerSwitchToDirectCopy := ts.writerSwitchToDirectCopy
  writeOnceUserUUID := ts.userUUID

namespace VisionWriter

def lastCommand (f : Filter) : UInt8 :=
  if f.enableXtls then commandPaddingDirect else commandPaddingEnd

def isApplicationData (f : Filter) (b : Option Buffer) : Bool :=
  f.isTLS && decide (6 ≤ entryLen b) && (entryBytes b).take 3 == tlsApplicationDataStart

/-- The loop of `WriteMultiBuffer` over the reshaped buffers, with the local `longPadding`. -/
def padLoop (f : Filter) (chance : ℕ → Chance) :
    ℕ → Bool → VisionWriter → MultiBuffer → Option (MultiBuffer × VisionWriter)
  | _, _, w, [] => some ([], w)
  | i, longPadding, w, b :: rest =>
    if isApplicationData f b then do
      let command := if rest.isEmpty then lastCommand f else commandPaddingContinue
      let b' ← xtlsPadding (chance i) b command w.writeOnceUserUUID true
      let w' := { w with
        writerSwitchToDirectCopy := w.writerSwitchToDirectCopy || f.enableXtls
        isPadding := false
        writeOnceUserUUID := [] }
      let (rest', w'') ← padLoop f chance (i + 1) false w' rest
      some (some b' :: rest', w'')
    else if !f.isTLS12orAbove && f.numberOfPacketToFilter ≤ 1 then do
      -- the padding ends here, and the other buffers go out as they are
      let b' ← xtlsPadding (chance i) b commandPaddingEnd w.writeOnceUserUUID longPadding
      some (some b' :: rest, { w with isPadding := false, writeOnceUserUUID := [] })
    else do
      let command := if rest.isEmpty && !w.isPadding then lastCommand f else commandPaddingContinue
      let b' ← xtlsPadding (chance i) b command w.writeOnceUserUUID longPadding
      let (rest', w'') ← padLoop f chance (i + 1) longPadding { w with writeOnceUserUUID := [] } rest
      some (some b' :: rest', w'')

/-- `WriteMultiBuffer` behind the filter.  A single `nil` stands for padding without content, to hide the
header in front of it; the buffers of `ReshapeMultiBuffer` come from `fresh`. -/
def padMultiBuffer (chance : ℕ → Chance) (fresh : ℕ → Storage) (w : VisionWriter) (mb : MultiBuffer) :
    Option (MultiBuffer × VisionWriter) :=
  if w.isPadding then
    if mb = [none] then
      (xtlsPadding (chance 0) none commandPaddingContinue w.writeOnceUserUUID true).map fun b' =>
        ([some b'], { w with writeOnceUserUUID := [] })
    else padLoop w.filter chance 0 w.filter.isTLS w (reshapeMultiBuffer fresh mb)
  else some (mb, w)

/-- `WriteMultiBuffer` up to the write below it: what it hands down, and nothing if it panics. -/
def writeMultiBuffer (chance : ℕ → Chance) (fresh : ℕ → Storage) (w : VisionWriter)
    (mb : MultiBuffer) : Option (MultiBuffer × VisionWriter) :=
  (w.filter.filterTraffic mb).bind fun f => { w with filter := f }.padMultiBuffer chance fresh mb

end VisionWriter

end FoloXray.Vision
