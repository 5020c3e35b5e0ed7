import FoloXray.Mux.Frame

/-! # Packets over a multiplexed connection

`common/xudp`: the client's side of one session of packets.  The first packet opens the session and names
its destination; each later one may name an address of its own.  A read goes over the frames of the
connection until one of them has a packet in it.
-/

namespace FoloXray.Xudp

open Foundation Buffers Protocol Mux
open PacketFlow (Destination Network)

def addrParser : AddressParser :=
  newAddressParser [.addressFamilyByte 1 .ipv4, .addressFamilyByte 2 .domain, .addressFamilyByte 3 .ipv6,
    .portThenAddress]

/-- `WriteAddressPort` for a destination, with its error ignored; a method call on a nil address fails. -/
def writeDestination (d : Destination) : Encoder AddressError Unit :=
  match d.address with
  | none => .panic
  | some address => (addrParser.writeAddressPort address d.port).ignore

/-- `PacketWriter`; the network of its destination is known until the session is open. -/
structure PacketWriter where
  dest : Destination
  globalID : Bytes
  length_globalID : globalID.length = 8

/-- `WriteByte` with its error ignored. -/
def writeByte (c : UInt8) : Encoder AddressError Unit := (Encoder.putByte bufSize c).ignore

namespace PacketWriter

variable (w : PacketWriter)

def writeGlobalID (udp : Option Destination) : Encoder AddressError Unit :=
  if udp = none then pure () else .put bufSize w.globalID

def writeHead (udp : Option Destination) : Encoder AddressError Unit :=
  if w.dest.network = .udp then do
    writeByte 1
    writeByte 1
    writeByte 2
    writeDestination w.dest
    w.writeGlobalID udp
  else do
    writeByte 2
    writeByte 1
    match udp with
    | none => pure ()
    | some d => do
      writeByte 2
      writeDestination d

/-- The length of the fields, which stands in front of them. -/
def setLength : Encoder AddressError Unit := fun b =>
  let l := b.length - 2
  (.ok (), (b.set 0 (UInt8.ofNat (l / 256))).set 1 (UInt8.ofNat l))

def writeBody (bytes : Bytes) : Encoder AddressError Unit := do
  writeByte (UInt8.ofNat (bytes.length / 256))
  writeByte (UInt8.ofNat bytes.length)
  .put bufSize bytes

def writeFrame (b : Packet) : Encoder AddressError Unit := do
  .put bufSize [0, 0, 0, 0]
  w.writeHead b.udp
  setLength
  writeBody b.bytes

/-- A packet that is passed over: it is empty, or there might be no room for the fields in front of it. -/
def skips (b : Packet) : Bool := b.bytes.length = 0 || bufSize < b.bytes.length + 666

def opened (w : PacketWriter) : PacketWriter := { w with dest := { w.dest with network := .unknown } }

/-- The loop of `WriteMultiBuffer`: the buffers that are handed on. -/
def writeMultiBuffer (w : PacketWriter) : List Packet → Outcome AddressError (List Bytes) × PacketWriter
  | [] => (.ok [], w)
  | b :: mb =>
    if skips b then w.writeMultiBuffer mb
    else
      match w.writeFrame b [] with
      | (.ok (), eb) =>
        let r := w.opened.writeMultiBuffer mb
        (r.1 >>= fun ebs => .ok (eb :: ebs), r.2)
      | (.error e, _) => (.error e, w)
      | (.panicked, _) => (.panicked, w)

end PacketWriter

inductive ReadError where
  | read (e : FillError)
  | address (e : AddressError)
  deriving DecidableEq, Repr

def ioEOF : ReadError := .read (.read .eof)

/-- The address that a packet is from, if the fields have one. -/
def readSource (fields : Bytes) : Outcome ReadError (Option Destination) :=
  if 4 < fields.length ∧ fields.getD 4 0 = 2 then do
    let r ← (addrParser.readAddressPort ⟨[], .ofBytes (fields.drop 5)⟩).mapError .address
    pure (some ⟨r.1.1, r.1.2, .udp⟩)
  else pure none

def readPayload (udp : Option Destination) (length : ℕ) : Decoder ReadError (Option Packet) :=
  if length = 0 then pure none
  else do
    let bytes ← (Decoder.fresh (Decoder.take bufSize length)).mapError .read
    pure (some ⟨udp, bytes⟩)

def readData (option : UInt8) (udp : Option Destination) : Decoder ReadError (Option Packet) :=
  if option = 1 then do
    let length ← Decoder.takeUint16.mapError .read
    readPayload udp length
  else pure none

/-- What follows the fields of a frame; its packet, unless it is to be discarded. -/
def readBody (fields : Bytes) : Decoder ReadError (Option Packet) :=
  if fields.getD 2 0 = 2 then do
    let udp ← .lift (readSource fields)
    readData (fields.getD 3 0) udp
  else if fields.getD 2 0 = 4 then do
    let _ ← readData (fields.getD 3 0) none
    pure none
  else .fail ioEOF

def readFields (l : ℕ) : Decoder ReadError Bytes :=
  if l < 4 then .fail ioEOF else (Decoder.fresh (Decoder.take bufSize l)).mapError .read

def readFrame : Decoder ReadError (Option Packet) := do
  let l ← Decoder.takeUint16.mapError .read
  let fields ← readFields l
  readBody fields

/-- An address that was read is one of UDP that survives the wire. -/
def Sourced (udp : Option Destination) : Prop :=
  ∀ d, udp = some d → d.network = .udp ∧ ∃ a, d.address = some a ∧ Portable a

/-- A packet of the other side: it is not empty and fits into a buffer, and if it has an address, that is
one that survives the wire. -/
structure WellFormed (p : Packet) : Prop where
  ne_nil : p.bytes ≠ []
  length_le : p.bytes.length ≤ bufSize
  source : Sourced p.udp

section Reading

open Decoder

theorem readSource_ne_panicked (fields : Bytes) : readSource fields ≠ .panicked := by
  unfold readSource
  split
  · refine Outcome.bind_ne_panicked ?_ fun _ _ => by simp
    rw [Ne, Outcome.mapError_eq_panicked_iff]
    exact (ensures_readAddressPort addrParser _).ne_panicked
  · simp

theorem sourced_readSource {fields : Bytes} {udp : Option Destination} (h : readSource fields = .ok udp) :
    Sourced udp := by
  unfold readSource at h
  split at h
  · obtain ⟨r, hr, h⟩ := Outcome.bind_eq_ok_iff.mp h
    cases h
    rintro d hd
    cases hd
    cases hread : addrParser.readAddressPort ⟨[], .ofBytes (fields.drop 5)⟩ with
    | ok r' =>
      rw [hread] at hr
      cases hr
      exact ⟨rfl, (ensures_readAddressPort addrParser _).of_ok hread⟩
    | error e =>
      rw [hread] at hr
      cases hr
    | panicked =>
      rw [hread] at hr
      cases hr
  · cases h
    rintro d hd
    cases hd

theorem ensures_readPayload {udp : Option Destination} (hudp : Sourced udp) (length : ℕ) (s : Intake) :
    Ensures (readPayload udp length) s fun r t =>
      t.reader.bytes.length ≤ s.reader.bytes.length ∧ ∀ p, r = some p → WellFormed p := by
  unfold readPayload
  split
  · exact ⟨le_rfl, fun p hp => by cases hp⟩
  · rename_i hlength
    refine ((ensures_fresh_take bufSize length s).mapError _).bind ?_
    rintro bytes t ⟨hlen, hroom, hbytes⟩
    refine ⟨by rw [hbytes, List.length_append]; omega, ?_⟩
    rintro p hp
    cases hp
    have hpos : 0 < bytes.length := by omega
    exact ⟨List.ne_nil_of_length_pos hpos, hlen ▸ hroom, hudp⟩

theorem ensures_readData (option : UInt8) {udp : Option Destination} (hudp : Sourced udp) (s : Intake) :
    Ensures (readData option udp) s fun r t =>
      t.reader.bytes.length ≤ s.reader.bytes.length ∧ ∀ p, r = some p → WellFormed p := by
  unfold readData
  split
  · refine ((ensures_takeUint16 s).mapError _).bind ?_
    rintro length t ⟨-, ht⟩
    refine (ensures_readPayload hudp length t).mono ?_
    rintro r u ⟨hu, hr⟩
    exact ⟨by omega, hr⟩
  · exact ⟨le_rfl, fun p hp => by cases hp⟩

theorem ensures_readBody (fields : Bytes) (s : Intake) :
    Ensures (readBody fields) s fun r t =>
      t.reader.bytes.length ≤ s.reader.bytes.length ∧ ∀ p, r = some p → WellFormed p := by
  unfold readBody
  split
  · have hsource : Ensures (.lift (readSource fields) : Decoder ReadError _) s fun udp t =>
        t = s ∧ Sourced udp :=
      ensures_lift (readSource_ne_panicked fields) fun udp h => ⟨rfl, sourced_readSource h⟩
    refine hsource.bind ?_
    rintro udp t ⟨rfl, hudp⟩
    exact ensures_readData _ hudp t
  · split
    · have hnone : Sourced none := fun d hd => by cases hd
      refine (ensures_readData _ hnone s).bind ?_
      rintro r t ⟨ht, -⟩
      exact ⟨ht, fun p hp => by cases hp⟩
    · exact ensures_fail _

theorem ensures_readFrame (s : Intake) :
    Ensures readFrame s fun r t =>
      t.reader.bytes.length < s.reader.bytes.length ∧ ∀ p, r = some p → WellFormed p := by
  refine ((ensures_takeUint16 s).mapError _).bind ?_
  rintro l t ⟨-, ht⟩
  have hfields : Ensures (readFields l) t fun _ u =>
      u.reader.bytes.length ≤ t.reader.bytes.length := by
    unfold readFields
    split
    · exact ensures_fail _
    · refine ((ensures_fresh_take bufSize l t).mapError _).mono ?_
      rintro fields u ⟨-, -, hbytes⟩
      rw [hbytes, List.length_append]
      omega
  refine hfields.bind ?_
  intro fields u hu
  refine (ensures_readBody fields u).mono ?_
  rintro r v ⟨hv, hr⟩
  exact ⟨by omega, hr⟩

end Reading

/-- `ReadMultiBuffer`: rounds, until one of them has a packet. -/
def readMultiBuffer (s : Intake) : Outcome ReadError (Packet × Intake) :=
  match _h : readFrame s with
  | .ok (some p, t) => .ok (p, t)
  | .ok (none, t) => readMultiBuffer t
  | .error e => .error e
  | .panicked => .panicked
termination_by s.reader.bytes.length
decreasing_by exact ((ensures_readFrame s).of_ok _h).1

section Rounds

variable {s t : Intake} {p : Packet} {e : ReadError}

theorem readMultiBuffer_of_packet (h : readFrame s = .ok (some p, t)) :
    readMultiBuffer s = .ok (p, t) := by
  rw [readMultiBuffer]
  split <;> simp_all

theorem readMultiBuffer_of_none (h : readFrame s = .ok (none, t)) :
    readMultiBuffer s = readMultiBuffer t := by
  rw [readMultiBuffer]
  split <;> simp_all

theorem readMultiBuffer_of_error (h : readFrame s = .error e) : readMultiBuffer s = .error e := by
  rw [readMultiBuffer]
  split <;> simp_all

end Rounds

/-- Whatever the other side sends, a read does not panic, and the packet that it gives is well formed. -/
theorem readMultiBuffer_wellFormed (s : Intake) :
    readMultiBuffer s ≠ .panicked ∧ ∀ p t, readMultiBuffer s = .ok (p, t) → WellFormed p := by
  fun_induction readMultiBuffer s with
  | case1 s p t h =>
    refine ⟨by simp, ?_⟩
    rintro p' t' heq
    cases heq
    exact ((ensures_readFrame s).of_ok h).2 p rfl
  | case2 s t h ih => exact ih
  | case3 s e h => exact ⟨by simp, fun p t heq => by cases heq⟩
  | case4 s h => exact absurd h (ensures_readFrame s).ne_panicked

end FoloXray.Xudp
