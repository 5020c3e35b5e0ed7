import FoloXray.Buffers.Buffer
import FoloXray.Foundation.Cuts
import FoloXray.Vision.Blocks

/-! # The traffic state of a Vision connection

`TrafficState` of `proxy/proxy.go` and `XtlsFilterTls`, which looks at the first packets of both
directions for the hellos of an inner TLS connection.
-/

namespace FoloXray.Vision

open Foundation Buffers

def tls13SupportedVersions : Bytes := [0x00, 0x2b, 0x00, 0x02, 0x03, 0x04]
def tlsClientHandShakeStart : Bytes := [0x16, 0x03]
def tlsServerHandShakeStart : Bytes := [0x16, 0x03, 0x03]
def tlsApplicationDataStart : Bytes := [0x17, 0x03, 0x03]

def tls13CipherSuiteDic : ℕ → Option String
  | 0x1301 => some "TLS_AES_128_GCM_SHA256"
  | 0x1302 => some "TLS_AES_256_GCM_SHA384"
  | 0x1303 => some "TLS_CHACHA20_POLY1305_SHA256"
  | 0x1304 => some "TLS_AES_128_CCM_SHA256"
  | 0x1305 => some "TLS_AES_128_CCM_8_SHA256"
  | _ => none

def tlsHandshakeTypeClientHello : UInt8 := 0x01
def tlsHandshakeTypeServerHello : UInt8 := 0x02

/-- What the filter has found out; both directions of a connection write it. -/
structure Filter where
  numberOfPacketToFilter : ℤ
  enableXtls : Bool
  isTLS12orAbove : Bool
  isTLS : Bool
  cipher : ℕ
  remainingServerHello : ℤ
  deriving DecidableEq, Repr

/-- The fields of `TrafficState`: what the filter found, the state of the reader and that of the
writer. -/
structure TrafficState where
  userUUID : Bytes
  filter : Filter
  withinPaddingBuffers : Bool
  readerSwitchToDirectCopy : Bool
  unpadder : Unpadder
  isPadding : Bool
  writerSwitchToDirectCopy : Bool
  deriving DecidableEq, Repr

def newTrafficState (userUUID : Bytes) : TrafficState where
  userUUID := userUUID
  filter := ⟨8, false, false, false, 0, -1⟩
  withinPaddingBuffers := true
  readerSwitchToDirectCopy := false
  unpadder := ⟨-1, -1, -1, 0⟩
  isPadding := true
  writerSwitchToDirectCopy := false

namespace Filter

/-- The first part of the filter's loop: hellos at the start of a buffer.  The cipher suite is behind the
session identifier, wherever its length says; nothing if that is outside the storage. -/
def noteHello (f : Filter) (b : Buffer) : Option Filter :=
  if 6 ≤ b.bytes.length then
    let startsBytes := b.bytes.take 6
    if startsBytes.take 3 = tlsServerHandShakeStart ∧
        startsBytes.getD 5 0 = tlsHandshakeTypeServerHello then
      let f' := { f with
        remainingServerHello :=
          (((startsBytes.getD 3 0).toNat * 256 + (startsBytes.getD 4 0).toNat : ℕ) : ℤ) + 5
        isTLS12orAbove := true
        isTLS := true }
      if 79 ≤ b.bytes.length ∧ 79 ≤ f'.remainingServerHello then
        let sessionIdLen := (b.bytes.getD 43 0).toNat
        (b.bytesRange (43 + sessionIdLen + 1) (43 + sessionIdLen + 3)).map fun cipherSuite =>
          { f' with cipher := (cipherSuite.getD 0 0).toNat * 256 + (cipherSuite.getD 1 0).toNat }
      else some f'
    else if startsBytes.take 2 = tlsClientHandShakeStart ∧
        startsBytes.getD 5 0 = tlsHandshakeTypeClientHello then
      some { f with isTLS := true }
    else some f
  else some f

/-- The second part: the extension of a TLS 1.3 server hello.  The flag says that the loop returns. -/
def lookForTls13 (f : Filter) (b : Buffer) : Filter × Bool :=
  if 0 < f.remainingServerHello then
    let found := (index tls13SupportedVersions (b.bytes.take f.remainingServerHello.toNat)).isSome
    let f' := { f with remainingServerHello := f.remainingServerHello - b.bytes.length }
    if found then
      ({ f' with
        enableXtls :=
          match tls13CipherSuiteDic f.cipher with
          | none => f.enableXtls
          | some v => if v ≠ "TLS_AES_128_CCM_8_SHA256" then true else f.enableXtls
        numberOfPacketToFilter := 0 }, true)
    else if f'.remainingServerHello ≤ 0 then ({ f' with numberOfPacketToFilter := 0 }, true)
    else (f', false)
  else (f, false)

def xtlsFilterTls : Filter → MultiBuffer → Option Filter
  | f, [] => some f
  | f, none :: rest => xtlsFilterTls f rest
  | f, some b :: rest =>
    (noteHello { f with numberOfPacketToFilter := f.numberOfPacketToFilter - 1 } b).bind fun f' =>
      if (f'.lookForTls13 b).2 then some (f'.lookForTls13 b).1
      else xtlsFilterTls (f'.lookForTls13 b).1 rest

/-- The filter, while it has packets to look at. -/
def filterTraffic (f : Filter) (mb : MultiBuffer) : Option Filter :=
  if 0 < f.numberOfPacketToFilter then f.xtlsFilterTls mb else some f

/-- Direct copying is only enabled for connections known to be of TLS 1.2 or above, which are those with
a server hello. -/
structure Sound (f : Filter) : Prop where
  enabled : f.enableXtls = true → f.isTLS12orAbove = true
  hello : 0 < f.remainingServerHello → f.isTLS12orAbove = true

variable {f f' : Filter} {b : Buffer}

theorem Sound.noteHello (h : f.Sound) (hf : f.noteHello b = some f') : f'.Sound := by
  rw [Filter.noteHello] at hf
  split at hf
  · dsimp only at hf
    split at hf
    · split at hf
      · obtain ⟨cs, -, rfl⟩ := Option.map_eq_some_iff.mp hf
        exact ⟨fun _ => rfl, fun _ => rfl⟩
      · cases hf
        exact ⟨fun _ => rfl, fun _ => rfl⟩
    · split at hf
      · cases hf
        exact ⟨h.enabled, h.hello⟩
      · cases hf
        exact h
  · cases hf
    exact h

theorem Sound.lookForTls13 (h : f.Sound) (b : Buffer) : (f.lookForTls13 b).1.Sound := by
  rw [Filter.lookForTls13]
  split
  · next hpos =>
    have hTLS := h.hello hpos
    dsimp only
    split
    · exact ⟨fun _ => hTLS, fun _ => hTLS⟩
    · split <;> exact ⟨fun _ => hTLS, fun _ => hTLS⟩
  · exact h

theorem Sound.xtlsFilterTls {mb : MultiBuffer} (h : f.Sound) (hf : f.xtlsFilterTls mb = some f') :
    f'.Sound := by
  induction mb generalizing f with
  | nil =>
    cases hf
    exact h
  | cons b mb ih =>
    cases b with
    | none => exact ih h hf
    | some b =>
      rw [Filter.xtlsFilterTls] at hf
      obtain ⟨g, hg, hrest⟩ := Option.bind_eq_some_iff.mp hf
      have hcount : Sound { f with numberOfPacketToFilter := f.numberOfPacketToFilter - 1 } :=
        ⟨h.enabled, h.hello⟩
      have hsound := hcount.noteHello hg
      split at hrest
      · cases hrest
        exact hsound.lookForTls13 b
      · exact ih (hsound.lookForTls13 b) hrest

/-- The cipher suite of a hello is inside the storage if the content stands at its front. -/
theorem noteHello_isSome (f : Filter) (hb : 301 ≤ b.cap) :
    (f.noteHello b).isSome := by
  have hsession := (b.bytes.getD 43 0).toNat_lt
  rw [Filter.noteHello]
  split
  · dsimp only
    split
    · split
      · rw [Option.isSome_map, Buffer.bytesRange, if_pos (by rw [Buffer.cap] at hb; omega)]
        rfl
      · rfl
    · split <;> rfl
  · rfl

/-- The filter does not panic on buffers whose content stands at the front of their storage. -/
theorem xtlsFilterTls_isSome {mb : MultiBuffer} (f : Filter)
    (hmb : ∀ b, some b ∈ mb → 301 ≤ b.cap) : (f.xtlsFilterTls mb).isSome := by
  induction mb generalizing f with
  | nil => rfl
  | cons b mb ih =>
    have hrest := fun f => ih f (fun b hb => hmb b (List.mem_cons_of_mem _ hb))
    cases b with
    | none => exact hrest f
    | some b =>
      rw [Filter.xtlsFilterTls]
      obtain ⟨g, hg⟩ := Option.isSome_iff_exists.mp
        (noteHello_isSome { f with numberOfPacketToFilter := f.numberOfPacketToFilter - 1 }
          (hmb b List.mem_cons_self))
      rw [hg, Option.bind_some]
      split
      · rfl
      · exact hrest _

theorem filterTraffic_isSome {mb : MultiBuffer} (f : Filter) (hmb : ∀ b, some b ∈ mb → 301 ≤ b.cap) :
    (f.filterTraffic mb).isSome := by
  rw [Filter.filterTraffic]
  split
  · exact xtlsFilterTls_isSome f hmb
  · rfl

theorem Sound.filterTraffic {mb : MultiBuffer} (h : f.Sound) (hf : f.filterTraffic mb = some f') :
    f'.Sound := by
  rw [Filter.filterTraffic] at hf
  split at hf
  · exact h.xtlsFilterTls hf
  · cases hf
    exact h

end Filter

end FoloXray.Vision
