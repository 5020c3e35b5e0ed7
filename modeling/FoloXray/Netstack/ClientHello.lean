import FoloXray.Foundation.Layout
import FoloXray.Netstack.Sniffer

/-! # The ClientHello of a TLS client

The message as its sender puts it together: a record, the handshake header, and the fields of the hello
with the length in front of each.  `SniffDomain` walks over all of them with positions of its own, and
finds the host name wherever the extensions and the name list have it.
-/

namespace FoloXray.Netstack
open Foundation PacketFlow

/-- Two bytes, the high one first; each is reduced modulo `2 ^ 8`. -/
def putUint16 (n : ℕ) : Bytes := [.ofNat (n / 2 ^ 8), .ofNat n]

def putUint24 (n : ℕ) : Bytes := [.ofNat (n / 2 ^ 16), .ofNat (n / 2 ^ 8), .ofNat n]

def vector8 (body : Bytes) : Bytes := UInt8.ofNat body.length :: body

def vector16 (body : Bytes) : Bytes := putUint16 body.length ++ body

/-- An entry of the name list: a host name if its type is zero. -/
structure NameEntry where
  nameType : UInt8
  name : Bytes
  fits : name.length < 2 ^ 16

def NameEntry.encode (e : NameEntry) : Bytes := e.nameType :: vector16 e.name

structure Extension where
  extType : UInt16
  body : Bytes
  fits : body.length < 2 ^ 16

def Extension.encode (e : Extension) : Bytes := putUint16 e.extType.toNat ++ vector16 e.body

/-- The name list of a `server_name` extension: its first host name, the entries of other types in
front of it, and whatever follows. -/
structure ServerNames where
  earlier : List NameEntry
  hostName : NameEntry
  later : List NameEntry
  earlier_type : ∀ e ∈ earlier, e.nameType ≠ 0
  hostName_type : hostName.nameType = 0

def ServerNames.list (s : ServerNames) : Bytes :=
  s.earlier.flatMap NameEntry.encode ++ (s.hostName.encode ++ s.later.flatMap NameEntry.encode)

def ServerNames.encode (s : ServerNames) : Bytes := putUint16 0 ++ vector16 (vector16 s.list)

/-- The fields of the hello; `server_name` stands anywhere among the extensions. -/
structure ClientHello where
  clientVersion : UInt16
  random : Bytes
  sessionID : Bytes
  cipherSuites : List UInt16
  compressionMethods : Bytes
  before : List Extension
  serverNames : ServerNames
  after : List Extension
  random_length : random.length = 32
  sessionID_fits : sessionID.length < 2 ^ 8
  compressionMethods_fit : compressionMethods.length < 2 ^ 8
  before_type : ∀ e ∈ before, e.extType ≠ 0

namespace ClientHello

def extensions (h : ClientHello) : Bytes :=
  h.before.flatMap Extension.encode ++ (h.serverNames.encode ++ h.after.flatMap Extension.encode)

def ciphers (h : ClientHello) : Bytes := h.cipherSuites.flatMap fun c => putUint16 c.toNat

def body (h : ClientHello) : Bytes :=
  putUint16 h.clientVersion.toNat ++ h.random ++ vector8 h.sessionID ++ vector16 h.ciphers ++
    vector8 h.compressionMethods ++ vector16 h.extensions

def message (h : ClientHello) : Bytes := 0x01 :: putUint24 h.body.length ++ h.body

end ClientHello

structure HelloRecord where
  major : UInt8
  minor : UInt8
  hello : ClientHello
  fits : hello.message.length < 2 ^ 16

def HelloRecord.encode (r : HelloRecord) : Bytes :=
  0x16 :: r.major :: r.minor :: vector16 r.hello.message

section Reading

variable {data w body : Bytes} {pos stop : ℕ}

@[simp] theorem length_vector8 (body : Bytes) : (vector8 body).length = 1 + body.length :=
  Nat.add_comm _ _

@[simp] theorem length_vector16 (body : Bytes) : (vector16 body).length = 2 + body.length := by
  rw [vector16, List.length_append]
  rfl

@[simp] theorem length_putUint16 (n : ℕ) : (putUint16 n).length = 2 := rfl

theorem uint16At_of_standsAt {n : ℕ} (h : StandsAt data pos (putUint16 n)) (hn : n < 2 ^ 16) :
    uint16At data pos = n := by
  have hhigh : byteAt data pos = .ofNat (n / 2 ^ 8) := h.getD
  have hlow : byteAt data (pos + 1) = .ofNat n := h.tail.getD
  simp only [uint16At, hhigh, hlow, UInt8.toNat_ofNat']
  omega

theorem byteAt_of_vector8 (h : StandsAt data pos (vector8 body)) (hbody : body.length < 2 ^ 8) :
    (byteAt data pos).toNat = body.length := by
  have hbyte : byteAt data pos = .ofNat body.length := h.getD
  rw [hbyte, UInt8.toNat_ofNat', Nat.mod_eq_of_lt hbody]

theorem uint16At_of_vector16 (h : StandsAt data pos (vector16 body)) (hbody : body.length < 2 ^ 16) :
    uint16At data pos = body.length := uint16At_of_standsAt h.left hbody

theorem standsAt_of_vector16 (h : StandsAt data pos (vector16 body)) :
    StandsAt data (pos + 2) body := h.right

end Reading

section Loops

variable {data : Bytes} {pos stop : ℕ}

theorem sniffNames_of_standsAt {earlier : List NameEntry} {host : NameEntry}
    (hearlier : ∀ e ∈ earlier, e.nameType ≠ 0) (hhost : host.nameType = 0)
    (h : StandsAt data pos (earlier.flatMap NameEntry.encode ++ host.encode))
    (hstop : pos + (earlier.flatMap NameEntry.encode ++ host.encode).length ≤ stop) :
    sniffNames data stop pos = toLower host.name := by
  induction earlier generalizing pos with
  | nil =>
    have hentry : StandsAt data pos host.encode := h
    have hlen : uint16At data (pos + 1) = host.name.length := uint16At_of_vector16 hentry.tail host.fits
    have htype : byteAt data pos = 0 := hentry.getD.trans hhost
    have hname := (standsAt_of_vector16 hentry.tail).slice_eq
    simp only [List.flatMap_nil, List.nil_append, NameEntry.encode, List.length_cons,
      length_vector16] at hstop
    rw [sniffNames, if_pos (by omega)]
    simp only [hlen]
    rw [if_pos ⟨htype, by omega⟩]
    rw [show pos + 3 = pos + 1 + 2 from rfl, hname]
  | cons e earlier ih =>
    rw [List.flatMap_cons, List.append_assoc] at h hstop
    have hentry := h.left
    have hlen : uint16At data (pos + 1) = e.name.length := uint16At_of_vector16 hentry.tail e.fits
    have htype : byteAt data pos = e.nameType := hentry.getD
    have hsize : e.encode.length = 3 + e.name.length := by
      simp only [NameEntry.encode, List.length_cons, length_vector16]
      omega
    rw [List.length_append, hsize] at hstop
    have hrest := h.right
    rw [hsize, ← Nat.add_assoc] at hrest
    rw [sniffNames, if_pos (by omega)]
    simp only [hlen, htype]
    rw [if_neg (fun hfit => hearlier e List.mem_cons_self hfit.1)]
    exact ih (fun e' he' => hearlier e' (List.mem_cons_of_mem e he')) hrest (by omega)

/-- The loop over the extensions skips those of other types by their lengths. -/
theorem sniffExtensions_of_standsAt {before : List Extension} {names : ServerNames}
    (hbefore : ∀ e ∈ before, e.extType ≠ 0) (hfits : names.list.length + 2 < 2 ^ 16)
    (h : StandsAt data pos (before.flatMap Extension.encode ++ names.encode))
    (hstop : pos + (before.flatMap Extension.encode ++ names.encode).length ≤ stop) :
    sniffExtensions data stop pos = toLower names.hostName.name := by
  induction before generalizing pos with
  | nil =>
    have hext : StandsAt data pos names.encode := h
    have htype : uint16At data pos = 0 := uint16At_of_standsAt hext.left (by decide)
    have hlist : StandsAt data (pos + 4) (vector16 names.list) := standsAt_of_vector16 hext.right
    have hlen : uint16At data (pos + 4) = names.list.length := uint16At_of_vector16 hlist (by omega)
    have hnames := standsAt_of_vector16 hlist
    rw [ServerNames.list, ← List.append_assoc] at hnames
    have hsize : names.list.length = (names.earlier.flatMap NameEntry.encode ++
        names.hostName.encode).length + (names.later.flatMap NameEntry.encode).length := by
      rw [ServerNames.list, ← List.append_assoc, List.length_append]
    simp only [List.flatMap_nil, List.nil_append, ServerNames.encode, List.length_append,
      length_putUint16, length_vector16] at hstop
    rw [sniffExtensions, if_pos (by omega)]
    simp only [htype, hlen]
    rw [if_pos trivial, if_pos (by omega), if_neg (by omega)]
    exact sniffNames_of_standsAt names.earlier_type names.hostName_type hnames.left (by omega)
  | cons e before ih =>
    rw [List.flatMap_cons, List.append_assoc] at h hstop
    have hext := h.left
    have htype : uint16At data pos = e.extType.toNat :=
      uint16At_of_standsAt hext.left e.extType.toNat_lt
    have hlen : uint16At data (pos + 2) = e.body.length := uint16At_of_vector16 hext.right e.fits
    have hother : e.extType.toNat ≠ 0 := by
      intro hzero
      exact hbefore e List.mem_cons_self (UInt16.toNat_inj.mp hzero)
    have hsize : e.encode.length = 4 + e.body.length := by
      simp only [Extension.encode, List.length_append, length_putUint16, length_vector16]
      omega
    rw [List.length_append, hsize] at hstop
    have hrest := h.right
    rw [hsize, ← Nat.add_assoc] at hrest
    rw [sniffExtensions, if_pos (by omega)]
    simp only [htype, hlen]
    rw [if_neg hother]
    exact ih (fun e' he' => hbefore e' (List.mem_cons_of_mem e he')) hrest (by omega)

end Loops

namespace HelloRecord

variable (r : HelloRecord)

/-- The record and handshake headers, the version and the random bytes. -/
def header : Bytes :=
  0x16 :: r.major :: r.minor :: (putUint16 r.hello.message.length ++
    0x01 :: (putUint24 r.hello.body.length ++ (putUint16 r.hello.clientVersion.toNat ++
      r.hello.random)))

theorem header_length : r.header.length = 43 := by
  simp [header, putUint16, putUint24, r.hello.random_length]

theorem encode_eq :
    r.encode = r.header ++ (vector8 r.hello.sessionID ++ (vector16 r.hello.ciphers ++
      (vector8 r.hello.compressionMethods ++ vector16 r.hello.extensions))) := by
  simp [encode, header, vector16, ClientHello.message, ClientHello.body, List.append_assoc]

/-- Every vector is as short as its length field needs, since all of them are in the record. -/
theorem lengths_lt :
    r.hello.ciphers.length < 2 ^ 16 ∧ r.hello.extensions.length < 2 ^ 16 ∧
      r.hello.serverNames.list.length + 2 < 2 ^ 16 := by
  have hfits := r.fits
  simp only [ClientHello.message, ClientHello.body, ClientHello.extensions, ServerNames.encode,
    List.length_append, List.length_cons, length_vector8, length_vector16, length_putUint16] at *
  omega

end HelloRecord

section Hello

variable {data : Bytes} {r : HelloRecord}

theorem first_bytes (h : StandsAt data 0 r.header) :
    byteAt data 0 = 0x16 ∧ byteAt data 1 = r.major ∧ byteAt data 5 = 0x01 :=
  ⟨h.getD, h.tail.getD, h.tail.tail.tail.tail.tail.getD⟩

/-- The four lengths in front of the extensions lead to the extensions. -/
theorem helloExtensions_of_standsAt (h : StandsAt data 0 r.encode) (hmajor : r.major = 3) :
    ∃ pos, helloExtensions data = some pos ∧ StandsAt data pos (vector16 r.hello.extensions) := by
  rw [r.encode_eq] at h
  rcases first_bytes h.left with ⟨hrecord, hversion, hhandshake⟩
  rw [hmajor] at hversion
  have hsession := h.right
  rw [r.header_length, Nat.zero_add] at hsession
  have hsessionLen := byteAt_of_vector8 hsession.left r.hello.sessionID_fits
  have hciphers := hsession.right
  have hciphersLen := uint16At_of_vector16 hciphers.left r.lengths_lt.1
  have hmethods := hciphers.right
  have hmethodsLen := byteAt_of_vector8 hmethods.left r.hello.compressionMethods_fit
  have hextensions := hmethods.right
  have hend := hextensions.length_le
  simp only [length_vector8, length_vector16, ← Nat.add_assoc] at hciphersLen hmethodsLen hextensions hend
  refine ⟨_, ?_, hextensions⟩
  unfold helloExtensions
  have hguard : ¬ (data.length < 44 ∨ byteAt data 0 ≠ 0x16 ∨ byteAt data 1 ≠ 0x03) := by
    rintro (hshort | htype | hmajor)
    · omega
    · exact htype hrecord
    · exact hmajor hversion
  rw [if_neg hguard, if_neg (not_not_intro hhandshake)]
  dsimp only
  rw [if_neg (show ¬ 43 ≥ data.length by omega), hsessionLen, hciphersLen, hmethodsLen,
    if_neg (by omega), if_neg (by omega), if_neg (by omega)]

theorem sniffTLS_of_standsAt (h : StandsAt data 0 r.encode) (hmajor : r.major = 3) :
    sniffTLS data = toLower r.hello.serverNames.hostName.name := by
  rcases helloExtensions_of_standsAt h hmajor with ⟨pos, hpos, hextensions⟩
  have hlen := uint16At_of_vector16 hextensions r.lengths_lt.2.1
  have hend := hextensions.length_le
  rw [length_vector16] at hend
  have hlist := standsAt_of_vector16 hextensions
  rw [ClientHello.extensions, ← List.append_assoc] at hlist
  unfold sniffTLS
  rw [hpos]
  dsimp only
  rw [hlen, if_neg (by omega)]
  have hsize : r.hello.extensions.length = (r.hello.before.flatMap Extension.encode ++
      r.hello.serverNames.encode).length + (r.hello.after.flatMap Extension.encode).length := by
    rw [ClientHello.extensions, ← List.append_assoc, List.length_append]
  exact sniffExtensions_of_standsAt r.hello.before_type r.lengths_lt.2.2 hlist.left (by omega)

theorem sniffTLS_of_major (h : StandsAt data 0 r.encode) (hmajor : r.major ≠ 3) :
    sniffTLS data = [] := by
  rw [r.encode_eq] at h
  have hversion : byteAt data 1 ≠ 0x03 := by
    rw [(first_bytes h.left).2.1]
    exact hmajor
  have hnone : helloExtensions data = none := if_pos (.inr (.inr hversion))
  rw [sniffTLS, hnone]

theorem sniffHTTP_of_standsAt (h : StandsAt data 0 r.encode) : sniffHTTP data = [] := by
  rw [r.encode_eq] at h
  by_contra hname
  exact byteAt_of_method (sniffHTTP_ne_nil hname).1 (first_bytes h.left).1

end Hello

/-- `SniffDomain` on a ClientHello: whatever the fields of the hello, its other extensions, its other
names and the bytes behind it are, the answer is the host name in lower case if the major version of
the record is 3, and empty otherwise. -/
theorem sniffDomain_client_hello (r : HelloRecord) (trailing : Bytes) :
    sniffDomain (r.encode ++ trailing) =
      if r.major = 3 then toLower r.hello.serverNames.hostName.name else [] := by
  have h : StandsAt (r.encode ++ trailing) 0 r.encode := standsAt_zero r.encode trailing
  rw [sniffDomain_eq, sniffHTTP_of_standsAt h]
  by_cases hmajor : r.major = 3
  · rw [if_pos hmajor, sniffTLS_of_standsAt h hmajor]
    split
    · rfl
    · rename_i hempty
      exact (not_not.mp hempty).symm
  · rw [if_neg hmajor, sniffTLS_of_major h hmajor, if_neg (not_not_intro rfl)]

def exampleHello : ClientHello where
  clientVersion := 0x0303
  random := List.replicate 32 0
  sessionID := []
  cipherSuites := [0x1301]
  compressionMethods := [0]
  before := []
  serverNames := ⟨[], ⟨0, goString "Example.com", by decide⟩, [], by decide, rfl⟩
  after := []
  random_length := by decide
  sessionID_fits := by decide
  compressionMethods_fit := by decide
  before_type := by decide

/-- The same hello in a record of version 2.0 has no name. -/
theorem record_version_hides_name :
    sniffDomain (HelloRecord.mk 2 0 exampleHello (by decide)).encode = [] ∧
      sniffDomain (HelloRecord.mk 3 1 exampleHello (by decide)).encode =
        goString "example.com" := by
  decide +kernel

end FoloXray.Netstack
