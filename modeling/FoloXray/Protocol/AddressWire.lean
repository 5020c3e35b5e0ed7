import FoloXray.PacketFlow.Transport
import FoloXray.Protocol.Address

/-! # The addresses that survive the wire

Whatever stands on the wire, reading an address does not panic, and the addresses that it gives are
exactly those that come back unchanged from being written and read.
-/

namespace FoloXray.Protocol

open Foundation Buffers Decoder Encoder
open Profile (Address ipAddress parseAddress bareAddress)

/-- An address that comes back as it is: an IPv4-mapped address would come back as IPv4, and an IP
address in text form as that address. -/
def Portable : Address → Prop
  | .ipv4 octets => octets.length = 4
  | .ipv6 octets => octets.length = 16 ∧ to4 octets = none
  | .domain name => name ≠ [] ∧ name.length ≤ 255 ∧ isValidDomain name = true ∧ parseIP name = none

instance : DecidablePred Portable := by
  intro a
  cases a <;> unfold Portable <;> infer_instance

/-- Each family has a byte, and what the byte is taken for is that family. -/
def AddressParser.Coherent (p : AddressParser) : Prop :=
  ∀ f, ((p.addrByteMap f).bind fun b => p.addrFamily (p.addrType b)) = some f

instance (p : AddressParser) : Decidable p.Coherent :=
  decidable_of_iff (∀ f ∈ [AddressFamily.ipv4, .ipv6, .domain],
    ((p.addrByteMap f).bind fun b => p.addrFamily (p.addrType b)) = some f)
    ⟨fun h f => h f (by cases f <;> simp), fun h f _ => h f⟩

theorem AddressParser.Coherent.byte {p : AddressParser} (hp : p.Coherent) (f : AddressFamily) :
    ∃ b, p.addrByteMap f = some b ∧ p.addrFamily (p.addrType b) = some f :=
  Option.bind_eq_some_iff.mp (hp f)

theorem portable_ofIP {ip : Bytes} (h : ip.length = 16) : Portable (.ofIP ip) := by
  by_cases hmapped : ip.take 12 = v4InV6Prefix
  · have hto4 : to4 ip = some (ip.drop 12) := by
      rw [to4, if_neg (by omega), if_pos ⟨h, hmapped⟩]
    rw [Address.ofIP, hto4]
    exact (List.length_drop).trans (by rw [h])
  · have hto4 : to4 ip = none := by
      rw [to4, if_neg (by omega), if_neg fun hand => hmapped hand.2]
    rw [Address.ofIP, hto4]
    exact ⟨h, hto4⟩

/-- Every host that can be dialled is an address that survives the wire. -/
theorem portable_of_hostText {s : Bytes} (h : HostText s) : Portable (.ofText s) := by
  rw [Address.ofText]
  cases hip : parseIP s with
  | some ip => exact portable_ofIP (parseIP_length hip)
  | none =>
    have hname : DNSName s := h.resolve_left (not_not.mpr hip)
    refine ⟨hname.ne_nil, by have := hname.length_le; omega, List.all_eq_true.mpr ?_, hip⟩
    intro c hc
    rcases mem_splitOn (c := dot) hc with hdot | ⟨label, hlabel, hmem⟩
    · rw [hdot]
      rfl
    · have hbyte := (hname.labels label hlabel).bytes c hmem
      simp only [labelByte, Bool.or_eq_true, Bool.and_eq_true, decide_eq_true_eq, beq_iff_eq] at hbyte
      simp only [domainByte, Bool.or_eq_true, Bool.and_eq_true, decide_eq_true_eq, beq_iff_eq]
      tauto

theorem solid_of_domainByte {c : UInt8} (h : domainByte c = true) : solid c := by
  have hspace : (whiteSpace.all fun u => u.all fun b => !domainByte b) = true := by decide +kernel
  intro u hu hc
  have hnone := List.all_eq_true.mp (List.all_eq_true.mp hspace u hu) c hc
  rw [h] at hnone
  cases hnone

/-- Nothing is taken off a domain before it is looked at as an IP address. -/
theorem bareAddress_of_isValidDomain {d : Bytes} (h : isValidDomain d = true) : bareAddress d = d := by
  have hbytes := List.all_eq_true.mp h
  have hnot : ¬ (d.head? = some Profile.openBracket ∧ d.getLast? = some Profile.closeBracket) := by
    rintro ⟨hhead, -⟩
    exact absurd (hbytes _ (List.mem_of_head? hhead)) (by decide)
  rw [bareAddress, Profile.unbracketed, if_neg hnot, trimSpace_of_solid]
  exact fun c hc => solid_of_domainByte (hbytes c hc)

theorem domainAddress_of_portable {d : Bytes} (h : Portable (.domain d)) :
    domainAddress d = .ok (some (.domain d)) := by
  obtain ⟨hne, -, hvalid, hip⟩ := h
  have hcheck : checkDomain d = .ok (some (.domain d)) := if_pos hvalid
  have hparse : (parseAddress d : Outcome AddressError _) = .ok (some (.domain d)) := by
    rw [Profile.parseAddress_eq, bareAddress_of_isValidDomain hvalid, Address.ofText, hip]
    rfl
  rw [domainAddress, stringIndex_head hne, Outcome.ok_bind]
  by_cases hstart : maybeIPPrefix (d.head hne) = true
  · rw [if_pos hstart, hparse, Outcome.ok_bind]
    exact hcheck
  · rw [if_neg hstart]
    exact hcheck

theorem checkDomain_ne_panicked (d : Bytes) : checkDomain d ≠ .panicked := by
  unfold checkDomain
  split <;> simp

/-- A text is taken as an IP address, or checked as a domain that is none. -/
theorem domainAddress_cases {d : Bytes} (hne : d ≠ []) :
    (∃ ip, parseIP (bareAddress d) = some ip ∧ domainAddress d = .ok (some (.ofIP ip))) ∨
      domainAddress d = checkDomain d ∧ (isValidDomain d = true → parseIP d = none) := by
  rw [domainAddress, stringIndex_head hne, Outcome.ok_bind, Profile.parseAddress_eq]
  by_cases hstart : maybeIPPrefix (d.head hne) = true
  · rw [if_pos hstart, Outcome.ok_bind, Address.ofText]
    cases hip : parseIP (bareAddress d) with
    | none =>
      refine .inr ⟨rfl, ?_⟩
      intro hvalid
      rwa [bareAddress_of_isValidDomain hvalid] at hip
    | some ip =>
      refine .inl ⟨ip, rfl, ?_⟩
      rw [Option.elim_some, Address.ofIP]
      cases to4 ip <;> rfl
  · rw [if_neg hstart]
    refine .inr ⟨rfl, ?_⟩
    -- without a colon in it, an IP address would start with a digit
    intro hvalid
    by_contra hip
    have hcolon : colon ∉ d := by
      intro hmem
      exact absurd (List.all_eq_true.mp hvalid _ hmem) (by decide)
    obtain ⟨c, rest, v, rfl, hdigit⟩ := parseIP_start hip hcolon
    unfold decimalDigit at hdigit
    split at hdigit
    · rename_i hrange
      apply hstart
      simp [maybeIPPrefix, hrange.1, hrange.2]
    · cases hdigit

theorem domainAddress_ne_panicked {d : Bytes} (hne : d ≠ []) : domainAddress d ≠ .panicked := by
  rcases domainAddress_cases hne with ⟨ip, -, h⟩ | ⟨h, -⟩
  · rw [h]
    simp
  · rw [h]
    exact checkDomain_ne_panicked d

/-- The text is at most 255 bytes long, or it has a byte in it that no domain has. -/
theorem portable_of_domainAddress {d : Bytes} (hne : d ≠ [])
    (hlen : d.length ≤ 255 ∨ isValidDomain d = false) {a : Option Address}
    (h : domainAddress d = .ok a) : ∃ a', a = some a' ∧ Portable a' := by
  rcases domainAddress_cases hne with ⟨ip, hip, hd⟩ | ⟨hd, hnone⟩
  · rw [hd] at h
    cases h
    exact ⟨_, rfl, portable_ofIP (parseIP_length hip)⟩
  · rw [hd] at h
    by_cases hvalid : isValidDomain d = true
    · rw [checkDomain, if_pos hvalid] at h
      cases h
      refine ⟨_, rfl, hne, ?_, hvalid, hnone hvalid⟩
      exact hlen.resolve_right (by rw [hvalid]; exact Bool.noConfusion)
    · rw [checkDomain, if_neg hvalid] at h
      cases h

theorem ensures_readPort (s : Intake) : Ensures readPort s fun _ _ => True :=
  ((ensures_take two_ne_zero s).mapError _).bind fun _ _ _ => ensures_pure trivial

theorem ensures_ipAddress {ip : Bytes} (h : ip.length = 4 ∨ ip.length = 16) (s : Intake) :
    Ensures (.lift (ipAddress ip) : Decoder AddressError _) s
      fun a _ => ∃ a', a = some a' ∧ Portable a' := by
  rcases h with h | h
  · have hip : (ipAddress ip : Outcome AddressError _) = .ok (some (.ipv4 ip)) := by
      rw [ipAddress, if_pos h, Profile.ipv4Address_eq h]
    rw [hip]
    exact ⟨_, rfl, h⟩
  · rw [Profile.ipAddress_eq h]
    exact ⟨_, rfl, portable_ofIP h⟩

/-- The text behind a length is not empty: if the length is given as zero, that zero is in it. -/
theorem ensures_domainText {l : UInt8} {s : Intake} {front : Bytes} (hl : s.buffer = front ++ [l]) :
    Ensures (Decoder.take bufSize l.toNat) s fun d _ =>
      d ≠ [] ∧ (d.length ≤ 255 ∨ isValidDomain d = false) := by
  by_cases hzero : l.toNat = 0
  · rw [hzero]
    refine (ensures_fill bufSize 0 s).bind ?_
    rintro - t ⟨part, ht, -⟩
    refine (ensures_bytesFrom (Nat.zero_le _)).mono ?_
    rintro d - ⟨-, rfl⟩
    have hmem : l ∈ t.buffer := by
      rw [ht, hl]
      simp
    rw [if_pos rfl]
    refine ⟨List.ne_nil_of_mem hmem, .inr ?_⟩
    rw [isValidDomain, List.all_eq_false]
    refine ⟨l, hmem, ?_⟩
    have hbyte : l = 0 := UInt8.toNat_inj.mp hzero
    rw [hbyte]
    decide
  · refine (ensures_take hzero s).mono ?_
    rintro d - ⟨-, hlen, -⟩
    have hbyte := l.toNat_lt
    exact ⟨List.ne_nil_of_length_pos (by omega), .inl (by omega)⟩

variable {p : AddressParser}

theorem ensures_readAddress (p : AddressParser) (s : Intake) :
    Ensures p.readAddress s fun a _ => ∃ a', a = some a' ∧ Portable a' := by
  refine ((ensures_takeByte s).mapError _).bind ?_
  intro b s₁ hb
  cases hfamily : p.addrFamily (p.addrType b) with
  | none =>
    simp only [hfamily]
    exact ensures_fail _
  | some f =>
    simp only [hfamily]
    cases f with
    | ipv4 =>
      refine ((ensures_take (by decide) s₁).mapError _).bind ?_
      exact fun ip s₂ hip => ensures_ipAddress (.inl hip.2.1) s₂
    | ipv6 =>
      refine ((ensures_take (by decide) s₁).mapError _).bind ?_
      exact fun ip s₂ hip => ensures_ipAddress (.inr hip.2.1) s₂
    | domain =>
      refine ((ensures_takeByte s₁).mapError _).bind ?_
      intro l s₂ hl
      refine ((ensures_domainText hl).mapError _).bind ?_
      rintro d s₃ ⟨hne, hlen⟩
      exact ensures_lift (domainAddress_ne_panicked hne) fun a ha =>
        portable_of_domainAddress hne hlen ha

theorem ensures_readAddressPort (p : AddressParser) (s : Intake) :
    Ensures p.readAddressPort s fun r _ => ∃ a, r.1 = some a ∧ Portable a := by
  unfold AddressParser.readAddressPort
  by_cases hfirst : p.portFirst = true
  · rw [if_pos hfirst]
    refine (ensures_readPort s).bind fun port s₁ _ => ?_
    exact (ensures_readAddress p s₁).bind fun a s₂ ha => ensures_pure ha
  · rw [if_neg hfirst]
    refine (ensures_readAddress p s).bind fun a s₁ ha => ?_
    exact (ensures_readPort s₁).bind fun port s₂ _ => ensures_pure ha

def addressBytes : Address → Bytes
  | .ipv4 octets | .ipv6 octets => octets
  | .domain name => UInt8.ofNat name.length :: name

def AddressParser.addressWord (p : AddressParser) (a : Address) : Bytes :=
  (p.addrByteMap (family a)).getD 0 :: addressBytes a

def AddressParser.word (p : AddressParser) (a : Address) (port : UInt16) : Bytes :=
  if p.portFirst then twoBytes port.toNat ++ p.addressWord a else p.addressWord a ++ twoBytes port.toNat

theorem AddressParser.length_word_le (p : AddressParser) {a : Address} (ha : Portable a) (port : UInt16) :
    (p.word a port).length ≤ 259 := by
  have haddress : (p.addressWord a).length ≤ 257 := by
    cases a with
    | ipv4 octets =>
      have hlen : octets.length = 4 := ha
      simp only [AddressParser.addressWord, addressBytes, List.length_cons]
      omega
    | ipv6 octets =>
      have hlen : octets.length = 16 := ha.1
      simp only [AddressParser.addressWord, addressBytes, List.length_cons]
      omega
    | domain name =>
      have hlen := ha.2.1
      simp only [AddressParser.addressWord, addressBytes, List.length_cons]
      omega
  unfold AddressParser.word twoBytes
  split <;> simp only [List.length_append, List.length_cons, List.length_nil] <;> omega

theorem portFromBytes_twoBytes (port : UInt16) : portFromBytes (twoBytes port.toNat) = port := by
  have hvalue := twoBytes_value port.toNat_lt
  simp only [portFromBytes, twoBytes, List.getD_cons_zero, List.getD_cons_succ]
  rw [hvalue, UInt16.ofNat_toNat]

theorem collects_readPort (port : UInt16) : Collects bufSize readPort (twoBytes port.toNat) port := by
  refine ((collects_take rfl two_ne_zero).mapError _).bind_pure ?_
  rw [portFromBytes_twoBytes]
  exact collects_pure port

theorem emits_writePort (port : UInt16) : Emits bufSize (writePort port) (twoBytes port.toNat) :=
  emits_put _

variable (hp : p.Coherent) {a : Address} (ha : Portable a)

include hp in
theorem emits_writeAddress (hlong : ∀ name, a = .domain name → name.length ≤ 256) :
    Emits bufSize (p.writeAddress a) (p.addressWord a) := by
  obtain ⟨b, hbyte, -⟩ := hp.byte (family a)
  unfold AddressParser.writeAddress AddressParser.addressWord
  rw [hbyte]
  cases a with
  | ipv4 octets => exact (emits_put [b]).seq (emits_put octets)
  | ipv6 octets => exact (emits_put [b]).seq (emits_put octets)
  | domain name =>
    have hshort : isDomainTooLong name = false := by
      simpa [isDomainTooLong] using hlong name rfl
    simp only [hshort, Bool.false_eq_true, if_false]
    exact (emits_put [b, UInt8.ofNat name.length]).seq (emits_put name)

include hp ha in
theorem collects_readAddress : Collects bufSize p.readAddress (p.addressWord a) (some a) := by
  obtain ⟨b, hbyte, hfamily⟩ := hp.byte (family a)
  unfold AddressParser.addressWord
  rw [hbyte, Option.getD_some, ← List.singleton_append]
  refine ((collects_takeByte b).mapError _).bind ?_
  simp only [hfamily]
  cases a with
  | ipv4 octets =>
    have hlen : octets.length = 4 := ha
    refine ((collects_take hlen (by decide)).mapError _).bind_pure (collects_lift ?_)
    rw [ipAddress, if_pos hlen, Profile.ipv4Address_eq hlen]
  | ipv6 octets =>
    refine ((collects_take ha.1 (by decide)).mapError _).bind_pure (collects_lift ?_)
    rw [Profile.ipAddress_eq ha.1, Address.ofIP, ha.2]
    rfl
  | domain name =>
    have hlen : (UInt8.ofNat name.length).toNat = name.length := by
      have := ha.2.1
      rw [UInt8.toNat_ofNat']
      omega
    have hne : name.length ≠ 0 := fun h => ha.1 (List.length_eq_zero_iff.mp h)
    simp only [family, addressBytes]
    rw [← List.singleton_append]
    refine ((collects_takeByte _).mapError _).bind ?_
    rw [hlen]
    exact ((collects_take rfl hne).mapError _).bind_pure (collects_lift (domainAddress_of_portable ha))

include hp ha in
theorem emits_writeAddressPort (port : UInt16) :
    Emits bufSize (p.writeAddressPort a port) (p.word a port) := by
  have hlong (name : Bytes) (hname : a = .domain name) : name.length ≤ 256 := by
    subst hname
    have := ha.2.1
    omega
  unfold AddressParser.writeAddressPort AddressParser.word
  by_cases hfirst : p.portFirst = true
  · rw [if_pos hfirst, if_pos hfirst]
    exact (emits_writePort port).seq (emits_writeAddress hp hlong)
  · rw [if_neg hfirst, if_neg hfirst]
    exact (emits_writeAddress hp hlong).seq (emits_writePort port)

include hp ha in
theorem collects_readAddressPort (port : UInt16) :
    Collects bufSize p.readAddressPort (p.word a port) (some a, port) := by
  unfold AddressParser.readAddressPort AddressParser.word
  by_cases hfirst : p.portFirst = true
  · rw [if_pos hfirst, if_pos hfirst]
    exact (collects_readPort port).bind ((collects_readAddress hp ha).bind_pure (collects_pure _))
  · rw [if_neg hfirst, if_neg hfirst]
    exact (collects_readAddress hp ha).bind ((collects_readPort port).bind_pure (collects_pure _))

include hp ha in
theorem accepts_readAddressPort (port : UInt16) :
    Accepts bufSize p.readAddressPort (p.word a port) (some a, port) :=
  (collects_readAddressPort hp ha port).accepts

section Destinations

open PacketFlow (Destination)

def Reachable (d : Destination) : Prop := ∃ a, d.address = some a ∧ Portable a

/-- The address and the port of a destination on the wire. -/
def AddressParser.destWord (p : AddressParser) (d : Destination) : Bytes :=
  d.address.elim [] fun a => p.word a d.port

variable {d : Destination}

theorem length_destWord_le (p : AddressParser) (h : Reachable d) : (p.destWord d).length ≤ 259 := by
  obtain ⟨a, haddress, ha⟩ := h
  rw [AddressParser.destWord, haddress]
  exact p.length_word_le ha d.port

theorem le_length_destWord (p : AddressParser) (h : Reachable d) : 3 ≤ (p.destWord d).length := by
  obtain ⟨a, haddress, -⟩ := h
  rw [AddressParser.destWord, haddress, Option.elim_some, AddressParser.word]
  split <;> simp only [twoBytes, AddressParser.addressWord, List.length_append, List.length_cons,
    List.length_nil] <;> omega

include hp in
theorem emits_destWord (h : Reachable d) :
    ∃ a, d.address = some a ∧ Emits bufSize (p.writeAddressPort a d.port) (p.destWord d) := by
  obtain ⟨a, haddress, ha⟩ := h
  rw [AddressParser.destWord, haddress]
  exact ⟨a, rfl, emits_writeAddressPort hp ha d.port⟩

include hp in
theorem accepts_destWord (h : Reachable d) :
    Accepts bufSize p.readAddressPort (p.destWord d) (d.address, d.port) := by
  obtain ⟨a, haddress, ha⟩ := h
  rw [AddressParser.destWord, haddress]
  exact accepts_readAddressPort hp ha d.port

def resolver : Destination := ⟨some (.ipv4 [1, 2, 3, 4]), 53, .udp⟩

theorem reachable_resolver : Reachable resolver := ⟨_, rfl, by decide⟩

end Destinations

/-- Reading an address neither panics nor gives a nil address; every address that it gives is one that,
with any port, comes back unchanged from being written and read, in whatever chunks it comes. -/
theorem addresses_survive (hp : p.Coherent) (s : Intake) :
    p.readAddressPort s ≠ .panicked ∧
      ∀ r t, p.readAddressPort s = .ok (r, t) → ∃ a, r.1 = some a ∧
        ∀ port, ∃ w, Emits bufSize (p.writeAddressPort a port) w ∧
          Accepts bufSize p.readAddressPort w (some a, port) := by
  have hread := ensures_readAddressPort p s
  refine ⟨hread.ne_panicked, ?_⟩
  intro r t hok
  obtain ⟨a, ha, hportable⟩ := hread.of_ok hok
  exact ⟨a, ha, fun port =>
    ⟨p.word a port, emits_writeAddressPort hp hportable port, accepts_readAddressPort hp hportable port⟩⟩

/-- A parser that takes four bits of the type, and an IPv4 address in sixteen-byte form for it. -/
def maskedParser : AddressParser :=
  newAddressParser [.addressFamilyByte 1 .ipv4, .addressFamilyByte 4 .ipv6, .addressFamilyByte 3 .domain,
    .withAddressTypeParser (· &&& 0x0f)]

def mappedIntake : Intake :=
  ⟨[], .ofBytes (0x14 :: v4InV6Prefix ++ [1, 2, 3, 4] ++ [0, 80])⟩

theorem addresses_survive_mapped :
    (∃ t, maskedParser.readAddressPort mappedIntake = .ok ((some (.ipv4 [1, 2, 3, 4]), 80), t)) ∧
      ∀ port, ∃ w, Emits bufSize (maskedParser.writeAddressPort (.ipv4 [1, 2, 3, 4]) port) w ∧
        Accepts bufSize maskedParser.readAddressPort w (some (.ipv4 [1, 2, 3, 4]), port) := by
  have hread : ∃ t, maskedParser.readAddressPort mappedIntake = .ok ((some (.ipv4 [1, 2, 3, 4]), 80), t) := by
    have hok : (maskedParser.readAddressPort mappedIntake).okWith
        (fun r => r.1 = (some (.ipv4 [1, 2, 3, 4]), 80)) = true := by decide +kernel
    obtain ⟨⟨r, t⟩, hread, rfl⟩ := Outcome.exists_of_okWith hok
    exact ⟨t, hread⟩
  refine ⟨hread, ?_⟩
  obtain ⟨t, hread⟩ := hread
  obtain ⟨a, ha, hsurvives⟩ := (addresses_survive (by decide) mappedIntake).2 _ _ hread
  obtain rfl := Option.some.inj ha
  exact hsurvives

end FoloXray.Protocol
