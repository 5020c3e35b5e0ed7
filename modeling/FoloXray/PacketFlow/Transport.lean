import FoloXray.Foundation.HostName
import FoloXray.Profile.BareAddress

/-! # Dialling through the running instance

`folotun/transport.go`: the check of an endpoint address, the destination it becomes, and the dial of
a TCP stream.  The dispatcher of the instance itself is a parameter.
-/

namespace FoloXray.PacketFlow
open Foundation Outcome

def maxEndpointAddressLength : ℕ := 253

inductive EndpointError where
  | shape
  | forbiddenCharacter
  | invalid
  | dnsName
  | asciiName
  | zeroPort
  | nilInstance
  deriving DecidableEq, Repr

def hyphen : UInt8 := 0x2d

def forbiddenRune (r : ℕ) : Bool := r < 0x20 || r == 0x7f || r == 0x2f || r == 0x5c

def labelRune (r : ℕ) : Bool :=
  r == 0x2d || (0x61 ≤ r && r ≤ 0x7a) || (0x41 ≤ r && r ≤ 0x5a) || (0x30 ≤ r && r ≤ 0x39)

def checkLabel (label : Bytes) : Outcome EndpointError Unit := do
  failIf (label = [] ∨ label.length > 63) .dnsName
  let first ← stringIndex label 0
  failIf (first = hyphen) .dnsName
  let last ← stringIndex label (label.length - 1)
  failIf (last = hyphen) .dnsName
  failIf ((decodeRunes label).any fun r => !labelRune r) .asciiName

def checkLabels : List Bytes → Outcome EndpointError Unit
  | [] => .ok ()
  | label :: labels => do
    checkLabel label
    checkLabels labels

def validateEndpointAddress (address : Bytes) : Outcome EndpointError Unit := do
  failIf (address = [] ∨ address.length > maxEndpointAddressLength ∨ trimSpace address ≠ address)
    .shape
  failIf ((decodeRunes address).any forbiddenRune) .forbiddenCharacter
  match parseIP address with
  | some _ => .ok ()
  | none => do
    let labels := split [dot] address
    failIf (labels.length = 0) .invalid
    checkLabels labels

inductive Network where
  | unknown
  | rawTCP
  | tcp
  | udp
  | unix
  deriving DecidableEq, Repr

structure Destination where
  address : Option Profile.Address
  port : UInt16
  network : Network
  deriving DecidableEq, Repr

def destination (address : Bytes) (port : UInt16) (network : Network) :
    Outcome EndpointError Destination := do
  failIf (port = 0) .zeroPort
  validateEndpointAddress address
  let parsed ← Profile.parseAddress address
  pure ⟨parsed, port, network⟩

/-- `DialTCP`, where an instance is the dispatcher it runs. -/
def dialTCP {ε C : Type} (fail : EndpointError → ε) (inst : Option (Destination → Except ε C))
    (address : Bytes) (port : UInt16) : Outcome ε C :=
  match inst with
  | none => .error (fail .nilInstance)
  | some dial => do
    let dest ← (destination address port .tcp).mapError fail
    match dial dest with
    | .ok conn => .ok conn
    | .error e => .error e

section Labels

variable {label : Bytes}

theorem labelRune_toNat (c : UInt8) : labelRune c.toNat = labelByte c := by
  simp only [labelRune, labelByte, ← UInt8.toNat_inj, beq_eq_decide]
  rfl

/-- The runes of a label are looked at, its bytes are what counts. -/
theorem labelRunes_iff :
    (∀ r ∈ decodeRunes label, labelRune r = true) ↔ ∀ c ∈ label, labelByte c = true := by
  have hsmall {r : ℕ} (h : labelRune r = true) : r < 0x80 := by
    simp only [labelRune, Bool.or_eq_true, Bool.and_eq_true, beq_iff_eq, decide_eq_true_eq] at h
    omega
  constructor
  · intro h c hc
    have hascii := ascii_of_decodeRunes fun r hr => hsmall (h r hr)
    rw [decodeRunes_ascii hascii] at h
    rw [← labelRune_toNat]
    exact h c.toNat (List.mem_map_of_mem hc)
  · intro h r hr
    have hascii : ∀ c ∈ label, c.toNat < 0x80 := by
      intro c hc
      have hrune := labelRune_toNat c
      rw [h c hc] at hrune
      exact hsmall hrune
    rw [decodeRunes_ascii hascii] at hr
    rcases List.mem_map.mp hr with ⟨c, hc, rfl⟩
    rw [labelRune_toNat]
    exact h c hc

theorem checkLabel_eq_ok_iff : checkLabel label = .ok () ↔ DNSLabel label := by
  unfold checkLabel
  cases label with
  | nil =>
    rw [failIf_bind_eq_ok_iff]
    exact ⟨fun h => absurd (.inl rfl) h.1, fun h => absurd rfl h.ne_nil⟩
  | cons c rest =>
    have hne : c :: rest ≠ [] := List.cons_ne_nil c rest
    rw [failIf_bind_eq_ok_iff, stringIndex_head hne, ok_bind, failIf_bind_eq_ok_iff,
      stringIndex_last hne, ok_bind, failIf_bind_eq_ok_iff, failIf_eq_ok_iff]
    have hrunes : (¬ ((decodeRunes (c :: rest)).any fun r => !labelRune r) = true) ↔
        ∀ b ∈ c :: rest, labelByte b = true := by
      rw [← labelRunes_iff]
      simp
    rw [hrunes]
    constructor
    · rintro ⟨hlen, hfirst, hlast, hbytes⟩
      refine ⟨hne, by simpa using hlen, ?_, ?_, hbytes⟩
      · rw [List.head?_cons]
        exact fun h => hfirst (Option.some.inj h)
      · rw [List.getLast?_eq_some_getLast hne]
        exact fun h => hlast (Option.some.inj h)
    · intro h
      refine ⟨by simpa using h.length_le, ?_, ?_, h.bytes⟩
      · exact fun hfirst => h.head (congrArg some hfirst)
      · intro hlast
        apply h.last
        rw [List.getLast?_eq_some_getLast hne, hlast]
        rfl

theorem checkLabels_eq_ok_iff {labels : List Bytes} :
    checkLabels labels = .ok () ↔ ∀ label ∈ labels, DNSLabel label := by
  induction labels with
  | nil => simp [checkLabels]
  | cons label labels ih =>
    rw [checkLabels, bind_eq_ok_iff, List.forall_mem_cons, ← ih, ← checkLabel_eq_ok_iff]
    exact ⟨fun ⟨(), hlabel, hlabels⟩ => ⟨hlabel, hlabels⟩,
      fun ⟨hlabel, hlabels⟩ => ⟨(), hlabel, hlabels⟩⟩

end Labels

section Addresses

variable {address : Bytes}

theorem length_splitOn_ne_zero (c : UInt8) (s : Bytes) : (s.splitOn c).length ≠ 0 := by
  rw [Ne, List.length_eq_zero_iff]
  exact List.splitOn_ne_nil c s

theorem forbiddenRune_of_hostByte {c : UInt8} (h : hostByte c = true) :
    forbiddenRune c.toNat = false := by
  have hdot : dot.toNat = 0x2e := rfl
  have hcolon : colon.toNat = 0x3a := rfl
  simp only [hostByte, ← labelRune_toNat, labelRune, ← UInt8.toNat_inj, hdot, hcolon,
    Bool.or_eq_true, Bool.and_eq_true, beq_iff_eq, decide_eq_true_eq] at h
  simp only [forbiddenRune, Bool.or_eq_false_iff, beq_eq_false_iff_ne, decide_eq_false_iff_not]
  omega

theorem no_forbiddenRune (h : HostText address) :
    (decodeRunes address).any forbiddenRune = false := by
  have hascii : ∀ c ∈ address, c.toNat < 0x80 := fun c hc => ascii_of_hostByte (h.bytes c hc)
  rw [decodeRunes_ascii hascii, List.any_eq_false]
  intro r hr
  rcases List.mem_map.mp hr with ⟨c, hc, rfl⟩
  rw [forbiddenRune_of_hostByte (h.bytes c hc)]
  exact Bool.false_ne_true

/-- `ValidateEndpointAddress` accepts the IP literals and the DNS names, and nothing else. -/
theorem validateEndpointAddress_eq_ok_iff :
    validateEndpointAddress address = .ok () ↔ HostText address := by
  unfold validateEndpointAddress
  rw [failIf_bind_eq_ok_iff, failIf_bind_eq_ok_iff]
  constructor
  · rintro ⟨hshape, -, h⟩
    cases hip : parseIP address with
    | some ip =>
      refine .inl ?_
      rw [hip]
      nofun
    | none =>
      rw [hip] at h
      simp only [split_singleton, failIf_bind_eq_ok_iff, checkLabels_eq_ok_iff] at h
      refine .inr ⟨?_, h.2⟩
      by_contra hlong
      exact hshape (.inr (.inl (not_le.mp hlong)))
  · intro h
    refine ⟨?_, by simp [no_forbiddenRune h], ?_⟩
    · rintro (hempty | hlong | hpadded)
      · exact h.ne_nil hempty
      · exact absurd h.length_le (not_le.mpr hlong)
      · exact hpadded h.trimSpace_eq
    · cases hip : parseIP address with
      | some ip => rfl
      | none =>
        rcases h with hparsed | hname
        · exact absurd hip hparsed
        · simp only [split_singleton, failIf_bind_eq_ok_iff, checkLabels_eq_ok_iff]
          exact ⟨length_splitOn_ne_zero dot address, hname.labels⟩

theorem exists_destination_iff {port : UInt16} {network : Network} :
    (∃ dest, destination address port network = .ok dest) ↔ port ≠ 0 ∧ HostText address := by
  rw [← validateEndpointAddress_eq_ok_iff]
  unfold destination
  simp only [bind_eq_ok_iff, failIf_eq_ok_iff, Profile.parseAddress_eq]
  constructor
  · rintro ⟨dest, _, hport, _, hvalid, -⟩
    exact ⟨hport, hvalid⟩
  · rintro ⟨hport, hvalid⟩
    exact ⟨_, (), hport, (), hvalid, _, rfl, rfl⟩

theorem dialTCP_eq_ok_iff {ε C : Type} {fail : EndpointError → ε} {dial : Destination → Except ε C}
    {port : UInt16} {conn : C} :
    dialTCP fail (some dial) address port = .ok conn ↔
      ∃ dest, destination address port .tcp = .ok dest ∧ dial dest = .ok conn := by
  unfold dialTCP
  cases destination address port .tcp with
  | ok dest =>
    cases hdial : dial dest <;> simp [mapError, hdial]
  | error e => simp [mapError]
  | panicked => simp [mapError]

end Addresses

end FoloXray.PacketFlow
