import FoloXray.PacketFlow.Transport
import FoloXray.Profile.BareAddress

/-! # From a validated endpoint to a destination

`ValidateEndpointAddress` is strict and `ParseAddress` behind it is lax: it takes brackets and white
space off.  On what the validation lets through it takes nothing off.
-/

namespace FoloXray.PacketFlow
open Foundation Outcome

variable {address : Bytes}

/-- The parts of a host, the length counted for IP literals too. -/
theorem hostText_iff :
    HostText address ↔ 1 ≤ address.length ∧ address.length ≤ 253 ∧
      (parseIP address ≠ none ∨ ∀ label ∈ address.splitOn dot, DNSLabel label) := by
  constructor
  · intro h
    refine ⟨List.length_pos_iff.mpr h.ne_nil, h.length_le, ?_⟩
    exact h.imp_right DNSName.labels
  · rintro ⟨-, hle, h⟩
    exact h.imp_right (DNSName.mk hle)

theorem parseAddress_of_hostText {ε : Type} (h : HostText address) :
    (Profile.parseAddress address : Outcome ε _) = .ok (some (.ofText address)) := by
  rw [Profile.parseAddress_eq, Profile.bareAddress_of_hostText h]

theorem destination_of_hostText {port : UInt16} (h : HostText address) (hport : port ≠ 0)
    (network : Network) :
    destination address port network = .ok ⟨some (.ofText address), port, network⟩ := by
  rw [destination, failIf_of_not hport, ok_bind, validateEndpointAddress_eq_ok_iff.mpr h, ok_bind,
    parseAddress_of_hostText h]
  rfl

/-- The endpoints that are accepted, and what an accepted one is dialled as: the IP address it spells,
an IPv4-mapped one as IPv4, and otherwise the domain that is the very string. -/
theorem endpoint_address_agrees (address : Bytes) :
    (validateEndpointAddress address = .ok () ↔ 1 ≤ address.length ∧ address.length ≤ 253 ∧
      (parseIP address ≠ none ∨ ∀ label ∈ address.splitOn dot, DNSLabel label)) ∧
    ∀ port network, validateEndpointAddress address = .ok () → port ≠ 0 →
      ∃ parsed, destination address port network = .ok ⟨some parsed, port, network⟩ ∧
        (∀ ip, parseIP address = some ip → parsed = (to4 ip).elim (.ipv6 ip) .ipv4) ∧
        (parseIP address = none → parsed = .domain address) := by
  constructor
  · rw [validateEndpointAddress_eq_ok_iff, hostText_iff]
  · intro port network hvalid hport
    have hhost := validateEndpointAddress_eq_ok_iff.mp hvalid
    refine ⟨.ofText address, destination_of_hostText hhost hport network, ?_, ?_⟩
    · intro ip hip
      rw [Profile.Address.ofText, hip]
      rfl
    · intro hip
      rw [Profile.Address.ofText, hip]
      rfl

/-- An IPv4-mapped literal with leading colons, and a name of digits and hyphens. -/
theorem endpoint_address_agrees_mapped :
    destination (goString "::ffff:1.2.3.4") 443 .tcp = .ok ⟨some (.ipv4 [1, 2, 3, 4]), 443, .tcp⟩ ∧
      destination (goString "1-2.3") 443 .tcp = .ok ⟨some (.domain (goString "1-2.3")), 443, .tcp⟩ := by
  have hmapped : parseIP (goString "::ffff:1.2.3.4") = some (v4InV6Prefix ++ [1, 2, 3, 4]) := by
    decide +kernel
  have hname : parseIP (goString "1-2.3") = none := by decide +kernel
  constructor
  · have h := endpoint_address_agrees (goString "::ffff:1.2.3.4")
    obtain ⟨parsed, hparsed, hip, -⟩ := h.2 443 .tcp
      (h.1.mpr ⟨by decide +kernel, by decide +kernel, .inl (by rw [hmapped]; nofun)⟩) (by decide)
    rw [hparsed, hip _ hmapped]
    rfl
  · have h := endpoint_address_agrees (goString "1-2.3")
    obtain ⟨parsed, hparsed, -, hdomain⟩ := h.2 443 .tcp
      (h.1.mpr ⟨by decide +kernel, by decide +kernel, .inr (by decide +kernel)⟩) (by decide)
    rw [hparsed, hdomain hname]

end FoloXray.PacketFlow
