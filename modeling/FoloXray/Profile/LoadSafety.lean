import FoloXray.Profile.BareAddress
import FoloXray.Profile.Build

/-! # Run-time checks while a profile is loaded

Of all the indexing and slicing that loading a profile does on its strings, only the cut of the last
group of the user identifier can fail, and it fails exactly for the identifiers that overrun their
slice.
-/

namespace FoloXray.Profile

open Foundation Outcome

variable {alloc : Allocator} {label : String}

theorem Reality.build_ne_panicked (r : Reality) : r.build ≠ .panicked := by
  have hkey : r.decodePublicKey ≠ .panicked := by
    unfold decodePublicKey
    repeat' split
    all_goals simp
  have hid : r.decodeShortID ≠ .panicked :=
    bind_ne_panicked (by simpa using hexDecodeString_ne_panicked r.shortID) fun s _ =>
      fun h => by simp [failIf_bind_eq_panicked_iff] at h
  intro h
  simp only [build, failIf_bind_eq_panicked_iff] at h
  refine bind_ne_panicked hkey (fun publicKey _ => ?_) h.2.2
  refine bind_ne_panicked hid fun shortID _ hbuilt => ?_
  cases hbuilt

theorem validServerName_ne_panicked (value : Bytes) : validServerName value ≠ .panicked := by
  dsimp only [validServerName]
  split
  · nofun
  · simp [parseAddress_eq]

theorem Outbound.exists_endpoint (o : Outbound) (account : Account) :
    ∃ server, o.endpoint account = .ok server := by
  simp [endpoint, parseAddress_eq, newIPOrDomain_eq]

/-- The server address and port pass the checks that every protocol starts with. -/
def Outbound.HasEndpoint (o : Outbound) : Prop :=
  trimSpace o.address ≠ [] ∧ o.address.length ≤ 253 ∧ o.port ≠ 0

theorem Outbound.checkEndpoint_ne_panicked (o : Outbound) : o.checkEndpoint label ≠ .panicked := by
  intro h
  simp only [checkEndpoint, failIf_bind_eq_panicked_iff, parseAddress_eq, ok_bind] at h
  exact failIf_ne_panicked h.2.2

theorem Outbound.checkEndpoint_eq_ok_iff (o : Outbound) :
    o.checkEndpoint label = .ok () ↔ o.HasEndpoint := by
  simp [checkEndpoint, failIf_bind_eq_ok_iff, failIf_eq_ok_iff, parseAddress_eq, HasEndpoint, and_assoc]

theorem Outbound.parseUUID_eq_panicked_iff (o : Outbound) :
    o.parseUUID alloc label = .panicked ↔ Overruns alloc o.uuid := by
  rw [parseUUID, mapError_eq_panicked_iff, parseString_eq_panicked_iff]

/-- The common start of the two builders that parse an identifier. -/
theorem Outbound.parse_eq_panicked_iff {β : Type} (o : Outbound) {f : UUID → Outcome Failure β}
    (hf : ∀ id, f id ≠ .panicked) :
    (o.checkEndpoint label >>= fun _ => o.parseUUID alloc label >>= f) = .panicked ↔
      o.HasEndpoint ∧ Overruns alloc o.uuid := by
  rw [bind_eq_panicked_iff]
  constructor
  · rintro (h | ⟨u, hu, h⟩)
    · exact absurd h o.checkEndpoint_ne_panicked
    · rcases bind_eq_panicked_iff.mp h with h | ⟨id, -, h⟩
      · exact ⟨o.checkEndpoint_eq_ok_iff.mp hu, o.parseUUID_eq_panicked_iff.mp h⟩
      · exact absurd h (hf id)
  · rintro ⟨hendpoint, hoverruns⟩
    refine .inr ⟨(), o.checkEndpoint_eq_ok_iff.mpr hendpoint, ?_⟩
    rw [o.parseUUID_eq_panicked_iff.mpr hoverruns]
    rfl

theorem Outbound.buildVless_eq_panicked_iff (o : Outbound) :
    o.buildVless alloc = .panicked ↔ o.HasEndpoint ∧ Overruns alloc o.uuid := by
  refine o.parse_eq_panicked_iff fun id h => ?_
  simp only [failIf_bind_eq_panicked_iff] at h
  obtain ⟨-, -, -, h⟩ := h
  cases hr : o.reality with
  | none => rw [hr] at h; cases h
  | some reality =>
    obtain ⟨text, htext⟩ := id.exists_string Failure
    obtain ⟨server, hserver⟩ := o.exists_endpoint (.vless text o.flow o.encryption)
    rw [hr] at h
    refine bind_ne_panicked reality.build_ne_panicked (fun settings _ => ?_) h
    simp [htext, hserver]

theorem parseVMessSecurity_ne_panicked (value : Bytes) : parseVMessSecurity value ≠ .panicked := by
  unfold parseVMessSecurity
  repeat' split
  all_goals nofun

theorem Outbound.buildVMess_eq_panicked_iff (o : Outbound) :
    o.buildVMess alloc = .panicked ↔ o.HasEndpoint ∧ Overruns alloc o.uuid := by
  refine o.parse_eq_panicked_iff fun id => ?_
  refine bind_ne_panicked (parseVMessSecurity_ne_panicked _) fun securityType _ h => ?_
  obtain ⟨text, htext⟩ := id.exists_string Failure
  obtain ⟨server, hserver⟩ := o.exists_endpoint (.vmess text securityType)
  rw [failIf_bind_eq_panicked_iff] at h
  refine bind_ne_panicked (validServerName_ne_panicked _) (fun valid _ h => ?_) h.2
  simp [failIf_bind_eq_panicked_iff, htext, hserver] at h

theorem Outbound.buildTrojan_ne_panicked (o : Outbound) : o.buildTrojan ≠ .panicked := by
  refine bind_ne_panicked o.checkEndpoint_ne_panicked fun _ _ h => ?_
  obtain ⟨server, hserver⟩ := o.exists_endpoint (.trojan o.password)
  rw [failIf_bind_eq_panicked_iff] at h
  refine bind_ne_panicked (validServerName_ne_panicked _) (fun valid _ h => ?_) h.2
  simp [failIf_bind_eq_panicked_iff, hserver] at h

theorem Outbound.build_eq_panicked_iff (o : Outbound) :
    o.build alloc = .panicked ↔
      o.protocol ≠ goString "trojan" ∧ o.HasEndpoint ∧ Overruns alloc o.uuid := by
  unfold build
  split
  · rename_i htrojan
    exact iff_of_false o.buildTrojan_ne_panicked fun h => h.1 htrojan
  · rename_i htrojan
    split
    · rw [o.buildVMess_eq_panicked_iff]
      exact (and_iff_right htrojan).symm
    · rw [o.buildVless_eq_panicked_iff]
      exact (and_iff_right htrojan).symm

/-- Loading the profile gets as far as parsing its user identifier. -/
structure Config.ReachesUUID (c : Config) : Prop where
  mode : c.mode = goString "tun"
  protocol : c.version = firstReleaseVer ∧ c.outbound.protocol = [] ∨
    c.version = vmessProfileVer ∧ c.outbound.protocol = goString "vmess"
  routing : ∀ routing ∈ c.routing, routing.mode ∈ routingModes
  endpoint : c.outbound.HasEndpoint

theorem Config.reachesUUID_iff (c : Config) :
    c.ReachesUUID ↔
      c.Admitted ∧ c.outbound.protocol ≠ goString "trojan" ∧ c.outbound.HasEndpoint := by
  constructor
  · rintro ⟨hmode, hprotocol, hrouting, hendpoint⟩
    rcases hprotocol with ⟨hversion, hprotocol⟩ | ⟨hversion, hprotocol⟩
    · exact ⟨⟨.inl ⟨hversion, hprotocol⟩, hmode, hrouting⟩, by rw [hprotocol]; decide, hendpoint⟩
    · exact ⟨⟨.inr (.inr ⟨hversion, hprotocol⟩), hmode, hrouting⟩, by rw [hprotocol]; decide,
        hendpoint⟩
  · rintro ⟨⟨hversion | hversion | hversion, hmode, hrouting⟩, hprotocol, hendpoint⟩
    · exact ⟨hmode, .inl hversion, hrouting, hendpoint⟩
    · exact absurd hversion.2 hprotocol
    · exact ⟨hmode, .inr hversion, hrouting, hendpoint⟩

theorem Config.build_panics_iff (c : Config) :
    c.build alloc = .panicked ↔ c.ReachesUUID ∧ Overruns alloc c.outbound.uuid := by
  rw [c.build_eq_panicked_iff, c.outbound.build_eq_panicked_iff, c.reachesUUID_iff]
  tauto

/-- Loading a profile fails no run-time check exactly if the decoded profile is refused before its
user identifier is parsed, or that identifier does not overrun its slice. -/
theorem profile_load_safe_iff (alloc : Allocator) (config : Config) (data : Bytes) :
    (config.build alloc ≠ .panicked ↔
      ¬(config.ReachesUUID ∧ Overruns alloc config.outbound.uuid)) ∧
    (load alloc data ≠ .panicked ↔
      ∀ config, 0 < data.length ∧ data.length ≤ maxConfigBytes ∧ decodeProfile data = .ok config →
        ¬(config.ReachesUUID ∧ Overruns alloc config.outbound.uuid)) := by
  refine ⟨not_congr config.build_panics_iff, ?_⟩
  rw [Ne, load_eq_panicked_iff]
  simp only [Config.build_panics_iff]
  constructor
  · rintro h config ⟨hpos, hmax, hdecode⟩ hpanics
    exact h ⟨⟨hpos, hmax⟩, config, hdecode, hpanics⟩
  · rintro h ⟨⟨hpos, hmax⟩, config, hdecode, hpanics⟩
    exact h config ⟨hpos, hmax, hdecode⟩ hpanics

/-- A VLESS profile whose identifier is a hyphen and thirty-one digits. -/
def hyphenProfile : Bytes :=
  goString ("\x7b\"version\":1,\"mode\":\"tun\",\"outbound\":\x7b\"address\":\"edge.example.com\"," ++
    "\"port\":443,\"uuid\":\"-0000000000000000000000000000001\"\x7d\x7d")

theorem hyphen_uuid_panics :
    0 < hyphenProfile.length ∧ hyphenProfile.length ≤ maxConfigBytes ∧
      load exactAllocator hyphenProfile = .panicked :=
  ⟨by decide +kernel, by decide +kernel, isPanicked_iff.mp (by decide +kernel)⟩

end FoloXray.Profile
