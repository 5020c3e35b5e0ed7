import FoloXray.Profile.LoadSafety

/-! # Fields of another protocol

One outbound record holds the fields of three protocols.  The Trojan and the VMess builder refuse the
fields that are not theirs; the VLESS builder refuses none, it never reads them.
-/

namespace FoloXray.Profile
open Foundation Outcome

/-- Every credential and security field that belongs only to another protocol than that of the version
is empty. -/
structure Config.Unmixed (c : Config) : Prop where
  vless : c.version = firstReleaseVer → c.outbound.password = [] ∧ c.outbound.serverName = []
  trojan : c.version = trojanProfileVer → c.outbound.uuid = [] ∧ c.outbound.flow = [] ∧
    c.outbound.encryption = [] ∧ c.outbound.reality = none
  vmess : c.version = vmessProfileVer → c.outbound.password = [] ∧ c.outbound.flow = [] ∧
    c.outbound.reality = none

section Builders

variable {alloc : Allocator} {o : Outbound} {out : OutboundHandlerConfig}

theorem Outbound.buildTrojan_unmixed (h : o.buildTrojan = .ok out) :
    o.uuid = [] ∧ o.flow = [] ∧ o.encryption = [] ∧ o.reality = none := by
  rcases bind_eq_ok_iff.mp h with ⟨_, -, h⟩
  rw [failIf_bind_eq_ok_iff] at h
  rcases bind_eq_ok_iff.mp h.2 with ⟨valid, -, h⟩
  simp only [failIf_bind_eq_ok_iff] at h
  simpa only [not_or, not_not] using h.2.2.1

theorem Outbound.buildVMess_unmixed (h : o.buildVMess alloc = .ok out) :
    o.password = [] ∧ o.flow = [] ∧ o.reality = none := by
  rcases bind_eq_ok_iff.mp h with ⟨_, -, h⟩
  rcases bind_eq_ok_iff.mp h with ⟨parsedUUID, -, h⟩
  rcases bind_eq_ok_iff.mp h with ⟨type, -, h⟩
  rw [failIf_bind_eq_ok_iff] at h
  rcases bind_eq_ok_iff.mp h.2 with ⟨valid, -, h⟩
  simp only [failIf_bind_eq_ok_iff] at h
  simpa only [not_or, not_not] using h.2.1

end Builders

/-- The same profile with another password and another outer server name. -/
def Config.withTLSFields (c : Config) (password serverName : Bytes) : Config :=
  { c with outbound := { c.outbound with password := password, serverName := serverName } }

theorem Config.build_withTLSFields {c : Config} (hversion : c.version = firstReleaseVer)
    (alloc : Allocator) (password serverName : Bytes) :
    (c.withTLSFields password serverName).build alloc = c.build alloc := by
  by_cases hprotocol : c.outbound.protocol = []
  · have hbuild : (c.withTLSFields password serverName).outbound.build alloc =
        c.outbound.build alloc := by
      unfold Outbound.build
      rw [hprotocol, show (c.withTLSFields password serverName).outbound.protocol = [] from hprotocol]
      rfl
    rw [Config.build, Config.build, hbuild]
    rfl
  · have hcheck (p : Config) (hp : p.version = firstReleaseVer) (hne : p.outbound.protocol ≠ []) :
        p.checkProtocol =
          .error (.new "Folo VLESS configuration does not accept a protocol discriminator") := by
      rw [checkProtocol, if_pos hp, failIf_of hne]
    rw [Config.build, Config.build, hcheck c hversion hprotocol,
      hcheck (c.withTLSFields password serverName) hversion hprotocol]
    rfl

/-- An accepted profile mixes no protocols exactly if, being a VLESS profile, it has no password and no
outer server name; and an accepted VLESS profile is accepted with any. -/
theorem build_unmixed_iff {alloc : Allocator} {c : Config} {core : CoreConfig}
    (h : c.build alloc = .ok core) :
    (c.Unmixed ↔ (c.version = firstReleaseVer →
      c.outbound.password = [] ∧ c.outbound.serverName = [])) ∧
    (c.version = firstReleaseVer → ∀ password serverName,
      (c.withTLSFields password serverName).build alloc = .ok core) := by
  constructor
  · refine ⟨Config.Unmixed.vless, fun hvless => ?_⟩
    rcases c.build_eq_ok_iff.mp h with ⟨⟨hprotocol, -⟩, out, hout, -⟩
    unfold Outbound.build at hout
    rcases hprotocol with ⟨hfirst, -⟩ | ⟨hsecond, hname⟩ | ⟨hthird, hname⟩
    · refine ⟨hvless, ?_, ?_⟩
      · intro hversion
        rw [hfirst] at hversion
        exact absurd hversion (by decide)
      · intro hversion
        rw [hfirst] at hversion
        exact absurd hversion (by decide)
    · rw [if_pos hname] at hout
      refine ⟨hvless, fun _ => Outbound.buildTrojan_unmixed hout, ?_⟩
      intro hversion
      rw [hsecond] at hversion
      exact absurd hversion (by decide)
    · rw [if_neg (by rw [hname]; decide), if_pos hname] at hout
      refine ⟨hvless, ?_, fun _ => Outbound.buildVMess_unmixed hout⟩
      intro hversion
      rw [hthird] at hversion
      exact absurd hversion (by decide)
  · intro hversion password serverName
    rw [Config.build_withTLSFields hversion, h]

/-- A complete VLESS profile with the given password and outer server name. -/
def vlessWith (password serverName : String) : Config where
  version := 1
  mode := goString "tun"
  outbound :=
    { protocol := []
      address := goString "edge.example.com"
      port := 443
      uuid := goString "00000000-0000-0000-0000-000000000001"
      password := goString password
      flow := xrv
      encryption := goString "none"
      transport := goString "tcp"
      security := goString "reality"
      serverName := goString serverName
      reality := some
        { serverName := goString "www.example.com"
          fingerprint := goString "chrome"
          publicKey := goString "AAAAAAAAAAAAAAAAAAAAAAAAAAAAAAAAAAAAAAAAAAA"
          shortID := goString "0123456789abcdef"
          spiderX := goString "/" } }
  routing := none

theorem build_unmixed_iff_vless :
    (vlessWith "" "").Unmixed ∧ ∃ core, (vlessWith "" "").build exactAllocator = .ok core ∧
      ((vlessWith "" "").withTLSFields (goString "secret") []).build exactAllocator = .ok core := by
  have hbuild : ∃ core, (vlessWith "" "").build exactAllocator = .ok core ∧ core.inbound = [] :=
    exists_of_okWith (by decide +kernel)
  rcases hbuild with ⟨core, hcore, -⟩
  have h := build_unmixed_iff hcore
  exact ⟨h.1.mpr fun _ => ⟨by decide +kernel, by decide +kernel⟩, core, hcore, h.2 rfl _ _⟩

/-- A VLESS profile with a Trojan password and an outer server name is accepted. -/
theorem mixed_profile_accepted :
    (∃ core, (vlessWith "secret" "edge.example.com").build exactAllocator = .ok core ∧
      core.outbound ≠ []) ∧ ¬ (vlessWith "secret" "edge.example.com").Unmixed := by
  refine ⟨exists_of_okWith (by decide +kernel), fun h => ?_⟩
  exact absurd (h.vless rfl).1 (by decide +kernel)

end FoloXray.Profile
