import FoloXray.Profile.LoadSafety

/-! # What an accepted profile can turn into

Whatever bytes `Load` accepts, the configuration has a single way out: one outbound over TCP under
one security, with one server and one user, and the protocol, the account and the security are those
that belong to the version of the profile.
-/

namespace FoloXray.Profile

open Foundation Outcome

/-- The configuration listens nowhere and has one outbound; it goes over TCP under the given security
to one server on a proper port, as the one given user. -/
structure SoleOutbound (core : CoreConfig) (security : SecurityConfig)
    (proxy : List ServerEndpoint → ProxyConfig) (account : Account) : Prop where
  inbound : core.inbound = []
  outbound : ∃ out server, core.outbound = [out] ∧ out.tag = goString "proxy" ∧
    out.senderSettings.type = Message.messageType out.senderSettings.value ∧
    out.senderSettings.value.streamSettings.protocolName = goString "tcp" ∧
    out.senderSettings.value.streamSettings.transportSettings =
      [⟨goString "tcp", toTypedMessage ⟨⟩⟩] ∧
    out.senderSettings.value.streamSettings.securityType = Message.messageType security ∧
    out.senderSettings.value.streamSettings.securitySettings =
      [⟨out.senderSettings.value.streamSettings.securityType, security⟩] ∧
    out.proxySettings = toTypedMessage (proxy [server]) ∧
    server.port ≠ 0 ∧ server.user = [⟨toTypedMessage account⟩]

/-- TLS between 1.2 and 1.3 to a named server, with its certificate checked. -/
def CheckedTLS (security : SecurityConfig) : Prop :=
  ∃ config, security = .tls config ∧ config.serverName ≠ [] ∧ config.allowInsecure = false ∧
    config.minVersion = goString "1.2" ∧ config.maxVersion = goString "1.3"

def approvedSecurity : List SecurityType := [.auto, .aes128Gcm, .chacha20Poly1305]

variable {alloc : Allocator} {o : Outbound} {out : OutboundHandlerConfig}

theorem parseVMessSecurity_eq_ok {value : Bytes} {type : SecurityType}
    (h : parseVMessSecurity value = .ok type) : type ∈ approvedSecurity := by
  unfold parseVMessSecurity at h
  split at h
  · cases h
    decide
  · split at h
    · cases h
      decide
    · split at h
      · cases h
        decide
      · cases h

theorem ne_nil_of_validServerName {value : Bytes} (h : validServerName value = .ok true) :
    value ≠ [] := by
  rintro rfl
  have hempty : validServerName [] = .ok false := rfl
  rw [hempty] at h
  cases h

theorem Outbound.endpoint_eq_ok {account : Account} {server : ServerEndpoint}
    (h : o.endpoint account = .ok server) :
    server.port = o.port.toUInt32 ∧ server.user = [⟨toTypedMessage account⟩] := by
  rcases bind_eq_ok_iff.mp h with ⟨parsed, -, h⟩
  rcases bind_eq_ok_iff.mp h with ⟨address, -, h⟩
  cases h
  exact ⟨rfl, rfl⟩

theorem toUInt32_ne_zero {port : UInt16} (h : port ≠ 0) : port.toUInt32 ≠ 0 := by
  intro hzero
  apply h
  apply UInt16.toNat_inj.mp
  simpa using congrArg UInt32.toNat hzero

theorem soleOutbound_of_endpoint {account : Account} {server : ServerEndpoint}
    {proxy : List ServerEndpoint → ProxyConfig} (security : SecurityConfig) (hport : o.port ≠ 0)
    (h : o.endpoint account = .ok server) :
    SoleOutbound (coreConfig (proxyOutbound security (proxy [server]))) security proxy account where
  inbound := rfl
  outbound := by
    rcases Outbound.endpoint_eq_ok h with ⟨hserver, huser⟩
    refine ⟨_, server, rfl, rfl, rfl, rfl, rfl, rfl, rfl, rfl, ?_, huser⟩
    rw [hserver]
    exact toUInt32_ne_zero hport

theorem Outbound.port_of_checkEndpoint {label : String} {u : Unit}
    (h : o.checkEndpoint label = .ok u) : o.port ≠ 0 := (o.checkEndpoint_eq_ok_iff.mp h).2.2

theorem Outbound.buildVless_sole (h : o.buildVless alloc = .ok out) :
    ∃ settings id, settings.publicKey.length = realityKeyLength ∧
      settings.shortId.length = shortIDLength ∧
      SoleOutbound (coreConfig out) (.reality settings) .vless (.vless id xrv (goString "none")) := by
  rcases buildVless_eq_ok h with ⟨reality, settings, id, server, hendpoint, -, hsettings, hserver,
    rfl⟩
  rcases Reality.build_eq_ok hsettings with ⟨hkey, hid, -⟩
  exact ⟨settings, id, hkey, hid,
    soleOutbound_of_endpoint _ (port_of_checkEndpoint hendpoint) hserver⟩

theorem Outbound.buildTrojan_sole (h : o.buildTrojan = .ok out) :
    ∃ security password, CheckedTLS security ∧
      SoleOutbound (coreConfig out) security .trojan (.trojan password) := by
  rcases buildTrojan_eq_ok h with ⟨server, hendpoint, hname, hserver, rfl⟩
  exact ⟨tlsSecurity o.serverName, o.password,
    ⟨_, rfl, ne_nil_of_validServerName hname, rfl, rfl, rfl⟩,
    soleOutbound_of_endpoint _ (port_of_checkEndpoint hendpoint) hserver⟩

theorem Outbound.buildVMess_sole (h : o.buildVMess alloc = .ok out) :
    ∃ security id type, CheckedTLS security ∧ type ∈ approvedSecurity ∧
      SoleOutbound (coreConfig out) security .vmess (.vmess id type) := by
  rcases buildVMess_eq_ok h with ⟨id, type, server, hendpoint, htype, hname, hserver, rfl⟩
  exact ⟨tlsSecurity o.serverName, id, type,
    ⟨_, rfl, ne_nil_of_validServerName hname, rfl, rfl, rfl⟩,
    parseVMessSecurity_eq_ok htype,
    soleOutbound_of_endpoint _ (port_of_checkEndpoint hendpoint) hserver⟩

def ManagedFor (version : ℤ) (core : CoreConfig) : Prop :=
  version = firstReleaseVer ∧ (∃ settings id, settings.publicKey.length = realityKeyLength ∧
      settings.shortId.length = shortIDLength ∧
      SoleOutbound core (.reality settings) .vless (.vless id xrv (goString "none"))) ∨
  version = trojanProfileVer ∧ (∃ security password, CheckedTLS security ∧
      SoleOutbound core security .trojan (.trojan password)) ∨
  version = vmessProfileVer ∧ (∃ security id type, CheckedTLS security ∧ type ∈ approvedSecurity ∧
      SoleOutbound core security .vmess (.vmess id type))

/-- `Load` fails closed: every configuration it returns has the one managed outbound that belongs to
the version of the decoded profile. -/
theorem load_fail_closed {alloc : Allocator} {data : Bytes} {core : CoreConfig}
    (h : load alloc data = .ok core) :
    ∃ config, decodeProfile data = .ok config ∧ ManagedFor config.version core := by
  rcases load_eq_ok_iff.mp h with ⟨-, config, hdecode, hbuild⟩
  rcases config.build_eq_ok_iff.mp hbuild with ⟨⟨hprotocol, -⟩, out, hout, rfl⟩
  refine ⟨config, hdecode, ?_⟩
  unfold Outbound.build at hout
  rcases hprotocol with ⟨hversion, hname⟩ | ⟨hversion, hname⟩ | ⟨hversion, hname⟩
  · rw [if_neg (by rw [hname]; decide), if_neg (by rw [hname]; decide)] at hout
    exact .inl ⟨hversion, Outbound.buildVless_sole hout⟩
  · rw [if_pos hname] at hout
    exact .inr (.inl ⟨hversion, Outbound.buildTrojan_sole hout⟩)
  · rw [if_neg (by rw [hname]; decide), if_pos hname] at hout
    exact .inr (.inr ⟨hversion, Outbound.buildVMess_sole hout⟩)

def trojanProfile : Bytes :=
  goString ("\x7b\"version\":2,\"mode\":\"tun\",\"outbound\":\x7b\"protocol\":\"trojan\"," ++
    "\"address\":\"edge.example.com\",\"port\":443,\"password\":\"secret\"," ++
    "\"transport\":\"tcp\",\"security\":\"tls\",\"serverName\":\"www.example.com\"\x7d\x7d")

theorem loads_trojanProfile : ∃ core config, load exactAllocator trojanProfile = .ok core ∧
    decodeProfile trojanProfile = .ok config := by
  have hloads : ∃ core, load exactAllocator trojanProfile = .ok core ∧ core.inbound = [] :=
    exists_of_okWith (by decide +kernel)
  rcases hloads with ⟨core, hcore, -⟩
  rcases load_eq_ok_iff.mp hcore with ⟨-, config, hdecode, -⟩
  exact ⟨core, config, hcore, hdecode⟩

theorem load_fail_closed_trojan :
    ∃ core config, load exactAllocator trojanProfile = .ok core ∧
      decodeProfile trojanProfile = .ok config ∧ ManagedFor config.version core := by
  rcases loads_trojanProfile with ⟨core, -, hcore, -⟩
  rcases load_fail_closed hcore with ⟨config, hdecode, hmanaged⟩
  exact ⟨core, config, hcore, hdecode, hmanaged⟩

end FoloXray.Profile
