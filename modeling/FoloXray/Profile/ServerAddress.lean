import FoloXray.PacketFlow.Transport
import FoloXray.Profile.FailClosed

/-! # Server addresses of accepted profiles

The builders test that the address of a profile is not blank and that `ParseAddress` returns one, which
it always does.  The address that goes into the configuration is what is left of the text without
brackets and white space, and nothing looks at that.
-/

namespace FoloXray.Profile
open Foundation Outcome

/-- A bracket, a slash of either kind, a space or a control character. -/
def strayByte (c : UInt8) : Bool :=
  c == openBracket || c == closeBracket || c == slash || c == 0x5c || c.toNat ≤ 0x20 || c == 0x7f

/-- An IP address, or a domain that could be dialled as an endpoint. -/
def IPOrDomain.Dialable : IPOrDomain → Prop
  | .ip octets => octets.length = 4 ∨ octets.length = 16
  | .domain name => name ≠ [] ∧ PacketFlow.validateEndpointAddress name = .ok () ∧
      name.all (!strayByte ·) = true

instance (address : IPOrDomain) : Decidable address.Dialable := by
  cases address with
  | ip octets => exact inferInstanceAs (Decidable (octets.length = 4 ∨ octets.length = 16))
  | domain name =>
    exact inferInstanceAs (Decidable (name ≠ [] ∧ PacketFlow.validateEndpointAddress name = .ok () ∧
      name.all (!strayByte ·) = true))

def ProxyConfig.servers : ProxyConfig → List ServerEndpoint
  | .vless vnext => vnext
  | .trojan server => server
  | .vmess receiver => receiver

def serverAddresses (core : CoreConfig) : List IPOrDomain :=
  core.outbound.flatMap fun out => out.proxySettings.value.servers.map (·.address)

theorem strayByte_of_hostByte {c : UInt8} (h : hostByte c = true) : strayByte c = false := by
  have hdot : dot.toNat = 0x2e := rfl
  have hcolon : colon.toNat = 0x3a := rfl
  have hopen : openBracket.toNat = 0x5b := rfl
  have hclose : closeBracket.toNat = 0x5d := rfl
  have hslash : slash.toNat = 0x2f := rfl
  simp only [hostByte, labelByte, ← UInt8.toNat_inj, hdot, hcolon, Bool.or_eq_true, Bool.and_eq_true,
    beq_iff_eq, decide_eq_true_eq] at h
  simp only [strayByte, ← UInt8.toNat_inj, hopen, hclose, hslash, Bool.or_eq_false_iff,
    beq_eq_false_iff_ne, ne_eq, decide_eq_false_iff_not]
  have hback : (0x5c : UInt8).toNat = 0x5c := rfl
  have hdelete : (0x7f : UInt8).toNat = 0x7f := rfl
  have hhyphen : (0x2d : UInt8).toNat = 0x2d := rfl
  omega

theorem length_ofIP {ip : Bytes} (h : ip.length = 16) :
    ∃ octets, (Address.ofIP ip).stored = .ip octets ∧ (octets.length = 4 ∨ octets.length = 16) := by
  unfold Address.ofIP
  cases hto4 : to4 ip with
  | none => exact ⟨ip, rfl, .inr h⟩
  | some octets =>
    refine ⟨octets, rfl, .inl ?_⟩
    unfold to4 at hto4
    rw [if_neg (by omega)] at hto4
    split at hto4
    · cases hto4
      rw [List.length_drop, h]
    · cases hto4

/-- What a text spells can be dialled exactly if the text is a host. -/
theorem dialable_ofText_iff (s : Bytes) : (Address.ofText s).stored.Dialable ↔ HostText s := by
  unfold Address.ofText
  cases hip : parseIP s with
  | some ip =>
    obtain ⟨octets, hstored, hlength⟩ := length_ofIP (parseIP_length hip)
    refine iff_of_true ?_ (.inl (by rw [hip]; nofun))
    rw [Option.elim_some, hstored]
    exact hlength
  | none =>
    rw [Option.elim_none]
    constructor
    · exact fun h => PacketFlow.validateEndpointAddress_eq_ok_iff.mp h.2.1
    · intro h
      refine ⟨h.ne_nil, PacketFlow.validateEndpointAddress_eq_ok_iff.mpr h, ?_⟩
      rw [List.all_eq_true]
      intro c hc
      rw [strayByte_of_hostByte (h.bytes c hc)]
      rfl

theorem Outbound.endpoint_address {o : Outbound} {account : Account} {server : ServerEndpoint}
    (h : o.endpoint account = .ok server) :
    server.address = (Address.ofText (bareAddress o.address)).stored := by
  rw [endpoint, parseAddress_eq, ok_bind, newIPOrDomain_eq, ok_bind, pure_eq_ok] at h
  cases h
  rfl

theorem Outbound.build_servers {alloc : Allocator} {o : Outbound} {out : OutboundHandlerConfig}
    (h : o.build alloc = .ok out) :
    ∃ account server, o.endpoint account = .ok server ∧ out.proxySettings.value.servers = [server] := by
  unfold build at h
  split at h
  · rcases buildTrojan_eq_ok h with ⟨server, -, -, hserver, rfl⟩
    exact ⟨_, server, hserver, rfl⟩
  · split at h
    · rcases buildVMess_eq_ok h with ⟨id, type, server, -, -, -, hserver, rfl⟩
      exact ⟨_, server, hserver, rfl⟩
    · rcases buildVless_eq_ok h with ⟨reality, settings, id, server, -, -, -, hserver, rfl⟩
      exact ⟨_, server, hserver, rfl⟩

/-- Whatever its version, an accepted profile gives one server, at what its bare address spells. -/
theorem serverAddresses_of_load {alloc : Allocator} {data : Bytes} {core : CoreConfig}
    {config : Config} (h : load alloc data = .ok core) (hdecode : decodeProfile data = .ok config) :
    serverAddresses core = [(Address.ofText (bareAddress config.outbound.address)).stored] := by
  rcases load_eq_ok_iff.mp h with ⟨-, config', hdecode', hbuild⟩
  rw [hdecode] at hdecode'
  cases hdecode'
  rcases config.build_eq_ok_iff.mp hbuild with ⟨-, out, hout, rfl⟩
  rcases Outbound.build_servers hout with ⟨account, server, hserver, hservers⟩
  have haddress := Outbound.endpoint_address hserver
  simp [serverAddresses, coreConfig, hservers, haddress]

/-- The server of an accepted profile can be dialled exactly if the address of the profile, without
brackets and white space around it, is an IP literal or a DNS name. -/
theorem serverAddress_dialable_iff {alloc : Allocator} {data : Bytes} {core : CoreConfig}
    {config : Config} (h : load alloc data = .ok core) (hdecode : decodeProfile data = .ok config) :
    serverAddresses core ≠ [] ∧
      ((∀ address ∈ serverAddresses core, address.Dialable) ↔
        HostText (bareAddress config.outbound.address)) := by
  rw [serverAddresses_of_load h hdecode, List.forall_mem_singleton, dialable_ofText_iff]
  exact ⟨List.cons_ne_nil _ _, Iff.rfl⟩

theorem serverAddress_dialable_iff_trojan :
    ∃ core, load exactAllocator trojanProfile = .ok core ∧
      ∀ address ∈ serverAddresses core, address.Dialable := by
  have hconfig : ((decodeProfile trojanProfile).toOption.any fun config =>
      decide (HostText (bareAddress config.outbound.address))) = true := by
    decide +kernel
  rcases loads_trojanProfile with ⟨core, config, hcore, hdecode⟩
  rw [hdecode] at hconfig
  have hhost := of_decide_eq_true hconfig
  exact ⟨core, hcore, (serverAddress_dialable_iff hcore hdecode).2.mpr hhost⟩

def trojanTo (address : String) : Bytes :=
  goString ("\x7b\"version\":2,\"mode\":\"tun\",\"outbound\":\x7b\"protocol\":\"trojan\"," ++
    "\"address\":\"" ++ address ++ "\",\"port\":443,\"password\":\"secret\"," ++
    "\"transport\":\"tcp\",\"security\":\"tls\",\"serverName\":\"edge.example.com\"\x7d\x7d")

/-- A pair of brackets is accepted as an empty domain, and slashes and spaces stay in a domain. -/
theorem stray_address_accepted :
    (∃ core, load exactAllocator (trojanTo "[]") = .ok core ∧
      serverAddresses core = [.domain []] ∧ ¬ (IPOrDomain.domain []).Dialable) ∧
    ∃ core, load exactAllocator (trojanTo "[ a / b ") = .ok core ∧
      serverAddresses core = [.domain (goString "[ a / b")] ∧
      ¬ (IPOrDomain.domain (goString "[ a / b")).Dialable :=
  ⟨exists_of_okWith (by decide +kernel), exists_of_okWith (by decide +kernel)⟩

end FoloXray.Profile
