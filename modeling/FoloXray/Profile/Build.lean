import FoloXray.Profile.Schema

/-! # Building the engine configuration from a profile

`folojson.go`: the checks of each protocol in the order of the source, and the single outbound that
they end in.  The three builders share their address checks, their TCP transport and the shape of
their outbound; every step that indexes or slices a string of the profile can fail a run-time check.
-/

namespace FoloXray.Profile

open Foundation Outcome

def maxConfigBytes : ℕ := 4 * 1024 * 1024
def firstReleaseVer : ℤ := 1
def trojanProfileVer : ℤ := 2
def vmessProfileVer : ℤ := 3
def realityKeyLength : ℕ := 32
def shortIDLength : ℕ := 8

def xrv : Bytes := goString "xtls-rprx-vision"

/-- Try the decoders in turn; the error of the last one is reported. -/
def decodeWith (value : Bytes) : List Base64 → (lastErr : Base64.CorruptInputError) →
    Except Failure Bytes
  | [], lastErr => .error (.wrapped "invalid base64 value" (.corruptInput lastErr))
  | decoder :: decoders, _ =>
    match decoder.decodeString value with
    | .ok decoded => .ok decoded
    | .error e => decodeWith value decoders e

def decodeURLBase64 (value : Bytes) : Except Failure Bytes :=
  decodeWith value [.rawURLEncoding, .urlEncoding, .rawStdEncoding, .stdEncoding] 0

def Reality.decodePublicKey (r : Reality) : Outcome Failure Bytes :=
  match decodeURLBase64 r.publicKey with
  | .ok publicKey =>
    if publicKey.length ≠ realityKeyLength then
      .error (.new "Reality publicKey must decode to 32 bytes")
    else .ok publicKey
  | .error _ => .error (.new "Reality publicKey must decode to 32 bytes")

def Reality.decodeShortID (r : Reality) : Outcome Failure Bytes := do
  let shortID ← (hexDecodeString r.shortID).mapError
    fun _ => .new "Reality shortId must be 16 hexadecimal characters"
  failIf (shortID.length ≠ shortIDLength) (.new "Reality shortId must be 16 hexadecimal characters")
  pure shortID

def Reality.build (r : Reality) : Outcome Failure RealityConfig := do
  failIf (trimSpace r.serverName = [] ∨ 253 < r.serverName.length)
    (.new "Reality serverName is required")
  failIf (trimSpace r.fingerprint = []) (.new "Reality fingerprint is required")
  let publicKey ← r.decodePublicKey
  let shortID ← r.decodeShortID
  pure
    { fingerprint := r.fingerprint
      serverName := r.serverName
      publicKey := publicKey
      shortId := shortID
      spiderX := r.spiderX
      spiderY := [] }

def validLabelRune (r : ℕ) : Bool :=
  r == 0x2d || (0x61 ≤ r && r ≤ 0x7a) || (0x41 ≤ r && r ≤ 0x5a) || (0x30 ≤ r && r ≤ 0x39)

def validLabels : List Bytes → Outcome Failure Bool
  | [] => .ok true
  | label :: labels =>
    if label = [] ∨ 63 < label.length then .ok false
    else do
      let first ← stringIndex label 0
      let last ← stringIndex label (label.length - 1)
      if first = hyphen ∨ last = hyphen then pure false
      else if (decodeRunes label).all validLabelRune then validLabels labels
      else pure false

def validServerName (value : Bytes) : Outcome Failure Bool :=
  let value := trimSpace value
  if value = [] ∨ 253 < value.length ∨ value.any (fun c => c == slash || c == 0x20) then .ok false
  else do
    let address ← parseAddress value
    if address ≠ none then pure true else validLabels (value.splitOn dot)

/-- The checks of address and port that the three builders start with. -/
def Outbound.checkEndpoint (o : Outbound) (label : String) : Outcome Failure Unit := do
  failIf (trimSpace o.address = [] ∨ 253 < o.address.length) (.new (label ++ " address is required"))
  failIf (o.port = 0) (.new (label ++ " port is out of range"))
  let address ← parseAddress o.address
  failIf (address = none) (.new (label ++ " address is invalid"))

def Outbound.parseUUID (o : Outbound) (alloc : Allocator) (label : String) : Outcome Failure UUID :=
  (parseString alloc o.uuid).mapError fun e => .wrapped (label ++ " UUID is invalid") (.uuid e)

def tcpStream (security : SecurityConfig) : StreamConfig where
  protocolName := goString "tcp"
  transportSettings := [⟨goString "tcp", toTypedMessage ⟨⟩⟩]
  securityType := Message.messageType security
  securitySettings := [toTypedMessage security]

def tlsSecurity (serverName : Bytes) : SecurityConfig :=
  .tls ⟨false, serverName, goString "1.2", goString "1.3"⟩

def Outbound.endpoint (o : Outbound) (account : Account) : Outcome Failure ServerEndpoint := do
  let parsed ← parseAddress o.address
  let address ← newIPOrDomain parsed
  pure ⟨address, o.port.toUInt32, [⟨toTypedMessage account⟩]⟩

def proxyOutbound (security : SecurityConfig) (proxy : ProxyConfig) : OutboundHandlerConfig where
  tag := goString "proxy"
  senderSettings := toTypedMessage ⟨tcpStream security⟩
  proxySettings := toTypedMessage proxy

def Outbound.buildVless (o : Outbound) (alloc : Allocator) :
    Outcome Failure OutboundHandlerConfig := do
  o.checkEndpoint "VLESS"
  let parsedUUID ← o.parseUUID alloc "VLESS"
  failIf (o.flow ≠ xrv) (.new "Folo first release requires xtls-rprx-vision")
  failIf (o.encryption ≠ goString "none")
    (.new "Folo first release requires VLESS encryption=none")
  failIf (o.transport ≠ goString "tcp" ∨ o.security ≠ goString "reality")
    (.new "Folo first release supports only TCP plus Reality")
  match o.reality with
  | none => .error (.new "Folo VLESS Reality settings are required")
  | some reality => do
    let realitySettings ← reality.build
    let id ← parsedUUID.string
    let server ← o.endpoint (.vless id o.flow o.encryption)
    pure (proxyOutbound (.reality realitySettings) (.vless [server]))

def Outbound.buildTrojan (o : Outbound) : Outcome Failure OutboundHandlerConfig := do
  o.checkEndpoint "Trojan"
  failIf (trimSpace o.password = [] ∨ 256 < o.password.length) (.new "Trojan password is invalid")
  let valid ← validServerName o.serverName
  failIf (valid = false) (.new "Trojan serverName is invalid")
  failIf (o.transport ≠ goString "tcp" ∨ o.security ≠ goString "tls")
    (.new "Folo Trojan supports only TCP plus TLS")
  failIf (o.uuid ≠ [] ∨ o.flow ≠ [] ∨ o.encryption ≠ [] ∨ o.reality ≠ none)
    (.new "Trojan configuration contains VLESS or Reality fields")
  let server ← o.endpoint (.trojan o.password)
  pure (proxyOutbound (tlsSecurity o.serverName) (.trojan [server]))

def parseVMessSecurity (value : Bytes) : Outcome Failure SecurityType :=
  if value = goString "auto" then .ok .auto
  else if value = goString "aes-128-gcm" then .ok .aes128Gcm
  else if value = goString "chacha20-poly1305" then .ok .chacha20Poly1305
  else .error (.new "Folo VMess requires an approved AEAD security")

def Outbound.buildVMess (o : Outbound) (alloc : Allocator) :
    Outcome Failure OutboundHandlerConfig := do
  o.checkEndpoint "VMess"
  let parsedUUID ← o.parseUUID alloc "VMess"
  let securityType ← parseVMessSecurity o.encryption
  failIf (o.transport ≠ goString "tcp" ∨ o.security ≠ goString "tls")
    (.new "Folo VMess supports only TCP plus TLS")
  let valid ← validServerName o.serverName
  failIf (valid = false) (.new "VMess serverName is invalid")
  failIf (o.password ≠ [] ∨ o.flow ≠ [] ∨ o.reality ≠ none)
    (.new "VMess configuration contains Trojan, VLESS or Reality fields")
  let id ← parsedUUID.string
  let server ← o.endpoint (.vmess id securityType)
  pure (proxyOutbound (tlsSecurity o.serverName) (.vmess [server]))

def Outbound.build (o : Outbound) (alloc : Allocator) : Outcome Failure OutboundHandlerConfig :=
  if o.protocol = goString "trojan" then o.buildTrojan
  else if o.protocol = goString "vmess" then o.buildVMess alloc
  else o.buildVless alloc

def Config.checkProtocol (c : Config) : Outcome Failure Unit :=
  if c.version = firstReleaseVer then
    failIf (c.outbound.protocol ≠ [])
      (.new "Folo VLESS configuration does not accept a protocol discriminator")
  else if c.version = trojanProfileVer then
    failIf (c.outbound.protocol ≠ goString "trojan")
      (.new "Folo Trojan configuration requires protocol=trojan")
  else if c.version = vmessProfileVer then
    failIf (c.outbound.protocol ≠ goString "vmess")
      (.new "Folo VMess configuration requires protocol=vmess")
  else .ok ()

def routingModes : List Bytes := [[], goString "rule", goString "global", goString "direct"]

/-- The configuration around the one outbound; nothing listens. -/
def coreConfig (outbound : OutboundHandlerConfig) : CoreConfig where
  app := [toTypedMessage .dispatcher, toTypedMessage .proxymanInbound,
    toTypedMessage .proxymanOutbound, toTypedMessage .stats]
  inbound := []
  outbound := [outbound]

def Config.build (c : Config) (alloc : Allocator) : Outcome Failure CoreConfig := do
  failIf (c.version ≠ firstReleaseVer ∧ c.version ≠ trojanProfileVer ∧ c.version ≠ vmessProfileVer)
    (.new "unsupported Folo configuration version")
  failIf (c.mode ≠ goString "tun") (.new "Folo first release requires mode=tun")
  c.checkProtocol
  failIf (∃ routing ∈ c.routing, routing.mode ∉ routingModes) (.new "unsupported routing mode")
  let outbound ← c.outbound.build alloc
  pure (coreConfig outbound)

/-- Decode a profile; nothing but white space may follow it. -/
def decodeProfile (data : Bytes) : Except Failure Config :=
  match Json.decodeNext decodeConfig .zero data with
  | .error e => .error (.wrapped "failed to decode Folo configuration" (.json e))
  | .ok (config, rest) =>
    let trailing : Json.StreamError → Except Failure Config := fun e =>
      .error (.wrapped "failed to decode trailing Folo configuration data" (.json e))
    match Json.readValue rest with
    | .eof => .ok config
    | .value j _ =>
      match j.storeInterface with
      | none => .error (.new "Folo configuration contains trailing data")
      | some e => trailing (.decode e)
    | .unexpectedEOF => trailing .unexpectedEOF
    | .syntaxError => trailing .syntaxError

def load (alloc : Allocator) (data : Bytes) : Outcome Failure CoreConfig := do
  failIf (data.length = 0 ∨ maxConfigBytes < data.length)
    (.new "Folo configuration is empty or too large")
  match decodeProfile data with
  | .error e => .error e
  | .ok config => config.build alloc

theorem Reality.decodePublicKey_eq_ok {r : Reality} {publicKey : Bytes}
    (h : r.decodePublicKey = .ok publicKey) : publicKey.length = realityKeyLength := by
  unfold decodePublicKey at h
  split at h
  · split at h
    · cases h
    · rename_i hlen
      cases h
      exact not_not.mp hlen
  · cases h

theorem Reality.decodeShortID_eq_ok {r : Reality} {shortID : Bytes}
    (h : r.decodeShortID = .ok shortID) : shortID.length = shortIDLength := by
  obtain ⟨decoded, -, h⟩ := bind_eq_ok_iff.mp h
  obtain ⟨hlen, h⟩ := failIf_bind_eq_ok_iff.mp h
  cases h
  exact not_not.mp hlen

theorem Reality.build_eq_ok {r : Reality} {config : RealityConfig} (h : r.build = .ok config) :
    config.publicKey.length = realityKeyLength ∧ config.shortId.length = shortIDLength ∧
      config.spiderY = [] := by
  simp only [build, failIf_bind_eq_ok_iff] at h
  obtain ⟨-, -, h⟩ := h
  obtain ⟨publicKey, hkey, h⟩ := bind_eq_ok_iff.mp h
  obtain ⟨shortID, hid, h⟩ := bind_eq_ok_iff.mp h
  cases h
  exact ⟨decodePublicKey_eq_ok hkey, decodeShortID_eq_ok hid, rfl⟩

theorem Outbound.buildVless_eq_ok {alloc : Allocator} {o : Outbound} {out : OutboundHandlerConfig}
    (h : o.buildVless alloc = .ok out) :
    ∃ reality settings id server, o.checkEndpoint "VLESS" = .ok () ∧ o.reality = some reality ∧
      reality.build = .ok settings ∧ o.endpoint (.vless id xrv (goString "none")) = .ok server ∧
      out = proxyOutbound (.reality settings) (.vless [server]) := by
  obtain ⟨_, hendpoint, h⟩ := bind_eq_ok_iff.mp h
  obtain ⟨parsedUUID, -, h⟩ := bind_eq_ok_iff.mp h
  simp only [failIf_bind_eq_ok_iff, not_not] at h
  obtain ⟨hflow, hencryption, -, h⟩ := h
  cases hr : o.reality with
  | none => rw [hr] at h; cases h
  | some reality =>
    rw [hr] at h
    obtain ⟨settings, hsettings, h⟩ := bind_eq_ok_iff.mp h
    obtain ⟨id, -, h⟩ := bind_eq_ok_iff.mp h
    obtain ⟨server, hserver, h⟩ := bind_eq_ok_iff.mp h
    cases h
    rw [hflow, hencryption] at hserver
    exact ⟨reality, settings, id, server, hendpoint, rfl, hsettings, hserver, rfl⟩

theorem Outbound.buildTrojan_eq_ok {o : Outbound} {out : OutboundHandlerConfig}
    (h : o.buildTrojan = .ok out) :
    ∃ server, o.checkEndpoint "Trojan" = .ok () ∧ validServerName o.serverName = .ok true ∧
      o.endpoint (.trojan o.password) = .ok server ∧
      out = proxyOutbound (tlsSecurity o.serverName) (.trojan [server]) := by
  obtain ⟨_, hendpoint, h⟩ := bind_eq_ok_iff.mp h
  rw [failIf_bind_eq_ok_iff] at h
  obtain ⟨valid, hname, h⟩ := bind_eq_ok_iff.mp h.2
  simp only [failIf_bind_eq_ok_iff, Bool.not_eq_false] at h
  obtain ⟨rfl, -, -, h⟩ := h
  obtain ⟨server, hserver, h⟩ := bind_eq_ok_iff.mp h
  cases h
  exact ⟨server, hendpoint, hname, hserver, rfl⟩

theorem Outbound.buildVMess_eq_ok {alloc : Allocator} {o : Outbound} {out : OutboundHandlerConfig}
    (h : o.buildVMess alloc = .ok out) :
    ∃ id type server, o.checkEndpoint "VMess" = .ok () ∧
      parseVMessSecurity o.encryption = .ok type ∧ validServerName o.serverName = .ok true ∧
      o.endpoint (.vmess id type) = .ok server ∧
      out = proxyOutbound (tlsSecurity o.serverName) (.vmess [server]) := by
  obtain ⟨_, hendpoint, h⟩ := bind_eq_ok_iff.mp h
  obtain ⟨parsedUUID, -, h⟩ := bind_eq_ok_iff.mp h
  obtain ⟨type, htype, h⟩ := bind_eq_ok_iff.mp h
  rw [failIf_bind_eq_ok_iff] at h
  obtain ⟨valid, hname, h⟩ := bind_eq_ok_iff.mp h.2
  simp only [failIf_bind_eq_ok_iff, Bool.not_eq_false] at h
  obtain ⟨rfl, -, h⟩ := h
  obtain ⟨id, -, h⟩ := bind_eq_ok_iff.mp h
  obtain ⟨server, hserver, h⟩ := bind_eq_ok_iff.mp h
  cases h
  exact ⟨id, type, server, hendpoint, htype, hname, hserver, rfl⟩

def Config.Admitted (c : Config) : Prop :=
  (c.version = firstReleaseVer ∧ c.outbound.protocol = [] ∨
    c.version = trojanProfileVer ∧ c.outbound.protocol = goString "trojan" ∨
    c.version = vmessProfileVer ∧ c.outbound.protocol = goString "vmess") ∧
  c.mode = goString "tun" ∧ ∀ routing ∈ c.routing, routing.mode ∈ routingModes

theorem Config.checkProtocol_ne_panicked (c : Config) : c.checkProtocol ≠ .panicked := by
  unfold checkProtocol
  repeat' split
  · exact failIf_ne_panicked
  · exact failIf_ne_panicked
  · exact failIf_ne_panicked
  · nofun

theorem Config.checkProtocol_eq_ok_iff (c : Config)
    (h : ¬(c.version ≠ firstReleaseVer ∧ c.version ≠ trojanProfileVer ∧
      c.version ≠ vmessProfileVer)) {u : Unit} :
    c.checkProtocol = .ok u ↔
      c.version = firstReleaseVer ∧ c.outbound.protocol = [] ∨
        c.version = trojanProfileVer ∧ c.outbound.protocol = goString "trojan" ∨
        c.version = vmessProfileVer ∧ c.outbound.protocol = goString "vmess" := by
  unfold checkProtocol
  unfold firstReleaseVer trojanProfileVer vmessProfileVer at *
  split
  · rename_i hv
    simp [failIf_eq_ok_iff, hv]
  · split
    · rename_i hv
      simp [failIf_eq_ok_iff, hv]
    · split
      · rename_i hv
        simp [failIf_eq_ok_iff, hv]
      · omega

/-- A profile is refused by its own checks or built around its outbound. -/
theorem Config.build_cases (alloc : Allocator) (c : Config) :
    c.Admitted ∧ c.build alloc = (c.outbound.build alloc >>= fun o => pure (coreConfig o)) ∨
      ¬c.Admitted ∧ ∃ e, c.build alloc = .error e := by
  by_cases hv : c.version ≠ firstReleaseVer ∧ c.version ≠ trojanProfileVer ∧
      c.version ≠ vmessProfileVer
  · refine .inr ⟨?_, _, by rw [build, failIf_of hv, error_bind]⟩
    rintro ⟨⟨h, -⟩ | ⟨h, -⟩ | ⟨h, -⟩, -⟩
    · exact hv.1 h
    · exact hv.2.1 h
    · exact hv.2.2 h
  · by_cases hm : c.mode ≠ goString "tun"
    · exact .inr ⟨fun h => hm h.2.1, _,
        by rw [build, failIf_of_not hv, ok_bind, failIf_of hm, error_bind]⟩
    · rw [build, failIf_of_not hv, ok_bind, failIf_of_not hm, ok_bind]
      cases hp : c.checkProtocol with
      | panicked => exact absurd hp c.checkProtocol_ne_panicked
      | error e =>
        refine .inr ⟨fun h => ?_, e, by rw [error_bind]⟩
        rw [(c.checkProtocol_eq_ok_iff hv (u := ())).mpr h.1] at hp
        cases hp
      | ok u =>
        have hprotocol := (c.checkProtocol_eq_ok_iff hv).mp hp
        by_cases hr : ∃ routing ∈ c.routing, routing.mode ∉ routingModes
        · refine .inr ⟨fun h => ?_, _, by rw [ok_bind, failIf_of hr, error_bind]⟩
          obtain ⟨routing, hrouting, hmode⟩ := hr
          exact hmode (h.2.2 routing hrouting)
        · refine .inl ⟨⟨hprotocol, not_not.mp hm, ?_⟩, ?_⟩
          · intro routing hrouting
            by_contra hmode
            exact hr ⟨routing, hrouting, hmode⟩
          · rw [ok_bind, failIf_of_not hr, ok_bind]

theorem Config.build_eq_panicked_iff {alloc : Allocator} (c : Config) :
    c.build alloc = .panicked ↔ c.Admitted ∧ c.outbound.build alloc = .panicked := by
  rcases c.build_cases alloc with ⟨hadmitted, hbuild⟩ | ⟨hadmitted, e, hbuild⟩
  · simp [hbuild, hadmitted, bind_eq_panicked_iff]
  · simp [hbuild, hadmitted]

theorem Config.build_eq_ok_iff {alloc : Allocator} {core : CoreConfig} (c : Config) :
    c.build alloc = .ok core ↔
      c.Admitted ∧ ∃ outbound, c.outbound.build alloc = .ok outbound ∧
        coreConfig outbound = core := by
  rcases c.build_cases alloc with ⟨hadmitted, hbuild⟩ | ⟨hadmitted, e, hbuild⟩
  · simp [hbuild, hadmitted, bind_eq_ok_iff]
  · simp [hbuild, hadmitted]

theorem load_limit_iff {data : Bytes} :
    ¬(data.length = 0 ∨ maxConfigBytes < data.length) ↔
      0 < data.length ∧ data.length ≤ maxConfigBytes := by
  rw [not_or, not_lt, Nat.pos_iff_ne_zero]

theorem load_eq_panicked_iff {alloc : Allocator} {data : Bytes} :
    load alloc data = .panicked ↔
      (0 < data.length ∧ data.length ≤ maxConfigBytes) ∧
        ∃ config, decodeProfile data = .ok config ∧ config.build alloc = .panicked := by
  rw [load, failIf_bind_eq_panicked_iff, load_limit_iff]
  cases decodeProfile data with
  | error e => simp
  | ok config => simp

theorem load_eq_ok_iff {alloc : Allocator} {data : Bytes} {core : CoreConfig} :
    load alloc data = .ok core ↔
      (0 < data.length ∧ data.length ≤ maxConfigBytes) ∧
        ∃ config, decodeProfile data = .ok config ∧ config.build alloc = .ok core := by
  rw [load, failIf_bind_eq_ok_iff, load_limit_iff]
  cases decodeProfile data with
  | error e => simp
  | ok config => simp

end FoloXray.Profile
