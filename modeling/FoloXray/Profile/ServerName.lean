import FoloXray.Foundation.HostName
import FoloXray.Profile.FailClosed

/-! # Server names of TLS profiles

`validServerName` returns early for everything that `ParseAddress` accepts, and `ParseAddress`
accepts every string, so the check of the labels behind it is never reached.  What is left is a scan
of the trimmed text; the builders then store the text as it was written.
-/

namespace FoloXray.Profile

open Foundation Outcome

/-- What `validServerName` still looks at: the length of the trimmed text, slashes and spaces. -/
def Scanned (value : Bytes) : Prop :=
  trimSpace value ≠ [] ∧ (trimSpace value).length ≤ 253 ∧
    (trimSpace value).any (fun c => c == slash || c == 0x20) = false

instance (value : Bytes) : Decidable (Scanned value) :=
  inferInstanceAs (Decidable (trimSpace value ≠ [] ∧ (trimSpace value).length ≤ 253 ∧
    (trimSpace value).any (fun c => c == slash || c == 0x20) = false))

theorem scanned_iff {value : Bytes} :
    Scanned value ↔ ¬ (trimSpace value = [] ∨ 253 < (trimSpace value).length ∨
      (trimSpace value).any (fun c => c == slash || c == 0x20) = true) := by
  simp only [Scanned, not_or, not_lt, Bool.not_eq_true, ne_eq]

theorem validServerName_eq (value : Bytes) :
    validServerName value = .ok (decide (Scanned value)) := by
  by_cases hscan : Scanned value
  · dsimp only [validServerName]
    rw [if_neg (scanned_iff.mp hscan), parseAddress_eq, decide_eq_true hscan]
    rfl
  · dsimp only [validServerName]
    rw [if_pos (not_not.mp (mt scanned_iff.mpr hscan)), decide_eq_false hscan]

def serverNames (core : CoreConfig) : List Bytes :=
  core.outbound.flatMap fun out =>
    out.senderSettings.value.streamSettings.securitySettings.filterMap fun setting =>
      match setting.value with
      | .tls config => some config.serverName
      | .reality _ => none

theorem serverNames_tls (name : Bytes) (proxy : ProxyConfig) :
    serverNames (coreConfig (proxyOutbound (tlsSecurity name) proxy)) = [name] := rfl

/-- The server name of a Trojan or VMess profile is stored as it is written in the profile. -/
theorem serverNames_of_load {alloc : Allocator} {data : Bytes} {core : CoreConfig} {config : Config}
    (h : load alloc data = .ok core) (hdecode : decodeProfile data = .ok config)
    (hversion : config.version = trojanProfileVer ∨ config.version = vmessProfileVer) :
    serverNames core = [config.outbound.serverName] := by
  rcases load_eq_ok_iff.mp h with ⟨-, config', hdecode', hbuild⟩
  rw [hdecode] at hdecode'
  cases hdecode'
  rcases config.build_eq_ok_iff.mp hbuild with ⟨⟨hprotocol, -⟩, out, hout, rfl⟩
  unfold Outbound.build at hout
  rcases hprotocol with ⟨hfirst, -⟩ | ⟨-, hname⟩ | ⟨-, hname⟩
  · rw [hfirst] at hversion
    exact absurd hversion (by decide)
  · rw [if_pos hname] at hout
    rcases Outbound.buildTrojan_eq_ok hout with ⟨server, -, -, -, rfl⟩
    exact serverNames_tls _ _
  · rw [if_neg (by rw [hname]; decide), if_pos hname] at hout
    rcases Outbound.buildVMess_eq_ok hout with ⟨id, type, server, -, -, -, -, rfl⟩
    exact serverNames_tls _ _

/-- A name is known to be a host text after `validServerName` only if it was one before, or does not pass
the scan. -/
theorem hostText_of_valid_iff (value : Bytes) :
    (validServerName value = .ok true → HostText value) ↔ HostText value ∨ ¬ Scanned value := by
  rw [validServerName_eq, Outcome.ok.injEq, decide_eq_true_eq]
  tauto

/-- A server name has been checked for a host text only if it was one before `validServerName` looked at it,
or does not pass its scan; and where a profile with this server name is accepted, the name in the TLS settings
is a host text exactly if this one is. -/
theorem serverName_checked_iff (value : Bytes) :
    ((validServerName value = .ok true → HostText value) ↔ HostText value ∨ ¬ Scanned value) ∧
      ∀ (alloc : Allocator) (data : Bytes) (core : CoreConfig) (config : Config),
        load alloc data = .ok core → decodeProfile data = .ok config →
        config.version = trojanProfileVer ∨ config.version = vmessProfileVer →
        config.outbound.serverName = value →
        serverNames core ≠ [] ∧ ((∀ name ∈ serverNames core, HostText name) ↔ HostText value) := by
  refine ⟨hostText_of_valid_iff value, ?_⟩
  rintro alloc data core config hload hdecode hversion rfl
  rw [serverNames_of_load hload hdecode hversion]
  exact ⟨List.cons_ne_nil _ _, List.forall_mem_singleton⟩

theorem serverName_checked_iff_trojan :
    ∃ core, load exactAllocator trojanProfile = .ok core ∧ ∀ name ∈ serverNames core, HostText name := by
  have hconfig : ((decodeProfile trojanProfile).toOption.any fun config =>
      decide (config.version = trojanProfileVer ∧ HostText config.outbound.serverName)) = true := by
    decide +kernel
  rcases loads_trojanProfile with ⟨core, config, hcore, hdecode⟩
  rw [hdecode] at hconfig
  rcases of_decide_eq_true hconfig with ⟨hversion, hname⟩
  exact ⟨core, hcore, ((serverName_checked_iff _).2 _ _ core config hcore hdecode (.inl hversion)
    rfl).2.mpr hname⟩

/-- A Trojan profile whose server name is no host at all: a tab, and a label with an underscore and an
empty one. -/
def strayName : Bytes :=
  goString ("\x7b\"version\":2,\"mode\":\"tun\",\"outbound\":\x7b\"protocol\":\"trojan\"," ++
    "\"address\":\"edge.example.com\",\"port\":443,\"password\":\"secret\"," ++
    "\"transport\":\"tcp\",\"security\":\"tls\",\"serverName\":\"\\texa_mple..com\"\x7d\x7d")

/-- It is accepted, and its server name goes into the TLS settings with the tab. -/
theorem stray_name_accepted :
    validServerName (goString "\texa_mple..com") = .ok true ∧
      ¬ HostText (goString "\texa_mple..com") ∧
      ∃ core, load exactAllocator strayName = .ok core ∧
        serverNames core = [goString "\texa_mple..com"] := by
  refine ⟨by decide +kernel, by decide +kernel, ?_⟩
  exact exists_of_okWith (by decide +kernel)

end FoloXray.Profile
