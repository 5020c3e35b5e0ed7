import FoloXray.Foundation.JsonAgreement
import FoloXray.Profile.Build
import FoloXray.Wrapper.Engine

/-! # The routing that a started engine enforces

`FoloXrayStartJSON` decodes its bytes twice: `Load` decodes and checks the whole profile, and then
`json.Unmarshal` decodes only the routing object again, into the router's own type and with its error
ignored.  Below is the call with both decodings in place of the answers of its callees.
-/

namespace FoloXray.Wrapper
open Foundation Routing Profile

structure RouterConfig where
  mode : Bytes
  customDirectDomains : Slice Bytes
  customProxyDomains : Slice Bytes
  customBlockDomains : Slice Bytes
  customDirectIPs : Slice Bytes
  customProxyIPs : Slice Bytes
  customBlockIPs : Slice Bytes
  deriving DecidableEq, Repr

def RouterConfig.zero : RouterConfig := ⟨[], .empty, .empty, .empty, .empty, .empty, .empty⟩

def RouterConfig.fields : List (Json.Field RouterConfig) :=
  [stringField "mode" (·.mode) fun r v => { r with mode := v },
    stringsField "customDirectDomains" (·.customDirectDomains) fun r v =>
      { r with customDirectDomains := v },
    stringsField "customProxyDomains" (·.customProxyDomains) fun r v =>
      { r with customProxyDomains := v },
    stringsField "customBlockDomains" (·.customBlockDomains) fun r v =>
      { r with customBlockDomains := v },
    stringsField "customDirectIPs" (·.customDirectIPs) fun r v => { r with customDirectIPs := v },
    stringsField "customProxyIPs" (·.customProxyIPs) fun r v => { r with customProxyIPs := v },
    stringsField "customBlockIPs" (·.customBlockIPs) fun r v => { r with customBlockIPs := v }]

def decodeRouterConfig : Json.Decoder RouterConfig :=
  Json.decodeStruct "router.Config" false RouterConfig.fields

structure ParsedRouting where
  routing : Option RouterConfig
  deriving DecidableEq, Repr

def ParsedRouting.fields : List (Json.Field ParsedRouting) :=
  [Json.field "routing" (·.routing) (fun r v => { r with routing := v })
    (Json.decodePointer .zero decodeRouterConfig)]

def decodeParsedRouting : Json.Decoder ParsedRouting :=
  Json.decodeStruct "struct" false ParsedRouting.fields

def RouterConfig.value (r : RouterConfig) : Routing.Config where
  mode := r.mode
  customDirectDomains := r.customDirectDomains.elems
  customProxyDomains := r.customProxyDomains.elems
  customBlockDomains := r.customBlockDomains.elems
  customDirectIPs := r.customDirectIPs.elems
  customProxyIPs := r.customProxyIPs.elems
  customBlockIPs := r.customBlockIPs.elems

def parsedRouting (config : Bytes) : Option Routing.Config :=
  (Json.unmarshal decodeParsedRouting config ⟨none⟩).1.routing.map RouterConfig.value

def startInput (alloc : Allocator) (config : Bytes) (creates starts : Bool) (now : ℕ) :
    StartInput where
  config := some config
  loads := (load alloc config).okWith fun _ => True
  creates := creates
  starts := starts
  routing := parsedRouting config
  now := now

def routerConfig (r : Profile.Routing) : RouterConfig where
  mode := r.mode
  customDirectDomains := r.customDirectDomains
  customProxyDomains := r.customProxyDomains
  customBlockDomains := r.customBlockDomains
  customDirectIPs := r.customDirectIPs
  customProxyIPs := r.customProxyIPs
  customBlockIPs := r.customBlockIPs

theorem routerConfig_fields : List.Forall₂ (fun f g => f.name = g.name ∧
    Json.Follows routerConfig f.store g.store) Profile.Routing.fields RouterConfig.fields := by
  unfold Profile.Routing.fields RouterConfig.fields
  repeat' apply List.Forall₂.cons
  all_goals first
    | exact .nil
    | apply Json.follows_sameField <;> intros <;> rfl

theorem decodeRouterConfig_follows :
    Json.Follows routerConfig decodeRouting decodeRouterConfig := by
  apply Json.Follows.struct
  intro key f hf
  have hrel := Json.findField_forall₂ routerConfig_fields (fun _ _ h => h.1) key
  rw [hf] at hrel
  generalize Json.findField RouterConfig.fields key = found at hrel
  cases hrel with
  | some h => exact h.2

def keptRouting (c : Profile.Config) : ParsedRouting := ⟨c.routing.map routerConfig⟩

theorem decodeParsedRouting_follows :
    Json.Follows keptRouting decodeConfig decodeParsedRouting := by
  apply Json.Follows.struct
  intro key f hf
  rcases Json.foldName_of_findField hf with ⟨hmem, hname⟩
  have hskip (hother : Json.foldName f.name ≠ Json.foldName (goString "routing")) :
      Json.findField ParsedRouting.fields key = none := by
    apply Json.findField_eq_none
    intro g hg
    rw [List.mem_singleton.mp hg, ← hname]
    exact hother.symm
  simp only [Profile.Config.fields, List.mem_cons, List.not_mem_nil, or_false] at hmem
  rcases hmem with rfl | rfl | rfl | rfl
  · rw [hskip (by decide)]
    exact fun _ _ => rfl
  · rw [hskip (by decide)]
    exact fun _ _ => rfl
  · rw [hskip (by decide)]
    exact fun _ _ => rfl
  · have hfound : Json.findField ParsedRouting.fields key = ParsedRouting.fields.head? := by
      have hkey : Json.foldName (goString "routing") = Json.foldName key := hname
      unfold Json.findField ParsedRouting.fields
      by_cases hexact : goString "routing" = key
      · simp [Json.field, hexact]
      · simp [Json.field, hexact, hkey]
    rw [hfound]
    refine Json.Follows.field (decodeRouterConfig_follows.pointer rfl) ?_ ?_ _ _
    · exact fun _ => rfl
    · exact fun _ _ => rfl

/-- Whatever `Load` decodes, `json.Unmarshal` decodes without an error to the same routing. -/
theorem unmarshal_of_decodeProfile {data : Bytes} {profile : Profile.Config}
    (h : decodeProfile data = .ok profile) :
    Json.unmarshal decodeParsedRouting data ⟨none⟩ = (keptRouting profile, none) := by
  unfold decodeProfile Json.decodeNext at h
  cases hread : Json.readValue data with
  | value j rest =>
    simp only [hread] at h
    cases hdecode : decodeConfig j .zero with
    | mk contents error =>
      cases error with
      | some e =>
        simp only [hdecode] at h
        cases h
      | none =>
        simp only [hdecode] at h
        have hrest : Json.readValue rest = .eof ∧ contents = profile := by
          split at h
          · exact ⟨‹_›, Except.ok.inj h⟩
          · split at h <;> cases h
          · cases h
          · cases h
        have hstored := decodeParsedRouting_follows j .zero (by rw [hdecode])
        have hzero : keptRouting .zero = ⟨none⟩ := rfl
        rw [hdecode, hrest.2, hzero] at hstored
        simp [Json.unmarshal, hread, Json.isSpace_of_readValue_eof hrest.1, hstored]
  | eof => simp [hread] at h
  | unexpectedEOF => simp [hread] at h
  | syntaxError => simp [hread] at h

/-- The configuration that a checked routing stands for; without one only the mode is set. -/
def checkedRouting : Option Profile.Routing → Routing.Config
  | some r =>
    { mode := r.mode
      customDirectDomains := r.customDirectDomains.elems
      customProxyDomains := r.customProxyDomains.elems
      customBlockDomains := r.customBlockDomains.elems
      customDirectIPs := r.customDirectIPs.elems
      customProxyIPs := r.customProxyIPs.elems
      customBlockIPs := r.customBlockIPs.elems }
  | none => modeConfig modeRule

theorem parsedRouting_of_decodeProfile {data : Bytes} {profile : Profile.Config}
    (h : decodeProfile data = .ok profile) :
    (parsedRouting data).getD (modeConfig modeRule) = checkedRouting profile.routing := by
  rw [parsedRouting, unmarshal_of_decodeProfile h]
  cases hr : profile.routing with
  | none => simp [keptRouting, hr, checkedRouting]
  | some routing =>
    simp only [keptRouting, hr, checkedRouting, Option.map_some, Option.getD_some]
    rfl

theorem startJSON_of_load {alloc : Allocator} {data : Bytes} {core : CoreConfig}
    {profile : Profile.Config} (hload : load alloc data = .ok core)
    (hdecode : decodeProfile data = .ok profile) {e : Engine} (hidle : e.coreInstance = none)
    (hstate : e.state ≠ .running) (fresh now : ℕ) :
    e.startJSON fresh (startInput alloc data true true now) =
      ({ coreInstance := some fresh
         routerConfig := checkedRouting profile.routing
         state := .running
         error := clearErrorLocked
         startedAt := some now }, .ok) := by
  have hlimits := (load_eq_ok_iff.mp hload).1
  have hcopy : copyConfig (some data) = .ok data := by
    have hlimit : Wrapper.maxConfigBytes = Profile.maxConfigBytes := rfl
    exact if_neg (by omega)
  simp [Engine.startJSON, startInput, hidle, hstate, hcopy, hload, Outcome.okWith,
    parsedRouting_of_decodeProfile hdecode]

/-- The routing that is checked is the routing that is enforced: on bytes that `Load` accepts the
second decoding reports no error and finds the routing that `Load` decoded and checked, and the engine
records it, or rule mode without lists if there is none. -/
theorem enforced_routing_is_checked {alloc : Allocator} {data : Bytes} {core : CoreConfig}
    (h : load alloc data = .ok core) :
    ∃ profile, decodeProfile data = .ok profile ∧
      (∀ routing ∈ profile.routing, routing.mode ∈ routingModes) ∧
      Json.unmarshal decodeParsedRouting data ⟨none⟩ =
        (⟨profile.routing.map routerConfig⟩, none) ∧
      ∀ (e : Engine) (fresh now : ℕ), e.coreInstance = none → e.state ≠ .running →
        (e.startJSON fresh (startInput alloc data true true now)).2 = .ok ∧
        (e.startJSON fresh (startInput alloc data true true now)).1.routerConfig =
          checkedRouting profile.routing := by
  rcases load_eq_ok_iff.mp h with ⟨-, profile, hdecode, hbuild⟩
  refine ⟨profile, hdecode, (profile.build_eq_ok_iff.mp hbuild).1.2.2,
    unmarshal_of_decodeProfile hdecode, ?_⟩
  intro e fresh now hidle hstate
  rw [startJSON_of_load h hdecode hidle hstate]
  exact ⟨rfl, rfl⟩

/-- A profile that names its routing twice, in different letter case. -/
def repeatedRouting : Bytes :=
  goString ("\x7b\"version\":2,\"mode\":\"tun\",\"routing\":\x7b\"customBlockIPs\":[\"192.0.2.1\"]\x7d," ++
    "\"outbound\":\x7b\"protocol\":\"trojan\"," ++
    "\"address\":\"edge.example.com\",\"port\":443,\"password\":\"secret\"," ++
    "\"transport\":\"tcp\",\"security\":\"tls\",\"serverName\":\"www.example.com\"\x7d," ++
    "\"ROUTING\":\x7b\"mode\":\"rule\"\x7d\x7d")

theorem enforced_routing_is_checked_repeated :
    ∃ core profile, load exactAllocator repeatedRouting = .ok core ∧
      decodeProfile repeatedRouting = .ok profile ∧
      (initialEngine.startJSON 0 (startInput exactAllocator repeatedRouting true true 0)).1.routerConfig =
        checkedRouting profile.routing := by
  have hloads : ∃ core, load exactAllocator repeatedRouting = .ok core ∧ core.inbound = [] :=
    Outcome.exists_of_okWith (by decide +kernel)
  rcases hloads with ⟨core, hcore, -⟩
  rcases enforced_routing_is_checked hcore with ⟨profile, hdecode, -, -, henforced⟩
  exact ⟨core, profile, hcore, hdecode, (henforced initialEngine 0 0 rfl (by decide)).2⟩

end FoloXray.Wrapper
