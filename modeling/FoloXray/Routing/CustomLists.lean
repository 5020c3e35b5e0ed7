import FoloXray.Routing.Precedence

/-! # Overlaps inside and between the custom lists

All entries of one custom list carry one action, so only the lists an entry stands in matter.  The
domain lists are written into one table, where the last list wins; the address lists are searched in
order, where the first list wins.  Both are loaded in the order block, direct, proxy.
-/

namespace FoloXray.Routing
open Foundation

/-- The list has an entry that is stored under `k`. -/
def Lists (suffixes : List Bytes) (k : Bytes) : Prop :=
  k ≠ [] ∧ ∃ d ∈ suffixes, normalizeSuffix d = k

instance (suffixes : List Bytes) (k : Bytes) : Decidable (Lists suffixes k) :=
  inferInstanceAs (Decidable (k ≠ [] ∧ ∃ d ∈ suffixes, normalizeSuffix d = k))

def entryCovers (ip cidr : Bytes) : Bool :=
  match ruleNet cidr with
  | .ok ipNet => ipNet.contains ip
  | .error _ => false

def Covers (cidrs : List Bytes) (ip : Bytes) : Prop := ∃ cidr ∈ cidrs, entryCovers ip cidr = true

instance (cidrs : List Bytes) (ip : Bytes) : Decidable (Covers cidrs ip) :=
  inferInstanceAs (Decidable (∃ cidr ∈ cidrs, entryCovers ip cidr = true))

def strongest (block direct proxy : Prop) [Decidable block] [Decidable direct] [Decidable proxy] :
    Option RouteAction :=
  if block then some .block else if direct then some .direct else if proxy then some .proxy else none

theorem assignAll_suffixEntries (m : Bytes → Option RouteAction) (suffixes : List Bytes)
    (action : RouteAction) (k : Bytes) :
    assignAll m (suffixEntries suffixes action) k =
      if Lists suffixes k then some action else m k := by
  have hconst : ∀ e ∈ suffixEntries suffixes action, e.2 = action :=
    fun e he => (mem_suffixEntries.mp he).2.2
  have hkey : (∃ e ∈ suffixEntries suffixes action, e.1 = k) ↔ Lists suffixes k := by
    constructor
    · rintro ⟨e, he, rfl⟩
      have hentry := mem_suffixEntries.mp he
      exact ⟨hentry.2.1, hentry.1⟩
    · rintro ⟨hne, hd⟩
      exact ⟨(k, action), mem_suffixEntries.mpr ⟨hd, hne, rfl⟩, rfl⟩
  rw [assignAll_of_const m hconst]
  simp only [hkey]

/-- The custom part of the table: of several lists the one loaded last wins. -/
theorem customTable_eq (cfg : Config) (k : Bytes) :
    assignAll (fun _ => none) (customEntries cfg) k =
      if Lists cfg.customProxyDomains k then some .proxy
      else if Lists cfg.customDirectDomains k then some .direct
      else if Lists cfg.customBlockDomains k then some .block
      else none := by
  simp only [customEntries, assignAll_append, assignAll_suffixEntries]

theorem addSuffixes_congr (m : DomainMatcher) {l l' : List Bytes} (action : RouteAction)
    (h : ∀ d, d ∈ l ↔ d ∈ l') : addSuffixes m l action = addSuffixes m l' action := by
  rw [addSuffixes_eq, addSuffixes_eq]
  congr 1
  ext1 k
  have hlists : Lists l k ↔ Lists l' k := by simp only [Lists, h]
  simp only [assignAll_suffixEntries, hlists]

theorem matchIP_addCIDR (m : IPMatcher) (cidr : Bytes) (action : RouteAction) (ip : Bytes) :
    matchIP ((addCIDR m cidr action).toOption.getD m) (some ip) =
      (matchIP m (some ip)).orElse fun _ =>
        if entryCovers ip cidr = true then some action else none := by
  cases hnet : ruleNet cidr with
  | error e =>
    have hsame : (addCIDR m cidr action).toOption.getD m = m := by
      simp [addCIDR, hnet, bind, Except.bind, Except.toOption]
    simp [hsame, entryCovers, hnet]
  | ok ipNet =>
    have hadded : (addCIDR m cidr action).toOption.getD m = ⟨m.rules ++ [⟨ipNet, action⟩]⟩ := by
      simp [addCIDR, hnet, bind, Except.bind, Except.toOption, pure, Except.pure]
    rw [hadded]
    simp only [matchIP, Option.bind_some, List.find?_append, entryCovers, hnet]
    cases m.rules.find? fun r => r.ipNet.contains ip with
    | some r => simp
    | none => by_cases hin : ipNet.contains ip = true <;> simp [hin]

/-- The rules of a list come into play when no earlier rule covers the address. -/
theorem matchIP_addCIDRs (m : IPMatcher) (cidrs : List Bytes) (action : RouteAction) (ip : Bytes) :
    matchIP (addCIDRs m cidrs action) (some ip) =
      (matchIP m (some ip)).orElse fun _ => if Covers cidrs ip then some action else none := by
  induction cidrs generalizing m with
  | nil =>
    have hnone : ¬ Covers [] ip := by simp [Covers]
    simp [addCIDRs, hnone]
  | cons cidr cidrs ih =>
    have hcons : addCIDRs m (cidr :: cidrs) action =
        addCIDRs ((addCIDR m cidr action).toOption.getD m) cidrs action := rfl
    have hcovers : Covers (cidr :: cidrs) ip ↔ entryCovers ip cidr = true ∨ Covers cidrs ip := by
      simp [Covers]
    rw [hcons, ih, matchIP_addCIDR]
    simp only [hcovers]
    cases matchIP m (some ip) with
    | some a => rfl
    | none => by_cases hin : entryCovers ip cidr = true <;> simp [hin]

theorem matchIP_ipRules (cfg : Config) (ip : Bytes) :
    matchIP (ipRules cfg) (some ip) =
      strongest (Covers cfg.customBlockIPs ip) (Covers cfg.customDirectIPs ip)
        (Covers cfg.customProxyIPs ip) := by
  have hnew : matchIP newIPMatcher (some ip) = none := rfl
  simp only [ipRules, matchIP_addCIDRs, hnew, Option.orElse_none, strongest]
  by_cases hblock : Covers cfg.customBlockIPs ip
  · simp [hblock]
  · by_cases hdirect : Covers cfg.customDirectIPs ip <;> simp [hblock, hdirect]

/-- The custom lists have the same entries list by list, in any order and number. -/
structure Rearranged (cfg cfg' : Config) : Prop where
  mode : cfg.mode = cfg'.mode
  directDomains : ∀ d, d ∈ cfg.customDirectDomains ↔ d ∈ cfg'.customDirectDomains
  proxyDomains : ∀ d, d ∈ cfg.customProxyDomains ↔ d ∈ cfg'.customProxyDomains
  blockDomains : ∀ d, d ∈ cfg.customBlockDomains ↔ d ∈ cfg'.customBlockDomains
  directIPs : ∀ d, d ∈ cfg.customDirectIPs ↔ d ∈ cfg'.customDirectIPs
  proxyIPs : ∀ d, d ∈ cfg.customProxyIPs ↔ d ∈ cfg'.customProxyIPs
  blockIPs : ∀ d, d ∈ cfg.customBlockIPs ↔ d ∈ cfg'.customBlockIPs

section Order

variable {cfg cfg' : Config}

theorem Rearranged.domainRules_eq (h : Rearranged cfg cfg') (mode : Bytes) :
    domainRules mode cfg = domainRules mode cfg' := by
  simp only [domainRules, addSuffixes_congr _ _ h.blockDomains,
    addSuffixes_congr _ _ h.directDomains, addSuffixes_congr _ _ h.proxyDomains]

theorem Rearranged.matchIP_eq (h : Rearranged cfg cfg') (ip : Option Bytes) :
    matchIP (ipRules cfg) ip = matchIP (ipRules cfg') ip := by
  cases ip with
  | none => rfl
  | some ip =>
    have hblock : Covers cfg.customBlockIPs ip ↔ Covers cfg'.customBlockIPs ip := by
      simp only [Covers, h.blockIPs]
    have hdirect : Covers cfg.customDirectIPs ip ↔ Covers cfg'.customDirectIPs ip := by
      simp only [Covers, h.directIPs]
    have hproxy : Covers cfg.customProxyIPs ip ↔ Covers cfg'.customProxyIPs ip := by
      simp only [Covers, h.proxyIPs]
    simp only [matchIP_ipRules, strongest, hblock, hdirect, hproxy]

/-- The order of the entries of a list, and how often one stands in it, does not matter to any
route. -/
theorem route_of_rearranged (h : Rearranged cfg cfg') (domain : Bytes) (ip : Option Bytes)
    (port : UInt16) :
    route (newRouter cfg) domain ip port = route (newRouter cfg') domain ip port := by
  have hmode : (newRouter cfg).mode = (newRouter cfg').mode := by simp only [newRouter, h.mode]
  have hdomain : (newRouter cfg).domainMatcher = (newRouter cfg').domainMatcher := by
    simp only [newRouter, h.mode, h.domainRules_eq]
  have hip : matchIP (newRouter cfg).ipMatcher ip = matchIP (newRouter cfg').ipMatcher ip :=
    h.matchIP_eq ip
  simp only [route, hmode, hdomain, hip]

def blockingAll (domains : List Bytes) : Config := ⟨[], [], [], domains, [], [], []⟩

theorem rearranged_blockingAll {l l' : List Bytes} (h : ∀ d, d ∈ l ↔ d ∈ l') :
    Rearranged (blockingAll l) (blockingAll l') :=
  ⟨rfl, fun _ => .rfl, fun _ => .rfl, h, fun _ => .rfl, fun _ => .rfl, fun _ => .rfl⟩

theorem route_of_rearranged_repeated :
    route (newRouter (blockingAll [goString "a.example", goString "b.example"]))
        (goString "b.example") none 443 =
      route (newRouter (blockingAll [goString "b.example", goString "a.example",
        goString "b.example"])) (goString "b.example") none 443 := by
  apply route_of_rearranged
  apply rearranged_blockingAll
  intro d
  simp only [List.mem_cons, List.not_mem_nil]
  tauto

end Order

def AtMostOne (block direct proxy : Prop) : Prop :=
  (block → ¬ direct ∧ ¬ proxy) ∧ (direct → ¬ proxy)

instance (block direct proxy : Prop) [Decidable block] [Decidable direct] [Decidable proxy] :
    Decidable (AtMostOne block direct proxy) :=
  inferInstanceAs (Decidable ((block → ¬ direct ∧ ¬ proxy) ∧ (direct → ¬ proxy)))

section Conflicts

variable {cfg : Config}

theorem newRouter_mode (hmode : cfg.mode = [] ∨ cfg.mode = modeRule) :
    (newRouter cfg).mode = modeRule := by
  rcases hmode with h | h
  · simp [newRouter, h]
  · simp only [newRouter, h]
    decide

/-- A host that stands in a custom list itself is decided by the table entry of its own name. -/
theorem route_of_listed (hmode : cfg.mode = [] ∨ cfg.mode = modeRule) {host : Bytes}
    {ip : Option Bytes} (port : UInt16) (hip : isPrivateIP ip = false)
    (hbuiltin : hostName host ∉ builtinBlockSuffixes ++ builtinDirectSuffixes) {b : RouteAction}
    (hne : hostName host ≠ [])
    (hb : assignAll (fun _ => none) (customEntries cfg) (hostName host) = some b) :
    route (newRouter cfg) host ip port = b := by
  have hnot : ∀ b, (hostName host, b) ∉ builtinEntries := by
    intro b hmem
    apply hbuiltin
    rcases mem_builtinEntries.mp hmem with ⟨hblock, -⟩ | ⟨hdirect, -⟩
    · exact List.mem_append_left _ hblock
    · exact List.mem_append_right _ hdirect
  apply route_of_suffix hmode hip hne
  rw [List.findSome?_cons, suffixTable_of_not_builtin cfg hnot, hb]

/-- An address that no domain rule decides is decided by the address rules. -/
theorem route_of_matchIP (hmode : cfg.mode = [] ∨ cfg.mode = modeRule) {host ip : Bytes}
    (port : UInt16) (hip : isPrivateIP (some ip) = false)
    (hdomain : matchDomain (newRouter cfg).domainMatcher (trimSpace host) = none) {b : RouteAction}
    (hb : matchIP (ipRules cfg) (some ip) = some b) :
    route (newRouter cfg) host (some ip) port = b := by
  have hnot : modeRule ≠ modeGlobal ∧ modeRule ≠ modeDirect := by decide
  have hrules : (newRouter cfg).ipMatcher = ipRules cfg := rfl
  simp [route, hip, newRouter_mode hmode, hnot.1, hnot.2, hdomain, hrules, hb]

/-- Among the custom lists of a router in rule mode, block goes before direct before proxy for every
address.  For a host name the order is the opposite one, so it is this order exactly when the host
stands in no two of the domain lists. -/
theorem custom_conflicts_resolve (hmode : cfg.mode = [] ∨ cfg.mode = modeRule) (port : UInt16) :
    (∀ host ip, isPrivateIP ip = false →
      hostName host ∉ builtinBlockSuffixes ++ builtinDirectSuffixes →
      Lists cfg.customBlockDomains (hostName host) ∨ Lists cfg.customDirectDomains (hostName host) ∨
        Lists cfg.customProxyDomains (hostName host) →
      (some (route (newRouter cfg) host ip port) =
          strongest (Lists cfg.customBlockDomains (hostName host))
            (Lists cfg.customDirectDomains (hostName host))
            (Lists cfg.customProxyDomains (hostName host)) ↔
        AtMostOne (Lists cfg.customBlockDomains (hostName host))
          (Lists cfg.customDirectDomains (hostName host))
          (Lists cfg.customProxyDomains (hostName host)))) ∧
    ∀ host ip, isPrivateIP (some ip) = false →
      matchDomain (newRouter cfg).domainMatcher (trimSpace host) = none →
      Covers cfg.customBlockIPs ip ∨ Covers cfg.customDirectIPs ip ∨ Covers cfg.customProxyIPs ip →
      some (route (newRouter cfg) host (some ip) port) =
        strongest (Covers cfg.customBlockIPs ip) (Covers cfg.customDirectIPs ip)
          (Covers cfg.customProxyIPs ip) := by
  constructor
  · intro host ip hip hbuiltin hlisted
    have hne : hostName host ≠ [] := by
      rcases hlisted with h | h | h <;> exact h.1
    have hroute {b : RouteAction} := route_of_listed (b := b) hmode port hip hbuiltin hne
    rw [customTable_eq] at hroute
    by_cases hproxy : Lists cfg.customProxyDomains (hostName host)
    · rw [hroute (if_pos hproxy)]
      by_cases hdirect : Lists cfg.customDirectDomains (hostName host) <;>
        by_cases hblock : Lists cfg.customBlockDomains (hostName host) <;>
        simp [strongest, AtMostOne, hproxy, hdirect, hblock]
    · by_cases hdirect : Lists cfg.customDirectDomains (hostName host)
      · rw [hroute (by rw [if_neg hproxy, if_pos hdirect])]
        by_cases hblock : Lists cfg.customBlockDomains (hostName host) <;>
          simp [strongest, AtMostOne, hproxy, hdirect, hblock]
      · have hblock := hlisted.resolve_right fun h => h.elim hdirect hproxy
        rw [hroute (by rw [if_neg hproxy, if_neg hdirect, if_pos hblock])]
        simp [strongest, AtMostOne, hproxy, hdirect, hblock]
  · intro host ip hip hdomain hcovered
    have hsome : ∃ b, matchIP (ipRules cfg) (some ip) = some b := by
      rw [matchIP_ipRules, strongest]
      split
      · exact ⟨_, rfl⟩
      · rename_i hblock
        split
        · exact ⟨_, rfl⟩
        · rename_i hdirect
          rw [if_pos ((hcovered.resolve_left hblock).resolve_left hdirect)]
          exact ⟨_, rfl⟩
    obtain ⟨b, hb⟩ := hsome
    rw [route_of_matchIP hmode port hip hdomain hb, ← hb, matchIP_ipRules]

end Conflicts

def conflicting : Config :=
  ⟨[], [goString "ads.example"], [], [goString "ads.example"], [goString "192.0.2.0/24"], [],
    [goString "192.0.2.1"]⟩

theorem custom_conflicts_resolve_address :
    some (route (newRouter conflicting) [] (some [192, 0, 2, 1]) 443) = some .block :=
  ((@custom_conflicts_resolve conflicting (.inl rfl) 443).2 [] [192, 0, 2, 1] (by decide)
    (by decide +kernel) (by decide +kernel)).trans (by decide +kernel)

/-- The address that is blocked and direct is blocked, and the name that is blocked and direct is
reached directly. -/
theorem blocked_name_reached_directly :
    Lists conflicting.customBlockDomains (hostName (goString "ads.example")) ∧
      hostName (goString "ads.example") ∉ builtinBlockSuffixes ++ builtinDirectSuffixes ∧
      route (newRouter conflicting) (goString "ads.example") none 443 = .direct ∧
      route (newRouter conflicting) [] (some [192, 0, 2, 1]) 443 = .block := by
  refine ⟨by decide +kernel, by decide +kernel, ?_, ?_⟩
  · exact route_of_listed (.inl rfl) 443 rfl (by decide +kernel) (by decide +kernel)
      (by rw [customTable_eq]; decide +kernel)
  · exact route_of_matchIP (.inl rfl) 443 (by decide) (by decide +kernel)
      (by rw [matchIP_ipRules]; decide +kernel)

end FoloXray.Routing
