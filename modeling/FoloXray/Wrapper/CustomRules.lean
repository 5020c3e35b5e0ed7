import FoloXray.Wrapper.StartRouting

/-! # The address rules behind the custom lists

`NewRouter` ignores the error of `AddCIDR`, and nothing before it looks at the address lists of a
profile, so an entry that is no address loses its rule.
-/

namespace FoloXray.Wrapper
open Foundation Routing Profile

/-- The entries of the three address lists with their actions, in the order they are added. -/
def customIPs (cfg : Routing.Config) : List (Bytes × RouteAction) :=
  cfg.customBlockIPs.map (·, .block) ++ cfg.customDirectIPs.map (·, .direct) ++
    cfg.customProxyIPs.map (·, .proxy)

/-- The rule of an entry, if it has one. -/
def customRule (entry : Bytes × RouteAction) : Option CIDRRule :=
  (ruleNet entry.1).toOption.map fun ipNet => ⟨ipNet, entry.2⟩

theorem addCIDRs_rules (m : IPMatcher) (cidrs : List Bytes) (action : RouteAction) :
    (addCIDRs m cidrs action).rules =
      m.rules ++ (cidrs.map (·, action)).filterMap customRule := by
  induction cidrs generalizing m with
  | nil => simp [addCIDRs]
  | cons cidr cidrs ih =>
    have hcons : addCIDRs m (cidr :: cidrs) action =
        addCIDRs ((addCIDR m cidr action).toOption.getD m) cidrs action := rfl
    rw [hcons, ih, List.map_cons, List.filterMap_cons]
    cases hnet : ruleNet cidr with
    | error e => simp [addCIDR, customRule, hnet, bind, Except.bind, Except.toOption]
    | ok ipNet =>
      simp [addCIDR, customRule, hnet, bind, Except.bind, Except.toOption, pure, Except.pure]

/-- The rules of a new router are those of the entries that have one. -/
theorem newRouter_rules (cfg : Routing.Config) :
    (newRouter cfg).ipMatcher.rules = (customIPs cfg).filterMap customRule := by
  simp [newRouter, ipRules, addCIDRs_rules, newIPMatcher, customIPs]

/-- The router has a rule for the block of the entry with the action of its list. -/
def HasRule (r : Router) (entry : Bytes × RouteAction) : Prop :=
  ∃ rule ∈ r.ipMatcher.rules, ruleNet entry.1 = .ok rule.ipNet ∧ rule.action = entry.2

theorem ruleNet_isOk_iff (cidrStr : Bytes) :
    (∃ ipNet, ruleNet cidrStr = .ok ipNet) ↔ parseCIDR cidrStr ≠ none ∨ parseIP cidrStr ≠ none := by
  unfold ruleNet
  cases hcidr : parseCIDR cidrStr with
  | some ipNet => simp
  | none =>
    cases hip : parseIP cidrStr with
    | none => simp
    | some ip => cases hip4 : to4 ip <;> simp [hip4]

theorem hasRule_iff {cfg : Routing.Config} {entry : Bytes × RouteAction}
    (hentry : entry ∈ customIPs cfg) :
    HasRule (newRouter cfg) entry ↔ parseCIDR entry.1 ≠ none ∨ parseIP entry.1 ≠ none := by
  rw [← ruleNet_isOk_iff]
  constructor
  · rintro ⟨rule, -, hnet, -⟩
    exact ⟨rule.ipNet, hnet⟩
  · rintro ⟨ipNet, hnet⟩
    refine ⟨⟨ipNet, entry.2⟩, ?_, hnet, rfl⟩
    rw [newRouter_rules]
    apply List.mem_filterMap.mpr
    exact ⟨entry, hentry, by simp [customRule, hnet, Except.toOption]⟩

/-- No rule of an accepted profile is lost, in the router of a network stack that is started after it,
exactly if every entry of its address lists is a block or an address. -/
theorem custom_rules_kept_iff {alloc : Allocator} {data : Bytes} {core : CoreConfig}
    (h : load alloc data = .ok core) :
    ∃ profile, decodeProfile data = .ok profile ∧
      ∀ (e : Engine) (fresh now : ℕ), e.coreInstance = none → e.state ≠ .running →
        ∃ runtime, ((e.startJSON fresh (startInput alloc data true true now)).1.netstackStart
            none true).2 = some runtime ∧
          ((∀ entry ∈ customIPs (checkedRouting profile.routing), HasRule runtime.router entry) ↔
            ∀ entry ∈ customIPs (checkedRouting profile.routing),
              parseCIDR entry.1 ≠ none ∨ parseIP entry.1 ≠ none) := by
  rcases load_eq_ok_iff.mp h with ⟨-, profile, hdecode, -⟩
  refine ⟨profile, hdecode, ?_⟩
  intro e fresh now hidle hstate
  rw [startJSON_of_load h hdecode hidle hstate]
  refine ⟨⟨fresh, newRouter (checkedRouting profile.routing), false, 0, false⟩, ?_, ?_⟩
  · simp [Engine.netstackStart, startNetstack, newNetstackRuntime]
  · exact forall₂_congr fun entry hentry => hasRule_iff hentry

def blockedAddress : Bytes :=
  goString ("\x7b\"version\":2,\"mode\":\"tun\",\"outbound\":\x7b\"protocol\":\"trojan\"," ++
    "\"address\":\"edge.example.com\",\"port\":443,\"password\":\"secret\"," ++
    "\"transport\":\"tcp\",\"security\":\"tls\",\"serverName\":\"www.example.com\"\x7d," ++
    "\"routing\":\x7b\"customBlockIPs\":[\"192.0.2.1\"]\x7d\x7d")

theorem custom_rules_kept_blocked :
    ∃ core runtime, load exactAllocator blockedAddress = .ok core ∧
      ((initialEngine.startJSON 0 (startInput exactAllocator blockedAddress true true 0)).1.netstackStart
        none true).2 = some runtime ∧
      HasRule runtime.router (goString "192.0.2.1", .block) := by
  have hloads : ∃ core, load exactAllocator blockedAddress = .ok core ∧ core.inbound = [] :=
    Outcome.exists_of_okWith (by decide +kernel)
  rcases hloads with ⟨core, hcore, -⟩
  have henforced : (initialEngine.startJSON 0 (startInput exactAllocator blockedAddress true true
      0)).1.routerConfig = ⟨[], [], [], [], [], [], [goString "192.0.2.1"]⟩ := by decide +kernel
  rcases custom_rules_kept_iff hcore with ⟨profile, hdecode, hkept⟩
  rcases hkept initialEngine 0 0 rfl (by decide) with ⟨runtime, hruntime, hiff⟩
  rw [startJSON_of_load hcore hdecode rfl (by decide)] at henforced
  dsimp only at henforced
  rw [henforced] at hiff
  refine ⟨core, runtime, hcore, hruntime, hiff.mpr ?_ _ (by simp [customIPs])⟩
  intro entry hentry
  rw [List.mem_singleton.mp hentry]
  exact .inr (by decide +kernel)

def mistypedBlock : Bytes :=
  goString ("\x7b\"version\":2,\"mode\":\"tun\",\"outbound\":\x7b\"protocol\":\"trojan\"," ++
    "\"address\":\"edge.example.com\",\"port\":443,\"password\":\"secret\"," ++
    "\"transport\":\"tcp\",\"security\":\"tls\",\"serverName\":\"www.example.com\"\x7d," ++
    "\"routing\":\x7b\"customBlockIPs\":[\"192.0.2.0/33\"]\x7d\x7d")

/-- The profile is accepted, and its router has no address rule at all. -/
theorem mistyped_block_dropped :
    (∃ core, load exactAllocator mistypedBlock = .ok core ∧ core.inbound = []) ∧
    (initialEngine.startJSON 0 (startInput exactAllocator mistypedBlock true true
      0)).1.routerConfig.customBlockIPs = [goString "192.0.2.0/33"] ∧
    ∃ runtime, ((initialEngine.startJSON 0 (startInput exactAllocator mistypedBlock true true
      0)).1.netstackStart none true).2 = some runtime ∧ runtime.router.ipMatcher.rules = [] := by
  have henforced : (initialEngine.startJSON 0 (startInput exactAllocator mistypedBlock true true
      0)).1.routerConfig = ⟨[], [], [], [], [], [], [goString "192.0.2.0/33"]⟩ := by decide +kernel
  have hloads : ∃ core, load exactAllocator mistypedBlock = .ok core ∧ core.inbound = [] :=
    Outcome.exists_of_okWith (by decide +kernel)
  refine ⟨hloads, by rw [henforced], ?_⟩
  rcases hloads with ⟨core, hcore, -⟩
  rcases load_eq_ok_iff.mp hcore with ⟨-, profile, hdecode, -⟩
  rw [startJSON_of_load hcore hdecode rfl (by decide)] at henforced ⊢
  dsimp only at henforced
  rw [henforced]
  refine ⟨_, rfl, ?_⟩
  simp only [newRouter_rules]
  decide +kernel

end FoloXray.Wrapper
