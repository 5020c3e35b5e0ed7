import FoloXray.Foundation.HostName
import FoloXray.Foundation.Tables
import FoloXray.Routing.Route

/-! # Custom rules against built-in rules

The suffix table of a router in rule mode, as the list of assignments that filled it, and the
suffix rule that decides a name: the one whose suffix is longest.  The built-in tables are loaded
after the custom lists into the same table.
-/

namespace FoloXray.Routing
open Foundation

/-- `k` is the whole name or a non-empty rest of it after a dot. -/
def LabelSuffix (k n : Bytes) : Prop := k = n ∨ k ≠ [] ∧ dot :: k <:+ n

instance (k n : Bytes) : Decidable (LabelSuffix k n) :=
  inferInstanceAs (Decidable (k = n ∨ k ≠ [] ∧ dot :: k <:+ n))

theorem mem_parentDomains {k n : Bytes} : k ∈ parentDomains n ↔ k ≠ [] ∧ dot :: k <:+ n := by
  induction n with
  | nil => simp [parentDomains]
  | cons c rest ih =>
    rw [List.suffix_cons_iff, parentDomains]
    by_cases hc : c = dot ∧ rest ≠ []
    · obtain ⟨rfl, hrest⟩ := hc
      simp only [hrest, ne_eq, not_false_eq_true, and_self, if_true, List.mem_cons, ih,
        List.cons.injEq, true_and]
      constructor
      · rintro (rfl | h)
        · exact ⟨hrest, .inl rfl⟩
        · exact ⟨h.1, .inr h.2⟩
      · rintro ⟨hne, rfl | h⟩
        · exact .inl rfl
        · exact .inr ⟨hne, h⟩
    · rw [if_neg hc, ih]
      have hhead : k ≠ [] → dot :: k ≠ c :: rest := by
        intro hne heq
        obtain ⟨rfl, rfl⟩ := List.cons.inj heq
        exact hc ⟨rfl, hne⟩
      tauto

theorem mem_lookups {k n : Bytes} : k ∈ n :: parentDomains n ↔ LabelSuffix k n := by
  rw [List.mem_cons, mem_parentDomains, LabelSuffix]

theorem parentDomains_length {k n : Bytes} (h : k ∈ parentDomains n) : k.length < n.length := by
  have hsuffix := (mem_parentDomains.mp h).2.length_le
  simp only [List.length_cons] at hsuffix
  omega

/-- The names are looked up from the longest to the shortest. -/
theorem lookups_pairwise (n : Bytes) :
    (n :: parentDomains n).Pairwise fun k k' => k'.length < k.length := by
  induction n with
  | nil => simp [parentDomains]
  | cons c rest ih =>
    rw [List.pairwise_cons]
    refine ⟨fun k hk => parentDomains_length hk, ?_⟩
    rw [parentDomains]
    split
    · exact ih
    · exact ih.of_cons

/-- The assignments that `addSuffixes` makes: normalised, without the empty ones. -/
def suffixEntries (suffixes : List Bytes) (action : RouteAction) : List (Bytes × RouteAction) :=
  ((suffixes.map normalizeSuffix).filter (· ≠ [])).map fun k => (k, action)

theorem addSuffixes_eq (m : DomainMatcher) (suffixes : List Bytes) (action : RouteAction) :
    addSuffixes m suffixes action =
      { m with suffixes := assignAll m.suffixes (suffixEntries suffixes action) } := by
  induction suffixes generalizing m with
  | nil => rfl
  | cons d suffixes ih =>
    have hfold : addSuffixes m (d :: suffixes) action =
        addSuffixes (addSuffix m d action) suffixes action := rfl
    rw [hfold, ih]
    by_cases hd : normalizeSuffix d = []
    · simp [suffixEntries, addSuffix, hd]
    · simp [suffixEntries, addSuffix, hd]

theorem mem_suffixEntries {suffixes : List Bytes} {action a : RouteAction} {k : Bytes} :
    (k, a) ∈ suffixEntries suffixes action ↔
      (∃ d ∈ suffixes, normalizeSuffix d = k) ∧ k ≠ [] ∧ a = action := by
  simp only [suffixEntries, List.mem_map, List.mem_filter, decide_eq_true_eq, Prod.mk.injEq]
  constructor
  · rintro ⟨k', ⟨hd, hne⟩, rfl, rfl⟩
    exact ⟨hd, hne, rfl⟩
  · rintro ⟨hd, hne, rfl⟩
    exact ⟨k, ⟨hd, hne⟩, rfl, rfl⟩

/-- The entries of the three custom domain lists, in the order in which they are loaded. -/
def customEntries (cfg : Config) : List (Bytes × RouteAction) :=
  suffixEntries cfg.customBlockDomains .block ++ suffixEntries cfg.customDirectDomains .direct ++
    suffixEntries cfg.customProxyDomains .proxy

/-- The entries of the two built-in tables, in the order in which they are loaded. -/
def builtinEntries : List (Bytes × RouteAction) :=
  suffixEntries builtinBlockSuffixes .block ++ suffixEntries builtinDirectSuffixes .direct

def suffixTable (cfg : Config) : Bytes → Option RouteAction :=
  assignAll (assignAll (fun _ => none) (customEntries cfg)) builtinEntries

theorem domainRules_rule (cfg : Config) :
    domainRules modeRule cfg = { newDomainMatcher with suffixes := suffixTable cfg } := by
  simp only [domainRules, addSuffixes_eq, if_true, suffixTable, customEntries, builtinEntries,
    assignAll_append, newDomainMatcher]

theorem customEntries_ne_nil {cfg : Config} {k : Bytes} {a : RouteAction}
    (h : (k, a) ∈ customEntries cfg) : k ≠ [] := by
  simp only [customEntries, List.mem_append, mem_suffixEntries] at h
  tauto

/-- A host in lower case without a leading dot is stored as it is. -/
theorem normalizeSuffix_of_lower {d : Bytes}
    (h : (d.all fun c => hostByte c && lowerByte c == c) = true) (hdot : d.head? ≠ some dot) :
    normalizeSuffix d = d := by
  have hlower : ∀ c ∈ d, hostByte c = true ∧ lowerByte c = c := by simpa using h
  rw [normalizeSuffix, normalizeDomain, trimSpace_toLower_of_lower hlower, trimPrefix, if_neg]
  intro hlead
  rcases List.isPrefixOf_iff_prefix.mp hlead with ⟨rest, rfl⟩
  exact hdot rfl

/-- The built-in suffixes are written in the form in which they are stored. -/
theorem builtin_normalized :
    ∀ d ∈ builtinBlockSuffixes ++ builtinDirectSuffixes, normalizeSuffix d = d ∧ d ≠ [] := by
  have hplain : ∀ d ∈ builtinBlockSuffixes ++ builtinDirectSuffixes,
      (d.all fun c => hostByte c && lowerByte c == c) = true ∧ d.head? ≠ some dot ∧ d ≠ [] := by
    decide +kernel
  intro d hd
  rcases hplain d hd with ⟨hbytes, hdot, hne⟩
  exact ⟨normalizeSuffix_of_lower hbytes hdot, hne⟩

theorem builtin_disjoint : ∀ d ∈ builtinBlockSuffixes, d ∉ builtinDirectSuffixes := by
  decide +kernel

private theorem exists_normalized_iff {ds : List Bytes} {k : Bytes}
    (h : ∀ d ∈ ds, normalizeSuffix d = d ∧ d ≠ []) :
    (∃ d ∈ ds, normalizeSuffix d = k) ∧ k ≠ [] ↔ k ∈ ds := by
  constructor
  · rintro ⟨⟨d, hd, rfl⟩, -⟩
    rwa [(h d hd).1]
  · intro hk
    exact ⟨⟨k, hk, (h k hk).1⟩, (h k hk).2⟩

theorem mem_builtinEntries {k : Bytes} {b : RouteAction} :
    (k, b) ∈ builtinEntries ↔
      k ∈ builtinBlockSuffixes ∧ b = .block ∨ k ∈ builtinDirectSuffixes ∧ b = .direct := by
  have hblock := exists_normalized_iff (k := k) fun d hd =>
    builtin_normalized d (List.mem_append_left _ hd)
  have hdirect := exists_normalized_iff (k := k) fun d hd =>
    builtin_normalized d (List.mem_append_right _ hd)
  rw [builtinEntries, List.mem_append, mem_suffixEntries, mem_suffixEntries, ← and_assoc,
    ← and_assoc, hblock, hdirect]

theorem builtinEntries_functional {k : Bytes} {b b' : RouteAction} (h : (k, b) ∈ builtinEntries)
    (h' : (k, b') ∈ builtinEntries) : b' = b := by
  rw [mem_builtinEntries] at h h'
  have hdisjoint := builtin_disjoint k
  rcases h with ⟨hk, rfl⟩ | ⟨hk, rfl⟩ <;> rcases h' with ⟨hk', rfl⟩ | ⟨hk', rfl⟩
  · rfl
  · exact absurd hk' (hdisjoint hk)
  · exact absurd hk (hdisjoint hk')
  · rfl

/-- The form in which a host name is looked up. -/
def hostName (host : Bytes) : Bytes := normalizeDomain (trimSpace host)

theorem LabelSuffix.ne_nil {k n : Bytes} (h : LabelSuffix k n) (hk : k ≠ []) : n ≠ [] := by
  rintro rfl
  rcases h with rfl | ⟨-, h⟩
  · exact hk rfl
  · simp at h

theorem matchDomain_of_suffix {m : DomainMatcher} {domain : Bytes} {b : RouteAction}
    (hexact : ∀ k, m.exact k = none) (hne : normalizeDomain domain ≠ [])
    (hfound : (normalizeDomain domain :: parentDomains (normalizeDomain domain)).findSome?
      m.suffixes = some b) :
    matchDomain m domain = some b := by
  simp [matchDomain, hne, hexact, hfound]

theorem route_of_suffix {cfg : Config} {host : Bytes} {ip : Option Bytes} {port : UInt16}
    {b : RouteAction} (hmode : cfg.mode = [] ∨ cfg.mode = modeRule) (hip : isPrivateIP ip = false)
    (hhost : hostName host ≠ [])
    (hfound : (hostName host :: parentDomains (hostName host)).findSome? (suffixTable cfg) =
      some b) :
    route (newRouter cfg) host ip port = b := by
  have hrule : (newRouter cfg).mode = modeRule := by
    rcases hmode with h | h
    · simp [newRouter, h]
    · simp only [newRouter, h]
      decide
  have hdm : (newRouter cfg).domainMatcher =
      { newDomainMatcher with suffixes := suffixTable cfg } := by
    rw [← domainRules_rule, ← hrule]
    rfl
  have hclean : trimSpace host ≠ [] := by
    intro h
    apply hhost
    rw [hostName, h]
    rfl
  have hmatch : matchDomain (newRouter cfg).domainMatcher (trimSpace host) = some b := by
    rw [hdm]
    unfold hostName at hhost hfound
    apply matchDomain_of_suffix
    · exact fun _ => rfl
    · exact hhost
    · rw [← hfound]
  have hnot : modeRule ≠ modeGlobal ∧ modeRule ≠ modeDirect := by decide
  simp [route, hip, hrule, hnot.1, hnot.2, hclean, hmatch]

theorem suffixTable_builtin (cfg : Config) {k : Bytes} {b : RouteAction}
    (h : (k, b) ∈ builtinEntries) : suffixTable cfg k = some b :=
  assignAll_of_mem _ h fun _ h' => builtinEntries_functional h h'

theorem suffixTable_of_not_builtin (cfg : Config) {k : Bytes} (h : ∀ b, (k, b) ∉ builtinEntries) :
    suffixTable cfg k = assignAll (fun _ => none) (customEntries cfg) k :=
  assignAll_of_notMem _ h

def Unambiguous (cfg : Config) : Prop :=
  ∀ e ∈ customEntries cfg, ∀ e' ∈ customEntries cfg, e.1 = e'.1 → e.2 = e'.2

instance (cfg : Config) : Decidable (Unambiguous cfg) :=
  inferInstanceAs
    (Decidable (∀ e ∈ customEntries cfg, ∀ e' ∈ customEntries cfg, e.1 = e'.1 → e.2 = e'.2))

/-- `k` with action `a` is the longest custom suffix of the host, and no built-in suffix of the
host is longer. -/
structure LongestCustom (cfg : Config) (host k : Bytes) (a : RouteAction) : Prop where
  entry : (k, a) ∈ customEntries cfg
  suffix : LabelSuffix k (hostName host)
  custom : ∀ e ∈ customEntries cfg, LabelSuffix e.1 (hostName host) → e.1.length ≤ k.length
  builtin : ∀ d ∈ builtinBlockSuffixes ++ builtinDirectSuffixes, LabelSuffix d (hostName host) →
    d.length ≤ k.length

theorem suffixTable_custom {cfg : Config} {k : Bytes} {a : RouteAction} (hcfg : Unambiguous cfg)
    (hmem : (k, a) ∈ customEntries cfg) (h : ∀ b, (k, b) ∉ builtinEntries) :
    suffixTable cfg k = some a := by
  rw [suffixTable_of_not_builtin cfg h]
  exact assignAll_of_mem _ hmem fun v' hv' => hcfg _ hv' _ hmem rfl

section Longest

variable {cfg : Config} {host k : Bytes} {a : RouteAction}

/-- A longer suffix of the host has no rule at all. -/
theorem LongestCustom.none_of_longer (h : LongestCustom cfg host k a) {k' : Bytes}
    (hk' : LabelSuffix k' (hostName host)) (hlonger : k.length < k'.length) :
    suffixTable cfg k' = none := by
  have hcustom : ∀ b, (k', b) ∉ customEntries cfg := by
    intro b hb
    have := h.custom _ hb hk'
    simp only at this
    omega
  have hbuiltin : ∀ b, (k', b) ∉ builtinEntries := by
    intro b hb
    have hd : k' ∈ builtinBlockSuffixes ++ builtinDirectSuffixes := by
      rw [List.mem_append]
      rw [mem_builtinEntries] at hb
      tauto
    have := h.builtin k' hd hk'
    omega
  rw [suffixTable_of_not_builtin cfg hbuiltin, assignAll_of_notMem _ hcustom]

/-- The rule that the table holds for the longest custom suffix decides the route. -/
theorem LongestCustom.route_eq (h : LongestCustom cfg host k a) {ip : Option Bytes}
    {b : RouteAction} (port : UInt16) (hmode : cfg.mode = [] ∨ cfg.mode = modeRule)
    (hip : isPrivateIP ip = false) (hb : suffixTable cfg k = some b) :
    route (newRouter cfg) host ip port = b := by
  have hhost := h.suffix.ne_nil (customEntries_ne_nil h.entry)
  apply route_of_suffix hmode hip hhost
  apply findSome?_of_first (lookups_pairwise _) (mem_lookups.mpr h.suffix) hb
  intro k' hk' hlonger
  exact h.none_of_longer (mem_lookups.mp hk') hlonger

/-- The action of the longest custom suffix is the action of the route exactly when the same
suffix does not stand in a built-in table with another action. -/
theorem custom_suffix_decides (port : UInt16) {ip : Option Bytes}
    (hmode : cfg.mode = [] ∨ cfg.mode = modeRule) (hcfg : Unambiguous cfg)
    (hip : isPrivateIP ip = false) (h : LongestCustom cfg host k a) :
    route (newRouter cfg) host ip port = a ↔
      (k ∈ builtinBlockSuffixes → a = .block) ∧ (k ∈ builtinDirectSuffixes → a = .direct) := by
  by_cases hbuiltin : ∃ b, (k, b) ∈ builtinEntries
  · obtain ⟨b, hb⟩ := hbuiltin
    rw [h.route_eq port hmode hip (suffixTable_builtin cfg hb)]
    have hdisjoint := builtin_disjoint k
    rw [mem_builtinEntries] at hb
    rcases hb with ⟨hk, rfl⟩ | ⟨hk, rfl⟩
    · simp [hk, hdisjoint hk, eq_comm]
    · have hk' : k ∉ builtinBlockSuffixes := fun hk' => hdisjoint hk' hk
      simp [hk, hk', eq_comm]
  · have hnone : ∀ b, (k, b) ∉ builtinEntries := fun b hb => hbuiltin ⟨b, hb⟩
    have hblock : k ∉ builtinBlockSuffixes := by
      intro hk
      exact hnone .block (mem_builtinEntries.mpr (.inl ⟨hk, rfl⟩))
    have hdirect : k ∉ builtinDirectSuffixes := by
      intro hk
      exact hnone .direct (mem_builtinEntries.mpr (.inr ⟨hk, rfl⟩))
    rw [h.route_eq port hmode hip (suffixTable_custom hcfg h.entry hnone)]
    simp [hblock, hdirect]

end Longest

/-- Rule mode with one blocked domain and no other custom rule. -/
def blocking (domain : Bytes) : Config := ⟨[], [], [], [domain], [], [], []⟩

theorem custom_suffix_decides_subdomain :
    route (newRouter (blocking (goString "ads.Example.com"))) (goString "x.ads.example.com") none
      443 = .block :=
  (custom_suffix_decides 443 (k := goString "ads.example.com") (.inl rfl) (by decide +kernel) rfl
    ⟨by decide +kernel, by decide +kernel, by decide +kernel, by decide +kernel⟩).mpr
    (by decide +kernel)

/-- A user blocks `apple.com`; the built-in direct entry for the same suffix replaces the rule. -/
theorem builtin_overrides_custom :
    Unambiguous (blocking (goString "apple.com")) ∧
      LongestCustom (blocking (goString "apple.com")) (goString "apple.com")
        (goString "apple.com") .block ∧
      route (newRouter (blocking (goString "apple.com"))) (goString "apple.com") none 443 =
        .direct := by
  have hlongest : LongestCustom (blocking (goString "apple.com")) (goString "apple.com")
      (goString "apple.com") .block :=
    ⟨by decide +kernel, by decide +kernel, by decide +kernel, by decide +kernel⟩
  have hbuiltin : (goString "apple.com", RouteAction.direct) ∈ builtinEntries :=
    mem_builtinEntries.mpr (.inr ⟨by decide +kernel, rfl⟩)
  refine ⟨by decide +kernel, hlongest, ?_⟩
  exact hlongest.route_eq 443 (.inl rfl) rfl (suffixTable_builtin _ hbuiltin)

end FoloXray.Routing
