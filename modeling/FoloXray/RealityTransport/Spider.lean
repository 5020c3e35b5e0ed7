import FoloXray.Profile.Build
import FoloXray.RealityTransport.Client

/-! # The crawler's parameters

The crawler that answers an unverified peer indexes the first ten entries of `SpiderY`.  The generic
configuration builder always makes ten of them; a profile makes none, so its client is safe only as
long as no handshake ends with an unverified peer.
-/

namespace FoloXray.RealityTransport

open Foundation Profile

section

variable {spiderY : List ℤ} {n : ℕ}

theorem between_below {i k : ℕ} (draw : ℕ) (hi : i < n) (hk : k < n) :
    (between spiderY draw i k).Below n :=
  (Reads.below_index spiderY hi).bind fun _ =>
    (Reads.below_index spiderY hk).bind fun _ => Reads.below_ofOption n _

theorem getLoop_below (first : Bool) (w : Worker) (rounds j : ℕ) :
    (getLoop spiderY first w rounds j).Below 10 := by
  induction rounds generalizing j with
  | zero => exact Reads.below_pure 10 ()
  | succ rounds ih =>
    refine (between_below _ (by decide) (by decide)).bind fun padding => ?_
    refine (Reads.below_ofOption 10 _).bind fun _ => ?_
    cases w.attempts j with
    | doFails => exact Reads.below_pure 10 ()
    | readFails => exact Reads.below_pure 10 ()
    | answered =>
      cases first with
      | true => exact ih (j + 1)
      | false => exact (between_below _ (by decide) (by decide)).bind fun _ => ih (j + 1)

theorem get_below (first : Bool) (w : Worker) : (get spiderY first w).Below 10 := by
  unfold get
  split
  · exact Reads.below_pure 10 ()
  · split
    · exact getLoop_below _ _ _ _
    · exact (between_below _ (by decide) (by decide)).bind fun times => getLoop_below _ _ _ _

theorem crawl_below (env : Surroundings) : (crawl spiderY env).Below 10 :=
  (get_below true env.first).bind fun _ =>
    (between_below _ (by decide) (by decide)).bind fun _ => Reads.below_pure 10 _

theorem crawlers_below (env : Surroundings) : ∀ r ∈ crawlers spiderY env, r.Below 10 := by
  unfold crawlers
  intro r hr
  split at hr
  · obtain ⟨i, -, rfl⟩ := List.mem_map.mp hr
    exact get_below false (env.workers i)
  · cases hr

end

/-- The call gets as far as a completed handshake with a peer that is not verified. -/
structure Unverified (config : RealityConfig) (env : Surroundings) : Prop where
  fingerprint : getFingerprint env.random config.fingerprint ≠ none
  publicKey : config.publicKey.length = 32
  sharedKey : sharesKey config.publicKey = true
  derivesKey : env.derivesKey = true
  handshake : env.handshake = .unverified

theorem uClient_of_unverified {config : RealityConfig} {env : Surroundings}
    (h : Unverified config env) : uClient config env = answerUnverified config env := by
  obtain ⟨id, hid⟩ := Option.ne_none_iff_exists'.mp h.fingerprint
  simp [uClient, hid, h.publicKey, h.sharedKey, h.derivesKey, h.handshake]

theorem indexes_of_not_unverified {config : RealityConfig} {env : Surroundings}
    (h : ¬Unverified config env) : (uClient config env).indexes = [] := by
  unfold uClient
  split
  · rfl
  · rename_i id hid
    split
    · rfl
    · rename_i hkey
      split
      · rfl
      · rename_i hshared
        split
        · rfl
        · rename_i hderives
          split
          · rfl
          · rfl
          · rename_i hunverified
            refine absurd ⟨by simp [hid], not_not.mp hkey, ?_, ?_, hunverified⟩ h
            · simpa using hshared
            · simpa using hderives

theorem uClient_indexes_lt (config : RealityConfig) (env : Surroundings) :
    ∀ i ∈ (uClient config env).indexes, i < 10 := by
  by_cases h : Unverified config env
  · rw [uClient_of_unverified h]
    intro i hi
    simp only [Run.indexes, List.mem_append, List.mem_flatMap, answerUnverified,
      Option.elim_some] at hi
    rcases hi with (hi | hi) | ⟨r, hr, hi⟩
    · exact (between_below (n := 10) _ (by decide) (by decide)).bind
        (fun _ => Reads.below_pure 10 _) i hi
    · exact crawl_below env i hi
    · exact crawlers_below env r hr i hi
  · simp [indexes_of_not_unverified h]

/-- A decimal number as `strconv.ParseInt` returns it when its error is ignored. -/
def parseInt (s : Bytes) : ℤ :=
  let negative := s.head? = some Json.minus
  let digits := if negative ∨ s.head? = some Json.plus then s.tail else s
  match if digits = [] then none else Json.digitsValue digits with
  | none => 0
  | some n => if negative then max (-n) (-2 ^ 63) else min n (2 ^ 63 - 1)

/-- The `parse` of `REALITYConfig.Build`: one query parameter gives two entries. -/
def parseParam (q : String → Bytes) (spiderY : List ℤ) (param : String) (index : ℕ) : List ℤ :=
  match if q param = [] then [] else (q param).splitOn hyphen with
  | [] => spiderY
  | [both] => (spiderY.set index (parseInt both)).set (index + 1) (parseInt both)
  | left :: right :: _ => (spiderY.set index (parseInt left)).set (index + 1) (parseInt right)

/-- The entries that `REALITYConfig.Build` makes from the query of `spiderX`. -/
def genericSpiderY (q : String → Bytes) : List ℤ :=
  let y := List.replicate 10 0
  let y := parseParam q y "p" 0
  let y := parseParam q y "c" 2
  let y := parseParam q y "t" 4
  let y := parseParam q y "i" 6
  parseParam q y "r" 8

theorem length_parseParam (q : String → Bytes) (spiderY : List ℤ) (param : String) (index : ℕ) :
    (parseParam q spiderY param index).length = spiderY.length := by
  unfold parseParam
  split <;> simp

theorem length_genericSpiderY (q : String → Bytes) : (genericSpiderY q).length = 10 := by
  simp [genericSpiderY, length_parseParam]

/-- With the entries of the generic builder every index is in range, whatever the peer does. -/
theorem generic_spider_in_range {config : RealityConfig} {q : String → Bytes}
    (h : config.spiderY = genericSpiderY q) (env : Surroundings) :
    ∀ i ∈ (uClient config env).indexes, i < config.spiderY.length := by
  rw [h, length_genericSpiderY]
  exact uClient_indexes_lt config env

/-- Without entries the indexes are in range only if there are none. -/
theorem empty_spider_in_range_iff {config : RealityConfig} (h : config.spiderY = [])
    (env : Surroundings) :
    (∀ i ∈ (uClient config env).indexes, i < config.spiderY.length) ↔ ¬Unverified config env := by
  constructor
  · intro hrange hunverified
    have hmem : 8 ∈ (uClient config env).indexes := by
      rw [uClient_of_unverified hunverified]
      simp only [Run.indexes, answerUnverified, between, h, List.mem_append]
      exact .inl (.inl (List.mem_singleton_self 8))
    have := hrange 8 hmem
    simp [h] at this
  · intro hunverified
    simp [indexes_of_not_unverified hunverified]

def realityConfigs (core : CoreConfig) : List RealityConfig :=
  core.outbound.flatMap fun o =>
    o.senderSettings.value.streamSettings.securitySettings.filterMap fun m =>
      match m.value with
      | .reality config => some config
      | .tls _ => none

/-- An accepted profile of the first version has one REALITY configuration, built from its settings. -/
theorem realityConfigs_of_load {alloc : Allocator} {data : Bytes} {profile : Config}
    {core : CoreConfig} (hload : load alloc data = .ok core)
    (hdecode : decodeProfile data = .ok profile) (hversion : profile.version = firstReleaseVer) :
    ∃ reality settings, profile.outbound.reality = some reality ∧ reality.build = .ok settings ∧
      realityConfigs core = [settings] := by
  obtain ⟨-, decoded, hdecoded, hbuild⟩ := load_eq_ok_iff.mp hload
  cases hdecode.symm.trans hdecoded
  obtain ⟨⟨hprotocol, -⟩, outbound, hout, rfl⟩ := profile.build_eq_ok_iff.mp hbuild
  have hvless : profile.outbound.protocol = [] := by
    rcases hprotocol with ⟨-, h⟩ | ⟨h, -⟩ | ⟨h, -⟩
    · exact h
    · rw [hversion] at h; exact absurd h (by decide)
    · rw [hversion] at h; exact absurd h (by decide)
  have hbuilt : profile.outbound.build alloc = profile.outbound.buildVless alloc := by
    rw [Outbound.build, hvless, if_neg (by decide), if_neg (by decide)]
  obtain ⟨reality, settings, id, server, -, hreality, hsettings, -, rfl⟩ :=
    Outbound.buildVless_eq_ok (hbuilt.symm.trans hout)
  exact ⟨reality, settings, hreality, hsettings, rfl⟩

/-- Its client indexes `SpiderY` in range exactly if the handshake does not end with an unverified
peer. -/
theorem reality_spider_in_range_iff {alloc : Allocator} {data : Bytes} {profile : Config}
    {core : CoreConfig} (hload : load alloc data = .ok core)
    (hdecode : decodeProfile data = .ok profile) (hversion : profile.version = firstReleaseVer) :
    ∃ config, realityConfigs core = [config] ∧ ∀ env,
      (∀ i ∈ (uClient config env).indexes, i < config.spiderY.length) ↔
        ¬Unverified config env := by
  obtain ⟨reality, settings, -, hsettings, hconfigs⟩ := realityConfigs_of_load hload hdecode hversion
  exact ⟨settings, hconfigs, empty_spider_in_range_iff (Reality.build_eq_ok hsettings).2.2⟩

/-- A complete VLESS profile; its public key is not of low order. -/
def vlessProfile : Bytes :=
  goString ("\x7b\"version\":1,\"mode\":\"tun\",\"outbound\":\x7b\"address\":\"edge.example.com\"," ++
    "\"port\":443,\"uuid\":\"00000000-0000-0000-0000-000000000001\"," ++
    "\"flow\":\"xtls-rprx-vision\",\"encryption\":\"none\",\"transport\":\"tcp\"," ++
    "\"security\":\"reality\",\"reality\":\x7b\"serverName\":\"www.example.com\"," ++
    "\"fingerprint\":\"chrome\",\"publicKey\":\"hSDwCYkwp1R0i33ctD73Wg2_Og0mOBr066SpjqqbTmo\"," ++
    "\"shortId\":\"0123456789abcdef\",\"spiderX\":\"/\"\x7d\x7d\x7d")

theorem version_vlessProfile :
    (decodeProfile vlessProfile).toOption.map (·.version) = some firstReleaseVer := by
  decide +kernel

theorem loads_vlessProfile : ∃ core profile, load exactAllocator vlessProfile = .ok core ∧
    decodeProfile vlessProfile = .ok profile ∧ profile.version = firstReleaseVer := by
  obtain ⟨core, hload, -⟩ : ∃ core, load exactAllocator vlessProfile = .ok core ∧ True :=
    Outcome.exists_of_okWith (by decide +kernel)
  obtain ⟨-, profile, hdecode, -⟩ := load_eq_ok_iff.mp hload
  have hversion := version_vlessProfile
  rw [hdecode] at hversion
  exact ⟨core, profile, hload, hdecode, Option.some.inj hversion⟩

theorem reality_spider_in_range_vless :
    ∃ core, load exactAllocator vlessProfile = .ok core ∧
      ∃ config, realityConfigs core = [config] ∧ ∀ env,
        (∀ i ∈ (uClient config env).indexes, i < config.spiderY.length) ↔
          ¬Unverified config env := by
  obtain ⟨core, profile, hload, hdecode, hversion⟩ := loads_vlessProfile
  exact ⟨core, hload, reality_spider_in_range_iff hload hdecode hversion⟩

def unverifiedPeer : Surroundings where
  random := "HelloChrome_102"
  derivesKey := true
  handshake := .unverified
  returnDraw := 0
  concurrencyDraw := 0
  first := ⟨true, fun _ => 0, fun _ => .answered⟩
  workers _ := ⟨true, fun _ => 0, fun _ => .answered⟩

theorem unverified_peer_out_of_range :
    (decodeProfile vlessProfile).toOption.map (·.version) = some firstReleaseVer ∧
      ∃ core, load exactAllocator vlessProfile = .ok core ∧ ∃ config ∈ realityConfigs core,
        ∃ i ∈ (uClient config unverifiedPeer).indexes, config.spiderY.length ≤ i :=
  ⟨version_vlessProfile, Outcome.exists_of_okWith (by decide +kernel)⟩

end FoloXray.RealityTransport
