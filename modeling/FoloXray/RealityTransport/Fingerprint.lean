import FoloXray.Foundation.Cuts
import FoloXray.RealityTransport.Spider

/-! # Fingerprints of accepted profiles

A profile's fingerprint is accepted if it is not blank and is stored as it is written; the client looks
it up, case and all, in three tables.  The generic configuration builder lower-cases the name and looks
it up before it accepts it.
-/

namespace FoloXray.RealityTransport
open Foundation Profile

def fingerprintNames : List Bytes :=
  (presetFingerprints "").map Prod.fst ++ modernFingerprints.map Prod.fst ++
    otherFingerprints.map Prod.fst

section Tables

variable {α β : Type*} [BEq α] [LawfulBEq α]

theorem lookup_ne_none_iff {name : α} {table : List (α × β)} :
    table.lookup name ≠ none ↔ name ∈ table.map Prod.fst := by
  rw [Ne, List.lookup_eq_none_iff, List.mem_map]
  push Not
  constructor
  · rintro ⟨entry, hentry, hname⟩
    exact ⟨entry, hentry, (not_not.mp (mt bne_iff_ne.mpr hname)).symm⟩
  · rintro ⟨entry, hentry, rfl⟩
    exact ⟨entry, hentry, fun hne => bne_iff_ne.mp hne rfl⟩

end Tables

theorem orElse_ne_none_iff {α : Type*} {a b : Option α} : (a <|> b) ≠ none ↔ a ≠ none ∨ b ≠ none := by
  cases a with
  | none => simp
  | some x => simp

/-- The names of the presets do not depend on the fingerprint drawn for `random`. -/
theorem map_fst_presetFingerprints (random : ClientHelloID) :
    (presetFingerprints random).map Prod.fst = (presetFingerprints "").map Prod.fst := rfl

theorem nil_not_mem_fingerprintNames : [] ∉ fingerprintNames := by decide +kernel

theorem getFingerprint_ne_none_iff (random : ClientHelloID) (name : Bytes) :
    getFingerprint random name ≠ none ↔ name ∈ fingerprintNames := by
  by_cases hname : name = []
  · rw [getFingerprint, if_pos hname, hname]
    exact iff_of_false (not_not_intro rfl) nil_not_mem_fingerprintNames
  · rw [getFingerprint, if_neg hname, orElse_ne_none_iff, orElse_ne_none_iff, lookup_ne_none_iff,
      lookup_ne_none_iff, lookup_ne_none_iff, map_fst_presetFingerprints, fingerprintNames,
      List.mem_append, List.mem_append, or_assoc]

inductive FingerprintError where
  | empty
  | unknown (name : Bytes)
  | invalid (name : Bytes)
  deriving DecidableEq, Repr

def genericFingerprint (random : ClientHelloID) (fingerprint : Bytes) :
    Except FingerprintError Bytes :=
  if fingerprint = [] then .error .empty
  else if getFingerprint random (toLower fingerprint) = none then
    .error (.unknown (toLower fingerprint))
  else if toLower fingerprint = goString "hellogolang" then .error (.invalid (toLower fingerprint))
  else .ok (toLower fingerprint)

theorem genericFingerprint_resolves {random random' : ClientHelloID} {fingerprint stored : Bytes}
    (h : genericFingerprint random fingerprint = .ok stored) :
    stored = toLower fingerprint ∧ getFingerprint random' stored ≠ none := by
  unfold genericFingerprint at h
  split at h
  · cases h
  · split at h
    · cases h
    · rename_i hfound
      split at h
      · cases h
      · cases h
        refine ⟨rfl, ?_⟩
        rw [getFingerprint_ne_none_iff, ← getFingerprint_ne_none_iff random]
        exact hfound

/-- The error of a client that does not find its fingerprint. -/
def fingerprintError : ClientError := .new "REALITY: failed to get fingerprint"

theorem result_bind_pure {α β : Type} (x : Reads α) (b : β) :
    (x >>= fun _ => (pure b : Reads β)).result = x.result.map fun _ => b := by
  obtain ⟨positions, result⟩ := x
  cases result with
  | none => rfl
  | some a => rfl

theorem returned_ne {r : Except ClientError Unit} (h : r ≠ .error fingerprintError) :
    (Run.returned r).main.result ≠ some (.error fingerprintError) :=
  fun heq => h (Option.some.inj heq)

theorem answerUnverified_ne (config : RealityConfig) (env : Surroundings) :
    (answerUnverified config env).main.result ≠ some (.error fingerprintError) := by
  rw [answerUnverified, result_bind_pure]
  cases (between config.spiderY env.returnDraw 8 9).result with
  | none =>
    intro heq
    cases heq
  | some delay =>
    intro heq
    have htext : (ClientError.new "REALITY: processed invalid connection") = fingerprintError :=
      Except.error.inj (Option.some.inj heq)
    exact absurd htext (by decide)

/-- The client gives up for its fingerprint exactly if the tables do not have it. -/
theorem uClient_fingerprintError_iff (config : RealityConfig) (env : Surroundings) :
    (uClient config env).main.result = some (.error fingerprintError) ↔
      getFingerprint env.random config.fingerprint = none := by
  unfold uClient
  cases getFingerprint env.random config.fingerprint with
  | none => exact iff_of_true rfl rfl
  | some id =>
    refine iff_of_false ?_ nofun
    dsimp only
    split
    · exact returned_ne (by decide)
    · split
      · exact returned_ne (by decide)
      · split
        · exact returned_ne (by decide)
        · cases env.handshake with
          | failed => exact returned_ne (by decide)
          | verified => exact returned_ne (by decide)
          | unverified => exact answerUnverified_ne config env

theorem fingerprint_of_build {r : Reality} {config : RealityConfig} (h : r.build = .ok config) :
    config.fingerprint = r.fingerprint := by
  simp only [Reality.build, Outcome.failIf_bind_eq_ok_iff] at h
  obtain ⟨publicKey, -, h⟩ := Outcome.bind_eq_ok_iff.mp h.2.2
  obtain ⟨shortID, -, h⟩ := Outcome.bind_eq_ok_iff.mp h
  cases h
  rfl

/-- The fingerprint of an accepted profile is found exactly if the profile spells one of the names, and
otherwise the client refuses every connection for it. -/
theorem fingerprint_resolves_iff {alloc : Allocator} {data : Bytes} {profile : Config}
    {core : CoreConfig} (hload : load alloc data = .ok core)
    (hdecode : decodeProfile data = .ok profile) (hversion : profile.version = firstReleaseVer) :
    ∃ reality config, profile.outbound.reality = some reality ∧ realityConfigs core = [config] ∧
      (∀ random, getFingerprint random config.fingerprint ≠ none ↔
        reality.fingerprint ∈ fingerprintNames) ∧
      ∀ env, ((uClient config env).main.result ≠ some (.error fingerprintError) ↔
        reality.fingerprint ∈ fingerprintNames) := by
  obtain ⟨reality, config, hreality, hbuild, hconfigs⟩ := realityConfigs_of_load hload hdecode hversion
  have hresolves (random : ClientHelloID) :
      getFingerprint random config.fingerprint ≠ none ↔ reality.fingerprint ∈ fingerprintNames := by
    rw [getFingerprint_ne_none_iff, fingerprint_of_build hbuild]
  refine ⟨reality, config, hreality, hconfigs, hresolves, fun env => ?_⟩
  rw [Ne, uClient_fingerprintError_iff, ← hresolves env.random]

theorem fingerprint_resolves_iff_chrome :
    ∃ core, load exactAllocator vlessProfile = .ok core ∧ ∃ config ∈ realityConfigs core,
      ∀ random, getFingerprint random config.fingerprint ≠ none := by
  obtain ⟨core, profile, hload, hdecode, hversion⟩ := loads_vlessProfile
  have hname : ((decodeProfile vlessProfile).toOption.any fun profile =>
      profile.outbound.reality.all fun reality => fingerprintNames.contains reality.fingerprint) =
      true := by
    decide +kernel
  rw [hdecode] at hname
  obtain ⟨reality, config, hreality, hconfigs, h⟩ := fingerprint_resolves_iff hload hdecode hversion
  refine ⟨core, hload, config, ?_, fun random => (h.1 random).mpr ?_⟩
  · rw [hconfigs]
    exact List.mem_singleton_self config
  · have hany : (profile.outbound.reality.all fun reality =>
        fingerprintNames.contains reality.fingerprint) = true := hname
    rw [hreality] at hany
    exact List.contains_iff_mem.mp hany

/-- A complete VLESS profile with the name of a browser in capitals. -/
def capitalised : Bytes :=
  goString ("\x7b\"version\":1,\"mode\":\"tun\",\"outbound\":\x7b\"address\":\"edge.example.com\"," ++
    "\"port\":443,\"uuid\":\"00000000-0000-0000-0000-000000000001\"," ++
    "\"flow\":\"xtls-rprx-vision\",\"encryption\":\"none\",\"transport\":\"tcp\"," ++
    "\"security\":\"reality\",\"reality\":\x7b\"serverName\":\"www.example.com\"," ++
    "\"fingerprint\":\"Chrome\",\"publicKey\":\"AAAAAAAAAAAAAAAAAAAAAAAAAAAAAAAAAAAAAAAAAAA\"," ++
    "\"shortId\":\"0123456789abcdef\",\"spiderX\":\"/\"\x7d\x7d\x7d")

/-- It is accepted, its fingerprint is not found, and the generic builder would have stored one that
is. -/
theorem capitalised_fingerprint_lost :
    (∃ core, load exactAllocator capitalised = .ok core ∧
      (realityConfigs core).map (·.fingerprint) = [goString "Chrome"]) ∧
    (∀ random, getFingerprint random (goString "Chrome") = none) ∧
    ∀ random, genericFingerprint random (goString "Chrome") = .ok (goString "chrome") := by
  have hlower : toLower (goString "Chrome") = goString "chrome" := by decide +kernel
  refine ⟨Outcome.exists_of_okWith (by decide +kernel), fun random => ?_, fun random => ?_⟩
  · by_contra h
    exact absurd ((getFingerprint_ne_none_iff random _).mp h) (by decide +kernel)
  · have hfound : getFingerprint random (goString "chrome") ≠ none :=
      (getFingerprint_ne_none_iff random _).mpr (by decide +kernel)
    rw [genericFingerprint, hlower, if_neg (by decide), if_neg hfound, if_neg (by decide)]

end FoloXray.RealityTransport
