import FoloXray.Routing.Precedence

/-! # What a domain matcher is for

A matcher filled by any sequence of `AddExact`, `AddSuffix` and `AddKeyword` calls.  Its three
stores collide differently: the last exact rule and the last suffix rule for a key win, and the
first keyword wins.  A name is decided by its exact rule, else by the longest rule that is a suffix
at a label boundary, else by a keyword.
-/

namespace FoloXray.Routing
open Foundation

inductive AddCall where
  | exact (domain : Bytes) (action : RouteAction)
  | suffix (s : Bytes) (action : RouteAction)
  | keyword (word : Bytes) (action : RouteAction)
  deriving DecidableEq, Repr

def AddCall.apply (m : DomainMatcher) : AddCall → DomainMatcher
  | .exact domain action => addExact m domain action
  | .suffix s action => addSuffix m s action
  | .keyword word action => addKeyword m word action

def filled (calls : List AddCall) : DomainMatcher := calls.foldl AddCall.apply newDomainMatcher

/-- The rule under a key; a call whose key is empty adds nothing. -/
def ruleAt (key : Bytes) (action : RouteAction) : Option (Bytes × RouteAction) :=
  if key ≠ [] then some (key, action) else none

def AddCall.exactRule : AddCall → Option (Bytes × RouteAction)
  | .exact domain action => ruleAt (normalizeDomain domain) action
  | _ => none

def AddCall.suffixRule : AddCall → Option (Bytes × RouteAction)
  | .suffix s action => ruleAt (normalizeSuffix s) action
  | _ => none

def AddCall.keywordRule : AddCall → Option (Bytes × RouteAction)
  | .keyword word action => ruleAt (normalizeDomain word) action
  | _ => none

/-- The suffix rule with the longest key that is a label suffix of the name. -/
structure LongestSuffix (rules : List (Bytes × RouteAction)) (n s : Bytes) (a : RouteAction) :
    Prop where
  last : LastEntry rules s a
  suffix : LabelSuffix s n
  longest : ∀ e ∈ rules, LabelSuffix e.1 n → e.1.length ≤ s.length

def FirstKeyword (rules : List (Bytes × RouteAction)) (n : Bytes) (a : RouteAction) : Prop :=
  ∃ before k after, rules = before ++ (k, a) :: after ∧ k <:+: n ∧ ∀ e ∈ before, ¬ e.1 <:+: n

inductive Decides (calls : List AddCall) (n : Bytes) : Option RouteAction → Prop
  | exact {a : RouteAction} (h : LastEntry (calls.filterMap AddCall.exactRule) n a) :
    Decides calls n (some a)
  | suffix {s : Bytes} {a : RouteAction}
    (hexact : ∀ e ∈ calls.filterMap AddCall.exactRule, e.1 ≠ n)
    (h : LongestSuffix (calls.filterMap AddCall.suffixRule) n s a) : Decides calls n (some a)
  | keyword {a : RouteAction}
    (hexact : ∀ e ∈ calls.filterMap AddCall.exactRule, e.1 ≠ n)
    (hsuffix : ∀ e ∈ calls.filterMap AddCall.suffixRule, ¬ LabelSuffix e.1 n)
    (h : FirstKeyword (calls.filterMap AddCall.keywordRule) n a) : Decides calls n (some a)
  | none
    (hexact : ∀ e ∈ calls.filterMap AddCall.exactRule, e.1 ≠ n)
    (hsuffix : ∀ e ∈ calls.filterMap AddCall.suffixRule, ¬ LabelSuffix e.1 n)
    (hkeyword : ∀ e ∈ calls.filterMap AddCall.keywordRule, ¬ e.1 <:+: n) : Decides calls n none

/-- A call adds its rule to one of the three stores. -/
theorem apply_stores (m : DomainMatcher) (c : AddCall) :
    (c.apply m).exact = assignAll m.exact c.exactRule.toList ∧
    (c.apply m).suffixes = assignAll m.suffixes c.suffixRule.toList ∧
    (c.apply m).keywords = m.keywords ++ c.keywordRule.toList.map fun e => ⟨e.1, e.2⟩ := by
  cases c with
  | exact domain action =>
    by_cases hkey : normalizeDomain domain = [] <;>
      simp [AddCall.apply, addExact, AddCall.exactRule, AddCall.suffixRule, AddCall.keywordRule,
        ruleAt, hkey]
  | suffix s action =>
    by_cases hkey : normalizeSuffix s = [] <;>
      simp [AddCall.apply, addSuffix, AddCall.exactRule, AddCall.suffixRule, AddCall.keywordRule,
        ruleAt, hkey]
  | keyword word action =>
    by_cases hkey : normalizeDomain word = [] <;>
      simp [AddCall.apply, addKeyword, AddCall.exactRule, AddCall.suffixRule, AddCall.keywordRule,
        ruleAt, hkey]

theorem filled_stores (calls : List AddCall) :
    (filled calls).exact = assignAll (fun _ => none) (calls.filterMap AddCall.exactRule) ∧
    (filled calls).suffixes = assignAll (fun _ => none) (calls.filterMap AddCall.suffixRule) ∧
    (filled calls).keywords =
      (calls.filterMap AddCall.keywordRule).map fun e => ⟨e.1, e.2⟩ := by
  induction calls using List.reverseRecOn with
  | nil => exact ⟨rfl, rfl, rfl⟩
  | append_singleton calls c ih =>
    have hlast : filled (calls ++ [c]) = c.apply (filled calls) := by simp [filled]
    have hrule (f : AddCall → Option (Bytes × RouteAction)) :
        (calls ++ [c]).filterMap f = calls.filterMap f ++ (f c).toList := by
      rw [List.filterMap_append]
      cases h : f c <;> simp [h]
    obtain ⟨hexact, hsuffix, hkeyword⟩ := ih
    simp only [hlast, apply_stores, hrule, assignAll_append, List.map_append, hexact, hsuffix,
      hkeyword, and_self]

section Walk

variable {rules : List (Bytes × RouteAction)} {n : Bytes} {a : RouteAction}

/-- The suffixes of a name are looked up from the longest to the shortest, so the first one with a
rule is the longest. -/
theorem findSome?_suffixes_eq_some_iff :
    (n :: parentDomains n).findSome? (assignAll (fun _ => none) rules) = some a ↔
      ∃ s, LongestSuffix rules n s a := by
  constructor
  · intro h
    obtain ⟨before, s, after, hlookups, hvalue, hbefore⟩ := List.findSome?_eq_some_iff.mp h
    have hmem : s ∈ n :: parentDomains n := by
      rw [hlookups]
      simp
    refine ⟨s, assignAll_eq_some_iff.mp hvalue, mem_lookups.mp hmem, ?_⟩
    intro e he hsuffix
    have hlookup := mem_lookups.mpr hsuffix
    have hsorted := lookups_pairwise n
    rw [hlookups] at hlookup hsorted
    rcases List.mem_append.mp hlookup with hfront | hrest
    · exact absurd rfl (assignAll_eq_none_iff.mp (hbefore e.1 hfront) e he)
    · rcases List.mem_cons.mp hrest with heq | hafter
      · rw [heq]
      · have hpair := (List.pairwise_append.mp hsorted).2.1
        exact ((List.pairwise_cons.mp hpair).1 e.1 hafter).le
  · rintro ⟨s, h⟩
    apply findSome?_of_first (lookups_pairwise n) (mem_lookups.mpr h.suffix)
      (assignAll_eq_some_iff.mpr h.last)
    intro s' hs' hlonger
    rw [assignAll_eq_none_iff]
    intro e he hkey
    have := h.longest e he (hkey ▸ mem_lookups.mp hs')
    rw [hkey] at this
    omega

theorem findSome?_suffixes_eq_none_iff :
    (n :: parentDomains n).findSome? (assignAll (fun _ => none) rules) = none ↔
      ∀ e ∈ rules, ¬ LabelSuffix e.1 n := by
  rw [List.findSome?_eq_none_iff]
  constructor
  · intro h e he hsuffix
    exact assignAll_eq_none_iff.mp (h e.1 (mem_lookups.mpr hsuffix)) e he rfl
  · intro h s hs
    rw [assignAll_eq_none_iff]
    rintro e he rfl
    exact h e he (mem_lookups.mp hs)

theorem find?_keywords_eq_some_iff :
    ((rules.map fun e => (⟨e.1, e.2⟩ : KeywordRule)).find? fun k => k.keyword <:+: n).map
        KeywordRule.action = some a ↔ FirstKeyword rules n a := by
  rw [List.find?_map, Option.map_map, Option.map_eq_some_iff]
  simp only [List.find?_eq_some_iff_append, Function.comp_apply, decide_eq_true_eq,
    Bool.not_eq_true', decide_eq_false_iff_not]
  constructor
  · rintro ⟨e, ⟨hin, before, after, rfl, hbefore⟩, rfl⟩
    exact ⟨before, e.1, after, rfl, hin, hbefore⟩
  · rintro ⟨before, k, after, rfl, hin, hbefore⟩
    exact ⟨(k, a), ⟨hin, before, after, rfl, hbefore⟩, rfl⟩

theorem find?_keywords_eq_none_iff :
    ((rules.map fun e => (⟨e.1, e.2⟩ : KeywordRule)).find? fun k => k.keyword <:+: n).map
        KeywordRule.action = none ↔ ∀ e ∈ rules, ¬ e.1 <:+: n := by
  simp

end Walk

theorem matchDomain_filled {calls : List AddCall} {query : Bytes} (h : normalizeDomain query ≠ []) :
    matchDomain (filled calls) query =
      (assignAll (fun _ => none) (calls.filterMap AddCall.exactRule) (normalizeDomain query)).orElse
        fun _ => ((normalizeDomain query :: parentDomains (normalizeDomain query)).findSome?
          (assignAll (fun _ => none) (calls.filterMap AddCall.suffixRule))).orElse
            fun _ => (((calls.filterMap AddCall.keywordRule).map
              fun e => (⟨e.1, e.2⟩ : KeywordRule)).find?
                fun k => k.keyword <:+: normalizeDomain query).map KeywordRule.action := by
  obtain ⟨hexact, hsuffix, hkeyword⟩ := filled_stores calls
  simp only [matchDomain, h, if_false, hexact, hsuffix, hkeyword]

/-- `Match` decides every name by the rules that were added, and as no other rule would. -/
theorem matchDomain_eq_iff_decides (calls : List AddCall) (query : Bytes)
    (h : normalizeDomain query ≠ []) (r : Option RouteAction) :
    matchDomain (filled calls) query = r ↔ Decides calls (normalizeDomain query) r := by
  rw [matchDomain_filled h]
  constructor
  · rintro rfl
    cases hexact : assignAll (fun _ => none) (calls.filterMap AddCall.exactRule)
        (normalizeDomain query) with
    | some a => exact .exact (assignAll_eq_some_iff.mp hexact)
    | none =>
      have hno := assignAll_eq_none_iff.mp hexact
      rw [Option.orElse_none]
      cases hsuffix : (normalizeDomain query :: parentDomains (normalizeDomain query)).findSome?
          (assignAll (fun _ => none) (calls.filterMap AddCall.suffixRule)) with
      | some a =>
        obtain ⟨s, hs⟩ := findSome?_suffixes_eq_some_iff.mp hsuffix
        exact .suffix hno hs
      | none =>
        have hnosuffix := findSome?_suffixes_eq_none_iff.mp hsuffix
        rw [Option.orElse_none]
        cases hkeyword : (((calls.filterMap AddCall.keywordRule).map
            fun e => (⟨e.1, e.2⟩ : KeywordRule)).find?
              fun k => k.keyword <:+: normalizeDomain query).map KeywordRule.action with
        | some a => exact .keyword hno hnosuffix (find?_keywords_eq_some_iff.mp hkeyword)
        | none => exact .none hno hnosuffix (find?_keywords_eq_none_iff.mp hkeyword)
  · intro hdecides
    cases hdecides with
    | exact hlast => rw [assignAll_eq_some_iff.mpr hlast, Option.orElse_some]
    | suffix hexact hs =>
      rw [assignAll_eq_none_iff.mpr hexact, Option.orElse_none,
        findSome?_suffixes_eq_some_iff.mpr ⟨_, hs⟩, Option.orElse_some]
    | keyword hexact hsuffix hfirst =>
      rw [assignAll_eq_none_iff.mpr hexact, Option.orElse_none,
        findSome?_suffixes_eq_none_iff.mpr hsuffix, Option.orElse_none,
        find?_keywords_eq_some_iff.mpr hfirst]
    | none hexact hsuffix hkeyword =>
      rw [assignAll_eq_none_iff.mpr hexact, Option.orElse_none,
        findSome?_suffixes_eq_none_iff.mpr hsuffix, Option.orElse_none,
        find?_keywords_eq_none_iff.mpr hkeyword]

theorem matchDomain_eq_iff_decides_subdomain :
    Decides [.suffix (goString "com") .direct, .suffix (goString ".Example.com") .block]
      (normalizeDomain (goString "a.example.COM")) (some .block) :=
  (matchDomain_eq_iff_decides _ _ (by decide +kernel) _).mp (by decide +kernel)

end FoloXray.Routing
