import FoloXray.Foundation.Address
import FoloXray.Foundation.Search
import FoloXray.Routing.ChinaRanges

/-! # Rule matchers

The matchers of the router: domain rules by exact name, suffix and keyword, custom address blocks,
private addresses, and the address ranges of mainland China.  A map of the source is a partial
function, and its lock is left out since a router is only read once it is built.
-/

namespace FoloXray.Routing
open Foundation

inductive RouteAction where
  | proxy
  | direct
  | block
  deriving DecidableEq, Repr

structure KeywordRule where
  keyword : Bytes
  action : RouteAction

structure DomainMatcher where
  exact : Bytes → Option RouteAction
  suffixes : Bytes → Option RouteAction
  keywords : List KeywordRule

def newDomainMatcher : DomainMatcher := ⟨fun _ => none, fun _ => none, []⟩

/-- The form in which names are stored and looked up. -/
def normalizeDomain (domain : Bytes) : Bytes := trimSpace (toLower domain)

/-- The form in which suffixes are stored: one leading dot is dropped. -/
def normalizeSuffix (suffix : Bytes) : Bytes := trimPrefix (normalizeDomain suffix) [dot]

def addExact (m : DomainMatcher) (domain : Bytes) (action : RouteAction) : DomainMatcher :=
  let domain := normalizeDomain domain
  if domain ≠ [] then { m with exact := Function.update m.exact domain (some action) } else m

def addSuffix (m : DomainMatcher) (suffix : Bytes) (action : RouteAction) : DomainMatcher :=
  let suffix := normalizeSuffix suffix
  if suffix ≠ [] then { m with suffixes := Function.update m.suffixes suffix (some action) } else m

def addKeyword (m : DomainMatcher) (keyword : Bytes) (action : RouteAction) : DomainMatcher :=
  let keyword := normalizeDomain keyword
  if keyword ≠ [] then { m with keywords := m.keywords ++ [⟨keyword, action⟩] } else m

/-- The non-empty rests of a name after each of its dots, from the longest to the shortest. -/
def parentDomains : Bytes → List Bytes
  | [] => []
  | c :: rest => if c = dot ∧ rest ≠ [] then rest :: parentDomains rest else parentDomains rest

def matchDomain (m : DomainMatcher) (domain : Bytes) : Option RouteAction :=
  let domain := normalizeDomain domain
  if domain = [] then none
  else
    (m.exact domain).orElse fun _ =>
      ((domain :: parentDomains domain).findSome? m.suffixes).orElse fun _ =>
        (m.keywords.find? fun k => k.keyword <:+: domain).map KeywordRule.action

structure CIDRRule where
  ipNet : IPNet
  action : RouteAction

structure IPMatcher where
  rules : List CIDRRule

def newIPMatcher : IPMatcher := ⟨[]⟩

structure ParseError where
  type : Bytes
  text : Bytes
  deriving DecidableEq, Repr

/-- The block that a custom entry stands for: a block, or a single address as a full-length one. -/
def ruleNet (cidrStr : Bytes) : Except ParseError IPNet :=
  match parseCIDR cidrStr with
  | some ipNet => .ok ipNet
  | none =>
    match parseIP cidrStr with
    | none => .error ⟨goString "CIDR address", cidrStr⟩
    | some ip =>
      match to4 ip with
      | some ip4 => .ok ⟨ip4, cidrMask 32 32⟩
      | none => .ok ⟨ip, cidrMask 128 128⟩

def addCIDR (m : IPMatcher) (cidrStr : Bytes) (action : RouteAction) :
    Except ParseError IPMatcher := do
  let ipNet ← ruleNet cidrStr
  return ⟨m.rules ++ [⟨ipNet, action⟩]⟩

def matchIP (m : IPMatcher) (ip : Option Bytes) : Option RouteAction :=
  ip.bind fun ip => (m.rules.find? fun r => r.ipNet.contains ip).map CIDRRule.action

def isPrivateIP : Option Bytes → Bool
  | none => false
  | some ip =>
    isLoopback ip || isLinkLocalUnicast ip || isLinkLocalMulticast ip || isPrivate ip ||
      isUnspecified ip ||
      match to4 ip with
      | some ip4 =>
        (octet ip4 0 == 100 && octet ip4 1 &&& 0xc0 == 64) ||
          (octet ip4 0 == 255 && octet ip4 1 == 255 && octet ip4 2 == 255 && octet ip4 3 == 255)
      | none => false

def bigEndian (bytes : Bytes) : ℕ := bytes.foldl (fun n b => n * 256 + b.toNat) 0

def isChinaIPv4 (ip : ℕ) : Bool :=
  let n := chinaIPv4Ranges.length
  let idx := sortSearch n fun i => ip ≤ (chinaIPv4Ranges.getD i (0, 0)).2
  idx < n && (chinaIPv4Ranges.getD idx (0, 0)).1 ≤ ip

/-- The order of addresses by high half, then by low half. -/
def halvesLe (a b : ℕ × ℕ) : Bool := a.1 < b.1 || (a.1 == b.1 && a.2 ≤ b.2)

def isChinaIPv6 (ip : Bytes) : Bool :=
  if ip.length ≠ 16 then false
  else
    let addr := (bigEndian (ip.take 8), bigEndian (ip.drop 8))
    let n := chinaIPv6Ranges.length
    let idx := sortSearch n fun i => halvesLe addr (chinaIPv6Ranges.getD i ((0, 0), (0, 0))).2
    idx < n && halvesLe (chinaIPv6Ranges.getD idx ((0, 0), (0, 0))).1 addr

def isChinaIP : Option Bytes → Bool
  | none => false
  | some ip =>
    match to4 ip with
    | some ip4 => isChinaIPv4 (bigEndian ip4)
    | none => if ip.length = 16 then isChinaIPv6 ip else false

end FoloXray.Routing
