import FoloXray.Foundation.Address
import FoloXray.Foundation.Slice

/-! # Server addresses

`common/net`: the address of a profile is an IP address, possibly in brackets, or else a domain.
-/

namespace FoloXray.Profile

open Foundation

variable {ε : Type}

inductive Address where
  | ipv4 (octets : Bytes)
  | ipv6 (octets : Bytes)
  | domain (name : Bytes)
  deriving DecidableEq, Repr

def isAlphaNum (c : UInt8) : Bool :=
  (0x30 ≤ c.toNat && c.toNat ≤ 0x39) || (0x61 ≤ c.toNat && c.toNat ≤ 0x7a) ||
    (0x41 ≤ c.toNat && c.toNat ≤ 0x5a)

def bytesAt (s : Bytes) : List ℕ → Outcome ε Bytes
  | [] => .ok []
  | i :: positions => do
    let b ← stringIndex s i
    let rest ← bytesAt s positions
    pure (b :: rest)

def ipv4Address (ip : Bytes) : Outcome ε (Option Address) := do
  let octets ← bytesAt ip [0, 1, 2, 3]
  pure (some (.ipv4 octets))

/-- `IPAddress`; an IPv4 address in sixteen-byte form becomes an IPv4 address, and a slice of any
other length gives no address. -/
def ipAddress (ip : Bytes) : Outcome ε (Option Address) :=
  if ip.length = 4 then ipv4Address ip
  else if ip.length = 16 then do
    let front ← stringSlice ip 0 10
    let mark ← bytesAt ip [10, 11]
    if front = List.replicate 10 0 ∧ mark = [0xff, 0xff] then do
      let tail ← stringSlice ip 12 16
      ipv4Address tail
    else do
      let octets ← bytesAt ip (List.range 16)
      pure (some (.ipv6 octets))
  else pure none

def stripBrackets (addr : Bytes) : Outcome ε Bytes :=
  if 0 < addr.length then do
    let first ← stringIndex addr 0
    let last ← stringIndex addr (addr.length - 1)
    if first = 0x5b ∧ last = 0x5d then stringSlice addr 1 (addr.length - 1) else pure addr
  else pure addr

/-- The address without white space around it, if it starts or ends with one of the bytes that can
be white space. -/
def trimAddress (addr : Bytes) : Outcome ε Bytes :=
  if 0 < addr.length then do
    let first ← stringIndex addr 0
    let last ← stringIndex addr (addr.length - 1)
    pure (if !isAlphaNum first || !isAlphaNum last then trimSpace addr else addr)
  else pure addr

def parseAddress (addr : Bytes) : Outcome ε (Option Address) := do
  let addr ← stripBrackets addr
  let addr ← trimAddress addr
  match parseIP addr with
  | some ip => ipAddress ip
  | none => pure (some (.domain addr))

inductive IPOrDomain where
  | ip (bytes : Bytes)
  | domain (name : Bytes)
  deriving DecidableEq, Repr

/-- `NewIPOrDomain`; a method call on a nil address fails. -/
def newIPOrDomain : Option Address → Outcome ε IPOrDomain
  | some (.domain name) => .ok (.domain name)
  | some (.ipv4 octets) => .ok (.ip octets)
  | some (.ipv6 octets) => .ok (.ip octets)
  | none => .panicked

def Address.stored : Address → IPOrDomain
  | .ipv4 octets => .ip octets
  | .ipv6 octets => .ip octets
  | .domain name => .domain name

theorem newIPOrDomain_eq (a : Address) :
    (newIPOrDomain (some a) : Outcome ε IPOrDomain) = .ok a.stored := by
  cases a with
  | ipv4 octets => rfl
  | ipv6 octets => rfl
  | domain name => rfl

end FoloXray.Profile
