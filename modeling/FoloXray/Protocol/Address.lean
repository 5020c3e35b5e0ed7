import FoloXray.Buffers.Buffer
import FoloXray.Foundation.Codec
import FoloXray.Profile.BareAddress

/-! # Addresses on the wire

`common/protocol`: an address is a byte for its family and then its octets, or the length and the text
of a domain; the port stands in front of it or behind it.  Each protocol has a parser with its own
family bytes.
-/

namespace FoloXray.Protocol

open Foundation Buffers
open Profile (Address ipAddress parseAddress)

inductive AddressFamily where
  | ipv4
  | ipv6
  | domain
  deriving DecidableEq, Repr

def family : Address → AddressFamily
  | .ipv4 _ => .ipv4
  | .ipv6 _ => .ipv6
  | .domain _ => .domain

/-- A family byte is a numeral below 16. -/
instance neZeroFamilyBytes : NeZero 16 := ⟨by decide⟩

inductive AddressOption where
  | portThenAddress
  | addressFamilyByte (b : Fin 16) (f : AddressFamily)
  | withAddressTypeParser (atp : UInt8 → UInt8)

structure AddressParser where
  portFirst : Bool
  addrTypeMap : Fin 16 → Option AddressFamily
  addrByteMap : AddressFamily → Option UInt8
  typeParser : Option (UInt8 → UInt8)

def AddressParser.apply (p : AddressParser) : AddressOption → AddressParser
  | .portThenAddress => { p with portFirst := true }
  | .addressFamilyByte b f =>
    { p with
      addrTypeMap := fun t => if t = b then some f else p.addrTypeMap t
      addrByteMap := fun g => if g = f then some (UInt8.ofNat b) else p.addrByteMap g }
  | .withAddressTypeParser atp => { p with typeParser := some atp }

def newAddressParser (options : List AddressOption) : AddressParser :=
  options.foldl .apply ⟨false, fun _ => none, fun _ => none, none⟩

def AddressParser.addrType (p : AddressParser) (b : UInt8) : UInt8 := (p.typeParser.getD id) b

/-- The family of a type; there is none for a type of 16 or more. -/
def AddressParser.addrFamily (p : AddressParser) (addrType : UInt8) : Option AddressFamily :=
  if h : addrType.toNat < 16 then p.addrTypeMap ⟨addrType.toNat, h⟩ else none

inductive AddressError where
  | read (e : FillError)
  | unknownAddressType (t : UInt8)
  | invalidDomainName (domain : Bytes)
  | unknownAddressFamily (f : AddressFamily)
  | superLongDomain (domain : Bytes)
  deriving DecidableEq, Repr

def portFromBytes (bytes : Bytes) : UInt16 :=
  UInt16.ofNat ((bytes.getD 0 0).toNat * 256 + (bytes.getD 1 0).toNat)

def readPort : Decoder AddressError UInt16 := do
  let bytes ← (Decoder.take bufSize 2).mapError .read
  pure (portFromBytes bytes)

def writePort (port : UInt16) : Encoder AddressError Unit := .put bufSize (twoBytes port.toNat)

def maybeIPPrefix (b : UInt8) : Bool := b == 0x5b || (0x30 ≤ b.toNat && b.toNat ≤ 0x39)

/-- The bytes that `isValidDomain` lets pass; a byte that is not ASCII belongs to no code point that
it does. -/
def domainByte (c : UInt8) : Bool :=
  (0x30 ≤ c.toNat && c.toNat ≤ 0x39) || (0x61 ≤ c.toNat && c.toNat ≤ 0x7a) ||
    (0x41 ≤ c.toNat && c.toNat ≤ 0x5a) || c == 0x2d || c == 0x2e || c == 0x5f

def isValidDomain (d : Bytes) : Bool := d.all domainByte

def checkDomain (domain : Bytes) : Outcome AddressError (Option Address) :=
  if isValidDomain domain then .ok (some (.domain domain)) else .error (.invalidDomainName domain)

/-- What is made of the text of a domain: an IP address in text form is taken as the address. -/
def domainAddress (domain : Bytes) : Outcome AddressError (Option Address) := do
  let first ← stringIndex domain 0
  if maybeIPPrefix first then do
    let addr ← parseAddress domain
    match addr with
    | none => .panicked
    | some (.domain _) => checkDomain domain
    | some addr => pure (some addr)
  else checkDomain domain

def AddressParser.readAddress (p : AddressParser) : Decoder AddressError (Option Address) := do
  let b ← (Decoder.takeByte bufSize).mapError .read
  let addrType := p.addrType b
  match p.addrFamily addrType with
  | none => .fail (.unknownAddressType addrType)
  | some .ipv4 => do
    let ip ← (Decoder.take bufSize 4).mapError .read
    .lift (ipAddress ip)
  | some .ipv6 => do
    let ip ← (Decoder.take bufSize 16).mapError .read
    .lift (ipAddress ip)
  | some .domain => do
    let domainLength ← (Decoder.takeByte bufSize).mapError .read
    -- for the length zero this is the whole buffer
    let domain ← (Decoder.take bufSize domainLength.toNat).mapError .read
    .lift (domainAddress domain)

def isDomainTooLong (domain : Bytes) : Bool := 256 < domain.length

def AddressParser.writeAddress (p : AddressParser) (address : Address) : Encoder AddressError Unit :=
  match p.addrByteMap (family address) with
  | none => .fail (.unknownAddressFamily (family address))
  | some tb =>
    match address with
    | .ipv4 octets | .ipv6 octets => do
      .put bufSize [tb]
      .put bufSize octets
    | .domain domain =>
      if isDomainTooLong domain then .fail (.superLongDomain domain)
      else do
        .put bufSize [tb, UInt8.ofNat domain.length]
        .put bufSize domain

def AddressParser.readAddressPort (p : AddressParser) : Decoder AddressError (Option Address × UInt16) :=
  if p.portFirst then do
    let port ← readPort
    let addr ← p.readAddress
    pure (addr, port)
  else do
    let addr ← p.readAddress
    let port ← readPort
    pure (addr, port)

def AddressParser.writeAddressPort (p : AddressParser) (addr : Address) (port : UInt16) :
    Encoder AddressError Unit :=
  if p.portFirst then do
    writePort port
    p.writeAddress addr
  else do
    p.writeAddress addr
    writePort port

end FoloXray.Protocol
