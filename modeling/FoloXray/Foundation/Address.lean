import FoloXray.Foundation.Text

/-! # Internet addresses

Textual IPv4 and IPv6 addresses, address blocks, and the usual address classes.  An address is its
four or sixteen bytes; `none` is the absent address.
-/

namespace FoloXray.Foundation

/-- A parsed address, before it is widened to sixteen bytes. -/
inductive Addr where
  | v4 (bytes : Bytes)
  | v6 (bytes : Bytes)
  deriving DecidableEq, Repr

/-- The twelve bytes in front of an IPv4 address in its sixteen-byte form. -/
def v4InV6Prefix : Bytes := [0, 0, 0, 0, 0, 0, 0, 0, 0, 0, 0xff, 0xff]

def Addr.bitLen : Addr → ℕ
  | .v4 _ => 32
  | .v6 _ => 128

def Addr.as16 : Addr → Bytes
  | .v4 bytes => v4InV6Prefix ++ bytes
  | .v6 bytes => bytes

def dot : UInt8 := 0x2e
def colon : UInt8 := 0x3a
def percent : UInt8 := 0x25
def slash : UInt8 := 0x2f

def decimalDigit (c : UInt8) : Option ℕ :=
  if 0x30 ≤ c.toNat ∧ c.toNat ≤ 0x39 then some (c.toNat - 0x30) else none

def hexDigit (c : UInt8) : Option ℕ :=
  if 0x30 ≤ c.toNat ∧ c.toNat ≤ 0x39 then some (c.toNat - 0x30)
  else if 0x61 ≤ c.toNat ∧ c.toNat ≤ 0x66 then some (c.toNat - 0x61 + 10)
  else if 0x41 ≤ c.toNat ∧ c.toNat ≤ 0x46 then some (c.toNat - 0x41 + 10)
  else none

/-- The decimal fields of an IPv4 address: `fields` are the finished ones, `val` and `digLen` the
value and length of the current one. -/
def parseIPv4Fields : Bytes → (val digLen : ℕ) → (fields : Bytes) → Option Bytes
  | [], val, digLen, fields =>
    if fields.length < 3 ∨ digLen = 0 then none else some (fields ++ [UInt8.ofNat val])
  | c :: rest, val, digLen, fields =>
    match decimalDigit c with
    | some d =>
      if digLen = 1 ∧ val = 0 then none
      else if 255 < val * 10 + d then none
      else parseIPv4Fields rest (val * 10 + d) (digLen + 1) fields
    | none =>
      if c = dot then
        if digLen = 0 ∨ fields.length = 3 then none
        else parseIPv4Fields rest 0 0 (fields ++ [UInt8.ofNat val])
      else none

def parseIPv4 (s : Bytes) : Option Bytes := parseIPv4Fields s 0 0 []

/-- The leading hexadecimal digits of a group: their value, their number, and what follows.  More
than four digits are refused. -/
def hexGroup : Bytes → (acc off : ℕ) → Option (ℕ × ℕ × Bytes)
  | [], acc, off => some (acc, off, [])
  | c :: rest, acc, off =>
    match hexDigit c with
    | some d => if 3 < off then none else hexGroup rest (acc * 16 + d) (off + 1)
    | none => some (acc, off, c :: rest)

/-- The groups of an IPv6 address: `ip` holds the bytes read so far and `ellipsis` the position of
the `::`.  The result is the bytes, the position and the unread rest; `fuel` bounds the groups. -/
def ipv6Groups : (fuel : ℕ) → (s ip : Bytes) → (ellipsis : Option ℕ) →
    Option (Bytes × Option ℕ × Bytes)
  | 0, s, ip, ellipsis => some (ip, ellipsis, s)
  | fuel + 1, s, ip, ellipsis => do
    let (acc, off, rest) ← hexGroup s 0 0
    if off = 0 then none
    else if rest.head? = some dot then
      if ellipsis = none ∧ ip.length ≠ 12 then none
      else if 16 < ip.length + 4 then none
      else
        let fields ← parseIPv4 s
        some (ip ++ fields, ellipsis, [])
    else
      let ip := ip ++ [UInt8.ofNat (acc / 256), UInt8.ofNat (acc % 256)]
      match rest with
      | [] => some (ip, ellipsis, [])
      | c :: more =>
        if c ≠ colon then none
        else
          match more with
          | [] => none
          | c' :: more' =>
            if c' = colon then
              if ellipsis ≠ none then none
              else if more' = [] then some (ip, some ip.length, [])
              else ipv6Groups fuel more' ip (some ip.length)
            else ipv6Groups fuel more ip ellipsis

def parseIPv6 (s : Bytes) : Option Bytes := do
  let leading := [colon, colon].isPrefixOf s
  if leading ∧ s.length = 2 then some (List.replicate 16 0)
  else
    let (ip, ellipsis, rest) ←
      ipv6Groups 8 (if leading then s.drop 2 else s) [] (if leading then some 0 else none)
    if rest ≠ [] then none
    else if ip.length < 16 then
      let position ← ellipsis
      some (ip.take position ++ List.replicate (16 - ip.length) 0 ++ ip.drop position)
    else if ellipsis ≠ none then none
    else some ip

/-- An address in text form; the first of `.`, `:` and `%` decides the family.  Addresses with a
zone are refused here, as every use of this function refuses them. -/
def parseAddr (s : Bytes) : Option Addr :=
  match s.find? fun c => c = dot ∨ c = colon ∨ c = percent with
  | none => none
  | some c =>
    if c = dot then (parseIPv4 s).map .v4
    else if c = colon then if percent ∈ s then none else (parseIPv6 s).map .v6
    else none

def parseIP (s : Bytes) : Option Bytes := (parseAddr s).map Addr.as16

theorem parseIPv4Fields_length {s fields ip : Bytes} {val digLen : ℕ}
    (h : parseIPv4Fields s val digLen fields = some ip) (hf : fields.length ≤ 3) :
    ip.length = 4 := by
  fun_induction parseIPv4Fields s val digLen fields with
  | case1 => cases h
  | case2 val digLen fields hok =>
    cases h
    rw [List.length_append, List.length_singleton]
    omega
  | case5 val digLen fields c rest d hd h1 h2 ih => exact ih h hf
  | case7 val digLen fields rest hd hok ih =>
    refine ih h ?_
    rw [List.length_append, List.length_singleton]
    omega
  | _ => cases h

theorem parseIPv4_length {s ip : Bytes} (h : parseIPv4 s = some ip) : ip.length = 4 :=
  parseIPv4Fields_length h (Nat.zero_le 3)

/-- What one round of the loop over the groups does: it reads an IPv4 address at the end, or one
group that is the last, or one that a colon or the `::` separates from what follows. -/
inductive GroupRound (fuel : ℕ) (s ip : Bytes) (ellipsis : Option ℕ) :
    Bytes × Option ℕ × Bytes → Prop
  | embedded {fields : Bytes} (hroom : ip.length + 4 ≤ 16) (hfields : parseIPv4 s = some fields) :
    GroupRound fuel s ip ellipsis (ip ++ fields, ellipsis, [])
  | last {acc off : ℕ} (hgroup : hexGroup s 0 0 = some (acc, off, [])) {x y : UInt8} :
    GroupRound fuel s ip ellipsis (ip ++ [x, y], ellipsis, [])
  | trailing {acc off : ℕ} (hgroup : hexGroup s 0 0 = some (acc, off, [colon, colon]))
    {x y : UInt8} : GroupRound fuel s ip ellipsis (ip ++ [x, y], some (ip ++ [x, y]).length, [])
  | next {acc off : ℕ} {separator more : Bytes} {ellipsis' : Option ℕ} {x y : UInt8}
    {result : Bytes × Option ℕ × Bytes} (hseparator : separator = [colon] ∨ separator = [colon, colon])
    (hgroup : hexGroup s 0 0 = some (acc, off, separator ++ more))
    (hmore : ipv6Groups fuel more (ip ++ [x, y]) ellipsis' = some result) :
    GroupRound fuel s ip ellipsis result

theorem groupRound_of_ipv6Groups {fuel : ℕ} {s ip : Bytes} {ellipsis : Option ℕ}
    {result : Bytes × Option ℕ × Bytes} (h : ipv6Groups (fuel + 1) s ip ellipsis = some result) :
    GroupRound fuel s ip ellipsis result := by
  simp only [ipv6Groups, Option.bind_eq_bind, Option.bind_eq_some_iff] at h
  obtain ⟨⟨acc, off, tail⟩, hgroup, h⟩ := h
  dsimp only at h
  split at h
  · cases h
  · split at h
    · split at h
      · cases h
      · split at h
        · cases h
        · obtain ⟨fields, hfields, h⟩ := Option.bind_eq_some_iff.mp h
          cases h
          exact .embedded (by omega) hfields
    · cases tail with
      | nil =>
        cases h
        exact .last hgroup
      | cons c more =>
        dsimp only at h
        split at h
        · cases h
        · rename_i hc
          obtain rfl : c = colon := not_not.mp hc
          cases more with
          | nil => cases h
          | cons c' more' =>
            dsimp only at h
            split at h
            · rename_i hc'
              obtain rfl : c' = colon := hc'
              split at h
              · cases h
              · split at h
                · rename_i hempty
                  subst hempty
                  cases h
                  exact .trailing hgroup
                · exact .next (.inr rfl) hgroup h
            · exact .next (.inl rfl) hgroup h

theorem ipv6Groups_length {fuel : ℕ} {s ip ip' rest : Bytes} {ellipsis ellipsis' : Option ℕ}
    (h : ipv6Groups fuel s ip ellipsis = some (ip', ellipsis', rest))
    (hf : ip.length + 2 * fuel ≤ 16) : ip'.length ≤ 16 := by
  induction fuel generalizing s ip ellipsis with
  | zero => cases h; omega
  | succ fuel ih =>
    have hlong : ∀ x y : UInt8, (ip ++ [x, y]).length = ip.length + 2 := fun x y => by simp
    cases groupRound_of_ipv6Groups h with
    | embedded hroom hfields =>
      rw [List.length_append, parseIPv4_length hfields]
      exact hroom
    | last =>
      rw [hlong]
      omega
    | trailing =>
      rw [hlong]
      omega
    | next hseparator hgroup hmore =>
      apply ih hmore
      rw [hlong]
      omega

theorem parseIPv6_length {s ip : Bytes} (h : parseIPv6 s = some ip) : ip.length = 16 := by
  dsimp only [parseIPv6] at h
  split at h
  · cases h
    exact List.length_replicate
  · simp only [Option.bind_eq_bind, Option.bind_eq_some_iff] at h
    obtain ⟨⟨ip', ellipsis, rest⟩, hgroups, h⟩ := h
    have hle := ipv6Groups_length hgroups (Nat.le_refl 16)
    dsimp only at h
    split at h
    · cases h
    · split at h
      · obtain ⟨position, -, h⟩ := Option.bind_eq_some_iff.mp h
        cases h
        simp only [List.length_append, List.length_take, List.length_drop, List.length_replicate]
        omega
      · split at h
        · cases h
        · cases h
          omega

theorem parseIP_length {s ip : Bytes} (h : parseIP s = some ip) : ip.length = 16 := by
  obtain ⟨addr, haddr, rfl⟩ := Option.map_eq_some_iff.mp h
  unfold parseAddr at haddr
  split at haddr
  · cases haddr
  · split at haddr
    · obtain ⟨fields, hfields, rfl⟩ := Option.map_eq_some_iff.mp haddr
      simp [Addr.as16, v4InV6Prefix, parseIPv4_length hfields]
    · split at haddr
      · split at haddr
        · cases haddr
        · obtain ⟨bytes, hbytes, rfl⟩ := Option.map_eq_some_iff.mp haddr
          exact parseIPv6_length hbytes
      · cases haddr

def to4 (ip : Bytes) : Option Bytes :=
  if ip.length = 4 then some ip
  else if ip.length = 16 ∧ ip.take 12 = v4InV6Prefix then some (ip.drop 12)
  else none

/-- The mask of `ones` set bits followed by `bits - ones` clear ones. -/
def cidrMask (ones bits : ℕ) : Bytes :=
  (List.range (bits / 8)).map fun i => UInt8.ofNat (256 - 2 ^ (8 - min 8 (ones - 8 * i)))

structure IPNet where
  ip : Bytes
  mask : Bytes
  deriving DecidableEq, Repr

/-- The address with the bits outside the mask cleared, in the shorter of the two forms; `none`
when the lengths do not fit. -/
def maskIP (ip mask : Bytes) : Option Bytes :=
  let mask := if mask.length = 16 ∧ ip.length = 4 ∧ mask.take 12 = List.replicate 12 0xff
    then mask.drop 12 else mask
  let ip := if mask.length = 4 ∧ ip.length = 16 ∧ ip.take 12 = v4InV6Prefix then ip.drop 12 else ip
  if ip.length ≠ mask.length then none else some (List.zipWith (· &&& ·) ip mask)

/-- A decimal number below `0xffffff` that fills the whole string. -/
def decimal : Bytes → (n digits : ℕ) → Option ℕ
  | [], n, digits => if digits = 0 then none else some n
  | c :: rest, n, digits =>
    match decimalDigit c with
    | some d => if 0xffffff ≤ n * 10 + d then none else decimal rest (n * 10 + d) (digits + 1)
    | none => none

def parseCIDR (s : Bytes) : Option IPNet := do
  let addr := s.takeWhile (· ≠ slash)
  let mask ← (s.dropWhile (· ≠ slash)).tail?
  let ipAddr ← parseAddr addr
  let n ← decimal mask 0 0
  if ipAddr.bitLen < n then none
  else
    let m := cidrMask n ipAddr.bitLen
    let ip ← maskIP ipAddr.as16 m
    some ⟨ip, m⟩

def networkNumberAndMask (n : IPNet) : Option (Bytes × Bytes) := do
  let ip ← (to4 n.ip).orElse fun _ => if n.ip.length = 16 then some n.ip else none
  if n.mask.length = 4 then if ip.length = 4 then some (ip, n.mask) else none
  else if n.mask.length = 16 then some (ip, if ip.length = 4 then n.mask.drop 12 else n.mask)
  else none

def IPNet.contains (n : IPNet) (ip : Bytes) : Bool :=
  let x := (to4 ip).getD ip
  match networkNumberAndMask n with
  | some (number, mask) =>
    x.length == number.length && List.zipWith (· &&& ·) number mask == List.zipWith (· &&& ·) x mask
  | none => x == []

/-- The digits of a number in the given base, without leading zeros. -/
def digits (base n : ℕ) : Bytes := (Nat.toDigits base n).map fun c => UInt8.ofNat c.toNat

def hexString (bytes : Bytes) : Bytes :=
  bytes.flatMap fun b => digits 16 (b.toNat / 16) ++ digits 16 (b.toNat % 16)

def ipv4String (ip : Bytes) : Bytes :=
  List.intercalate [dot] (ip.map fun b => digits 10 b.toNat)

def groups : Bytes → List ℕ
  | hi :: lo :: rest => (hi.toNat * 256 + lo.toNat) :: groups rest
  | _ => []

/-- Start and length of the first longest run of at least two zero groups; length `0` if none. -/
def zeroRun (gs : List ℕ) : ℕ × ℕ :=
  (List.range gs.length).foldl
    (fun best i =>
      let l := ((gs.drop i).takeWhile (· = 0)).length
      if 2 ≤ l ∧ best.2 < l then (i, l) else best)
    (0, 0)

/-- Hexadecimal groups with the longest run of zeros written as `::`. -/
def ipv6String (ip : Bytes) : Bytes :=
  let gs := groups ip
  let run := zeroRun gs
  let text := fun gs : List ℕ => List.intercalate [colon] (gs.map (digits 16))
  if run.2 = 0 then text gs
  else text (gs.take run.1) ++ [colon, colon] ++ text (gs.drop (run.1 + run.2))

/-- The text of an address; IPv4 addresses in sixteen-byte form are written as IPv4. -/
def ipString (ip : Bytes) : Bytes :=
  if ip = [] then goString "<nil>"
  else if ip.length ≠ 4 ∧ ip.length ≠ 16 then goString "?" ++ hexString ip
  else
    match to4 ip with
    | some ip4 => ipv4String ip4
    | none => ipv6String ip

/-- A host and a port; a host with a colon is bracketed. -/
def joinHostPort (host port : Bytes) : Bytes :=
  if colon ∈ host then goString "[" ++ host ++ goString "]:" ++ port
  else host ++ [colon] ++ port

def octet (ip : Bytes) (i : ℕ) : ℕ := (ip.getD i 0).toNat

def isUnspecified (ip : Bytes) : Bool :=
  to4 ip == some [0, 0, 0, 0] || ip == List.replicate 16 0

def isLoopback (ip : Bytes) : Bool :=
  match to4 ip with
  | some ip4 => octet ip4 0 == 127
  | none => ip == List.replicate 15 0 ++ [1]

def isPrivate (ip : Bytes) : Bool :=
  match to4 ip with
  | some ip4 =>
    octet ip4 0 == 10 || (octet ip4 0 == 172 && octet ip4 1 &&& 0xf0 == 16) ||
      (octet ip4 0 == 192 && octet ip4 1 == 168)
  | none => ip.length == 16 && octet ip 0 &&& 0xfe == 0xfc

def isLinkLocalMulticast (ip : Bytes) : Bool :=
  match to4 ip with
  | some ip4 => octet ip4 0 == 224 && octet ip4 1 == 0 && octet ip4 2 == 0
  | none => ip.length == 16 && octet ip 0 == 0xff && octet ip 1 &&& 0x0f == 0x02

def isLinkLocalUnicast (ip : Bytes) : Bool :=
  match to4 ip with
  | some ip4 => octet ip4 0 == 169 && octet ip4 1 == 254
  | none => ip.length == 16 && octet ip 0 == 0xfe && octet ip 1 &&& 0xc0 == 0x80

end FoloXray.Foundation
