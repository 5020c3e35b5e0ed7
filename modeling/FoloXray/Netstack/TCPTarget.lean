import FoloXray.Netstack.DeclaredLengths
import FoloXray.PacketFlow.Transport
import FoloXray.Routing.Route

/-! # The target of a proxied TCP flow

`proxyTCP` up to its outbound connection: the sniffed name takes the place of the destination when the
flow goes through the instance, and `DialTCP` checks it there for the first time.  What a client writes
as a name need not be one, and then a flow whose destination alone would be dialled is not.
-/

namespace FoloXray.Netstack
open Foundation PacketFlow Routing

/-- What `proxyTCP` does with a flow after its first read. -/
inductive TCPOutbound where
  | blocked
  | direct (destination : Bytes) (port : UInt16)
  | xray (target : Bytes) (port : UInt16)
  deriving DecidableEq, Repr

def proxyTCP (r : Router) (peeked destination : Bytes) (port : UInt16) : TCPOutbound :=
  let sniffedDomain := if peeked.length > 0 then sniffDomain peeked else []
  let action := route r sniffedDomain (parseIP destination) port
  if action = .block then .blocked
  else if action = .direct then .direct destination port
  else
    let target := if sniffedDomain ≠ [] then sniffedDomain else destination
    .xray target port

/-- The outbound connection of a flow, if it is not blocked. -/
def TCPOutbound.dial {ε C : Type} (fail : EndpointError → ε)
    (directDial : Bytes → UInt16 → Except ε C) (inst : Option (Destination → Except ε C)) :
    TCPOutbound → Outcome ε (Option C)
  | .blocked => .ok none
  | .direct destination port =>
    match directDial destination port with
    | .ok conn => .ok (some conn)
    | .error e => .error e
  | .xray target port => do
    let conn ← dialTCP fail inst target port
    pure (some conn)

def hostField (line : Bytes) : Bytes :=
  let host := trimSpace (line.drop 5)
  match index (goString ":") host with
  | some idx => trimSpace (host.take idx)
  | none => trimSpace host

theorem hostName_eq (line : Bytes) : hostName line = toLower (hostField line) := by
  unfold hostName hostField
  dsimp only
  cases index (goString ":") (trimSpace (line.drop 5)) with
  | some idx => rfl
  | none => rfl

/-- The text that stands where a host name belongs in the bytes of the client: the first host name in a
ClientHello, or the value of the first Host line of a request. -/
inductive Written (peeked : Bytes) : Bytes → Prop
  | entry {block ext entry : ℕ} (h : Named peeked block ext entry) :
      Written peeked (entryName peeked entry)
  | field {line : Bytes} (hmethod : methods.any (·.isPrefixOf peeked) = true)
      (h : (split crlf peeked).find? isHostLine = some line) : Written peeked (hostField line)

theorem sniffHTTP_of_hello {peeked : Bytes} {block : ℕ} (h : helloExtensions peeked = some block) :
    sniffHTTP peeked = [] := by
  by_contra hname
  have hnone : helloExtensions peeked = none := by
    simp [helloExtensions, byteAt_of_method (sniffHTTP_ne_nil hname).1]
  rw [hnone] at h
  cases h

theorem Written.sniffDomain_eq {peeked text : Bytes} (h : Written peeked text) :
    sniffDomain peeked = toLower text := by
  cases h with
  | entry h =>
    rw [Netstack.sniffDomain_eq, sniffHTTP_of_hello h.hello, h.sniffTLS_eq]
    split
    · rfl
    · rename_i hempty
      exact (not_not.mp hempty).symm
  | field hmethod h =>
    rw [sniffDomain_of_method hmethod, sniffHTTP_of_find hmethod h, hostName_eq]

theorem exists_written {peeked : Bytes} (h : sniffDomain peeked ≠ []) :
    ∃ text, Written peeked text := by
  rw [sniffDomain_eq] at h
  by_cases htls : sniffTLS peeked = []
  · rw [if_neg (not_not_intro htls)] at h
    rcases sniffHTTP_ne_nil h with ⟨hmethod, line, hfind, -⟩
    exact ⟨_, .field hmethod hfind⟩
  · rcases exists_named htls with ⟨block, ext, entry, hnamed⟩
    exact ⟨_, .entry hnamed⟩

/-- A name that is found is what the client wrote where a host name belongs, in lower case. -/
theorem sniffDomain_eq_iff {peeked name : Bytes} (hname : name ≠ []) :
    sniffDomain peeked = name ↔ ∃ text, Written peeked text ∧ toLower text = name := by
  constructor
  · rintro rfl
    rcases exists_written hname with ⟨text, hwritten⟩
    exact ⟨text, hwritten, hwritten.sniffDomain_eq.symm⟩
  · rintro ⟨text, hwritten, rfl⟩
    exact hwritten.sniffDomain_eq

/-- What the client wrote as a host name is empty, or a host in lower case. -/
def NamesHost (peeked : Bytes) : Prop :=
  ∀ text, Written peeked text → text = [] ∨ HostText (toLower text)

theorem hostText_sniffDomain_iff (peeked : Bytes) :
    sniffDomain peeked = [] ∨ HostText (sniffDomain peeked) ↔ NamesHost peeked := by
  constructor
  · intro h text hwritten
    rwa [hwritten.sniffDomain_eq, toLower_eq_nil_iff] at h
  · intro h
    by_cases hempty : sniffDomain peeked = []
    · exact .inl hempty
    · rcases exists_written hempty with ⟨text, hwritten⟩
      rw [hwritten.sniffDomain_eq, toLower_eq_nil_iff]
      exact h text hwritten

section Target

variable {r : Router} {peeked dest target : Bytes} {port port' : UInt16}

theorem proxyTCP_eq_xray (h : proxyTCP r peeked dest port = .xray target port') :
    port' = port ∧ target = if sniffDomain peeked ≠ [] then sniffDomain peeked else dest := by
  have hsniffed : (if peeked.length > 0 then sniffDomain peeked else []) = sniffDomain peeked := by
    split
    · rfl
    · rename_i hempty
      rw [sniffDomain, if_pos (by omega)]
  unfold proxyTCP at h
  simp only [hsniffed] at h
  split at h
  · cases h
  · split at h
    · cases h
    · cases h
      exact ⟨rfl, rfl⟩

/-- With a destination that is a host, the target is one exactly if the client names none but hosts. -/
theorem target_hostText_iff (hdest : HostText dest)
    (h : proxyTCP r peeked dest port = .xray target port') : HostText target ↔ NamesHost peeked := by
  rw [(proxyTCP_eq_xray h).2, ← hostText_sniffDomain_iff]
  split
  · rename_i hname
    rw [or_iff_right hname]
  · rename_i hname
    exact iff_of_true hdest (.inl (not_not.mp hname))

/-- A proxied flow gets a connection from a dispatcher that never fails exactly if the client names none
but hosts. -/
theorem exists_dial_iff {ε C : Type} {fail : EndpointError → ε}
    {directDial : Bytes → UInt16 → Except ε C} {dispatch : Destination → C} (hport : port ≠ 0)
    (hdest : HostText dest) (h : proxyTCP r peeked dest port = .xray target port') :
    (∃ conn, (proxyTCP r peeked dest port).dial fail directDial (some fun d => .ok (dispatch d)) =
      .ok (some conn)) ↔ NamesHost peeked := by
  rw [← target_hostText_iff hdest h, h, (proxyTCP_eq_xray h).1]
  constructor
  · rintro ⟨conn, hconn⟩
    rcases Outcome.bind_eq_ok_iff.mp hconn with ⟨conn', hdial, -⟩
    rcases dialTCP_eq_ok_iff.mp hdial with ⟨d, hd, -⟩
    exact (exists_destination_iff.mp ⟨d, hd⟩).2
  · intro htarget
    rcases exists_destination_iff.mpr ⟨hport, htarget⟩ with ⟨d, hd⟩
    have hdial : dialTCP fail (some fun d => .ok (dispatch d)) target port = .ok (dispatch d) :=
      dialTCP_eq_ok_iff.mpr ⟨d, hd, rfl⟩
    exact ⟨dispatch d, Outcome.bind_eq_ok_iff.mpr ⟨dispatch d, hdial, rfl⟩⟩

end Target

/-- `SniffDomain` returns what the client wrote where a host name belongs.  `ValidateEndpointAddress` accepts
it, and a proxied flow whose destination it accepts gets a target it accepts, exactly if that is nothing or
a host, as it is whenever the client writes DNS names only. -/
theorem sniffed_target_validates_iff (r : Router) (peeked dest : Bytes) (port : UInt16)
    (hport : port ≠ 0) (hdest : validateEndpointAddress dest = .ok ()) :
    ((sniffDomain peeked = [] ∨ validateEndpointAddress (sniffDomain peeked) = .ok ()) ↔
        NamesHost peeked) ∧
      (∀ target, proxyTCP r peeked dest port = .xray target port →
        ((∃ d, destination target port .tcp = .ok d) ↔ NamesHost peeked)) ∧
      (∀ name, name ≠ [] →
        (sniffDomain peeked = name ↔ ∃ text, Written peeked text ∧ toLower text = name)) ∧
      ((∀ text, Written peeked text → DNSName text) → NamesHost peeked) := by
  refine ⟨?_, ?_, fun _ => sniffDomain_eq_iff, ?_⟩
  · rw [validateEndpointAddress_eq_ok_iff]
    exact hostText_sniffDomain_iff peeked
  · intro target h
    rw [exists_destination_iff, and_iff_right hport]
    exact target_hostText_iff (validateEndpointAddress_eq_ok_iff.mp hdest) h
  · exact fun h text hwritten => .inr (.inr (h text hwritten).toLower)

def globalConfig : Config := ⟨modeGlobal, [], [], [], [], [], []⟩

def namedRequest : Bytes := goString "GET / HTTP/1.1\r\nHost: Example.com:8080\r\n\r\n"

theorem sniffed_target_validates_iff_named :
    proxyTCP (newRouter globalConfig) namedRequest (goString "2001:db8::1") 8080 =
        .xray (goString "example.com") 8080 ∧
      ∃ d, destination (goString "example.com") 8080 .tcp = .ok d := by
  have htarget : proxyTCP (newRouter globalConfig) namedRequest (goString "2001:db8::1") 8080 =
      .xray (goString "example.com") 8080 := by decide +kernel
  refine ⟨htarget, ?_⟩
  have hall := sniffed_target_validates_iff (newRouter globalConfig) namedRequest
    (goString "2001:db8::1") 8080 (by decide) (by decide +kernel)
  exact (hall.2.1 _ htarget).mpr ((hostText_sniffDomain_iff namedRequest).mp (by decide +kernel))

/-- A request to an IPv6 literal, as its Host line has to be written. -/
def literalRequest : Bytes := goString "GET / HTTP/1.1\r\nHost: [2001:db8::1]:8080\r\n\r\n"

/-- The literal is cut at its first colon, and what is left is refused although the destination alone
would be dialled. -/
theorem literal_host_undialable :
    sniffDomain literalRequest = goString "[2001" ∧
      validateEndpointAddress (goString "[2001") = .error .asciiName ∧
      validateEndpointAddress (goString "2001:db8::1") = .ok () ∧
      proxyTCP (newRouter globalConfig) literalRequest (goString "2001:db8::1") 8080 =
        .xray (goString "[2001") 8080 ∧
      destination (goString "[2001") 8080 .tcp = .error .asciiName := by
  decide +kernel

end FoloXray.Netstack
