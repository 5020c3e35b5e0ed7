import FoloXray.Vmess.BodyRoundTrip
import FoloXray.Vmess.HeaderWire
import FoloXray.Vmess.Suite

/-! # A connection of VMess in both directions

The client sends a header and a body, the server answers with a header and a body of its own.  Each side
reads what the other has written, and no response, whoever it comes from, brings the client down.
-/

namespace FoloXray.Vmess

open Foundation Buffers Protocol Decoder
open PacketFlow (Destination destination Network)
open Profile (Address)

variable {υ : Type} {suite : Suite}

def seenCommand (command : Option (UInt8 × Bytes)) : Option CommandSwitchAccount :=
  match command with
  | none => none
  | some (cmdID, data) =>
    if 255 < data.length + 4 then none
    else
      match unmarshalCommand cmdID (numberBytes 4 (fnv1a data).toNat ++ data) with
      | .ok c => some c
      | _ => none

section Safety

theorem unmarshalHost_ne_panicked {data : Bytes} {n : ℕ} (h : n + 1 ≤ data.length) :
    unmarshalHost data n ≠ .panicked := by
  unfold unmarshalHost
  split
  · rw [stringSlice_of_le (by omega) (by omega), Outcome.ok_bind, Profile.parseAddress_eq]
    exact fun hp => by cases hp
  · exact fun hp => by cases hp

/-- Every index and every slice is behind the check of the length that it needs. -/
theorem unmarshalSwitchAccount_ne_panicked (data : Bytes) : unmarshalSwitchAccount data ≠ .panicked := by
  unfold unmarshalSwitchAccount
  rw [Ne, Outcome.failIf_bind_eq_panicked_iff]
  rintro ⟨hzero, h⟩
  rw [stringIndex_getD (by omega), Outcome.ok_bind, Outcome.failIf_bind_eq_panicked_iff] at h
  obtain ⟨hhost, h⟩ := h
  rw [Outcome.bind_eq_panicked_iff] at h
  obtain h | ⟨host, -, h⟩ := h
  · exact unmarshalHost_ne_panicked (by omega) h
  · rw [Outcome.failIf_bind_eq_panicked_iff] at h
    obtain ⟨hport, h⟩ := h
    rw [stringSlice_of_le (by omega) (by omega), Outcome.ok_bind, Outcome.failIf_bind_eq_panicked_iff] at h
    obtain ⟨hid, h⟩ := h
    rw [stringSlice_of_le (by omega) (by omega), Outcome.ok_bind, Outcome.failIf_bind_eq_panicked_iff] at h
    obtain ⟨hlevel, h⟩ := h
    rw [stringIndex_getD (by omega), Outcome.ok_bind, Outcome.failIf_bind_eq_panicked_iff] at h
    obtain ⟨htime, h⟩ := h
    rw [stringIndex_getD (by omega), Outcome.ok_bind] at h
    cases h

theorem unmarshalCommand_ne_panicked (cmdID : UInt8) (data : Bytes) :
    unmarshalCommand cmdID data ≠ .panicked := by
  unfold unmarshalCommand
  rw [Ne, Outcome.failIf_bind_eq_panicked_iff]
  rintro ⟨hlen, h⟩
  rw [stringSlice_of_le (by omega) le_rfl, Outcome.ok_bind, stringSlice_of_le (by omega) (by omega),
    Outcome.ok_bind, Outcome.failIf_bind_eq_panicked_iff] at h
  obtain ⟨-, h⟩ := h
  split at h
  · exact unmarshalSwitchAccount_ne_panicked _ h
  · cases h

theorem readCommand_ne_panicked (cmdID : UInt8) (data : Bytes) : readCommand cmdID data ≠ .panicked := by
  unfold readCommand
  split
  · exact fun h => by cases h
  · exact fun h => by cases h
  · rename_i h
    exact absurd h (unmarshalCommand_ne_panicked cmdID data)

theorem ensures_decodeResponse (session : Session) (s : Intake) :
    Ensures (decodeResponse session) s fun _ _ => True := by
  refine ((ensures_take (by decide) s).mapError _).bind fun b t _ => ?_
  refine (ensures_lift_any Outcome.failIf_ne_panicked t).bind fun _ u _ => ?_
  have hcommand : Ensures (decodeResponseCommand (b.getD 2 0) (b.getD 3 0)) u fun _ _ => True := by
    unfold decodeResponseCommand
    split
    · refine (ensures_clear u).bind fun _ v _ => ?_
      refine ((ensures_fill _ _ v).mapError _).bind fun _ v' _ => ?_
      refine (ensures_content v').bind fun data v'' _ => ?_
      exact ensures_lift_any (readCommand_ne_panicked _ _) v''
    · exact ensures_pure trivial
  exact hcommand.bind fun _ _ _ => ensures_pure trivial

theorem opened_ne_panicked {ε : Type} (e : ε) (text : Option Bytes) : opened e text ≠ .panicked := by
  cases text <;> exact fun h => by cases h

theorem eq_some_of_opened {ε : Type} {e : ε} {text : Option Bytes} {b : Bytes}
    (h : opened e text = .ok b) : text = some b := by
  cases text with
  | none => cases h
  | some t => rw [Outcome.ok.inj h]

theorem ensures_decodeResponseHeader (suite : Suite) (session : Session) (s : Intake) :
    Ensures (decodeResponseHeader suite session) s fun _ _ => True := by
  refine ((ensures_fresh_take 18 18 s).mapError _).bind fun length t hlength => ?_
  have hopen : Ensures (.lift (opened HeaderError.decryptLength
      ((responseAead suite session kdfSaltConstAEADRespHeaderLenKey).decrypt
        (responseNonce suite session kdfSaltConstAEADRespHeaderLenIV) length))) t
      fun b _ => b.length = 2 := by
    refine ensures_lift (opened_ne_panicked _ _) fun b hb => ?_
    have hsize := Aead.length_decrypt _ _ _ _ (eq_some_of_opened hb)
    rw [hlength.1, responseAead, suite.gcm_overhead] at hsize
    omega
  refine hopen.bind fun b u hb => ?_
  have hnumber : (mustUint16 b : Outcome HeaderError _) ≠ .panicked := by
    rw [mustUint16, if_neg (by omega)]
    exact fun h => by cases h
  refine (ensures_lift_any hnumber u).bind fun n v _ => ?_
  refine ((ensures_fresh_take _ _ v).mapError _).bind fun payload v' _ => ?_
  refine (ensures_lift_any (opened_ne_panicked _ _) v').bind fun data v'' _ => ?_
  refine ensures_lift_any (fun hpanic => ?_) v''
  obtain h | ⟨r, -, h⟩ := Outcome.bind_eq_panicked_iff.mp hpanic
  · exact (ensures_decodeResponse session _).ne_panicked h
  · cases h

/-- Whatever a server sends as its response, and in whatever chunks it comes, the client does not panic. -/
theorem decodeResponseHeader_ne_panicked (suite : Suite) (session : Session) (s : Intake) :
    decodeResponseHeader suite session s ≠ .panicked :=
  (ensures_decodeResponseHeader suite session s).ne_panicked

end Safety

section Response

variable {session : Session}

theorem length_responseBuffer_le (session : Session) (option : UInt8) (command : Option (UInt8 × Bytes)) :
    (responseBuffer session option command).length ≤ 259 := by
  unfold responseBuffer marshalCommand
  cases command with
  | none => exact (by decide : 4 ≤ 259)
  | some c =>
    rw [Option.bind_some]
    dsimp only
    split
    · exact (by decide : 4 ≤ 259)
    · rw [Option.getD_some]
      simp only [List.length_cons, List.length_append, length_numberBytes]
      omega

/-- A command is read into a buffer that is cleared for it. -/
theorem accepts_decodeResponseCommand {cmdID dataLen : UInt8} (hid : cmdID ≠ 0) {w : Bytes}
    (hw : w.length = dataLen.toNat) {c : Option CommandSwitchAccount} (hc : readCommand cmdID w = .ok c) :
    Accepts bufSize (decodeResponseCommand cmdID dataLen) w c := by
  intro s rest hbytes hroom
  have hcollects : Collects bufSize (fill bufSize dataLen.toNat) w () := collects_fill hw
  obtain ⟨t, hfill, ht, hbuffer⟩ := hcollects.mapError HeaderError.readCommand ⟨[], s.reader⟩ rest hbytes
    (by rw [List.length_nil]; omega)
  rw [List.nil_append] at hbuffer
  have hclear : (clear : Decoder HeaderError Unit) s = .ok ((), ⟨[], s.reader⟩) := rfl
  have hcontent : (content : Decoder HeaderError Bytes) t = .ok (w, t) := by rw [content, hbuffer]
  refine ⟨t, ?_, ht, ?_⟩
  · rw [decodeResponseCommand, if_pos hid, bind_of_ok hclear, bind_of_ok hfill, bind_of_ok hcontent, lift, hc]
    rfl
  · rw [hbuffer]
    omega

/-- The command of a response is read behind the four bytes in front of it. -/
theorem accepts_command {command : Option (UInt8 × Bytes)} (hid : ∀ c ∈ command, c.1 ≠ 0) :
    ∃ cmdID dataLen w, (command.bind fun c => marshalCommand c.1 c.2).getD [0, 0] = cmdID :: dataLen :: w ∧
      Accepts bufSize (decodeResponseCommand cmdID dataLen) w (seenCommand command) := by
  cases command with
  | none => exact ⟨0, 0, [], rfl, accepts_pure _⟩
  | some c =>
    obtain ⟨cmdID, data⟩ := c
    have hne : cmdID ≠ 0 := hid _ rfl
    unfold seenCommand
    rw [Option.bind_some, marshalCommand]
    dsimp only
    split
    · exact ⟨0, 0, [], rfl, accepts_pure _⟩
    · rename_i hsmall
      refine ⟨cmdID, _, _, rfl, accepts_decodeResponseCommand hne ?_ ?_⟩
      · rw [List.length_append, length_numberBytes, UInt8.toNat_ofNat']
        omega
      · unfold readCommand
        cases hread : unmarshalCommand cmdID (numberBytes 4 (fnv1a data).toNat ++ data) with
        | ok command => rfl
        | error e => rfl
        | panicked => exact absurd hread (unmarshalCommand_ne_panicked _ _)

theorem decodeResponse_wire (option : UInt8) {command : Option (UInt8 × Bytes)}
    (hid : ∀ c ∈ command, c.1 ≠ 0) :
    decodeBytes (decodeResponse session) (responseBuffer session option command) =
      .ok ⟨option, seenCommand command⟩ := by
  have hlength := length_responseBuffer_le session option command
  obtain ⟨cmdID, dataLen, w, hw, hcommand⟩ := accepts_command hid
  have hword : responseBuffer session option command =
      [session.responseHeader, option, cmdID, dataLen] ++ w := by
    rw [responseBuffer, hw]
    rfl
  have haccepts : Accepts bufSize (decodeResponse session) (responseBuffer session option command)
      ⟨option, seenCommand command⟩ := by
    rw [hword]
    refine ((accepts_take rfl four_ne_zero).mapError _).bind ?_
    refine (accepts_lift (Outcome.failIf_of_not (not_not.mpr rfl))).bind_silent ?_
    exact hcommand.bind_pure (accepts_pure _)
  obtain ⟨t, hread, -⟩ := haccepts ⟨[], .ofBytes _⟩ [] (by rw [ByteReader.bytes_ofBytes, List.append_nil])
    (by rw [List.length_nil, bufSize]; omega)
  rw [decodeBytes, hread]
  rfl

/-- A response is read by the client whose session the server answers in. -/
theorem accepts_decodeResponseHeader (suite : Suite) (session : Session) (option : UInt8)
    {command : Option (UInt8 × Bytes)} (hid : ∀ c ∈ command, c.1 ≠ 0) (cap : ℕ) :
    Accepts cap (decodeResponseHeader suite session) (encodeResponseHeader suite session option command)
      ⟨option, seenCommand command⟩ := by
  have hlength := length_responseBuffer_le session option command
  have hnumber : (UInt16.ofNat (responseBuffer session option command).length).toNat =
      (responseBuffer session option command).length := by
    rw [UInt16.toNat_ofNat']
    omega
  unfold decodeResponseHeader encodeResponseHeader
  generalize kdfSaltConstAEADRespHeaderLenKey = k₁
  generalize kdfSaltConstAEADRespHeaderLenIV = i₁
  generalize kdfSaltConstAEADRespHeaderPayloadKey = k₂
  generalize kdfSaltConstAEADRespHeaderPayloadIV = i₂
  dsimp only
  have hsize (key nonce text : Bytes) :
      ((responseAead suite session key).encrypt nonce text).length = text.length + 16 := by
    rw [Aead.length_encrypt, responseAead, suite.gcm_overhead]
  have hopen (e : HeaderError) (key nonce text : Bytes) : opened e ((responseAead suite session key).decrypt
      nonce ((responseAead suite session key).encrypt nonce text)) = .ok text := by
    rw [Aead.decrypt_encrypt]
    rfl
  have hfirst := hsize k₁ (responseNonce suite session i₁)
    (twoBytes (responseBuffer session option command).length)
  have hsecond := hsize k₂ (responseNonce suite session i₂) (responseBuffer session option command)
  refine ((accepts_fresh_take hfirst le_rfl).mapError _).bind ?_
  refine (accepts_lift (hopen _ _ _ _)).bind_silent ?_
  refine (accepts_lift (mustUint16_twoBytes (by omega))).bind_silent ?_
  rw [hnumber]
  refine ((accepts_fresh_take hsecond le_rfl).mapError _).bind_pure ?_
  refine (accepts_lift (hopen _ _ _ _)).bind_silent ?_
  exact accepts_lift (decodeResponse_wire option hid)

end Response

inductive SessionError where
  | header (e : HeaderError)
  | write (e : Body.WriteError)
  | read (e : Body.ReadError)
  /-- A body without a cipher, whose writers and readers are not followed here. -/
  | unauthenticated
  deriving DecidableEq, Repr

section Directions

variable (suite : Suite) (noise : ℕ → ℕ → UInt8)

def signals (option : UInt8) (account : Account) : Bool :=
  has option requestOptionChunkStream && !account.noTerminationSignal

/-- All that is written to a body, with the end behind it if it is signalled. -/
def sendBody (codec : BodyCodec) (signal : Bool) (mbs : List (List Bytes)) : Outcome SessionError Bytes :=
  match codec with
  | .authenticated transferType k => (k.writeAll noise transferType signal Body.start mbs).mapError .write
  | _ => .error .unauthenticated

/-- All that is read from a body, and whether its end has been met. -/
def receiveBody (codec : BodyCodec) (calls : List (List (ℕ × ℕ))) :
    Decoder SessionError (List Bytes × Bool) :=
  match codec with
  | .authenticated _ k => (k.readAll calls Body.reader).mapError .read
  | _ => .fail .unauthenticated

def sendRequest (account : Account) (session : Session) (request : RequestHeader Bytes) (rolls : Rolls)
    (time : ℕ) (mbs : List (List Bytes)) : Outcome SessionError Bytes := do
  let head ← (encodeRequestHeader suite session request rolls time).mapError .header
  let codec ← (encodeRequestBody suite session request).mapError .header
  let body ← sendBody noise codec (signals request.option account) mbs
  pure (head ++ body)

def receiveRequest (server : Server υ) (calls : List (List (ℕ × ℕ))) :
    Decoder SessionError ((RequestHeader υ × Session) × (List Bytes × Bool)) := do
  let r ← (decodeRequestHeader suite server).mapError .header
  let codec ← .lift ((decodeRequestBody suite r.2 r.1).mapError .header)
  let body ← receiveBody codec calls
  pure (r, body)

/-- What the server answers; it has its own accounts of the users. -/
def sendResponse (accounts : υ → Account) (session : Session) (header : RequestHeader υ) (option : UInt8)
    (command : Option (UInt8 × Bytes)) (mbs : List (List Bytes)) : Outcome SessionError Bytes := do
  let codec ← (encodeResponseBody suite session header).mapError .header
  let body ← sendBody noise codec (signals header.option (accounts header.user)) mbs
  pure (encodeResponseHeader suite session option command ++ body)

def receiveResponse (session : Session) (request : RequestHeader Bytes) (calls : List (List (ℕ × ℕ))) :
    Decoder SessionError (ResponseHeader × (List Bytes × Bool)) := do
  let response ← (decodeResponseHeader suite session).mapError .header
  let codec ← .lift ((decodeResponseBody suite session request).mapError .header)
  let body ← receiveBody codec calls
  pure (response, body)

end Directions

theorem has_masking_optionFor (enablePadding : Bool) {account : Account}
    (h : account.security = .aes128GCM ∨ account.security = .chacha20Poly1305) :
    has (optionFor enablePadding account).1 requestOptionChunkMasking = true := by
  have hall : ∀ (e a : Bool) (s : SecurityType), s = .aes128GCM ∨ s = .chacha20Poly1305 →
      has (optionFor e ⟨[], s, a, false⟩).1 requestOptionChunkMasking = true := by
    intro e a s hs
    obtain rfl | rfl := hs <;> revert e a <;> decide
  exact hall enablePadding account.authenticatedLengthExperiment account.security h

/-- With a cipher, and with masked sizes, a body is one of chunks. -/
theorem bodyFor_cipher {υ : Type} (suite : Suite) (key iv lengthKey lengthIV : Bytes)
    {request : RequestHeader υ}
    (hsecurity : request.security = .aes128GCM ∨ request.security = .chacha20Poly1305)
    (hmask : has request.option requestOptionChunkMasking = true) :
    ∃ k, bodyFor suite key iv lengthKey lengthIV request =
      .ok (.authenticated (transferType request.command) k) := by
  unfold bodyFor
  rw [Outcome.failIf_of_not (by rw [hmask]; exact fun h => Bool.noConfusion h.2), Outcome.ok_bind]
  obtain h | h := hsecurity
  · rw [h]
    exact ⟨_, rfl⟩
  · rw [h]
    exact ⟨_, rfl⟩

/-- What may be written to a body: each call writes something, and packets are small enough to fit into a
chunk whatever its cipher and its padding. -/
def Writable (transferType : TransferType) (mbs : List (List Bytes)) : Prop :=
  ∀ mb ∈ mbs, mb.flatten ≠ [] ∧ (transferType = .packet → ∀ b ∈ mb, b.length ≤ 8094)

instance (transferType : TransferType) (mbs : List (List Bytes)) :
    Decidable (Writable transferType mbs) :=
  inferInstanceAs (Decidable (∀ mb ∈ mbs, _ ∧ (_ → _)))

/-- What comes out is what went in: the same bytes, or the same packets without the empty ones. -/
def Delivered (transferType : TransferType) (mbs : List (List Bytes)) (bs : List Bytes) : Prop :=
  match transferType with
  | .stream => bs.flatten = mbs.flatten.flatten
  | .packet => bs = mbs.flatten.filter (· ≠ [])

theorem payloadSize_ge (k : Body) : 8094 ≤ k.payloadSize := by
  have hoverhead := k.aead.overhead_le
  have hsize := k.sizeBytes_le
  have hpadding := k.maxPaddingLen_le
  unfold Body.payloadSize bufSize
  omega

/-- What is written to a body is read from it, wherever the header in front of it ends. -/
theorem authenticated_wire (k : Body) (noise : ℕ → ℕ → UInt8) (signal : Bool) {transferType : TransferType}
    {mbs : List (List Bytes)} (hmbs : Writable transferType mbs) :
    ∃ w, sendBody noise (.authenticated transferType k) signal mbs = .ok w ∧
      ∀ (s : Intake) (rest : Bytes), s.reader.bytes = w ++ rest → (signal = false → rest = []) →
        ∀ calls : List (List (ℕ × ℕ)), mbs.flatten.flatten.length < calls.length →
          ∃ bs t, receiveBody (.authenticated transferType k) calls s = .ok ((bs, true), t) ∧
            Delivered transferType mbs bs := by
  have hbody : ∃ w, k.writeAll noise transferType signal Body.start mbs = .ok w ∧
      ∀ (s : Intake) (rest : Bytes), s.reader.bytes = w ++ rest → (signal = false → rest = []) →
        ∀ calls : List (List (ℕ × ℕ)), mbs.flatten.flatten.length < calls.length →
          ∃ bs t, k.readAll calls Body.reader s = .ok ((bs, true), t) ∧ Delivered transferType mbs bs := by
    cases transferType with
    | stream =>
      obtain ⟨w, hwrite, hread⟩ := Body.stream_arrives k noise signal mbs fun mb hmb => (hmbs mb hmb).1
      refine ⟨w, hwrite, fun s rest hs hrest calls hcalls => ?_⟩
      obtain ⟨bs, t, hall, hbytes, -⟩ := hread s rest hs hrest calls hcalls
      exact ⟨bs, t, hall, hbytes⟩
    | packet =>
      have hfit : ∀ mb ∈ mbs, mb.flatten ≠ [] ∧ ∀ b ∈ mb, b.length ≤ k.payloadSize := fun mb hmb =>
        ⟨(hmbs mb hmb).1, fun b hb => ((hmbs mb hmb).2 rfl b hb).trans (payloadSize_ge k)⟩
      obtain ⟨w, hwrite, hread⟩ := Body.packets_arrive k noise signal mbs hfit
      refine ⟨w, hwrite, fun s rest hs hrest calls hcalls => ?_⟩
      obtain ⟨t, hall⟩ := hread s rest hs hrest calls hcalls
      exact ⟨_, t, hall, rfl⟩
  obtain ⟨w, hwrite, hread⟩ := hbody
  refine ⟨w, ?_, fun s rest hs hrest calls hcalls => ?_⟩
  · rw [sendBody, hwrite]
    rfl
  · obtain ⟨bs, t, hall, hdelivered⟩ := hread s rest hs hrest calls hcalls
    refine ⟨bs, t, ?_, hdelivered⟩
    rw [receiveBody, Decoder.mapError, hall]
    rfl

section Wire

variable {request : RequestHeader Bytes} {session : Session}
variable (hcipher : request.security = .aes128GCM ∨ request.security = .chacha20Poly1305)
  (hmask : has request.option requestOptionChunkMasking = true)

include hcipher hmask

theorem sendRequest_wire (account : Account) (hs : session.Sized) (hsend : request.Sendable) (rolls : Rolls)
    {time : ℕ} (htime : time < 2 ^ 63) {server : Server υ} {user : υ}
    (hadmits : server.Admits suite session request.user user time rolls.random)
    (noise : ℕ → ℕ → UInt8) {mbs : List (List Bytes)} (hmbs : Writable (transferType request.command) mbs) :
    ∃ w, sendRequest suite noise account session request rolls time mbs = .ok w ∧
      ∀ (r : ByteReader) (rest : Bytes), r.bytes = w ++ rest →
        (signals request.option account = false → rest = []) →
          ∀ calls : List (List (ℕ × ℕ)), mbs.flatten.flatten.length < calls.length →
            ∃ bs t, receiveRequest suite server calls ⟨[], r⟩ =
                .ok (((request.seen user, session), (bs, true)), t) ∧
              Delivered (transferType request.command) mbs bs := by
  obtain ⟨head, hencode, hlength, haccepts⟩ := request_wire htime hs hsend rolls hadmits
  obtain ⟨k, hbody⟩ := bodyFor_cipher suite session.requestBodyKey session.requestBodyIV
    session.requestBodyKey session.requestBodyIV hcipher hmask
  obtain ⟨w, hwrite, hread⟩ := authenticated_wire k noise (signals request.option account) hmbs
  have hencodeBody : encodeRequestBody suite session request = .ok _ := hbody
  have hdecodeBody : decodeRequestBody suite session (request.seen user) = .ok _ := hbody
  refine ⟨head ++ w, ?_, fun r rest hr hrest calls hcalls => ?_⟩
  · rw [sendRequest, hencode, hencodeBody]
    simp only [Outcome.mapError, Outcome.ok_bind, hwrite, Outcome.pure_eq_ok]
  · rw [List.append_assoc] at hr
    obtain ⟨t, hhead, ht, -⟩ := haccepts.mapError SessionError.header ⟨[], r⟩ (w ++ rest) hr
      (by rw [List.length_nil, bufSize]; omega)
    obtain ⟨bs, t', hall, hdelivered⟩ := hread t rest ht hrest calls hcalls
    have hcodec : (lift ((decodeRequestBody suite session (request.seen user)).mapError .header) :
        Decoder SessionError BodyCodec) t = .ok (.authenticated (transferType request.command) k, t) := by
      rw [hdecodeBody]
      rfl
    refine ⟨bs, t', ?_, hdelivered⟩
    rw [receiveRequest, bind_of_ok hhead, bind_of_ok hcodec, bind_of_ok hall]
    rfl

theorem sendResponse_wire (accounts : υ → Account) (user : υ) (option : UInt8)
    {command : Option (UInt8 × Bytes)} (hid : ∀ c ∈ command, c.1 ≠ 0) (noise : ℕ → ℕ → UInt8)
    {mbs : List (List Bytes)} (hmbs : Writable (transferType request.command) mbs) :
    ∃ w, sendResponse suite noise accounts session (request.seen user) option command mbs = .ok w ∧
      ∀ (r : ByteReader) (rest : Bytes), r.bytes = w ++ rest →
        (signals request.option (accounts user) = false → rest = []) →
          ∀ calls : List (List (ℕ × ℕ)), mbs.flatten.flatten.length < calls.length →
            ∃ bs t, receiveResponse suite session request calls ⟨[], r⟩ =
                .ok ((⟨option, seenCommand command⟩, (bs, true)), t) ∧
              Delivered (transferType request.command) mbs bs := by
  obtain ⟨k, hbody⟩ := bodyFor_cipher suite (session.responseBodyKey suite) (session.responseBodyIV suite)
    session.requestBodyKey session.requestBodyIV hcipher hmask
  obtain ⟨w, hwrite, hread⟩ := authenticated_wire k noise (signals request.option (accounts user)) hmbs
  have hencodeBody : encodeResponseBody suite session (request.seen user) = .ok _ := hbody
  have hdecodeBody : decodeResponseBody suite session request = .ok _ := hbody
  refine ⟨encodeResponseHeader suite session option command ++ w, ?_, fun r rest hr hrest calls hcalls => ?_⟩
  · have hsignals : signals (request.seen user).option (accounts (request.seen user).user) =
        signals request.option (accounts user) := rfl
    rw [sendResponse, hencodeBody, hsignals]
    simp only [Outcome.mapError, Outcome.ok_bind, hwrite, Outcome.pure_eq_ok]
  · rw [List.append_assoc] at hr
    obtain ⟨t, hhead, ht⟩ := exists_run (s := ⟨[], r⟩)
      (fun cap => (accepts_decodeResponseHeader suite session option hid cap).mapError SessionError.header) hr
    obtain ⟨bs, t', hall, hdelivered⟩ := hread t rest ht hrest calls hcalls
    have hcodec : (lift ((decodeResponseBody suite session request).mapError .header) :
        Decoder SessionError BodyCodec) t = .ok (.authenticated (transferType request.command) k, t) := by
      rw [hdecodeBody]
      rfl
    refine ⟨bs, t', ?_, hdelivered⟩
    rw [receiveResponse, bind_of_ok hhead, bind_of_ok hcodec, bind_of_ok hall]
    rfl

end Wire

/-- A connection for a target that can be dialled, with a cipher, to a server that knows the user.  The
request comes to the server as one of that user for that target, or, if the packets go through a multiplexed
connection, without a target, with all that was written behind it; in the same session the server's response
comes back to the client with all that was written behind it, in whatever chunks the network delivers them.
Without a signal for the end, nothing may follow on the connection. -/
theorem vmess_session (suite : Suite) {address : Bytes} {port : UInt16} {network : Network}
    {target : Destination} (hdest : destination address port network = .ok target)
    {enablePadding cone : Bool} {account : Account}
    (hcipher : account.security = .aes128GCM ∨ account.security = .chacha20Poly1305)
    {request : RequestHeader Bytes} (hrequest : requestFor enablePadding cone account target = .ok request)
    {session : Session} (hs : session.Sized) (rolls : Rolls) {time : ℕ} (htime : time < 2 ^ 63)
    {server : Server υ} {user : υ} (accounts : υ → Account)
    (hadmits : server.Admits suite session account.cmdKey user time rolls.random)
    (noise noise' : ℕ → ℕ → UInt8) {mbs mbs' : List (List Bytes)}
    (hmbs : Writable (transferType request.command) mbs)
    (hmbs' : Writable (transferType request.command) mbs') (option : UInt8)
    {command : Option (UInt8 × Bytes)} (hid : ∀ c ∈ command, c.1 ≠ 0) :
    ∃ header : RequestHeader υ, header.user = user ∧ header.command = request.command ∧
      (header.command = requestCommandMux ↔ Address.ofText address = muxCool ∨
        network = .udp ∧ cone = true ∧ port ≠ 53 ∧ port ≠ 443) ∧
      (header.command ≠ requestCommandMux → header.address = some (.ofText address) ∧ header.port = port) ∧
      (header.command = requestCommandMux → header.address = some muxCool ∧ header.port = 0) ∧
      (∃ w, sendRequest suite noise account session request rolls time mbs = .ok w ∧
        ∀ (r : ByteReader) (rest : Bytes), r.bytes = w ++ rest →
          (signals request.option account = false → rest = []) →
            ∀ calls : List (List (ℕ × ℕ)), mbs.flatten.flatten.length < calls.length →
              ∃ bs t, receiveRequest suite server calls ⟨[], r⟩ =
                  .ok (((header, session), (bs, true)), t) ∧
                Delivered (transferType request.command) mbs bs) ∧
      ∃ w, sendResponse suite noise' accounts session header option command mbs' = .ok w ∧
        ∀ (r : ByteReader) (rest : Bytes), r.bytes = w ++ rest →
          (signals request.option (accounts user) = false → rest = []) →
            ∀ calls : List (List (ℕ × ℕ)), mbs'.flatten.flatten.length < calls.length →
              ∃ bs t, receiveResponse suite session request calls ⟨[], r⟩ =
                  .ok ((⟨option, seenCommand command⟩, (bs, true)), t) ∧
                Delivered (transferType request.command) mbs' bs := by
  have hknown : account.security ≠ .unknown ∧ account.security ≠ .auto ∧ account.security ≠ .zero := by
    obtain h | h := hcipher <;> rw [h] <;> decide
  obtain ⟨hsend, hname, hsec, hoption, hmux, htarget⟩ :=
    requestFor_of_destination (υ := υ) hdest ⟨hknown.1, hknown.2.1⟩ hrequest
  rw [if_neg hknown.2.2] at hsec
  rw [← hsec] at hcipher
  have hmask : has request.option requestOptionChunkMasking = true := by
    rw [hoption]
    exact has_masking_optionFor enablePadding (hsec ▸ hcipher)
  rw [← hname] at hadmits
  exact ⟨request.seen user, rfl, rfl, hmux, htarget user, fun h => ⟨if_pos h, if_pos h⟩,
    sendRequest_wire hcipher hmask account hs hsend rolls htime hadmits noise hmbs,
    sendResponse_wire hcipher hmask accounts user option hid noise' hmbs'⟩

def sampleAccount : Account := ⟨List.replicate 16 7, .aes128GCM, false, true⟩

def sampleSession : Session := ⟨List.replicate 16 1, List.replicate 16 2, 5⟩

def sampleRolls : Rolls := ⟨[9, 9, 9], [1, 2, 3, 4], List.replicate 8 6, by decide, rfl, rfl⟩

def sampleServer : Server Unit := ⟨[(sampleAccount.cmdKey, ())], 1000, fun _ => true, fun _ _ _ => true⟩

/-- The client does not signal the end, the server does. -/
theorem vmess_session_at_a :
    ∃ request, requestFor false true sampleAccount ⟨some (.domain [0x61]), 80, .tcp⟩ = .ok request ∧
      ∃ header : RequestHeader Unit, header.address = some (.ofText [0x61]) ∧
        (∃ w, sendRequest hashSuite (fun _ _ => 0) sampleAccount sampleSession request sampleRolls 1000
            [[[1, 2], [3]]] = .ok w ∧
          ∃ bs t, receiveRequest hashSuite sampleServer (List.replicate 4 []) ⟨[], .ofBytes w⟩ =
              .ok (((header, sampleSession), (bs, true)), t) ∧ bs.flatten = [1, 2, 3]) ∧
        ∃ w, sendResponse hashSuite (fun _ _ => 0)
            (fun _ => { sampleAccount with noTerminationSignal := false })
              sampleSession header 0 none [[[4]]] =
            .ok w ∧
          ∃ bs t, receiveResponse hashSuite sampleSession request (List.replicate 2 [])
              ⟨[], .ofBytes (w ++ [8])⟩ = .ok ((⟨0, none⟩, (bs, true)), t) ∧ bs.flatten = [4] := by
  have hhost : HostText [0x61] := by decide
  have hdest : destination [0x61] 80 .tcp = .ok ⟨some (.ofText [0x61]), 80, .tcp⟩ :=
    PacketFlow.destination_of_hostText hhost (by decide) .tcp
  have hadmits : sampleServer.Admits hashSuite sampleSession sampleAccount.cmdKey () 1000
      sampleRolls.random :=
    ⟨List.mem_singleton_self _, fun d hd _ => List.mem_singleton.mp hd, by decide, rfl, rfl⟩
  have hrequest : requestFor false true sampleAccount ⟨some (.ofText [0x61]), 80, .tcp⟩ =
      .ok ⟨1, sampleAccount.cmdKey, requestCommandTCP, 0x0d, .aes128GCM, some (.ofText [0x61]), 80⟩ := by
    decide +kernel
  have hmbs : Writable .stream [[[1, 2], [3]]] := by decide
  have hmbs' : Writable .stream [[[4]]] := by decide
  have hid : ∀ c ∈ (none : Option (UInt8 × Bytes)), c.1 ≠ 0 := by decide
  obtain ⟨header, -, hcommand, -, htarget, -, ⟨w, hsend, hreceive⟩, w', hsend', hreceive'⟩ :=
    vmess_session hashSuite hdest (.inl rfl) hrequest (show sampleSession.Sized from ⟨rfl, rfl⟩) sampleRolls
      (by decide) (fun _ => { sampleAccount with noTerminationSignal := false }) hadmits (fun _ _ => 0)
      (fun _ _ => 0) hmbs hmbs' 0 hid
  obtain ⟨bs, t, hread, hbytes⟩ := hreceive (.ofBytes w) [] (by simp) (fun _ => rfl) (List.replicate 4 [])
    (by decide)
  obtain ⟨bs', t', hread', hbytes'⟩ := hreceive' (.ofBytes (w' ++ [8])) [8] (by simp)
    (fun h => absurd h (by decide)) (List.replicate 2 []) (by decide)
  refine ⟨_, hrequest, header, (htarget (by rw [hcommand]; decide)).1, ⟨w, hsend, bs, t, hread, hbytes⟩, w',
    hsend', bs', t', hread', hbytes'⟩

end FoloXray.Vmess
