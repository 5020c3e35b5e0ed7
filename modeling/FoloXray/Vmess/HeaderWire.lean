import Mathlib.Data.List.GetD
import FoloXray.PacketFlow.Destination
import FoloXray.Vmess.Header

/-! # A request and its response arrive as they were sent

A server that knows the key of the user unseals the request, agrees with the client on the keys, the
options and the cipher of both bodies, and reads nothing of what follows.  Its response is taken only by
the client that the request came from.
-/

namespace FoloXray.Vmess

open Foundation Buffers Protocol Decoder Encoder
open PacketFlow (Destination destination Network)
open Profile (Address)

variable {υ : Type} {suite : Suite}

structure RequestHeader.Sendable (request : RequestHeader Bytes) : Prop where
  version : request.version = Vmess.version
  security : request.security ≠ .unknown ∧ request.security ≠ .auto
  target : request.command = requestCommandMux ∨
    (request.command = requestCommandTCP ∨ request.command = requestCommandUDP) ∧
      ∃ a, request.address = some a ∧ Portable a

/-- The request as the other side sees it, for the user that it finds. -/
def RequestHeader.seen (request : RequestHeader Bytes) (user : υ) : RequestHeader υ :=
  ⟨request.version, user, request.command, request.option, request.security,
    if request.command = requestCommandMux then some muxCool else request.address,
    if request.command = requestCommandMux then 0 else request.port⟩

structure Session.Sized (session : Session) : Prop where
  key : session.requestBodyKey.length = 16
  iv : session.requestBodyIV.length = 16

def fixedWord (session : Session) (request : RequestHeader Bytes) (rolls : Rolls) : Bytes :=
  version :: (session.requestBodyIV ++ (session.requestBodyKey ++
    [session.responseHeader, request.option, securityByte rolls.padding request.security, 0,
      request.command]))

def targetWord (request : RequestHeader Bytes) : Bytes :=
  if request.command = requestCommandMux then []
  else addrParser.word (request.address.getD muxCool) request.port

def frontWord (session : Session) (request : RequestHeader Bytes) (rolls : Rolls) : Bytes :=
  fixedWord session request rolls ++ (targetWord request ++ rolls.padding)

def checksum (b : Bytes) : Bytes := numberBytes 4 (fnv1a b).toNat

variable {request : RequestHeader Bytes} {session : Session} {rolls : Rolls}

theorem length_targetWord_le (h : request.Sendable) : (targetWord request).length ≤ 259 := by
  unfold targetWord
  split
  · decide
  · rename_i hmux
    obtain ⟨-, a, haddress, ha⟩ := h.target.resolve_left hmux
    rw [haddress]
    exact addrParser.length_word_le ha _

theorem length_fixedWord (hs : session.Sized) : (fixedWord session request rolls).length = 38 := by
  simp only [fixedWord, List.length_cons, List.length_append, hs.key, hs.iv, List.length_nil]

theorem length_frontWord_le (rolls : Rolls) (hs : session.Sized) (h : request.Sendable) :
    (frontWord session request rolls).length ≤ 312 := by
  have htarget := length_targetWord_le h
  have hpadding := rolls.padding_lt
  rw [frontWord, List.length_append, List.length_append, length_fixedWord hs]
  omega

theorem emits_encodeTarget (h : request.Sendable) :
    Emits bufSize (encodeTarget request) (targetWord request) := by
  unfold encodeTarget targetWord
  by_cases hmux : request.command = requestCommandMux
  · rw [if_pos hmux, if_pos hmux]
    exact emits_nil
  · obtain ⟨-, a, haddress, ha⟩ := h.target.resolve_left hmux
    rw [if_neg hmux, if_neg hmux, haddress]
    exact (emits_writeAddressPort (by decide) ha _).mapError _

theorem emits_requestFront (session : Session) (rolls : Rolls) (h : request.Sendable) :
    Emits bufSize (requestFront session request rolls) (frontWord session request rolls) := by
  have hchain := (emits_putByte version).must.seq ((emits_put session.requestBodyIV).seq
    ((emits_put session.requestBodyKey).seq ((emits_putByte session.responseHeader).must.seq
      ((emits_putByte request.option).must.seq
        ((emits_put [securityByte rolls.padding request.security, 0, request.command]).seq
          ((emits_encodeTarget h).seq (emits_extend rolls.padding)))))))
  simp only [frontWord, fixedWord, List.cons_append, List.append_assoc, List.nil_append] at hchain ⊢
  exact hchain

theorem requestBuffer_eq (rolls : Rolls) (hs : session.Sized) (h : request.Sendable) :
    requestBuffer session request rolls [] =
      (.ok (), frontWord session request rolls ++ checksum (frontWord session request rolls)) := by
  have hlength := length_frontWord_le rolls hs h
  have hfront := emits_requestFront session rolls h [] (by rw [List.length_nil, bufSize]; omega)
  rw [requestBuffer, Encoder.bind_of_ok hfront, List.nil_append]
  exact emits_extend _ _ (by rw [length_numberBytes, bufSize]; omega)

theorem securityByte_halves {padding : Bytes} (h : padding.length < 16) {s : SecurityType}
    (hs : s ≠ .unknown) :
    (securityByte padding s >>> 4).toNat = padding.length ∧
      parseSecurityType (securityByte padding s &&& 0x0f) = s := by
  unfold securityByte
  generalize padding.length = n at h
  interval_cases n <;> cases s <;> first | exact absurd rfl hs | decide

theorem decodeFixed_fixedWord (hs : session.Sized) (h : request.Sendable) (rolls : Rolls) (user : υ) :
    decodeFixed user (fixedWord session request rolls) =
      (⟨request.version, user, request.command, request.option, request.security, none, 0⟩, session) := by
  have hbehind (i : ℕ) : (fixedWord session request rolls).getD (i + 33) 0 =
      [session.responseHeader, request.option, securityByte rolls.padding request.security, 0,
        request.command].getD i 0 := by
    rw [fixedWord, List.getD_cons_succ, List.getD_append_right _ _ _ _ (by rw [hs.iv]; omega),
      List.getD_append_right _ _ _ _ (by rw [hs.key, hs.iv]; omega), hs.iv, hs.key]
    congr 1
  have hkey : ((fixedWord session request rolls).drop 17).take 16 = session.requestBodyKey := by
    rw [fixedWord, List.drop_succ_cons, List.drop_left' hs.iv, List.take_left' hs.key]
  have hiv : ((fixedWord session request rolls).drop 1).take 16 = session.requestBodyIV := by
    rw [fixedWord, List.drop_succ_cons, List.drop_zero, List.take_left' hs.iv]
  have hsecurity := (securityByte_halves rolls.padding_lt h.security.1).2
  unfold decodeFixed
  rw [hkey, hiv, hbehind 4, hbehind 1, hbehind 2, hbehind 0, h.version]
  simp only [fixedWord, List.getD_cons_zero, List.getD_cons_succ, hsecurity]

theorem collects_decodeTarget (h : request.Sendable) (user : υ) :
    Collects bufSize (decodeTarget request.command) (targetWord request)
      ((request.seen user).address, (request.seen user).port) := by
  unfold decodeTarget targetWord RequestHeader.seen
  by_cases hmux : request.command = requestCommandMux
  · simp only [if_pos hmux]
    exact collects_pure _
  · obtain ⟨hcommand, a, haddress, ha⟩ := h.target.resolve_left hmux
    simp only [if_neg hmux, if_pos hcommand, haddress, Option.getD_some]
    exact (collects_readAddressPort (by decide) ha _).mapError _

theorem RequestHeader.seen_address_ne_none (h : request.Sendable) (user : υ) :
    (request.seen user).address ≠ none := by
  unfold RequestHeader.seen
  dsimp only
  split
  · exact Option.some_ne_none _
  · rename_i hmux
    obtain ⟨-, a, haddress, -⟩ := h.target.resolve_left hmux
    rw [haddress]
    exact Option.some_ne_none _

theorem checkRequest_checksum (h : request.Sendable) (user : υ) (front : Bytes) :
    checkRequest (front ++ checksum front) (request.seen user) = .ok () := by
  have hfour : (checksum front).length = 4 := length_numberBytes _ _
  have hlength : (front ++ checksum front).length - 4 = front.length := by
    rw [List.length_append]
    omega
  have hvalue : bytesNumber (checksum front) = (fnv1a front).toNat :=
    bytesNumber_numberBytes (fnv1a front).toNat_lt
  unfold checkRequest
  rw [hlength, List.take_left, List.drop_left, hvalue, Outcome.failIf_of_not (not_not.mpr rfl),
    Outcome.ok_bind, Outcome.failIf_of_not (RequestHeader.seen_address_ne_none h user), Outcome.ok_bind]
  exact Outcome.failIf_of_not (not_or.mpr h.security)

theorem getD_fixedWord_security (hs : session.Sized) (request : RequestHeader Bytes) (rolls : Rolls) :
    (fixedWord session request rolls).getD 35 0 = securityByte rolls.padding request.security := by
  rw [fixedWord, List.getD_cons_succ, List.getD_append_right _ _ _ _ (by rw [hs.iv]; omega),
    List.getD_append_right _ _ _ _ (by rw [hs.key, hs.iv]; omega), hs.iv, hs.key]
  rfl

theorem collects_readRequest {server : Server υ} {user : υ} (rolls : Rolls) (hs : session.Sized)
    (h : request.Sendable)
    (hnew : server.addIfNotExists user session.requestBodyKey session.requestBodyIV = true) {w : Bytes}
    (hw : w.length = 4) :
    Collects bufSize (readRequest server user) (frontWord session request rolls ++ w)
      (request.seen user, session) := by
  have hpadding := (securityByte_halves rolls.padding_lt h.security.1).1
  have hunseen : ¬ server.addIfNotExists user session.requestBodyKey session.requestBodyIV = false := by
    rw [hnew]
    exact Bool.noConfusion
  rw [frontWord, List.append_assoc, List.append_assoc]
  refine ((collects_take (length_fixedWord hs) (by decide)).mapError _).bind ?_
  rw [decodeFixed_fixedWord hs h rolls user, getD_fixedWord_security hs, hpadding]
  refine (collects_lift (Outcome.failIf_of_not hunseen)).bind ((collects_decodeTarget h user).bind ?_)
  refine ((collects_fill rfl).mapError _).bind ?_
  exact ((collects_fill hw).mapError _).bind_pure (collects_pure _)

theorem decodeRequest_wire {server : Server υ} {user : υ} (rolls : Rolls) (hs : session.Sized)
    (h : request.Sendable)
    (hnew : server.addIfNotExists user session.requestBodyKey session.requestBodyIV = true) :
    decodeBytes (decodeRequest server user)
        (frontWord session request rolls ++ checksum (frontWord session request rolls)) =
      .ok (request.seen user, session) := by
  have hlength := length_frontWord_le rolls hs h
  have hfour : (checksum (frontWord session request rolls)).length = 4 := length_numberBytes _ _
  obtain ⟨t, hread, -, hbuffer⟩ := collects_readRequest rolls hs h hnew hfour ⟨[], .ofBytes _⟩ []
    (by rw [ByteReader.bytes_ofBytes, List.append_nil])
    (by rw [List.length_append, List.length_nil, bufSize]; omega)
  have hcontent : (Decoder.content : Decoder HeaderError Bytes) t =
      .ok (frontWord session request rolls ++ checksum (frontWord session request rolls), t) := by
    rw [content, hbuffer, List.nil_append]
  rw [decodeBytes, decodeRequest, bind_of_ok hread, bind_of_ok hcontent, checkRequest_checksum h user]
  rfl

theorem mustUint16_twoBytes {ε : Type} {n : ℕ} (h : n < 65536) :
    (mustUint16 (twoBytes n) : Outcome ε UInt16) = .ok (UInt16.ofNat n) := by
  have hvalue := twoBytes_value h
  have htwo : ¬ (twoBytes n).length < 2 := Nat.lt_irrefl 2
  rw [mustUint16, if_neg htwo, Body.uint16]
  simp only [twoBytes, List.getD_cons_zero, List.getD_cons_succ]
  rw [hvalue]

/-- A part of a header that has been sealed under keys made with the salts. -/
def sealedPart (suite : Suite) (key authID nonce keySalt ivSalt text : Bytes) : Bytes :=
  (headerAead suite key authID nonce keySalt).encrypt (kdfNonce suite key [ivSalt, authID, nonce]) text

section Sealed

variable (suite : Suite) (key authID nonce keySalt ivSalt text : Bytes)

theorem length_sealedPart :
    (sealedPart suite key authID nonce keySalt ivSalt text).length = text.length + 16 := by
  rw [sealedPart, Aead.length_encrypt, headerAead, suite.gcm_overhead]

theorem opened_sealedPart :
    opened HeaderError.openAEAD ((headerAead suite key authID nonce keySalt).decrypt
      (kdfNonce suite key [ivSalt, authID, nonce])
      (sealedPart suite key authID nonce keySalt ivSalt text)) = .ok text := by
  rw [sealedPart, Aead.decrypt_encrypt]
  rfl

end Sealed

def sealedWord (suite : Suite) (key authID nonce data : Bytes) : Bytes :=
  sealedPart suite key authID nonce kdfSaltConstVMessHeaderPayloadLengthAEADKey
      kdfSaltConstVMessHeaderPayloadLengthAEADIV (twoBytes data.length) ++
    (nonce ++ sealedPart suite key authID nonce kdfSaltConstVMessHeaderPayloadAEADKey
      kdfSaltConstVMessHeaderPayloadAEADIV data)

theorem length_sealedWord {nonce : Bytes} (h : nonce.length = 8) (key authID data : Bytes) :
    (sealedWord suite key authID nonce data).length = data.length + 42 := by
  have htwo : (twoBytes data.length).length = 2 := rfl
  rw [sealedWord, List.length_append, List.length_append, length_sealedPart, length_sealedPart, h, htwo]
  omega

theorem sealVMessAEADHeader_eq (key authID nonce data : Bytes) :
    sealVMessAEADHeader suite key authID nonce data = authID ++ sealedWord suite key authID nonce data := by
  unfold sealVMessAEADHeader sealedWord sealedPart
  rw [List.append_assoc, List.append_assoc]

/-- What has been sealed for a key and an authentication value is unsealed with them. -/
theorem accepts_openVMessAEADHeader (key authID : Bytes) {nonce data : Bytes} (hnonce : nonce.length = 8)
    (hdata : data.length < 65520) (cap : ℕ) :
    Accepts cap (openVMessAEADHeader suite key authID) (sealedWord suite key authID nonce data) data := by
  have hlength : (UInt16.ofNat data.length + 16).toNat = data.length + 16 := by
    rw [UInt16.toNat_add, UInt16.toNat_ofNat']
    simp only [UInt16.reduceToNat]
    omega
  unfold openVMessAEADHeader sealedWord
  -- the salts are only compared with themselves
  generalize kdfSaltConstVMessHeaderPayloadLengthAEADKey = k₁
  generalize kdfSaltConstVMessHeaderPayloadLengthAEADIV = i₁
  generalize kdfSaltConstVMessHeaderPayloadAEADKey = k₂
  generalize kdfSaltConstVMessHeaderPayloadAEADIV = i₂
  have hsize := length_sealedPart suite key authID nonce k₁ i₁ (twoBytes data.length)
  have hsize' := length_sealedPart suite key authID nonce k₂ i₂ data
  refine ((accepts_fresh_take hsize le_rfl).mapError _).bind ?_
  refine ((accepts_fresh_take hnonce le_rfl).mapError _).bind ?_
  refine (accepts_lift (opened_sealedPart ..)).bind_silent ?_
  refine (accepts_lift (mustUint16_twoBytes (by omega))).bind_silent ?_
  rw [hlength]
  refine ((accepts_fresh_take hsize' le_rfl).mapError _).bind_pure ?_
  exact accepts_lift (opened_sealedPart ..)

theorem length_authBlock (time : ℕ) {random : Bytes} (h : random.length = 4) :
    (authBlock suite time random).length = 16 := by
  simp only [authBlock, List.length_append, length_numberBytes, h]

/-- A key takes the value that was made with it, if the clocks are close. -/
theorem takes_createAuthID {server : Server υ} {time : ℕ} (htime : time < 2 ^ 63)
    (hnear : time ≤ server.now + 120 ∧ server.now ≤ time + 120) {random : Bytes} (hrandom : random.length = 4)
    (key : Bytes) : server.takes suite (createAuthID suite key time random) key = true := by
  have hfront : (numberBytes 8 time ++ random).length = 12 := by
    rw [List.length_append, length_numberBytes, hrandom]
  have hcrc : bytesNumber (numberBytes 4 (suite.crc32 (numberBytes 8 time ++ random)).toNat) =
      (suite.crc32 (numberBytes 8 time ++ random)).toNat :=
    bytesNumber_numberBytes (suite.crc32 (numberBytes 8 time ++ random)).toNat_lt
  have hclock : bytesNumber (numberBytes 8 time) = time :=
    bytesNumber_numberBytes (htime.trans (by decide))
  have height : ((numberBytes 8 time ++ random) ++
      numberBytes 4 (suite.crc32 (numberBytes 8 time ++ random)).toNat).take 8 = numberBytes 8 time := by
    rw [List.append_assoc, List.take_left' (length_numberBytes _ _)]
  unfold Server.takes createAuthID
  rw [suite.decryptBlock_encryptBlock _ _ (length_authBlock time hrandom), authBlock]
  dsimp only
  rw [List.take_left' hfront, List.drop_left' hfront, height, hclock, hcrc]
  simp only [BEq.rfl, Bool.true_and, htime, hnear.1, hnear.2, decide_true]

/-- The user is found if no other key takes the value for one of its own. -/
theorem matchAuthID_eq {server : Server υ} {authID key : Bytes} {user : υ} {decoders : List (Bytes × υ)}
    (hmem : (key, user) ∈ decoders) (htakes : server.takes suite authID key = true)
    (honly : ∀ d ∈ decoders, server.takes suite authID d.1 = true → d = (key, user))
    (hcheck : server.check authID = true) :
    server.matchAuthID suite authID decoders = .ok (key, user) := by
  induction decoders with
  | nil => exact absurd hmem List.not_mem_nil
  | cons d decoders ih =>
    obtain ⟨key', user'⟩ := d
    obtain ⟨hhead, hrest⟩ := List.forall_mem_cons.mp honly
    rw [Server.matchAuthID]
    by_cases htaken : server.takes suite authID key' = true
    · rw [if_pos htaken, if_pos hcheck, hhead htaken]
    · rw [if_neg htaken]
      refine ih (List.mem_of_ne_of_mem (fun heq => htaken ?_) hmem) hrest
      rw [← (Prod.mk.inj heq).1]
      exact htakes

/-- A server that takes a request: it knows the key of the user, no other key takes the authentication
value for one of its own, the clocks are close, and neither the value nor the session has been seen. -/
structure Server.Admits (server : Server υ) (suite : Suite) (session : Session) (cmdKey : Bytes) (user : υ)
    (time : ℕ) (random : Bytes) : Prop where
  known : (cmdKey, user) ∈ server.decoders
  only : ∀ d ∈ server.decoders,
    server.takes suite (createAuthID suite cmdKey time random) d.1 = true → d = (cmdKey, user)
  near : time ≤ server.now + 120 ∧ server.now ≤ time + 120
  fresh : server.check (createAuthID suite cmdKey time random) = true
  unseen : server.addIfNotExists user session.requestBodyKey session.requestBodyIV = true

/-- A request is decoded to what was sent, and to the session of the client. -/
theorem request_wire {server : Server υ} {user : υ} {time : ℕ} (htime : time < 2 ^ 63)
    (hs : session.Sized) (h : request.Sendable) (rolls : Rolls)
    (hadmits : server.Admits suite session request.user user time rolls.random) :
    ∃ w, encodeRequestHeader suite session request rolls time = .ok w ∧ w.length ≤ 1024 ∧
      Accepts bufSize (decodeRequestHeader suite server) w (request.seen user, session) := by
  have hlength := length_frontWord_le rolls hs h
  have hdata : (frontWord session request rolls ++ checksum (frontWord session request rolls)).length ≤
      316 := by
    rw [List.length_append, checksum, length_numberBytes]
    omega
  have hauth : (createAuthID suite request.user time rolls.random).length = 16 :=
    suite.length_encryptBlock _ _
  refine ⟨createAuthID suite request.user time rolls.random ++
    sealedWord suite request.user (createAuthID suite request.user time rolls.random) rolls.connectionNonce
      (frontWord session request rolls ++ checksum (frontWord session request rolls)), ?_, ?_, ?_⟩
  · rw [encodeRequestHeader, requestBuffer_eq rolls hs h, ← sealVMessAEADHeader_eq]
  · rw [List.length_append, hauth, length_sealedWord rolls.length_connectionNonce]
    omega
  · have hmatch := matchAuthID_eq hadmits.known (takes_createAuthID htime hadmits.near rolls.length_random _)
      hadmits.only hadmits.fresh
    refine ((accepts_take hauth (by decide)).mapError _).bind ?_
    refine (accepts_lift hmatch).bind_silent ?_
    refine (accepts_openVMessAEADHeader _ _ rolls.length_connectionNonce (by omega) bufSize).bind_pure ?_
    exact accepts_lift (decodeRequest_wire rolls hs h hadmits.unseen)

section Target

variable {enablePadding cone : Bool} {account : Account} {target : Destination} {a : Address}

/-- The request for a target names the target, or a multiplexed connection. -/
theorem requestFor_spec (htarget : target.address = some a)
    (h : requestFor enablePadding cone account target = .ok request) :
    request.version = version ∧ request.user = account.cmdKey ∧
      request.security = (if account.security = .zero then .none else account.security) ∧
      request.option = (optionFor enablePadding account).1 ∧
      (request.command = requestCommandMux ↔ a = muxCool ∨
        target.network = .udp ∧ cone = true ∧ target.port ≠ 53 ∧ target.port ≠ 443) ∧
      (request.command ≠ requestCommandMux →
        (request.command = requestCommandTCP ∨ request.command = requestCommandUDP) ∧
          request.address = some a ∧ request.port = target.port) := by
  unfold requestFor at h
  rw [Outcome.failIf_bind_eq_ok_iff, htarget] at h
  obtain ⟨-, h⟩ := h
  dsimp only at h
  split at h
  · rename_i hmux
    cases h
    refine ⟨rfl, rfl, rfl, rfl, iff_of_true rfl (.inr ⟨?_, hmux.2⟩), fun hne => absurd rfl hne⟩
    exact (commandFor_eq_udp_iff.mp hmux.1).2
  · rename_i hmux
    cases h
    refine ⟨rfl, rfl, rfl, rfl, ?_, fun hne => ⟨commandFor_of_ne hne, rfl, rfl⟩⟩
    rw [commandFor_eq_mux_iff, commandFor_eq_udp_iff] at *
    tauto

end Target

/-- The request for a target that can be dialled arrives as one for that target, or for a multiplexed
connection. -/
theorem requestFor_of_destination {address : Bytes} {port : UInt16} {network : Network}
    {target : Destination} (hdest : destination address port network = .ok target)
    {enablePadding cone : Bool} {account : Account}
    (hsecurity : account.security ≠ .unknown ∧ account.security ≠ .auto)
    (hrequest : requestFor enablePadding cone account target = .ok request) :
    request.Sendable ∧ request.user = account.cmdKey ∧
      request.security = (if account.security = .zero then .none else account.security) ∧
      request.option = (optionFor enablePadding account).1 ∧
      (request.command = requestCommandMux ↔ Address.ofText address = muxCool ∨
        network = .udp ∧ cone = true ∧ port ≠ 53 ∧ port ≠ 443) ∧
      ∀ user : υ, request.command ≠ requestCommandMux →
        (request.seen user).address = some (.ofText address) ∧ (request.seen user).port = port := by
  obtain ⟨hport, hhost⟩ := PacketFlow.exists_destination_iff.mp ⟨target, hdest⟩
  obtain rfl : target = ⟨some (.ofText address), port, network⟩ := by
    rw [PacketFlow.destination_of_hostText hhost hport] at hdest
    exact (Outcome.ok.inj hdest).symm
  obtain ⟨hversion, hname, hsec, hoption, hmux, hcommand⟩ := requestFor_spec rfl hrequest
  refine ⟨⟨hversion, ?_, ?_⟩, hname, hsec, hoption, hmux, fun user hne => ?_⟩
  · rw [hsec]
    split
    · decide
    · exact hsecurity
  · by_cases hne : request.command = requestCommandMux
    · exact .inl hne
    · obtain ⟨hkind, haddress, -⟩ := hcommand hne
      exact .inr ⟨hkind, _, haddress, portable_of_hostText hhost⟩
  · obtain ⟨-, haddress, hto⟩ := hcommand hne
    unfold RequestHeader.seen
    dsimp only
    rw [if_neg hne, if_neg hne]
    exact ⟨haddress, hto⟩

end FoloXray.Vmess
