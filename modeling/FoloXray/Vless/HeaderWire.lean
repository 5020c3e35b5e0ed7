import FoloXray.PacketFlow.Destination
import FoloXray.Vless.Header

/-! # A request arrives as it was sent

The header that is sent for a target is decoded on the other side to the command, the target and the flow
that were chosen, in whatever chunks it comes, and not a byte of what follows it is read.
-/

namespace FoloXray.Vless

open Foundation Buffers Protocol Decoder Encoder
open PacketFlow (Destination destination Network)
open Profile (Address xrv)

variable {υ : Type}

/-- The add-ons as the other side sees them: of a flow that is not that of Vision nothing is sent. -/
def Addons.seen (addons : Addons) : Addons := if addons.flow = xrv then addons else ⟨[], []⟩

theorem addons_wire (proto : AddonsProto) {addons : Addons} (hseed : addons.seed = []) :
    ∃ w : Bytes, w.length ≤ 256 ∧ Emits bufSize (encodeHeaderAddons proto addons) w ∧
      Accepts bufSize (decodeHeaderAddons proto) w addons.seen := by
  unfold encodeHeaderAddons Addons.seen
  by_cases hflow : addons.flow = xrv
  · obtain ⟨flow, seed⟩ := addons
    obtain rfl : flow = xrv := hflow
    obtain rfl : seed = [] := hseed
    obtain ⟨w, hmarshal, hpos, hle, hunmarshal⟩ := proto.vision
    have hlength : (UInt8.ofNat w.length).toNat = w.length := by
      rw [UInt8.toNat_ofNat']
      omega
    have hne : UInt8.ofNat w.length ≠ 0 := by
      intro hzero
      rw [hzero] at hlength
      exact absurd hlength hpos.ne
    refine ⟨UInt8.ofNat w.length :: w, by rw [List.length_cons]; omega, ?_, ?_⟩
    · rw [if_pos rfl, hmarshal]
      exact ((emits_putByte _).mapError _).seq (emits_put w)
    · rw [if_pos rfl]
      refine accepts_clear.bind_silent ?_
      refine ((accepts_takeByte (UInt8.ofNat w.length)).mapError _).bind ?_
      unfold decodeAddonsValue
      rw [if_neg hne, hlength]
      refine accepts_clear.bind_silent ?_
      refine ((accepts_take rfl hpos.ne').mapError _).bind_pure (accepts_lift ?_)
      rw [unmarshalAddons, hunmarshal]
      rfl
  · refine ⟨[0], by decide, ?_, ?_⟩
    · rw [if_neg hflow]
      exact (emits_putByte 0).mapError _
    · rw [if_neg hflow]
      refine accepts_clear.bind_silent ?_
      exact ((accepts_takeByte 0).mapError _).bind_pure (accepts_pure _)

/-- The response to a request of a version is read by the side that has sent the request. -/
theorem response_wire (proto : AddonsProto) (version : UInt8) {addons : Addons} (hseed : addons.seed = []) :
    ∃ w : Bytes, Emits bufSize (encodeResponseHeader proto version addons) w ∧
      Accepts bufSize (decodeResponseHeader proto version) w addons.seen := by
  obtain ⟨w, -, hemits, haccepts⟩ := addons_wire proto hseed
  refine ⟨[version] ++ w, ((emits_putByte version).mapError _).seq hemits, ?_⟩
  refine ((accepts_takeByte version).mapError _).bind ?_
  rw [if_neg (not_not.mpr rfl)]
  exact haccepts

/-- A request whose target, if it is on the wire, survives it. -/
structure RequestHeader.Sendable (request : RequestHeader Bytes) : Prop where
  version : request.version = 0
  user : request.user.length = 16
  target : request.command = requestCommandMux ∨
    (request.command = requestCommandTCP ∨ request.command = requestCommandUDP) ∧
      ∃ a, request.address = some a ∧ Portable a

/-- The request as the other side sees it, for the user that it finds. -/
def RequestHeader.seen (request : RequestHeader Bytes) (user : υ) : RequestHeader υ :=
  if request.command = requestCommandMux then ⟨request.version, user, request.command, some muxCool, 0⟩
  else ⟨request.version, user, request.command, request.address, request.port⟩

variable {request : RequestHeader Bytes} {addons : Addons}

theorem target_wire (h : request.Sendable) :
    ∃ w : Bytes, w.length ≤ 259 ∧ Emits bufSize (encodeTarget request) w ∧
      Accepts bufSize (decodeTarget request.command) w
        ((request.seen ()).address, (request.seen ()).port) := by
  unfold encodeTarget decodeTarget RequestHeader.seen
  rcases h.target with hmux | ⟨hcommand, a, haddress, ha⟩
  · refine ⟨[], by decide, ?_, ?_⟩
    · rw [if_pos hmux]
      exact emits_nil
    · rw [if_pos hmux, if_pos hmux]
      exact accepts_pure _
  · have hmux : request.command ≠ requestCommandMux := by
      rcases hcommand with hcommand | hcommand <;> rw [hcommand] <;> decide
    refine ⟨addrParser.word a request.port, addrParser.length_word_le ha _, ?_, ?_⟩
    · rw [if_neg hmux, haddress]
      exact (emits_writeAddressPort (by decide) ha _).mapError _
    · rw [if_neg hmux, if_neg hmux, if_pos hcommand, haddress]
      intro s rest hbytes hroom
      obtain ⟨t, hread, ht⟩ := accepts_readAddressPort (by decide) ha request.port s rest hbytes hroom
      exact ⟨t, by simp only [hread], ht⟩

theorem RequestHeader.seen_address_ne_none (h : request.Sendable) : (request.seen ()).address ≠ none := by
  unfold RequestHeader.seen
  split
  · exact Option.some_ne_none _
  · rename_i hmux
    obtain ⟨-, a, haddress, -⟩ := h.target.resolve_left hmux
    rw [haddress]
    exact Option.some_ne_none _

theorem RequestHeader.seen_eq (h : request.Sendable) (user : υ) :
    request.seen user =
      ⟨0, user, request.command, (request.seen ()).address, (request.seen ()).port⟩ := by
  unfold RequestHeader.seen
  rw [h.version]
  split <;> rfl

theorem request_wire (proto : AddonsProto) (h : request.Sendable) (hseed : addons.seed = []) :
    ∃ w : Bytes, w.length ≤ 516 ∧
      Emits bufSize (encodeRequestHeader proto request addons) (0 :: request.user ++ w) ∧
      ∀ user : υ, Accepts bufSize (decodeRequest proto user) w (request.seen user, addons.seen) := by
  obtain ⟨wa, hwa, hemitsA, hacceptsA⟩ := addons_wire proto hseed
  obtain ⟨wt, hwt, hemitsT, hacceptsT⟩ := target_wire h
  refine ⟨wa ++ request.command :: wt, ?_, ?_, ?_⟩
  · rw [List.length_append, List.length_cons]
    omega
  · have hcommand : Emits bufSize ((putByte bufSize request.command).mapError HeaderError.writeCommand)
        [request.command] := (emits_putByte _).mapError _
    have hversion : Emits bufSize ((putByte bufSize request.version).mapError HeaderError.writeVersion)
        [0] := h.version ▸ (emits_putByte request.version).mapError _
    exact hversion.seq ((emits_put request.user).seq (hemitsA.seq (hcommand.seq hemitsT)))
  · intro user
    refine hacceptsA.bind (accepts_clear.bind_silent ?_)
    refine ((accepts_takeByte request.command).mapError _).bind (hacceptsT.bind_pure ?_)
    rw [if_neg (RequestHeader.seen_address_ne_none h), RequestHeader.seen_eq h user]
    exact accepts_pure _

variable {get : Bytes → Option υ} {user : υ}

/-- Looking the user up in the first buffer takes as many bytes off the stream as reading it does. -/
theorem bytes_advanceFirst {s : Intake} {n : ℕ} (h : n ≤ (first s).length) :
    (advanceFirst n s).reader.bytes = s.reader.bytes.drop n := by
  obtain ⟨buffer, chunks, hne⟩ := s
  cases chunks with
  | nil =>
    have hzero : n = 0 := Nat.le_zero.mp h
    rw [hzero]
    rfl
  | cons c cs =>
    have hle : n ≤ c.length := h
    unfold advanceFirst ByteReader.bytes
    by_cases hlt : n < c.length
    · simp only [hlt, if_true, List.flatten_cons]
      rw [List.drop_append_of_le_length hle]
    · have heq : n = c.length := by omega
      simp [heq]

theorem first_prefix (s : Intake) : ∃ rest, s.reader.bytes = first s ++ rest := by
  obtain ⟨buffer, chunks, hne⟩ := s
  cases chunks with
  | nil => exact ⟨[], rfl⟩
  | cons c cs => exact ⟨cs.flatten, rfl⟩

/-- The header is decoded behind the version and the user, wherever these have been read from. -/
theorem decodeRequestHeader_of_user (proto : AddonsProto) {isfb : Bool} {id : Bytes} (hid : id.length = 16)
    (hget : get id = some user) {s : Intake} {rest : Bytes} (hbytes : s.reader.bytes = 0 :: id ++ rest)
    (hroom : s.buffer.length + 17 ≤ bufSize) (hfirst : isfb = true → 18 ≤ (first s).length) :
    ∃ t : Intake, t.reader.bytes = rest ∧ t.buffer.length ≤ s.buffer.length + 17 ∧
      decodeRequestHeader proto get isfb s =
        ((decodeRequest proto user).mapError (·, false) : Decoder _ _) t := by
  cases isfb with
  | false =>
    have hzero : Accepts bufSize (readVersion false) [0] 0 := (accepts_takeByte 0).mapError _
    have hsixteen : Accepts bufSize (readID false) id id :=
      accepts_clear.bind_silent ((accepts_take hid (by decide)).mapError _)
    obtain ⟨s₁, hv, hs₁, hroom₁⟩ := hzero s (id ++ rest) hbytes (by rw [List.length_singleton]; omega)
    rw [List.length_singleton] at hroom₁
    obtain ⟨s₂, hi, hs₂, hroom₂⟩ := hsixteen s₁ rest hs₁ (by omega)
    refine ⟨s₂, hs₂, ?_, ?_⟩
    · omega
    · simp only [decodeRequestHeader, bind_apply, Decoder.mapError, hv, hi, Outcome.mapError,
        Outcome.ok_bind, if_true, hget]
      rfl
  | true =>
    obtain ⟨tail, htail⟩ := first_prefix s
    have hlong := hfirst rfl
    have hv : (first s).getD 0 0 = 0 := by
      have hhead := congrArg (fun l => l[0]?.getD 0) (htail.symm.trans hbytes)
      simp only [List.getElem?_append_left (by omega : 0 < (first s).length)] at hhead
      simpa using hhead
    have hi : ((first s).drop 1).take 16 = id := by
      have hcut := congrArg (fun l => (List.drop 1 l).take 16) (htail.symm.trans hbytes)
      simp only [List.cons_append, List.drop_succ_cons, List.drop_zero] at hcut
      rw [List.take_left' hid, List.drop_append_of_le_length (by omega),
        List.take_append_of_le_length (by rw [List.length_drop]; omega)] at hcut
      exact hcut
    refine ⟨advanceFirst 17 s, ?_, ?_, ?_⟩
    · rw [bytes_advanceFirst (by omega), hbytes]
      exact List.drop_left' (by rw [List.length_cons, hid])
    · unfold advanceFirst
      split <;> exact Nat.le_add_right _ _
    · have hv' : readVersion true s = .ok (0, s) := by
        rw [readVersion, if_pos rfl, hv]
      have hi' : readID true s = .ok (id, s) := by
        rw [readID, if_pos rfl, hi]
      simp only [decodeRequestHeader, bind_apply, Decoder.mapError, hv', hi', Outcome.mapError,
        Outcome.ok_bind, if_true, hget]
      rfl

section Target

variable {cone direct : Bool} {account : Account} {target : Destination} {a : Address}

/-- The request for a target names the target, or a multiplexed connection. -/
theorem requestFor_spec (htarget : target.address = some a)
    (h : requestFor cone direct account target = .ok (request, addons)) :
    request.version = 0 ∧ request.user = account.id ∧ addons.seed = [] ∧
      (request.command = requestCommandMux ∨
        (request.command = requestCommandTCP ∨ request.command = requestCommandUDP) ∧
          request.address = some a ∧ request.port = target.port) := by
  unfold requestFor at h
  rw [Outcome.failIf_bind_eq_ok_iff, htarget] at h
  obtain ⟨-, h⟩ := h
  obtain ⟨-, -, h⟩ := Outcome.bind_eq_ok_iff.mp h
  split at h
  · cases h
    exact ⟨rfl, rfl, rfl, .inl rfl⟩
  · cases h
    refine ⟨rfl, rfl, rfl, ?_⟩
    by_cases hmux : commandFor a target = requestCommandMux
    · exact .inl hmux
    · exact .inr ⟨commandFor_of_ne hmux, rfl, rfl⟩

end Target

/-- A request for a target that can be dialled is decoded as it was sent: for the same user and with the
command that was chosen for it, and unless that is the one for a multiplexed connection, with the address
and the port of the target.  What follows the header is left. -/
theorem vless_request_arrives (proto : AddonsProto) {address : Bytes} {port : UInt16} {network : Network}
    {target : Destination} (hdest : destination address port network = .ok target)
    {cone direct : Bool} {account : Account} (hid : account.id.length = 16)
    (hrequest : requestFor cone direct account target = .ok (request, addons))
    (huser : get account.id = some user) :
    ∃ w, encodeRequestHeader proto request addons [] = (.ok (), w) ∧
      ∀ (isfb : Bool) (r : ByteReader) (rest : Bytes), r.bytes = w ++ rest →
        (isfb = true → 18 ≤ (r.chunks.headD []).length) →
          ∃ header t, decodeRequestHeader proto get isfb ⟨[], r⟩ = .ok ((header, addons.seen), t) ∧
            t.reader.bytes = rest ∧ header.user = user ∧ header.command = request.command ∧
            (header.command ≠ requestCommandMux →
              header.address = some (.ofText address) ∧ header.port = port) := by
  obtain ⟨hport, hhost⟩ := PacketFlow.exists_destination_iff.mp ⟨target, hdest⟩
  have htarget : target = ⟨some (.ofText address), port, network⟩ := by
    rw [PacketFlow.destination_of_hostText hhost hport] at hdest
    exact (Outcome.ok.inj hdest).symm
  obtain ⟨hversion, hname, hseed, hcommand⟩ := requestFor_spec (by rw [htarget]) hrequest
  have hsend : request.Sendable := by
    refine ⟨hversion, hname ▸ hid, hcommand.imp_right ?_⟩
    exact fun h => ⟨h.1, _, h.2.1, portable_of_hostText hhost⟩
  obtain ⟨w, hlen, hemits, haccepts⟩ := request_wire (υ := υ) proto hsend hseed
  refine ⟨0 :: request.user ++ w, ?_, ?_⟩
  · apply hemits []
    have hsize := hsend.user
    simp only [List.length_nil, List.length_append, List.length_cons, bufSize]
    omega
  · intro isfb r rest hbytes hfirst
    rw [List.append_assoc, hname] at hbytes
    obtain ⟨t, ht, hroom, hdecode⟩ := decodeRequestHeader_of_user proto hid huser
      (s := ⟨[], r⟩) hbytes (by simp [bufSize]) hfirst
    simp only [List.length_nil] at hroom
    obtain ⟨u, hbody, hu, -⟩ := (haccepts user).mapError (·, false) t rest ht (by simp only [bufSize]; omega)
    refine ⟨request.seen user, u, hdecode.trans hbody, hu, ?_⟩
    unfold RequestHeader.seen
    split
    · rename_i hmux
      exact ⟨rfl, rfl, fun hne => absurd hmux hne⟩
    · rename_i hmux
      obtain ⟨-, haddress, hto⟩ := hcommand.resolve_left hmux
      rw [htarget] at hto
      exact ⟨rfl, rfl, fun _ => ⟨haddress, hto⟩⟩

/-- Add-ons with the flow as their only field: the key of the field, its length and its text. -/
def flowProto : AddonsProto where
  marshal addons := some (0x0a :: UInt8.ofNat addons.flow.length :: addons.flow)
  unmarshal bytes := some ⟨bytes.drop 2, []⟩
  vision := ⟨0x0a :: 0x10 :: xrv, rfl, by decide, by decide, rfl⟩

theorem vless_request_arrives_at_a :
    ∃ request addons, requestFor true true ⟨List.replicate 16 7, xrv⟩ ⟨some (.domain [0x61]), 80, .tcp⟩ =
        .ok (request, addons) ∧
      ∃ w, encodeRequestHeader flowProto request addons [] = (.ok (), w) ∧
        ∀ (isfb : Bool) (r : ByteReader) (rest : Bytes), r.bytes = w ++ rest →
          (isfb = true → 18 ≤ (r.chunks.headD []).length) →
            ∃ header t, decodeRequestHeader flowProto some isfb ⟨[], r⟩ =
                .ok ((header, addons.seen), t) ∧
              t.reader.bytes = rest ∧ header.user = List.replicate 16 7 ∧
              header.command = request.command ∧
              (header.command ≠ requestCommandMux →
                header.address = some (.ofText [0x61]) ∧ header.port = 80) := by
  have hhost : HostText [0x61] := by decide
  have hdest : destination [0x61] 80 .tcp = .ok ⟨some (.ofText [0x61]), 80, .tcp⟩ :=
    PacketFlow.destination_of_hostText hhost (by decide) .tcp
  have hrequest : ∃ request addons, requestFor true true ⟨List.replicate 16 7, xrv⟩
      ⟨some (.domain [0x61]), 80, .tcp⟩ = .ok (request, addons) := ⟨_, _, rfl⟩
  obtain ⟨request, addons, hrequest⟩ := hrequest
  exact ⟨request, addons, hrequest, vless_request_arrives flowProto hdest rfl hrequest rfl⟩

end FoloXray.Vless
