import WireguardNx.Laws.PeerMachine

/-!
# Cookies

A responder under load answers a handshake message with a cookie, sealed for the sender of that very
message; the sender opens it and signs what it sends from then on with it.  The two halves meet in
the bytes on the wire: the `mac1` that the reply is bound to, the sender index it names and the
prefix that `mac2` covers.

Of the primitives only `OpensCookies` is assumed, that opening undoes sealing.  Nothing is said of
who else could open or forge a reply.  A cookie is accepted as long as the responder keeps its
secret; the sender goes by its own clock, and may use it for longer.
-/

namespace WireguardNx.Wireguard

variable {reply : MessageHandshakeCookie} {device : WgDevice} {c : Crypto} {bytes body : List UInt8}
  {senderIndex : UInt32} {mac1 mac2 : Bytes 16} {p : Platform}

/-- Opening inverts sealing, for the cipher of cookie replies. -/
def Crypto.OpensCookies (c : Crypto) : Prop :=
  ∀ (plaintext ciphertext : Bytes 16) (tag : Bytes 16) (aad : List UInt8) (key : Bytes 32)
    (nonce : Bytes 24),
    c.xchacha20poly1305Encrypt plaintext aad key nonce = some (ciphertext, tag) →
      c.xchacha20poly1305Decrypt ciphertext tag aad key nonce = some plaintext

def cookieOf (c : Crypto) (secret : NoiseKey) (sourceBytes : List UInt8) : Bytes 16 :=
  c.blake2sHash 16 sourceBytes secret.bytes.toList

/-- The bytes of a handshake message, taken apart at what the cookie exchange looks at. -/
structure Framed (bytes : List UInt8) (senderIndex : UInt32) (body : List UInt8)
    (mac1 mac2 : Bytes 16) : Prop where
  parts : bytes = body ++ mac1.toList ++ mac2.toList
  sender : ∃ type : UInt32, ∃ rest,
    body = (storeLe32 type).toList ++ (storeLe32 senderIndex).toList ++ rest

section Frames

theorem Framed.initiation {message : MessageHandshakeInitiation}
    (htype : message.type = MessageType.handshakeInitiation.word)
    (h : serializeHandshakeInitiation message = .ok bytes) :
    Framed bytes message.senderIndex message.body message.macs.mac1 message.macs.mac2 := by
  refine ⟨?_, message.type, message.unencryptedEphemeral.toList ++ message.encryptedStatic.toList ++
    message.encryptedTimestamp.toList, ?_⟩
  · have hser := serializeWith_initiation htype message.macs
    exact Except.ok.inj (h.symm.trans hser)
  · simp only [MessageHandshakeInitiation.body, List.append_assoc]

theorem Framed.response {message : MessageHandshakeResponse}
    (htype : message.type = MessageType.handshakeResponse.word)
    (h : serializeHandshakeResponse message = .ok bytes) :
    Framed bytes message.senderIndex message.body message.macs.mac1 message.macs.mac2 := by
  refine ⟨?_, message.type, (storeLe32 message.receiverIndex).toList ++
    message.unencryptedEphemeral.toList ++ message.encryptedNothing.toList, ?_⟩
  · have hser := serializeWith_response htype message.macs
    exact Except.ok.inj (h.symm.trans hser)
  · simp only [MessageHandshakeResponse.body, List.append_assoc]

theorem Framed.length (h : Framed bytes senderIndex body mac1 mac2) :
    bytes.length = body.length + 32 := by
  rw [h.parts]
  simp only [List.length_append, List.Vector.toList_length]

/-- What `mac2` covers. -/
theorem take_mac2 (body : List UInt8) (mac1 mac2 : Bytes 16) :
    (body ++ mac1.toList ++ mac2.toList).take
      ((body ++ mac1.toList ++ mac2.toList).length - 16) = body ++ mac1.toList := by
  have hlen : (body ++ mac1.toList ++ mac2.toList).length - 16 =
      (body ++ mac1.toList).length := by
    rw [List.length_append, List.Vector.toList_length, Nat.add_sub_cancel]
  rw [hlen, List.take_left]

/-- The associated data of a cookie reply is the `mac1` of the message. -/
theorem Framed.aad (h : Framed bytes senderIndex body mac1 mac2) :
    (bytes.drop (bytes.length - 2 * 16)).take 16 = mac1.toList := by
  have hlen : bytes.length - 2 * 16 = body.length := by rw [h.length]; omega
  rw [hlen, h.parts, List.append_assoc, List.drop_left, List.take_left' (mac1.toList_length)]

private theorem readBytes_append {n : Nat} {first : Bytes n} {rest : List UInt8} :
    readBytes n (first.toList ++ rest) = some (first, rest) := by
  have hlen : n ≤ (first.toList ++ rest).length := by
    rw [List.length_append, List.Vector.toList_length]
    exact Nat.le_add_right n rest.length
  have hfirst : Bytes.ofPrefix n (first.toList ++ rest) hlen = first :=
    Subtype.ext (List.take_left' first.toList_length)
  unfold readBytes
  rw [dif_pos hlen, hfirst, List.drop_left' first.toList_length]

/-- A cookie reply names the sender of the message. -/
theorem Framed.reads (h : Framed bytes senderIndex body mac1 mac2) :
    ∃ rest, readBytes 4 (bytes.drop 4) = some (storeLe32 senderIndex, rest) := by
  obtain ⟨type, rest, hbody⟩ := h.sender
  have hdrop : bytes.drop 4 =
      (storeLe32 senderIndex).toList ++ (rest ++ mac1.toList ++ mac2.toList) := by
    rw [h.parts, hbody]
    simp only [List.append_assoc]
    exact List.drop_left' (storeLe32 type).toList_length
  exact ⟨_, by rw [hdrop]; exact readBytes_append⟩

/-- `mac2` covers everything before it. -/
theorem checkPacketMac2_framed (h : Framed bytes senderIndex body mac1 mac2)
    {state : ResponderCookieState} {source : Endpoint} {now : MonotonicTime}
    {sourceBytes : List UInt8} (hfresh : state.secretFresh now)
    (hsource : buildSourceBytes source = some sourceBytes)
    (hmac2 : mac2 = c.blake2sHash 16 (body ++ mac1.toList)
      (cookieOf c state.secret sourceBytes).toList) : checkPacketMac2 c state bytes source now := by
  have htake : bytes.take (bytes.length - 16) = body ++ mac1.toList := by
    rw [h.parts]
    exact take_mac2 body mac1 mac2
  have hdrop : bytes.drop (bytes.length - 16) = mac2.toList := by
    have hlen : bytes.length - 16 = (body ++ mac1.toList).length := by
      rw [h.length, List.length_append, List.Vector.toList_length]
      omega
    rw [hlen, h.parts, List.drop_left]
  unfold checkPacketMac2
  rw [if_neg (by rw [hfresh]; decide), hsource]
  simp only [htake, hdrop, decide_eq_true_eq]
  rw [hmac2]
  rfl

end Frames

/-! ## Replies -/

section Replies

variable {source : Endpoint} {now : MonotonicTime}

/-- What a reply to a message holds: the cookie of its source, sealed under its `mac1`. -/
structure RepliesTo (c : Crypto) (secret localStatic : NoiseKey) (source : Endpoint)
    (senderIndex : UInt32) (mac1 : Bytes 16) (reply : MessageHandshakeCookie) : Prop where
  type : reply.type = MessageType.cookieReply.word
  receiver : reply.receiverIndex = senderIndex
  valid : localStatic.valid = true
  sealed : ∃ sourceBytes key ciphertext tag, buildSourceBytes source = some sourceBytes ∧
    computeCookieKey c localStatic = some key ∧
    c.xchacha20poly1305Encrypt (cookieOf c secret sourceBytes) mac1.toList key reply.nonce =
      some (ciphertext, tag) ∧
    reply.encryptedCookie = ciphertext.append tag

private theorem createCookieReply_replies (hframed : Framed bytes senderIndex body mac1 mac2)
    {state after : ResponderCookieState} {localStatic : NoiseKey}
    (h : createCookieReply c p state localStatic bytes source now = (some reply, after)) :
    RepliesTo c after.secret localStatic source senderIndex mac1 reply := by
  obtain ⟨rest, hreads⟩ := hframed.reads
  unfold createCookieReply at h
  split at h
  · cases h
  rename_i hvalid
  simp only [hreads, hframed.aad] at h
  split at h
  · rename_i sourceBytes key receiver _ hsource hkey hreceiver
    cases hreceiver
    rw [loadLe32_storeLe32] at h
    split at h
    · cases h
    split at h
    · cases h
    rename_i ciphertext tag hsealed
    cases h
    exact ⟨rfl, rfl, Bool.not_eq_false _ ▸ hvalid, sourceBytes, key, ciphertext, tag, hsource, hkey,
      hsealed, rfl⟩
  · cases h

private theorem admitResponderPacket_replies (hframed : Framed bytes senderIndex body mac1 mac2)
    {device after : WgDevice} (h : noiseHandshakeAdmitResponderPacket c p device bytes source now =
      (.cookieReply reply, after)) :
    RepliesTo c after.responderCookie.secret device.peer.staticIdentity.staticPublic source
      senderIndex mac1 reply := by
  unfold noiseHandshakeAdmitResponderPacket at h
  split at h
  · cases h
  split at h
  · cases h
  split at h
  · split at h
    · rename_i hcreate
      cases h
      exact createCookieReply_replies hframed hcreate
    · cases h
  split at h
  · cases h
  · simp only [Prod.mk.injEq] at h
    split at h
    · exact nomatch h.1
    · exact nomatch h.1

/-- An initiation that is kept for another send is well typed. -/
def WgPeer.KeepsTyped (peer : WgPeer) : Prop :=
  peer.hasLastInitiation = true →
    peer.lastInitiation.type = MessageType.handshakeInitiation.word

/-- A reply to the message sent last is accepted by the peer that holds its index, which then has
the cookie of its source. -/
theorem consumeCookieReply_accepts (hc : c.OpensCookies) {secret : NoiseKey}
    (h : RepliesTo c secret device.peer.staticIdentity.remoteStatic source senderIndex mac1 reply)
    (hregistered : (device.lookupIndexSlot senderIndex).isSome)
    (hasked : device.peer.cookie.hasLastMac1) (hmac1 : device.peer.cookie.lastMac1 = mac1)
    (htyped : device.peer.KeepsTyped) : (noiseHandshakeConsumeCookieReply c p reply device).1 ∧
      ∃ sourceBytes, buildSourceBytes source = some sourceBytes ∧
        (noiseHandshakeConsumeCookieReply c p reply device).2.cookie.value =
          cookieOf c secret sourceBytes := by
  obtain ⟨htype, hreceiver, hvalid, sourceBytes, key, ciphertext, tag, hsource, hkey, hsealed,
    hencrypted⟩ := h
  have hmatches : matchesCookieReceiverIndex device reply.receiverIndex := by
    unfold matchesCookieReceiverIndex
    rw [hreceiver, hregistered, Bool.and_true, decide_eq_true_eq]
    rintro rfl
    exact absurd hregistered (by simp [WgDevice.lookupIndexSlot])
  have hopened : c.xchacha20poly1305Decrypt (reply.encryptedCookie.first (n := 16) (m := 16))
      (reply.encryptedCookie.last (n := 16) (m := 16)) device.peer.cookie.lastMac1.toList key
      reply.nonce = some (cookieOf c secret sourceBytes) := by
    rw [hencrypted, Bytes.first_append, Bytes.last_append, hmac1]
    exact hc _ _ _ _ _ _ hsealed
  unfold noiseHandshakeConsumeCookieReply
  simp only
  rw [if_neg (by rw [hvalid]; decide), if_neg (by rw [htype]; decide),
    if_neg (by rw [hmatches]; decide), if_neg (by rw [hasked]; decide), hkey]
  simp only [hopened]
  by_cases hlast : device.peer.hasLastInitiation
  · obtain ⟨mac2', hmacs⟩ := applyOutgoingMacs_spec (c := c) p
      device.peer.lastInitiation.serializeWith (serializeWith_initiation (htyped hlast)) hvalid
      { device.peer.cookie with
        value := cookieOf c secret sourceBytes, valid := true, birthTime := p.clock .cookieBirth }
    rw [if_pos hlast, hmacs]
    exact ⟨rfl, sourceBytes, hsource, rfl⟩
  · rw [if_neg hlast]
    exact ⟨rfl, sourceBytes, hsource, rfl⟩

end Replies

/-! ## Messages -/

/-- What an operation leaves of the cookie exchange: the identity, and the cookie up to the `mac1`
it remembers. -/
structure WgPeer.KeepsCookie (peer after : WgPeer) : Prop where
  identity : after.staticIdentity = peer.staticIdentity
  value : after.cookie.value = peer.cookie.value
  valid : after.cookie.valid = peer.cookie.valid
  birthTime : after.cookie.birthTime = peer.cookie.birthTime
  typed : peer.KeepsTyped → after.KeepsTyped

/-- A message with given MACs: the peer remembers its `mac1`, and while its cookie is valid `mac2`
is computed with it. -/
structure WgPeer.Signs (c : Crypto) (p : Platform) (peer after : WgPeer) (body : List UInt8)
    (macs : MessageMacs) : Prop where
  valid : peer.staticIdentity.remoteStatic.valid = true
  mac1 : macs.mac1 = mac1Of c body peer.staticIdentity.remoteStatic.bytes
  remembers : after.cookie = peer.cookie.recordLastMac1 macs.mac1
  mac2 : peer.cookie.isValid (p.clock .cookieCheck) = true →
    macs.mac2 = c.blake2sHash 16 (body ++ macs.mac1.toList) peer.cookie.value.toList

section Messages

variable {peer after : WgPeer}

theorem applyOutgoingMacs_signs {serialize : MessageMacs → Except ParseError (List UInt8)}
    {body : List UInt8}
    (hser : ∀ macs, serialize macs = .ok (body ++ macs.mac1.toList ++ macs.mac2.toList))
    {ok : Bool} {macs : MessageMacs} {cookie : NoiseCookie}
    (hvalid : peer.staticIdentity.remoteStatic.valid)
    (h : applyOutgoingMacs c p serialize peer.staticIdentity.remoteStatic peer.cookie =
      (ok, macs, cookie)) (hafter : after.cookie = cookie) : peer.Signs c p after body macs := by
  have hmac1 : computeMac1 c (serialize .empty) peer.staticIdentity.remoteStatic =
      some (mac1Of c body peer.staticIdentity.remoteStatic.bytes) := by
    rw [hser]
    exact computeMac1_body hvalid rfl
  unfold applyOutgoingMacs at h
  rw [hmac1] at h
  simp only [hser, computeMac2] at h
  split at h
  · cases h
    refine ⟨hvalid, rfl, hafter, fun _ => ?_⟩
    rw [take_mac2]
    rfl
  · rename_i hexpired
    cases h
    exact ⟨hvalid, rfl, hafter, fun hcookie => absurd hcookie hexpired⟩

/-- An initiation that was created. -/
theorem createInitiation_signs (h : noiseHandshakeCreateInitiation c p peer = (true, after)) :
    after.lastInitiation.type = MessageType.handshakeInitiation.word ∧
      after.hasLastInitiation ∧
      peer.Signs c p after after.lastInitiation.body after.lastInitiation.macs := by
  unfold noiseHandshakeCreateInitiation at h
  simp only at h
  split at h
  · cases h
  rename_i hkeyed
  simp only [not_or, Bool.not_eq_false] at hkeyed
  iterate 5 (split at h; · cases h)
  · cases h
    refine ⟨rfl, rfl, applyOutgoingMacs_signs (fun macs => serializeWith_initiation rfl macs)
      hkeyed.2.2.1 rfl rfl⟩

/-- A response that was created. -/
theorem createResponse_signs {message : MessageHandshakeResponse}
    (h : noiseHandshakeCreateResponse c p peer = (some message, after)) :
    message.type = MessageType.handshakeResponse.word ∧
      peer.Signs c p after message.body message.macs := by
  unfold noiseHandshakeCreateResponse at h
  simp only at h
  split at h
  · cases h
  rename_i hkeyed
  simp only [not_or, Bool.not_eq_false] at hkeyed
  iterate 4 (split at h; · cases h)
  · cases h
    exact ⟨rfl, applyOutgoingMacs_signs (fun macs => serializeWith_response rfl macs) hkeyed.1 rfl
      rfl⟩

private theorem applyOutgoingMacs_cookie (serialize : MessageMacs → Except ParseError (List UInt8))
    (remoteStatic : NoiseKey) (cookie : NoiseCookie) :
    (applyOutgoingMacs c p serialize remoteStatic cookie).2.2 = cookie ∨
      ∃ mac1, (applyOutgoingMacs c p serialize remoteStatic cookie).2.2 =
        cookie.recordLastMac1 mac1 := by
  unfold applyOutgoingMacs
  split
  · exact .inl rfl
  · rename_i mac1 _
    right
    refine ⟨mac1, ?_⟩
    simp only
    split
    · split
      · rfl
      · rfl
    · rfl

/-- Another `mac1` to remember, and nothing else. -/
theorem keepsCookie_of_macs {serialize : MessageMacs → Except ParseError (List UInt8)}
    {remoteStatic : NoiseKey} (hident : after.staticIdentity = peer.staticIdentity)
    (hcookie : after.cookie = (applyOutgoingMacs c p serialize remoteStatic peer.cookie).2.2)
    (htyped : peer.KeepsTyped → after.KeepsTyped) : peer.KeepsCookie after := by
  obtain hsame | ⟨mac1, hrecorded⟩ := applyOutgoingMacs_cookie (c := c) (p := p) serialize
    remoteStatic peer.cookie
  · rw [hsame] at hcookie
    exact ⟨hident, by rw [hcookie], by rw [hcookie], by rw [hcookie], htyped⟩
  · rw [hrecorded] at hcookie
    exact ⟨hident, by rw [hcookie]; rfl, by rw [hcookie]; rfl, by rw [hcookie]; rfl, htyped⟩

private theorem createInitiation_keepsCookie (c : Crypto) (p : Platform) (peer : WgPeer) :
    peer.KeepsCookie (noiseHandshakeCreateInitiation c p peer).2 := by
  unfold noiseHandshakeCreateInitiation
  simp only
  split
  · exact ⟨rfl, rfl, rfl, rfl, id⟩
  iterate 4 (split; · exact ⟨rfl, rfl, rfl, rfl, fun _ _ => rfl⟩)
  split
  · exact keepsCookie_of_macs rfl rfl fun _ _ => rfl
  · exact keepsCookie_of_macs rfl rfl fun _ _ => rfl

private theorem createResponse_keepsCookie {c : Crypto} {p : Platform} {peer : WgPeer} :
    peer.KeepsCookie (noiseHandshakeCreateResponse c p peer).2 := by
  unfold noiseHandshakeCreateResponse
  simp only
  iterate 4 (split; · exact ⟨rfl, rfl, rfl, rfl, id⟩)
  split
  · exact keepsCookie_of_macs rfl rfl id
  · exact keepsCookie_of_macs rfl rfl id

/-- A change that leaves the cookie alone, and the initiation kept for another send unless it
forgets it. -/
structure WgPeer.KeepsMac1 (peer after : WgPeer) : Prop where
  identity : after.staticIdentity = peer.staticIdentity
  cookie : after.cookie = peer.cookie
  last : after.hasLastInitiation = true →
    peer.hasLastInitiation = true ∧ after.lastInitiation = peer.lastInitiation

theorem WgPeer.KeepsMac1.trans {first second third : WgPeer} (h₁ : first.KeepsMac1 second)
    (h₂ : second.KeepsMac1 third) : first.KeepsMac1 third :=
  ⟨h₂.identity.trans h₁.identity, h₂.cookie.trans h₁.cookie, fun hlast =>
    ⟨(h₁.last (h₂.last hlast).1).1, (h₂.last hlast).2.trans (h₁.last (h₂.last hlast).1).2⟩⟩

theorem WgPeer.KeepsMac1.keepsCookie (h : peer.KeepsMac1 after) : peer.KeepsCookie after := by
  refine ⟨h.identity, by rw [h.cookie], by rw [h.cookie], by rw [h.cookie], fun htyped hlast => ?_⟩
  rw [(h.last hlast).2]
  exact htyped (h.last hlast).1

theorem keepsMac1_refl {peer : WgPeer} : peer.KeepsMac1 peer :=
  ⟨rfl, rfl, fun hlast => ⟨hlast, rfl⟩⟩

private theorem consumeIncomingPacket_keepsMac1 {packet : List UInt8}
    {outcome : HandshakePacketOutcome}
    {after : WgDevice} (hpacket : inspectMessageType packet ≠ .ok .cookieReply)
    (h : noiseHandshakeConsumeIncomingPacket c p packet device = (outcome, after)) :
    device.peer.KeepsMac1 after.peer := by
  cases consumeIncomingPacket_read h with
  | nothing => exact keepsMac1_refl
  | initiation message peer hpeer =>
    obtain ⟨_, _, _, -, -, rfl⟩ := consumeInitiation_writes hpeer
    exact ⟨rfl, rfl, fun hlast => ⟨hlast, rfl⟩⟩
  | response message peer hpeer =>
    obtain ⟨_, _, _, rfl⟩ := consumeResponse_writes hpeer
    exact ⟨rfl, rfl, fun hlast => ⟨hlast, rfl⟩⟩
  | cookieReply reply accepted peer htype => exact absurd htype hpacket

theorem beginSession_keepsMac1 {device derived : WgDevice}
    (h : noiseHandshakeBeginSession c p device = (true, derived)) :
    device.peer.KeepsMac1 derived.peer := by
  unfold noiseHandshakeBeginSession at h
  simp only at h
  iterate 3 (split at h; · cases h)
  cases h
  unfold WgPeer.installKeypair
  split
  · split
    · exact ⟨rfl, rfl, fun hlast => ⟨hlast, rfl⟩⟩
    · exact ⟨rfl, rfl, fun hlast => ⟨hlast, rfl⟩⟩
  · exact ⟨rfl, rfl, fun hlast => ⟨hlast, rfl⟩⟩

private theorem setKeypairForSlot_keepsMac1 (device : WgDevice) (slot : WgIndexSlot)
    (keypair : NoiseKeypair) :
    device.peer.KeepsMac1 (device.setKeypairForSlot slot keypair).peer := by
  cases slot with
  | handshake => exact keepsMac1_refl
  | currentKeypair | nextKeypair | previousKeypair => exact ⟨rfl, rfl, fun hlast => ⟨hlast, rfl⟩⟩

private theorem promoteNextKeypair_keepsMac1 {device : WgDevice} :
    device.peer.KeepsMac1 device.promoteNextKeypair.2.peer := by
  unfold WgDevice.promoteNextKeypair
  split
  · exact keepsMac1_refl
  · exact ⟨rfl, rfl, fun hlast => ⟨hlast, rfl⟩⟩

private theorem consumeTransportData_keepsMac1 {now : MonotonicTime} {packet : List UInt8}
    {device : WgDevice} {capacity : Nat} : device.peer.KeepsMac1
      (noiseConsumeIncomingTransportDataPacket c now packet device capacity).2.peer := by
  obtain ⟨_, -, hafter⟩ | ⟨data, keypair, window, -, -, -, -, written, hwritten, hafter⟩ :=
    consumeIncomingTransportDataPacket_spec (show
      noiseConsumeIncomingTransportDataPacket c now packet device capacity = (_, _) from
        Prod.mk.eta.symm)
  · rw [hafter]
    exact keepsMac1_refl
  · have hwrite := setKeypairForSlot_keepsMac1 device data.slot
      { keypair with receiveReplayWindow := window }
    rw [← hwritten] at hwrite
    obtain ⟨-, hafter⟩ | ⟨-, hafter⟩ := hafter
    · rw [hafter]
      exact hwrite
    · rw [hafter]
      exact hwrite.trans promoteNextKeypair_keepsMac1

end Messages

end WireguardNx.Wireguard

namespace WireguardNx.Runtime

open Wireguard List

variable {source : Endpoint} {now : MonotonicTime}

/-! ## Runs of an initiator -/

/-- What a device goes through that neither builds a handshake message nor reads a cookie reply. -/
inductive QuietOp (c : Crypto) : WgDevice → WgDevice → Prop
  | consume (p : Platform) (device : WgDevice) (packet : List UInt8)
      (h : inspectMessageType packet ≠ .ok .cookieReply) :
      QuietOp c device (noiseHandshakeConsumeIncomingPacket c p packet device).2
  | judge (p : Platform) (device : WgDevice) (packet : List UInt8) (source : Endpoint)
      (now : MonotonicTime) :
      QuietOp c device (noiseHandshakeAdmitResponderPacket c p device packet source now).2
  | confirm (device : WgDevice) :
      QuietOp c device { device with peer := confirmResponderSession device.peer }
  | receive (now : MonotonicTime) (device : WgDevice) (packet : List UInt8) (capacity : Nat) :
      QuietOp c device (noiseConsumeIncomingTransportDataPacket c now packet device capacity).2
  | send (device : WgDevice) (currentKeypair : NoiseKeypair) :
      QuietOp c device { device with peer := { device.peer with currentKeypair } }
  | queue (device : WgDevice) (queue : InnerPacketQueue peerStagedPacketCapacity) :
      QuietOp c device { device with peer := { device.peer with stagedOutboundPackets := queue } }
  | time (device : WgDevice) (timers : WgTimers) :
      QuietOp c device { device with peer := { device.peer with timers } }
  | derive (p : Platform) (device derived : WgDevice) (h : DeriveOp c p device derived) :
      QuietOp c device derived
  | zero (device : WgDevice) :
      QuietOp c device
        (WgDevice.clearIndexRegistry { device with peer := device.peer.zeroKeyMaterial })
  | scrub (device : WgDevice) :
      QuietOp c device (WgDevice.clearIndexRegistry { device with
        peer := (device.peer.clearStagedOutboundPackets .cleared).scrubTransientState })

/-- What builds handshake messages. -/
inductive BuildOp (c : Crypto) (p : Platform) : WgDevice → WgDevice → Prop
  | start (device : WgDevice) : BuildOp c p device (startHandshake c p device).2
  | retry (device : WgDevice) : BuildOp c p device (handleHandshakeRetryTimer c p device).2
  | respond (device : WgDevice) :
      BuildOp c p device { device with peer := (noiseHandshakeCreateResponse c p device.peer).2 }

/-- A cookie reply is read. -/
inductive ReplyOp (c : Crypto) (p : Platform) : WgDevice → WgDevice → Prop
  | read (device : WgDevice) (packet : List UInt8)
      (h : inspectMessageType packet = .ok .cookieReply) :
      ReplyOp c p device (noiseHandshakeConsumeIncomingPacket c p packet device).2

/-- The devices of peers that may start handshakes: a configured peer, and then anything the runtime
lets the protocol do. -/
def initiators (c : Crypto) : Machine WgDevice where
  start device := ∃ key text psk interval peer,
    WgPeer.initializePeer c key text psk interval = some peer ∧
      device = { WgDevice.reset with peer, hasPeer := true }
  step device after :=
    QuietOp c device after ∨ ∃ p, BuildOp c p device after ∨ ReplyOp c p device after

/-- A handshake message with its type, its sender index and its bytes, and the device after it was
built. -/
inductive Builds (c : Crypto) (p : Platform) (device : WgDevice) :
    MessageType → UInt32 → List UInt8 → WgDevice → Prop
  | start {built : WgDevice} {bytes : List UInt8}
      (h : startHandshake c p device = (.sendInitiation, built))
      (hbytes : serializeHandshakeInitiation built.peer.lastInitiation = .ok bytes) :
      Builds c p device .handshakeInitiation built.peer.lastInitiation.senderIndex bytes built
  | retry {built : WgDevice} {bytes : List UInt8}
      (h : handleHandshakeRetryTimer c p device = (.sendInitiation, built))
      (hbytes : serializeHandshakeInitiation built.peer.lastInitiation = .ok bytes) :
      Builds c p device .handshakeInitiation built.peer.lastInitiation.senderIndex bytes built
  | respond {message : MessageHandshakeResponse} {peer : WgPeer} {bytes : List UInt8}
      (h : noiseHandshakeCreateResponse c p device.peer = (some message, peer))
      (hbytes : serializeHandshakeResponse message = .ok bytes) :
      Builds c p device .handshakeResponse message.senderIndex bytes { device with peer }

/-- A step while a reply to a message is waited for: the message's index stays registered and no
other message is built.  A cookie reply that is read in between computes the MACs of an initiation
that is kept anew, so that a response is still answered after it only if none is kept. -/
inductive WaitStep (c : Crypto) (type : MessageType) (index : UInt32) : WgDevice → WgDevice → Prop
  | quiet {device after : WgDevice} (h : QuietOp c device after)
      (hregistered : (after.lookupIndexSlot index).isSome = true) :
      WaitStep c type index device after
  | reply {p : Platform} {device after : WgDevice} (h : ReplyOp c p device after)
      (hkept : device.peer.hasLastInitiation = true → type = .handshakeInitiation) :
      WaitStep c type index device after

section Steps

variable {c : Crypto} {p : Platform} {device after : WgDevice}

/-- A quiet step leaves the cookie alone, or forgets it together with every index. -/
theorem QuietOp.keeps (h : QuietOp c device after) : device.peer.KeepsMac1 after.peer ∨
      (after.peer.staticIdentity = device.peer.staticIdentity ∧ after.peer.cookie = .reset ∧
        after.peer.hasLastInitiation = false ∧ ∀ index, after.lookupIndexSlot index = none) := by
  cases h with
  | consume p _ packet hpacket => exact .inl (consumeIncomingPacket_keepsMac1 hpacket Prod.mk.eta.symm)
  | judge p _ packet source now =>
    obtain ⟨responderCookie, hcookie⟩ :=
      admitResponderPacket_cookie (c := c) (p := p) packet source now device
    rw [hcookie]
    exact .inl keepsMac1_refl
  | confirm | zero => exact .inl ⟨rfl, rfl, nofun⟩
  | receive now _ packet capacity =>
    exact .inl consumeTransportData_keepsMac1
  | send | queue | time => exact .inl ⟨rfl, rfl, fun hlast => ⟨hlast, rfl⟩⟩
  | derive p _ _ hderive =>
    cases hderive with
    | responder hbegin => exact .inl (beginSession_keepsMac1 hbegin)
    | initiator hbegin =>
      exact .inl ((beginSession_keepsMac1 hbegin).trans ⟨rfl, rfl, nofun⟩)
  | scrub =>
    refine .inr ⟨rfl, rfl, rfl, fun index => ?_⟩
    unfold WgDevice.lookupIndexSlot
    split
    · rfl
    · rfl

/-- Building a message changes the cookie only by the `mac1` it remembers. -/
theorem createHandshakeInitiation_keepsCookie (device : WgDevice) :
    device.peer.KeepsCookie (device.createHandshakeInitiation c p).2.peer := by
  unfold WgDevice.createHandshakeInitiation
  split
  · exact ⟨rfl, rfl, rfl, rfl, id⟩
  simp only
  split
  · exact ⟨rfl, rfl, rfl, rfl, id⟩
  · have hkeeps := createInitiation_keepsCookie c p { device.peer with
      handshake := { device.peer.handshake with
        localIndex := device.allocateIndex p, remoteIndex := 0 } }
    exact ⟨hkeeps.identity, hkeeps.value, hkeeps.valid, hkeeps.birthTime, hkeeps.typed⟩

theorem prepareFreshInitiation_keepsCookie (device : WgDevice) (beginSequence : Bool) :
    device.peer.KeepsCookie (prepareFreshInitiation c p device beginSequence).2.peer := by
  have hkeeps := createHandshakeInitiation_keepsCookie (c := c) (p := p) device
  unfold prepareFreshInitiation
  split
  · rename_i created hcreate
    rw [hcreate] at hkeeps
    exact hkeeps
  · rename_i created hcreate
    rw [hcreate] at hkeeps
    simp only
    split
    · exact ⟨hkeeps.identity, hkeeps.value, hkeeps.valid, hkeeps.birthTime, hkeeps.typed⟩
    · exact hkeeps

theorem BuildOp.keepsCookie (h : BuildOp c p device after) :
    device.peer.KeepsCookie after.peer := by
  cases h with
  | start =>
    unfold startHandshake
    split
    · exact keepsMac1_refl.keepsCookie
    · exact prepareFreshInitiation_keepsCookie device true
  | retry =>
    generalize hretry : handleHandshakeRetryTimer c p device = retried
    obtain ⟨action, after⟩ := retried
    obtain ⟨-, rfl, -⟩ | ⟨-, -, rfl⟩ | ⟨-, handshakeRetry, hfresh⟩ :=
      handleHandshakeRetryTimer_cases hretry
    · exact keepsMac1_refl.keepsCookie
    · exact ⟨rfl, rfl, rfl, rfl, nofun⟩
    · have hkeeps := prepareFreshInitiation_keepsCookie (c := c) (p := p)
        { device with peer := { device.peer with handshakeRetry } } false
      rw [hfresh] at hkeeps
      exact ⟨hkeeps.identity, hkeeps.value, hkeeps.valid, hkeeps.birthTime, hkeeps.typed⟩
  | respond => exact createResponse_keepsCookie

variable {type : MessageType} {built : WgDevice} {index : UInt32}

theorem prepareFreshInitiation_signs {beginSequence : Bool}
    (h : prepareFreshInitiation c p device beginSequence = (.sendInitiation, built)) :
    built.peer.lastInitiation.type = MessageType.handshakeInitiation.word ∧
      device.peer.Signs c p built.peer built.peer.lastInitiation.body
        built.peer.lastInitiation.macs := by
  unfold prepareFreshInitiation at h
  split at h
  · cases h
  rename_i created hcreate
  have hsigned : created.peer.lastInitiation.type = MessageType.handshakeInitiation.word ∧
      device.peer.Signs c p created.peer created.peer.lastInitiation.body
        created.peer.lastInitiation.macs := by
    unfold WgDevice.createHandshakeInitiation at hcreate
    split at hcreate
    · cases hcreate
    simp only at hcreate
    split at hcreate
    · cases hcreate
    obtain ⟨hok, rfl⟩ := Prod.mk.inj hcreate
    obtain ⟨htype, -, hsigns⟩ := createInitiation_signs (Prod.ext hok rfl)
    exact ⟨htype, hsigns.valid, hsigns.mac1, hsigns.remembers, hsigns.mac2⟩
  obtain ⟨htype, hsigns⟩ := hsigned
  obtain ⟨-, hbuilt⟩ := Prod.mk.inj h
  split at hbuilt
  · subst hbuilt
    exact ⟨htype, hsigns.valid, hsigns.mac1, hsigns.remembers, hsigns.mac2⟩
  · subst hbuilt
    exact ⟨htype, hsigns⟩

/-- The operation behind a message that was built. -/
theorem Builds.buildOp {bytes : List UInt8}
    (h : Builds c p device type index bytes built) : BuildOp c p device built := by
  cases h with
  | start hstart _ =>
    have hbuilt : (startHandshake c p device).2 = built := congrArg Prod.snd hstart
    exact hbuilt ▸ BuildOp.start device
  | retry hretry _ =>
    have hbuilt : (handleHandshakeRetryTimer c p device).2 = built := congrArg Prod.snd hretry
    exact hbuilt ▸ BuildOp.retry device
  | @respond message peer _ hrespond _ =>
    have hpeer : (noiseHandshakeCreateResponse c p device.peer).2 = peer :=
      congrArg Prod.snd hrespond
    exact hpeer ▸ BuildOp.respond device

/-- Every message that is built carries MACs of the receiver and of the cookie. -/
theorem Builds.signs {bytes : List UInt8} (h : Builds c p device type index bytes built) :
    ∃ body macs, Framed bytes index body macs.mac1 macs.mac2 ∧
      device.peer.Signs c p built.peer body macs ∧
      (type = .handshakeInitiation → built.peer.lastInitiation.body = body) := by
  cases h with
  | start hstart hbytes =>
    unfold startHandshake at hstart
    split at hstart
    · cases hstart
    obtain ⟨htype, hsigns⟩ := prepareFreshInitiation_signs hstart
    exact ⟨_, _, .initiation htype hbytes, hsigns, fun _ => rfl⟩
  | retry hretry hbytes =>
    obtain ⟨hno, -⟩ | ⟨hno, -⟩ | ⟨-, handshakeRetry, hfresh⟩ :=
      handleHandshakeRetryTimer_cases hretry
    · cases hno
    · cases hno
    obtain ⟨htype, hsigns⟩ := prepareFreshInitiation_signs hfresh
    exact ⟨_, _, .initiation htype hbytes,
      ⟨hsigns.valid, hsigns.mac1, hsigns.remembers, hsigns.mac2⟩, fun _ => rfl⟩
  | respond hrespond hbytes =>
    obtain ⟨htype, hsigns⟩ := createResponse_signs hrespond
    exact ⟨_, _, .response htype hbytes, hsigns, nofun⟩

/-! ## Waiting for a reply -/

/-- The device remembers the `mac1` of a message, and would compute the same for an initiation that
it keeps for another send. -/
structure AwaitsReply (c : Crypto) (type : MessageType) (mac1 : Bytes 16)
    (remoteStatic : NoiseKey) (device : WgDevice) : Prop where
  remote : device.peer.staticIdentity.remoteStatic = remoteStatic
  asked : device.peer.cookie.hasLastMac1 = true
  last : device.peer.cookie.lastMac1 = mac1
  typed : device.peer.KeepsTyped
  again : type = .handshakeInitiation → device.peer.hasLastInitiation = true →
    mac1Of c device.peer.lastInitiation.body remoteStatic.bytes = mac1

private theorem consumeCookieReply_awaits {mac1 : Bytes 16} {remoteStatic : NoiseKey}
    (h : AwaitsReply c type mac1 remoteStatic device) {reply : MessageHandshakeCookie}
    (hkept : device.peer.hasLastInitiation = true → type = .handshakeInitiation) :
    AwaitsReply c type mac1 remoteStatic
      { device with peer := (noiseHandshakeConsumeCookieReply c p reply device).2 } := by
  unfold noiseHandshakeConsumeCookieReply
  simp only
  split
  · exact h
  rename_i hvalid
  rw [Bool.not_eq_false] at hvalid
  iterate 5 (split; · exact h)
  rename_i value _
  by_cases hlast : device.peer.hasLastInitiation
  · -- the MACs of the initiation are computed anew, and the first of them is the one it had
    obtain ⟨mac2, hmacs⟩ := applyOutgoingMacs_spec (c := c) p
      device.peer.lastInitiation.serializeWith (serializeWith_initiation (h.typed hlast)) hvalid
      { device.peer.cookie with value, valid := true, birthTime := p.clock .cookieBirth }
    rw [if_pos hlast, hmacs]
    have hsame := h.again (hkept hlast) hlast
    rw [← h.remote] at hsame
    exact ⟨h.remote, rfl, hsame, h.typed, h.again⟩
  · rw [if_neg hlast]
    exact ⟨h.remote, h.asked, h.last, h.typed, h.again⟩

/-- A cookie reply reaches the peer if it parses. -/
theorem ReplyOp.replies (h : ReplyOp c p device after) : after = device ∨ ∃ reply,
      after = { device with peer := (noiseHandshakeConsumeCookieReply c p reply device).2 } := by
  cases h with
  | read packet hpacket =>
    unfold noiseHandshakeConsumeIncomingPacket
    rw [hpacket]
    simp only
    split
    · exact .inl rfl
    rename_i reply _
    right
    refine ⟨reply, ?_⟩
    split
    · rename_i hcons
      rw [hcons]
    · rename_i hcons
      rw [hcons]

theorem WaitStep.awaits {mac1 : Bytes 16}
    {remoteStatic : NoiseKey} (h : WaitStep c type index device after)
    (hdev : AwaitsReply c type mac1 remoteStatic device) :
    AwaitsReply c type mac1 remoteStatic after := by
  cases h with
  | quiet hquiet hregistered =>
    obtain hkeeps | ⟨-, -, -, hforgot⟩ := hquiet.keeps
    · refine ⟨?_, ?_, ?_, hkeeps.keepsCookie.typed hdev.typed, fun htype hlast => ?_⟩
      · rw [hkeeps.identity]
        exact hdev.remote
      · rw [hkeeps.cookie]
        exact hdev.asked
      · rw [hkeeps.cookie]
        exact hdev.last
      · rw [(hkeeps.last hlast).2]
        exact hdev.again htype (hkeeps.last hlast).1
    · rw [hforgot index] at hregistered
      cases hregistered
  | reply hreply hkept =>
    obtain rfl | ⟨reply, rfl⟩ := hreply.replies
    · exact hdev
    · exact consumeCookieReply_awaits hdev hkept

private theorem consumeCookieReply_typed {reply : MessageHandshakeCookie}
    (h : device.peer.KeepsTyped) :
    (noiseHandshakeConsumeCookieReply c p reply device).2.KeepsTyped := by
  generalize hreply : noiseHandshakeConsumeCookieReply c p reply device = replied
  obtain ⟨_, _, hafter⟩ := consumeCookieReply_writes hreply
  rw [hafter]
  exact h

/-- An initiator only ever keeps initiations. -/
theorem initiators_typed (h : (initiators c).Reachable device) : device.peer.KeepsTyped := by
  refine h.invariant (P := fun device => device.peer.KeepsTyped) ?_ ?_
  · rintro _ ⟨key, text, psk, interval, peer, hpeer, rfl⟩ hlast
    unfold WgPeer.initializePeer at hpeer
    split at hpeer
    · cases hpeer
    split at hpeer
    · cases hpeer
    · cases hpeer
      cases hlast
  · rintro device after - hdev (hquiet | ⟨p, hbuild | hreply⟩)
    · obtain hkeeps | ⟨-, -, hforgot, -⟩ := hquiet.keeps
      · exact hkeeps.keepsCookie.typed hdev
      · intro hlast
        rw [hforgot] at hlast
        cases hlast
    · exact hbuild.keepsCookie.typed hdev
    · obtain rfl | ⟨reply, rfl⟩ := hreply.replies
      · exact hdev
      · exact consumeCookieReply_typed hdev

/-- Until another reply is read, a cookie that is valid is the one that was received. -/
theorem cookie_of_later {received later : WgDevice}
    (h : Relation.ReflTransGen (fun device after => QuietOp c device after ∨
      ∃ p, BuildOp c p device after) received later) (hvalid : later.peer.cookie.valid) :
    later.peer.cookie.value = received.peer.cookie.value := by
  have hkept : later.peer.cookie.valid →
      later.peer.cookie.value = received.peer.cookie.value := by
    induction h with
    | refl => exact fun _ => rfl
    | tail _ hstep ih =>
      intro hvalid
      obtain hquiet | ⟨p, hbuild⟩ := hstep
      · obtain hkeeps | ⟨-, hreset, -⟩ := hquiet.keeps
        · rw [hkeeps.cookie] at hvalid ⊢
          exact ih hvalid hvalid
        · rw [hreset] at hvalid
          cases hvalid
      · have hkeeps := hbuild.keepsCookie
        rw [hkeeps.valid] at hvalid
        rw [hkeeps.value]
        exact ih hvalid hvalid
  exact hkept hvalid

end Steps

/-! ## Sources -/

theorem port_of_bytes {port other : UInt16} (hhigh : (port >>> 8).toUInt8 = (other >>> 8).toUInt8)
    (hlow : (port &&& 0xFF).toUInt8 = (other &&& 0xFF).toUInt8) : port = other := by
  have hshifted (port : UInt16) : (port >>> 8).toUInt8.toNat = port.toNat / 256 := by
    have hlt : port.toNat / 256 < 2 ^ 8 := by
      have := port.toNat_lt
      omega
    rw [UInt16.toNat_toUInt8, UInt16.toNat_shiftRight, Nat.shiftRight_eq_div_pow]
    exact Nat.mod_eq_of_lt hlt
  have hmasked (port : UInt16) : (port &&& 0xFF).toUInt8.toNat = port.toNat % 256 := by
    have hmask : port.toNat &&& 255 = port.toNat % 256 := Nat.and_two_pow_sub_one_eq_mod _ 8
    rw [UInt16.toNat_toUInt8, UInt16.toNat_and, show (0xFF : UInt16).toNat = 255 from rfl, hmask,
      Nat.mod_mod]
  have hdiv : port.toNat / 256 = other.toNat / 256 := by
    rw [← hshifted, ← hshifted, hhigh]
  have hmod : port.toNat % 256 = other.toNat % 256 := by
    rw [← hmasked, ← hmasked, hlow]
  exact UInt16.toNat_inj.mp (by omega)

/-- The bytes a cookie is computed from tell the source. -/
theorem buildSourceBytes_injective {source other : Endpoint} {bytes : List UInt8}
    (h : buildSourceBytes source = some bytes) (hother : buildSourceBytes other = some bytes) :
    source.family = other.family ∧
      source.address.toList.take (sourceAddressSize source) =
        other.address.toList.take (sourceAddressSize other) ∧ source.port = other.port := by
  unfold buildSourceBytes at h hother
  split at h
  · cases h
  rename_i hsize
  split at hother
  · cases hother
  rename_i hother'
  have hbytes := Option.some.inj (h.trans hother.symm)
  have hlen (endpoint : Endpoint) :
      (endpoint.address.toList.take (sourceAddressSize endpoint)).length =
        sourceAddressSize endpoint := by
    rw [length_take, Vector.toList_length]
    refine Nat.min_eq_left ?_
    unfold sourceAddressSize
    split
    · decide
    · decide
    · decide
  have hsizes : sourceAddressSize source = sourceAddressSize other := by
    have hlengths := congrArg length hbytes
    rw [length_append, length_append, hlen, hlen] at hlengths
    exact Nat.add_right_cancel hlengths
  have hfamily : source.family = other.family := by
    unfold sourceAddressSize at hsize hsizes hother'
    cases hs : source.family with
    | inet | inet6 => cases ho : other.family <;> simp_all
    | unspecified => simp_all
  obtain ⟨haddress, hport⟩ := append_inj hbytes (by rw [hlen, hlen, hsizes])
  simp only [cons.injEq, and_true] at hport
  exact ⟨hfamily, haddress, port_of_bytes hport.1 hport.2⟩

/-! ## The round trip -/

section RoundTrip

variable {c : Crypto} {p : Platform} {device built : WgDevice} {type : MessageType}
  {index : UInt32} {bytes : List UInt8}

/-- A message that was just built is waited for. -/
theorem Builds.awaits (h : Builds c p device type index bytes built)
    (htyped : device.peer.KeepsTyped) :
    ∃ (body : List UInt8) (macs : MessageMacs), Framed bytes index body macs.mac1 macs.mac2 ∧
      AwaitsReply c type macs.mac1 device.peer.staticIdentity.remoteStatic built := by
  obtain ⟨body, macs, hframed, hsigns, hbody⟩ := h.signs
  have hkeeps := h.buildOp.keepsCookie
  refine ⟨body, macs, hframed, ?_, ?_, ?_, hkeeps.typed htyped, fun htype _ => ?_⟩
  · rw [hkeeps.identity]
  · rw [hsigns.remembers]
    rfl
  · rw [hsigns.remembers]
    rfl
  · rw [hbody htype]
    exact hsigns.mac1.symm

/-- A message built with a valid cookie of a source passes the check for that source. -/
theorem Builds.passes (h : Builds c p device type index bytes built)
    (hvalid : device.peer.cookie.isValid (p.clock .cookieCheck))
    {state : ResponderCookieState} {sourceBytes : List UInt8}
    (hsource : buildSourceBytes source = some sourceBytes)
    (hcookie : device.peer.cookie.value = cookieOf c state.secret sourceBytes)
    (hfresh : state.secretFresh now) : checkPacketMac2 c state bytes source now := by
  obtain ⟨body, macs, hframed, hsigns, -⟩ := h.signs
  refine checkPacketMac2_framed hframed hfresh hsource ?_
  rw [hsigns.mac2 hvalid, hcookie]

/-- The round trip of a cookie.  A responder under load answers a message with a cookie reply; the
initiator reads it before it builds another message, while the index of the message is registered
and, if the message is a response and an initiation is kept, before any other cookie reply.  The
reply is accepted, and until the next one
every message that is built while the cookie is valid passes the check of the responder for the
same source, as long as the responder keeps its secret and the secret is not older than
`CookieRefreshTime`.  The cookie belongs to the source: its family, address and port. -/
theorem cookie_round_trip (hc : c.OpensCookies) (hreach : (initiators c).Reachable device)
    (hbuilds : Builds c p device type index bytes built) {waiting : WgDevice}
    (hwait : Relation.ReflTransGen (WaitStep c type index) built waiting)
    (hregistered : (waiting.lookupIndexSlot index).isSome = true)
    {responderPlatform : Platform} {responder responded : WgDevice} {source : Endpoint}
    {now : MonotonicTime} {reply : MessageHandshakeCookie}
    (hkeys : responder.peer.staticIdentity.staticPublic = device.peer.staticIdentity.remoteStatic)
    (hadmitted : noiseHandshakeAdmitResponderPacket c responderPlatform responder bytes source now =
      (.cookieReply reply, responded)) (q : Platform) :
    (noiseHandshakeConsumeCookieReply c q reply waiting).1 = true ∧
      (∀ later, Relation.ReflTransGen (fun device after => QuietOp c device after ∨
          ∃ p, BuildOp c p device after)
          { waiting with peer := (noiseHandshakeConsumeCookieReply c q reply waiting).2 } later →
        ∀ p' type' index' bytes' last, Builds c p' later type' index' bytes' last →
          later.peer.cookie.isValid (p'.clock .cookieCheck) = true →
          ∀ state : ResponderCookieState, state.secret = responded.responderCookie.secret →
            ∀ check, state.secretFresh check = true →
              checkPacketMac2 c state bytes' source check = true) ∧
      ∀ one other sourceBytes, buildSourceBytes one = some sourceBytes →
        buildSourceBytes other = some sourceBytes →
        one.family = other.family ∧
          one.address.toList.take (sourceAddressSize one) =
            other.address.toList.take (sourceAddressSize other) ∧ one.port = other.port := by
  obtain ⟨body, macs, hframed, hbuilt⟩ := hbuilds.awaits (initiators_typed hreach)
  have hwaiting : AwaitsReply c type macs.mac1 device.peer.staticIdentity.remoteStatic waiting := by
    clear hregistered
    induction hwait with
    | refl => exact hbuilt
    | tail _ hstep ih => exact hstep.awaits ih
  have hreplies := admitResponderPacket_replies hframed hadmitted
  rw [hkeys, ← hwaiting.remote] at hreplies
  obtain ⟨hacc, sourceBytes, hsource, hvalue⟩ := consumeCookieReply_accepts (p := q) hc
    hreplies hregistered hwaiting.asked hwaiting.last hwaiting.typed
  refine ⟨hacc, fun later hlater p' type' index' bytes' last hbuilds' hvalid state hsecret
    check hfresh => ?_, fun one other sourceBytes h hother => buildSourceBytes_injective h hother⟩
  have hset : later.peer.cookie.valid = true := by
    simp only [NoiseCookie.isValid, Bool.and_eq_true] at hvalid
    exact hvalid.1.1.1
  refine hbuilds'.passes hvalid hsource ?_ hfresh
  rw [cookie_of_later hlater hset, hsecret]
  exact hvalue

end RoundTrip

/-! ## Samples -/

theorem Crypto.transparent_opensCookies : Crypto.transparent.OpensCookies := by
  intro plaintext ciphertext tag aad key nonce h
  obtain ⟨rfl, rfl⟩ := Prod.mk.inj (Option.some.inj h)
  exact if_pos rfl

/-- A device with its private key of equal bytes and the encoded key of its peer. -/
def sampleConfigured (own : UInt8) (remote : List Char) : WgDevice :=
  (WgDevice.initFromParsedConfig .transparent ⟨remote, 0⟩ (.of (List.Vector.replicate 32 own))
    none).2

/-- The initiator of the sample exchange, whose responder is `sampleConfigured 2 encodedOnes`. -/
theorem sampleConfigured_reachable :
    (initiators .transparent).Reachable (sampleConfigured 1 encodedTwos) := by
  have hok : (WgDevice.initFromParsedConfig .transparent ⟨encodedTwos, 0⟩
      (.of (List.Vector.replicate 32 1)) none).1 := by decide +kernel
  refine .start ⟨.of (List.Vector.replicate 32 1), encodedTwos, none, 0, ?_⟩
  unfold sampleConfigured
  unfold WgDevice.initFromParsedConfig at hok ⊢
  split at hok
  · cases hok
  rename_i hpresent
  rw [if_neg hpresent]
  split at hok
  · cases hok
  rename_i peer hpeer
  rw [hpeer]
  exact ⟨peer, rfl, rfl⟩

/-- The last initiation of a device, as it is sent. -/
def sampleBytes (device : WgDevice) : List UInt8 :=
  (serializeHandshakeInitiation device.peer.lastInitiation).toOption.getD []

/-- What the responder answers to the last of some copies of a packet that arrive at one time. -/
def sampleChallenge (source : Endpoint) (now : MonotonicTime) (packet : List UInt8)
    (device : WgDevice) : Nat → Option MessageHandshakeCookie × WgDevice
  | 0 => (none, device)
  | copies + 1 =>
    match noiseHandshakeAdmitResponderPacket .transparent (.constant now 3)
        (sampleChallenge source now packet device copies).2 packet source now with
    | (.cookieReply reply, device) => (some reply, device)
    | (_, device) => (none, device)

theorem sampleChallenge_admits {packet : List UInt8} {device : WgDevice} {copies : Nat}
    {reply : MessageHandshakeCookie}
    (h : (sampleChallenge source now packet device (copies + 1)).1 = some reply) :
    noiseHandshakeAdmitResponderPacket .transparent (.constant now 3)
      (sampleChallenge source now packet device copies).2 packet source now =
        (.cookieReply reply, (sampleChallenge source now packet device (copies + 1)).2) := by
  rw [sampleChallenge] at h ⊢
  split at h
  · rename_i hadmitted
    cases h
    rw [hadmitted]
  · cases h

/-- The initiator after its first initiation, at ten seconds. -/
def sampleAsked : WgDevice :=
  (startHandshake .transparent (.constant (seconds 10) 7)
    (sampleConfigured 1 encodedTwos)).2

theorem sampleAsked_reachable : (initiators .transparent).Reachable sampleAsked :=
  .step sampleConfigured_reachable (.inr ⟨_, .inl (.start _)⟩)

theorem sampleAsked_builds :
    Builds .transparent (.constant (seconds 10) 7) (sampleConfigured 1 encodedTwos)
      .handshakeInitiation sampleAsked.peer.lastInitiation.senderIndex (sampleBytes sampleAsked)
      sampleAsked := by
  have hstart : (startHandshake .transparent (.constant (seconds 10) 7)
      (sampleConfigured 1 encodedTwos)).1 = .sendInitiation ∧
      serializeHandshakeInitiation sampleAsked.peer.lastInitiation =
        .ok (sampleBytes sampleAsked) := by decide +kernel
  exact .start (Prod.ext hstart.1 rfl) hstart.2

variable {p : Platform}

theorem sampleBytes_retried {device : WgDevice}
    (h : (handleHandshakeRetryTimer .transparent p device).1 = .sendInitiation) :
    Builds .transparent p device .handshakeInitiation
      (handleHandshakeRetryTimer .transparent p device).2.peer.lastInitiation.senderIndex
      (sampleBytes (handleHandshakeRetryTimer .transparent p device).2)
      (handleHandshakeRetryTimer .transparent p device).2 := by
  refine .retry (Prod.ext h rfl) ?_
  have htype : (handleHandshakeRetryTimer .transparent p device).2.peer.lastInitiation.type =
      MessageType.handshakeInitiation.word := by
    unfold handleHandshakeRetryTimer at h ⊢
    split at h
    · cases h
    · cases h
    · exact (prepareFreshInitiation_signs (Prod.ext h rfl)).1
  unfold sampleBytes serializeHandshakeInitiation
  rw [htype]
  rfl

/-- The answer of the responder to some copies of that initiation. -/
def sampleFirstAnswer (copies : Nat) : Option MessageHandshakeCookie × WgDevice :=
  sampleChallenge sampleEndpoint (seconds 10) (sampleBytes sampleAsked)
    (sampleConfigured 2 encodedOnes) copies

/-- The sixth copy of an initiation is answered with a cookie, and the initiator accepts it. -/
theorem cookie_round_trip_sample : ∃ reply responded,
    noiseHandshakeAdmitResponderPacket .transparent (.constant (seconds 10) 3)
      (sampleFirstAnswer 5).2 (sampleBytes sampleAsked) sampleEndpoint (seconds 10) =
        (.cookieReply reply, responded) ∧
    (noiseHandshakeConsumeCookieReply .transparent (.constant (seconds 10) 7) reply
      sampleAsked).1 = true := by
  have hanswer : (sampleFirstAnswer 6).1.isSome = true := by decide +kernel
  obtain ⟨reply, hreply⟩ := Option.isSome_iff_exists.mp hanswer
  have hadmitted := sampleChallenge_admits hreply
  exact ⟨reply, _, hadmitted, (cookie_round_trip Crypto.transparent_opensCookies
    sampleConfigured_reachable sampleAsked_builds .refl (by decide +kernel) (by decide +kernel)
    hadmitted (.constant (seconds 10) 7)).1⟩

/-- A reply to a message of a reachable initiator, and the device that is to read it: no other
message was built since, and the index of the message is registered. -/
def Challenged (c : Crypto) (type : MessageType) (waiting : WgDevice) (source : Endpoint)
    (reply : MessageHandshakeCookie) (responded : WgDevice) : Prop :=
  ∃ p device index bytes built, (initiators c).Reachable device ∧
    Builds c p device type index bytes built ∧
    Relation.ReflTransGen (fun device after => QuietOp c device after ∨
      ∃ p, ReplyOp c p device after) built waiting ∧
    (waiting.lookupIndexSlot index).isSome = true ∧
    ∃ q responder now,
      responder.peer.staticIdentity.staticPublic = device.peer.staticIdentity.remoteStatic ∧
      noiseHandshakeAdmitResponderPacket c q responder bytes source now =
        (.cookieReply reply, responded)

/-- A message that is built with a valid cookie, and refused for a source at some time. -/
def Refused (c : Crypto) (later : WgDevice) (source : Endpoint) (state : ResponderCookieState)
    (check : MonotonicTime) : Prop :=
  ∃ p type index bytes last, Builds c p later type index bytes last ∧
    later.peer.cookie.isValid (p.clock .cookieCheck) = true ∧
    checkPacketMac2 c state bytes source check = false

/-- Whether the next initiation of a device is refused although its cookie is valid. -/
def sampleRefuses (p : Platform) (later : WgDevice) (source : Endpoint)
    (state : ResponderCookieState) (check : MonotonicTime) : Bool :=
  let (action, last) := handleHandshakeRetryTimer .transparent p later
  decide (action = .sendInitiation) && later.peer.cookie.isValid (p.clock .cookieCheck) &&
    !checkPacketMac2 .transparent state (sampleBytes last) source check

theorem refused_of_sampleRefuses {later : WgDevice} {state : ResponderCookieState}
    {check : MonotonicTime} (h : sampleRefuses p later source state check) :
    Refused .transparent later source state check := by
  simp only [sampleRefuses, Bool.and_eq_true, decide_eq_true_eq, Bool.not_eq_true'] at h
  exact ⟨p, _, _, _, _, sampleBytes_retried h.1.1, h.1.2, h.2⟩

def sampleRead (now : MonotonicTime) (device : WgDevice) (reply : MessageHandshakeCookie) :
    WgDevice :=
  { device with peer :=
    (noiseHandshakeConsumeCookieReply .transparent (.constant now 7) reply device).2 }

/-- The initiator after its second initiation, at a hundred seconds. -/
def sampleAskedAgain : WgDevice :=
  (handleHandshakeRetryTimer .transparent (.constant (seconds 100) 7) sampleAsked).2

/-- The answer to some copies of the second initiation, of a responder that answered the first one
already. -/
def sampleLateAnswer (copies : Nat) : Option MessageHandshakeCookie × WgDevice :=
  sampleChallenge sampleEndpoint (seconds 100) (sampleBytes sampleAskedAgain)
    (sampleFirstAnswer 6).2 copies

/-- A responder that has not refreshed its secret refuses a message whose cookie is valid: at 131
seconds its secret of the tenth second is too old, the cookie of the hundredth is not. -/
theorem cookie_outlives_secret : ∃ reply responded,
    Challenged .transparent .handshakeInitiation sampleAskedAgain sampleEndpoint reply responded ∧
    Refused .transparent (sampleRead (seconds 100) sampleAskedAgain reply) sampleEndpoint
      responded.responderCookie (seconds 131) := by
  have hfacts : (handleHandshakeRetryTimer .transparent (.constant (seconds 100) 7)
        sampleAsked).1 = .sendInitiation ∧
      (sampleAskedAgain.lookupIndexSlot
        sampleAskedAgain.peer.lastInitiation.senderIndex).isSome = true ∧
      (sampleLateAnswer 5).2.peer.staticIdentity.staticPublic =
        sampleAsked.peer.staticIdentity.remoteStatic := by decide +kernel
  have hlate : ((sampleLateAnswer 6).1.any fun reply =>
      sampleRefuses (.constant (seconds 131) 7) (sampleRead (seconds 100) sampleAskedAgain reply)
        sampleEndpoint (sampleLateAnswer 6).2.responderCookie (seconds 131)) = true := by
    decide +kernel
  obtain ⟨reply, hreply, hlate⟩ := (Option.any_eq_true _ _).mp hlate
  exact ⟨reply, (sampleLateAnswer 6).2, ⟨_, sampleAsked, _, _, _, sampleAsked_reachable,
    sampleBytes_retried hfacts.1, .refl, hfacts.2.1, _, _, _, hfacts.2.2,
    sampleChallenge_admits hreply⟩, refused_of_sampleRefuses hlate⟩

/-- The responder of the sample exchange with an initiation of its own. -/
def sampleAsking : WgDevice :=
  (startHandshake .transparent (.constant (seconds 10) 5)
    (sampleConfigured 2 encodedOnes)).2

/-- The initiator, which keeps its initiation, once it has read that of the responder. -/
def sampleCrossed : WgDevice :=
  (noiseHandshakeConsumeIncomingPacket .transparent (.constant (seconds 10) 9)
    (sampleBytes sampleAsking) sampleAsked).2

def sampleAnswerBytes : List UInt8 :=
  ((noiseHandshakeCreateResponse .transparent (.constant (seconds 10) 9) sampleCrossed.peer).1.bind
    fun message => (serializeHandshakeResponse message).toOption).getD []

/-- The initiator with the response sent. -/
def sampleAnswered : WgDevice :=
  { sampleCrossed with peer := (noiseHandshakeCreateResponse .transparent (.constant (seconds 10) 9)
    sampleCrossed.peer).2 }

def sampleReplyBytes (copies : Nat) : List UInt8 :=
  ((sampleChallenge sampleEndpoint (seconds 10) sampleAnswerBytes sampleAsking copies).1.bind
    fun reply => (serializeHandshakeCookie reply).toOption).getD []

/-- The initiator once it has read the first cookie reply to the response. -/
def sampleOnceInformed : WgDevice :=
  (noiseHandshakeConsumeIncomingPacket .transparent (.constant (seconds 10) 7) (sampleReplyBytes 6)
    sampleAnswered).2

private theorem sampleAnswered_builds {device read : WgDevice} {bytes : List UInt8}
    (h : ((noiseHandshakeCreateResponse .transparent p device.peer).1.any fun message =>
      decide (serializeHandshakeResponse message = .ok bytes) &&
        (read.lookupIndexSlot message.senderIndex).isSome) = true) :
    ∃ index, Builds .transparent p device .handshakeResponse index bytes { device with
        peer := (noiseHandshakeCreateResponse .transparent p device.peer).2 } ∧
      (read.lookupIndexSlot index).isSome = true := by
  obtain ⟨message, hmessage, hfacts⟩ := (Option.any_eq_true _ _).mp h
  simp only [Bool.and_eq_true, decide_eq_true_eq] at hfacts
  exact ⟨message.senderIndex, .respond (Prod.ext hmessage rfl) hfacts.1, hfacts.2⟩

/-- While an initiation is kept, a second reply to a response is refused. -/
theorem second_reply_refused : ∃ reply responded,
    Challenged .transparent .handshakeResponse sampleOnceInformed sampleEndpoint reply responded ∧
    (noiseHandshakeConsumeCookieReply .transparent (.constant (seconds 10) 7) reply
      sampleOnceInformed).1 = false := by
  have hfacts : inspectMessageType (sampleBytes sampleAsking) ≠ .ok .cookieReply ∧
      inspectMessageType (sampleReplyBytes 6) = .ok .cookieReply ∧
      (sampleChallenge sampleEndpoint (seconds 10) sampleAnswerBytes sampleAsking
        6).2.peer.staticIdentity.staticPublic =
          sampleCrossed.peer.staticIdentity.remoteStatic := by decide +kernel
  have hrefused : ((sampleChallenge sampleEndpoint (seconds 10) sampleAnswerBytes sampleAsking
      7).1.any fun reply => !(noiseHandshakeConsumeCookieReply .transparent
        (.constant (seconds 10) 7) reply sampleOnceInformed).1) = true := by decide +kernel
  obtain ⟨reply, hreply, hrefused⟩ := (Option.any_eq_true _ _).mp hrefused
  have hbuilt : ((noiseHandshakeCreateResponse .transparent (.constant (seconds 10) 9)
      sampleCrossed.peer).1.any fun message =>
        decide (serializeHandshakeResponse message = .ok sampleAnswerBytes) &&
        (sampleOnceInformed.lookupIndexSlot message.senderIndex).isSome) = true := by decide +kernel
  obtain ⟨index, hbuilds, hregistered⟩ := sampleAnswered_builds hbuilt
  have hcrossed : (initiators .transparent).Reachable sampleCrossed :=
    .step sampleAsked_reachable (.inl (.consume _ _ _ hfacts.1))
  exact ⟨reply, _, ⟨_, sampleCrossed, index, _, _, hcrossed, hbuilds,
    .single (.inr ⟨_, .read _ _ hfacts.2.1⟩), hregistered, _, _, _, hfacts.2.2,
    sampleChallenge_admits hreply⟩, by simpa using hrefused⟩

def sampleElsewhere : Endpoint := { sampleEndpoint with port := sampleEndpoint.port + 1 }

/-- The answer to copies that come from the other port after that. -/
def sampleMovedAnswer (copies : Nat) : Option MessageHandshakeCookie × WgDevice :=
  sampleChallenge sampleElsewhere (seconds 10) (sampleBytes sampleAsked) (sampleFirstAnswer 6).2
    copies

/-- A reply for another source takes the place of the cookie, and what is signed with it is refused
for the first source, with the secret the same and fresh. -/
theorem next_reply_replaces : ∃ reply responded other moved,
    Challenged .transparent .handshakeInitiation sampleAsked sampleEndpoint reply responded ∧
    Challenged .transparent .handshakeInitiation sampleAsked sampleElsewhere other moved ∧
    moved.responderCookie.secret = responded.responderCookie.secret ∧
    moved.responderCookie.secretFresh (seconds 20) = true ∧
    Refused .transparent (sampleRead (seconds 10) (sampleRead (seconds 10) sampleAsked reply) other)
      sampleEndpoint moved.responderCookie (seconds 20) := by
  have hfacts : (sampleAsked.lookupIndexSlot
        sampleAsked.peer.lastInitiation.senderIndex).isSome = true ∧
      (sampleFirstAnswer 5).2.peer.staticIdentity.staticPublic =
        (sampleConfigured 1 encodedTwos).peer.staticIdentity.remoteStatic ∧
      (sampleMovedAnswer 0).2.peer.staticIdentity.staticPublic =
        (sampleConfigured 1 encodedTwos).peer.staticIdentity.remoteStatic ∧
      (sampleMovedAnswer 1).2.responderCookie.secret =
        (sampleFirstAnswer 6).2.responderCookie.secret ∧
      (sampleMovedAnswer 1).2.responderCookie.secretFresh (seconds 20) = true := by decide +kernel
  have hrefused : ((sampleFirstAnswer 6).1.any fun reply => (sampleMovedAnswer 1).1.any fun other =>
      sampleRefuses (.constant (seconds 20) 7)
        (sampleRead (seconds 10) (sampleRead (seconds 10) sampleAsked reply) other) sampleEndpoint
        (sampleMovedAnswer 1).2.responderCookie (seconds 20)) = true := by decide +kernel
  obtain ⟨hregistered, hkeys, hmovedKeys, hsecret, hfresh⟩ := hfacts
  obtain ⟨reply, hreply, hrefused⟩ := (Option.any_eq_true _ _).mp hrefused
  obtain ⟨other, hother, hrefused⟩ := (Option.any_eq_true _ _).mp hrefused
  exact ⟨reply, (sampleFirstAnswer 6).2, other, (sampleMovedAnswer 1).2,
    ⟨_, _, _, _, _, sampleConfigured_reachable, sampleAsked_builds, .refl, hregistered, _, _, _,
      hkeys, sampleChallenge_admits hreply⟩,
    ⟨_, _, _, _, _, sampleConfigured_reachable, sampleAsked_builds, .refl, hregistered, _, _, _,
      hmovedKeys, sampleChallenge_admits hother⟩, hsecret, hfresh,
      refused_of_sampleRefuses hrefused⟩

/-- What the restrictions of the round trip leave out does fail: a secret that is kept but too
old, a second reply to a response while an initiation is kept, and a reply to the same message from
another source. -/
theorem cookie_round_trip_limits : (∃ waiting source reply responded now check,
      Challenged .transparent .handshakeInitiation waiting source reply responded ∧
      Refused .transparent (sampleRead now waiting reply) source responded.responderCookie check) ∧
    (∃ waiting source reply responded p,
      Challenged .transparent .handshakeResponse waiting source reply responded ∧
      (noiseHandshakeConsumeCookieReply .transparent p reply waiting).1 = false) ∧
    ∃ waiting source reply responded other state now check,
      Challenged .transparent .handshakeInitiation waiting source reply responded ∧
      state.secret = responded.responderCookie.secret ∧ state.secretFresh check = true ∧
      Refused .transparent (sampleRead now (sampleRead now waiting reply) other) source state
        check := by
  obtain ⟨reply, responded, hold⟩ := cookie_outlives_secret
  obtain ⟨second, answered, hsecond⟩ := second_reply_refused
  obtain ⟨first, replied, other, moved, hfirst, -, hnext⟩ := next_reply_replaces
  exact ⟨⟨_, _, reply, responded, _, _, hold⟩, ⟨_, _, second, answered, _, hsecond⟩,
    _, _, first, replied, other, _, _, _, hfirst, hnext⟩

end WireguardNx.Runtime
