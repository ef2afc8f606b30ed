import WireguardNx.Wireguard.Handshake

/-!
# Both ends of a handshake derive the same session

Two peers that know each other's static keys, and share a preshared key or have none, run the two
handshake messages and derive a session each.  What one sends with is what the other receives
with, and each remote index is the other's local one.  Cookies on either side change only `mac2`,
which no receiver of these messages reads.

The primitives are assumed to do what the protocol needs of them and no more: scalar
multiplication commutes and is not zero on public keys, and opening undoes sealing under the same
key, nonce and associated data.  Hashes are arbitrary functions.
-/

namespace WireguardNx.Wireguard

variable {body : List UInt8} {peer : WgPeer}

/-! ## Assumptions on the primitives -/

/-- What the handshake relies on: Diffie-Hellman commutes and is not zero on public keys, and
authenticated encryption succeeds and is undone by decryption. -/
structure Crypto.Agrees (c : Crypto) : Prop where
  comm : ∀ a b : Bytes 32, c.x25519 a (c.x25519PublicKey b) = c.x25519 b (c.x25519PublicKey a)
  nonzero : ∀ a b : Bytes 32, ∃ shared : Bytes 32,
    c.x25519 a (c.x25519PublicKey b) = some shared ∧ shared.isAllZero = false
  encrypt : ∀ {n : Nat} (plaintext : Bytes n) (aad : List UInt8) (key : Bytes 32)
    (nonce : Bytes 12), (c.chacha20poly1305Encrypt plaintext aad key nonce).isSome
  decrypt : ∀ {n : Nat} (plaintext ciphertext : Bytes n) (tag : Bytes 16) (aad : List UInt8)
    (key : Bytes 32) (nonce : Bytes 12),
    c.chacha20poly1305Encrypt plaintext aad key nonce = some (ciphertext, tag) →
      c.chacha20poly1305Decrypt ciphertext tag aad key nonce = some plaintext

theorem Crypto.transparent_agrees : Crypto.transparent.Agrees where
  comm a b := by
    simp only [Crypto.transparent, UInt8.add_comm (byteSum a.toList)]
  nonzero _ _ := ⟨_, rfl, rfl⟩
  encrypt _ _ _ _ := rfl
  decrypt plaintext ciphertext tag aad key nonce h := by
    simp only [Crypto.transparent, Option.some.injEq, Prod.mk.injEq] at h ⊢
    rw [← h.1, if_pos h.2.symm]

/-! ## Mixing -/

section Mixing

variable {c : Crypto}

theorem mixDh_eq {chainingKey privateKey publicKey shared : Bytes 32}
    (hdh : c.x25519 privateKey publicKey = some shared) (hnz : shared.isAllZero = false) :
    mixDh c chainingKey privateKey publicKey = some (kdf2 c shared.toList chainingKey) := by
  simp only [mixDh, hdh, hnz, Bool.false_eq_true, if_false]

theorem mixDh_comm (hc : c.Agrees) (chainingKey a b : Bytes 32) :
    mixDh c chainingKey a (c.x25519PublicKey b) = mixDh c chainingKey b (c.x25519PublicKey a) := by
  unfold mixDh
  rw [hc.comm a b]

/-- Mixing a public key in returns a chaining key and a message key. -/
theorem mixDh_some (hc : c.Agrees) (chainingKey a b : Bytes 32) :
    ∃ r, mixDh c chainingKey a (c.x25519PublicKey b) = some r := by
  obtain ⟨shared, hdh, hnz⟩ := hc.nonzero a b
  exact ⟨_, mixDh_eq hdh hnz⟩

theorem messageEncrypt_some
    (henc : ∀ {n : Nat} (plaintext : Bytes n) (aad : List UInt8) (key : Bytes 32)
      (nonce : Bytes 12), (c.chacha20poly1305Encrypt plaintext aad key nonce).isSome)
    {n : Nat} (plaintext : Bytes n) (key hash : Bytes 32) :
    ∃ r, messageEncrypt c plaintext key hash = some r := by
  obtain ⟨r, hr⟩ := Option.isSome_iff_exists.mp (henc plaintext hash.toList key zeroNonce)
  refine ⟨(r.1.append r.2, mixHash c hash (r.1.append r.2).toList), ?_⟩
  simp only [messageEncrypt, hr]

/-- Opening a sealed message under the same key and transcript returns the plaintext and reaches
the sealer's transcript. -/
theorem messageDecrypt_messageEncrypt (hc : c.Agrees) {n : Nat} {plaintext : Bytes n}
    {key hash newHash : Bytes 32} {ciphertext : Bytes (n + 16)}
    (h : messageEncrypt c plaintext key hash = some (ciphertext, newHash)) :
    messageDecrypt c ciphertext key hash = some (plaintext, newHash) := by
  unfold messageEncrypt at h
  split at h
  · exact absurd h (by simp)
  · rename_i body tag hbody
    simp only [Option.some.injEq, Prod.mk.injEq] at h
    obtain ⟨rfl, rfl⟩ := h
    have hopen := hc.decrypt _ _ _ _ _ _ hbody
    simp only [messageDecrypt, Bytes.first_append, Bytes.last_append, hopen]

end Mixing

/-! ## Message authentication codes -/

section Macs

variable {c : Crypto}

/-- The value `mac1` takes on a message with a given body, for a receiver. -/
def mac1Of (c : Crypto) (body : List UInt8) (remoteStatic : Bytes 32) : Bytes 16 :=
  c.blake2sHash 16 body (c.blake2sHash 32 (mac1KeyLabel ++ remoteStatic.toList) []).toList

/-- `mac1` covers the message without its MACs. -/
theorem computeMac1_body {bytes body : List UInt8} {mac1 mac2 : Bytes 16} {remoteStatic : NoiseKey}
    (hvalid : remoteStatic.valid) (hbytes : bytes = body ++ mac1.toList ++ mac2.toList) :
    computeMac1 c (.ok bytes) remoteStatic = some (mac1Of c body remoteStatic.bytes) := by
  have hlen : bytes.length - 2 * 16 = body.length := by
    rw [hbytes]
    simp only [List.length_append, List.Vector.toList_length]
    omega
  have htake : bytes.take (bytes.length - 2 * 16) = body := by
    rw [hlen, hbytes, List.append_assoc, List.take_left]
  simp only [computeMac1, hvalid, Bool.true_eq_false, if_false, htake, mac1Of]

theorem serializeWith_initiation {message : MessageHandshakeInitiation}
    (htype : message.type = MessageType.handshakeInitiation.word) (macs : MessageMacs) :
    message.serializeWith macs = .ok (message.body ++ macs.mac1.toList ++ macs.mac2.toList) := by
  simp only [MessageHandshakeInitiation.serializeWith, serializeHandshakeInitiation, htype]
  rw [if_neg (by decide)]
  simp only [MessageHandshakeInitiation.body, htype]

theorem serializeWith_response {message : MessageHandshakeResponse}
    (htype : message.type = MessageType.handshakeResponse.word) (macs : MessageMacs) :
    message.serializeWith macs = .ok (message.body ++ macs.mac1.toList ++ macs.mac2.toList) := by
  simp only [MessageHandshakeResponse.serializeWith, serializeHandshakeResponse, htype]
  rw [if_neg (by decide)]
  simp only [MessageHandshakeResponse.body, htype]

/-- Outgoing MACs succeed on a well-typed message, whatever cookie the peer holds, and `mac1` is
the receiver's value.  Only `mac2` and the cookie record depend on the cookie. -/
theorem applyOutgoingMacs_spec (p : Platform)
    (serialize : MessageMacs → Except ParseError (List UInt8))
    (hser : ∀ macs, serialize macs = .ok (body ++ macs.mac1.toList ++ macs.mac2.toList))
    {remoteStatic : NoiseKey} (hvalid : remoteStatic.valid) (cookie : NoiseCookie) :
    ∃ mac2, applyOutgoingMacs c p serialize remoteStatic cookie =
      (true, ⟨mac1Of c body remoteStatic.bytes, mac2⟩,
        cookie.recordLastMac1 (mac1Of c body remoteStatic.bytes)) := by
  have hmac1 : computeMac1 c (serialize .empty) remoteStatic =
      some (mac1Of c body remoteStatic.bytes) := by
    rw [hser]
    exact computeMac1_body hvalid rfl
  unfold applyOutgoingMacs
  rw [hmac1]
  simp only [hser, computeMac2]
  split
  · exact ⟨_, rfl⟩
  · exact ⟨_, rfl⟩

/-- A message that carries its receiver's `mac1` passes the receiver's check. -/
theorem verifyMac1_of_body {bytes body : List UInt8} {mac1 mac2 : Bytes 16} {localStatic : NoiseKey}
    (hvalid : localStatic.valid) (hbytes : bytes = body ++ mac1.toList ++ mac2.toList)
    (hmac1 : mac1 = mac1Of c body localStatic.bytes) :
    verifyMac1 c (.ok bytes) mac1 localStatic := by
  simp only [verifyMac1, computeMac1_body hvalid hbytes, hmac1, decide_true]

end Macs

/-! ## The four message functions -/

section Messages

variable {c : Crypto} {own remote psk : Bytes 32}

/-- A peer that knows its own static key `own`, the other side's public key and the preshared key
(all zero when there is none), with the static-static secret precomputed from them. -/
structure WgPeer.HasIdentity (peer : WgPeer) (c : Crypto) (own remote psk : Bytes 32) : Prop where
  staticPrivate : peer.staticIdentity.staticPrivate = .of own
  staticPublic : peer.staticIdentity.staticPublic = .of (c.x25519PublicKey own)
  remoteStatic : peer.staticIdentity.remoteStatic = .of remote
  presharedKey : peer.staticIdentity.presharedKey.bytes = psk
  precomputed : noisePrecomputeStaticStatic c peer.staticIdentity =
    some peer.handshakeMaterial.precomputedStaticStatic

/-- A freshly initialised peer has the identity it was configured with. -/
theorem initializePeer_hasIdentity {localPrivateKey : NoiseKey} {remotePublicKey : List Char}
    {presharedKey : Option NoiseKey} {interval : UInt16}
    (h : WgPeer.initializePeer c localPrivateKey remotePublicKey presharedKey interval = some peer) :
    ∃ remote, decodeWireGuardKey remotePublicKey = some remote ∧
      peer.HasIdentity c localPrivateKey.bytes remote peer.staticIdentity.presharedKey.bytes := by
  unfold WgPeer.initializePeer at h
  split at h
  · exact absurd h (by simp)
  · rename_i identity hident
    split at h
    · exact absurd h (by simp)
    · rename_i precomputed hpre
      simp only [Option.some.injEq] at h
      subst h
      unfold NoiseStaticIdentity.initFromKeys noiseParsePublicKey at hident
      split at hident
      · exact absurd hident (by simp)
      · cases hdecode : decodeWireGuardKey remotePublicKey with
        | none => simp [hdecode] at hident
        | some remote =>
          simp only [hdecode, Option.map_some, Option.some.injEq] at hident
          subst hident
          exact ⟨remote, rfl, rfl, rfl, rfl, rfl, hpre⟩

theorem WgPeer.HasIdentity.precomputed_of (h : peer.HasIdentity c own remote psk) :
    ∃ shared, c.x25519 own remote = some shared ∧ shared.isAllZero = false ∧
      peer.handshakeMaterial.precomputedStaticStatic = .of shared := by
  have hpre := h.precomputed
  unfold noisePrecomputeStaticStatic at hpre
  rw [h.staticPrivate, h.remoteStatic] at hpre
  simp only [NoiseKey.of_valid, NoiseKey.of_bytes, Bool.true_eq_false, or_self, if_false] at hpre
  split at hpre
  · exact absurd hpre (by simp)
  · rename_i shared hshared
    split at hpre
    · exact absurd hpre (by simp)
    · rename_i hnz
      simp only [Option.some.injEq] at hpre
      exact ⟨shared, hshared, by simpa using hnz, hpre.symm⟩

theorem WgPeer.HasIdentity.valid (h : peer.HasIdentity c own remote psk) :
    peer.staticIdentity.staticPrivate.valid ∧
      peer.staticIdentity.staticPublic.valid ∧
      peer.staticIdentity.remoteStatic.valid ∧
      peer.handshakeMaterial.precomputedStaticStatic.valid := by
  obtain ⟨shared, -, -, hpre⟩ := h.precomputed_of
  rw [h.staticPrivate, h.staticPublic, h.remoteStatic, hpre]
  exact ⟨rfl, rfl, rfl, rfl⟩

/-- Creating an initiation succeeds; the message and the transcript it leaves are the four mixing
steps of the sender. -/
theorem createInitiation_spec (p : Platform) (hid : peer.HasIdentity c own remote psk)
    (hdh : ∃ shared, c.x25519 (clampPrivateKey p.ephemeral) remote = some shared ∧
      shared.isAllZero = false)
    (henc : ∀ {n : Nat} (plaintext : Bytes n) (aad : List UInt8) (key : Bytes 32)
      (nonce : Bytes 12), (c.chacha20poly1305Encrypt plaintext aad key nonce).isSome)
    (hindex : peer.handshake.localIndex ≠ 0) :
    ∃ ck₁ key₁ encryptedStatic hash₁ ck₂ key₂ encryptedTimestamp hash₂ macs cookie,
      let ephemeralPrivate := clampPrivateKey p.ephemeral
      let ephemeral := c.x25519PublicKey ephemeralPrivate
      let start := messageEphemeral c ephemeral (handshakeInit c remote).1 (handshakeInit c remote).2
      let message : MessageHandshakeInitiation :=
        ⟨MessageType.handshakeInitiation.word, peer.handshake.localIndex, ephemeral,
          encryptedStatic, encryptedTimestamp, macs⟩
      mixDh c start.1 ephemeralPrivate remote = some (ck₁, key₁) ∧
      messageEncrypt c (c.x25519PublicKey own) key₁ start.2 = some (encryptedStatic, hash₁) ∧
      mixPrecomputedDh c ck₁ peer.handshakeMaterial.precomputedStaticStatic = some (ck₂, key₂) ∧
      messageEncrypt c (tai64nNow p.realTime) key₂ hash₁ = some (encryptedTimestamp, hash₂) ∧
      macs.mac1 = mac1Of c message.body remote ∧
      noiseHandshakeCreateInitiation c p peer = (true, { peer with
        handshakeMaterial := { peer.handshakeMaterial with
          ephemeralPrivate := .of ephemeralPrivate
          ephemeralPublic := .of ephemeral
          chainingKey := .of ck₂
          hash := .of hash₂ }
        lastInitiation := message
        hasLastInitiation := true
        cookie
        handshake := { peer.handshake with state := .initiationCreated } }) := by
  obtain ⟨shared, hshared, hnz⟩ := hdh
  obtain ⟨hv₁, hv₂, hv₃, hv₄⟩ := hid.valid
  obtain ⟨ss, -, hssnz, hpre⟩ := hid.precomputed_of
  set ephemeralPrivate := clampPrivateKey p.ephemeral with hepriv
  set ephemeral := c.x25519PublicKey ephemeralPrivate with heph
  set start := messageEphemeral c ephemeral (handshakeInit c remote).1 (handshakeInit c remote).2
    with hstart
  -- the four mixing steps, in the sender's order
  obtain ⟨⟨ck₁, key₁⟩, hck₁⟩ : ∃ r, mixDh c start.1 ephemeralPrivate remote = some r :=
    ⟨_, mixDh_eq hshared hnz⟩
  obtain ⟨⟨es, h₁⟩, hes⟩ := messageEncrypt_some henc (c.x25519PublicKey own) key₁ start.2
  obtain ⟨⟨ck₂, key₂⟩, hck₂⟩ : ∃ r, mixPrecomputedDh c ck₁
      peer.handshakeMaterial.precomputedStaticStatic = some r := by
    simp only [mixPrecomputedDh, hpre, NoiseKey.of_valid, NoiseKey.of_bytes, hssnz]
    exact ⟨_, rfl⟩
  obtain ⟨⟨et, h₂⟩, het⟩ := messageEncrypt_some henc (tai64nNow p.realTime) key₂ h₁
  -- the MACs do not depend on the cookie except for `mac2`
  set unsigned : MessageHandshakeInitiation :=
    ⟨MessageType.handshakeInitiation.word, peer.handshake.localIndex, ephemeral, es, et, .empty⟩
    with hunsigned
  obtain ⟨mac2, hmacs⟩ := applyOutgoingMacs_spec (c := c) p unsigned.serializeWith
    (serializeWith_initiation rfl) hv₃ peer.cookie
  rw [hid.remoteStatic, NoiseKey.of_bytes] at hmacs
  refine ⟨ck₁, key₁, es, h₁, ck₂, key₂, et, h₂, ⟨mac1Of c unsigned.body remote, mac2⟩,
    peer.cookie.recordLastMac1 (mac1Of c unsigned.body remote), hck₁, hes, hck₂, het, rfl, ?_⟩
  unfold noiseHandshakeCreateInitiation
  rw [if_neg (by simp [hv₁, hv₂, hv₃, hv₄, hindex])]
  simp only [hid.remoteStatic, hid.staticPublic, NoiseKey.of_bytes, ← hepriv, ← heph, ← hstart,
    hck₁, hes, hck₂, het, MessageHandshakeInitiation.empty, ← hunsigned, hmacs]
  rfl

/-- The receiver of an initiation mixes the sender's transcript: the same four steps, each with
the other half of the key pair. -/
theorem readInitiation_of_created (hc : c.Agrees) {other ephemeralPrivate : Bytes 32}
    {timestamp : Bytes 12} (hid : peer.HasIdentity c own (c.x25519PublicKey other) psk)
    {ss : NoiseKey} (hss : peer.handshakeMaterial.precomputedStaticStatic = ss)
    (message : MessageHandshakeInitiation) {ck₁ key₁ hash₁ ck₂ key₂ hash₂ : Bytes 32}
    (heph : message.unencryptedEphemeral = c.x25519PublicKey ephemeralPrivate)
    (hmix₁ : mixDh c (messageEphemeral c message.unencryptedEphemeral
        (handshakeInit c (c.x25519PublicKey own)).1 (handshakeInit c (c.x25519PublicKey own)).2).1
      ephemeralPrivate (c.x25519PublicKey own) = some (ck₁, key₁))
    (hseal₁ : messageEncrypt c (c.x25519PublicKey other) key₁
        (messageEphemeral c message.unencryptedEphemeral
        (handshakeInit c (c.x25519PublicKey own)).1 (handshakeInit c (c.x25519PublicKey own)).2).2
      = some (message.encryptedStatic, hash₁))
    (hmix₂ : mixPrecomputedDh c ck₁ ss = some (ck₂, key₂))
    (hseal₂ : messageEncrypt c timestamp key₂ hash₁ = some (message.encryptedTimestamp, hash₂)) :
    readInitiation c message peer = some (ck₂, hash₂, timestamp) := by
  have hopen₁ := messageDecrypt_messageEncrypt hc hseal₁
  have hopen₂ := messageDecrypt_messageEncrypt hc hseal₂
  rw [mixDh_comm hc, ← heph] at hmix₁
  unfold readInitiation
  simp only [hid.staticPublic, hid.staticPrivate, hid.remoteStatic, NoiseKey.of_bytes, hmix₁,
    hopen₁, ne_eq, not_true_eq_false, if_false, hss, hmix₂, hopen₂]

/-- The two checks of `noise_handshake_consume_initiation` on a decrypted timestamp: newer than
the last one accepted, and not inside the flood interval. -/
def NoiseHandshake.Admits (handshake : NoiseHandshake) (timestamp : Bytes 12)
    (now : MonotonicTime) : Prop :=
  (handshake.hasLastInitiationTimestamp = true →
    lexicographicalCompare handshake.lastInitiationTimestamp.toList timestamp.toList = true) ∧
  (0 < handshake.lastInitiationConsumption →
    handshake.lastInitiationConsumption ≤ now ∧
      handshakeInitiationRate < now - handshake.lastInitiationConsumption)

/-- An authentic initiation that passes the timestamp and flood checks is consumed. -/
theorem consumeInitiation_spec (p : Platform) (hid : peer.HasIdentity c own remote psk)
    {message : MessageHandshakeInitiation}
    (htype : message.type = MessageType.handshakeInitiation.word)
    (hsender : message.senderIndex ≠ 0)
    (hmac1 : message.macs.mac1 = mac1Of c message.body (c.x25519PublicKey own)) {ck hash : Bytes 32}
    {timestamp : Bytes 12} (hread : readInitiation c message peer = some (ck, hash, timestamp))
    (haccept : peer.handshake.Admits timestamp (p.clock .consumeInitiation)) :
    noiseHandshakeConsumeInitiation c p message peer = some { peer with
      handshakeMaterial := { peer.handshakeMaterial with
        remoteEphemeral := .of message.unencryptedEphemeral
        hash := .of hash
        chainingKey := .of ck }
      handshake := { peer.handshake with
        state := .initiationReceived
        remoteIndex := message.senderIndex
        lastInitiationTimestamp := timestamp
        hasLastInitiationTimestamp := true
        lastInitiationConsumption := p.clock .consumeInitiation }
      acceptedInitiations := peer.acceptedInitiations ++ [(message, timestamp)] } := by
  obtain ⟨hv₁, hv₂, hv₃, hv₄⟩ := hid.valid
  obtain ⟨hnewer, hflood⟩ := haccept
  have hser : serializeHandshakeInitiation message =
      .ok (message.body ++ message.macs.mac1.toList ++ message.macs.mac2.toList) :=
    serializeWith_initiation htype message.macs
  have hverify : verifyMac1 c (serializeHandshakeInitiation message) message.macs.mac1
      peer.staticIdentity.staticPublic := by
    rw [hser]
    refine verifyMac1_of_body hv₂ rfl ?_
    rw [hid.staticPublic]
    exact hmac1
  unfold noiseHandshakeConsumeInitiation
  rw [if_neg (by simp [hv₁, hv₂, hv₃, hv₄]), if_neg (by simp [htype]; decide), if_neg hsender,
    if_neg (by simp [hverify])]
  simp only [hread]
  rw [if_neg, if_neg]
  · rintro ⟨hpos, hbad⟩
    obtain ⟨hle, hlt⟩ := hflood hpos
    rcases hbad with hbad | hbad
    · exact absurd hbad (Int.not_lt.mpr hle)
    · exact absurd hbad (Int.not_le.mpr hlt)
  · rintro ⟨hlast, hbad⟩
    rw [hnewer hlast] at hbad
    exact absurd hbad (by simp)

/-- A response to a consumed initiation is built; its message and transcript are the responder's
mixing steps. -/
theorem createResponse_spec (hc : c.Agrees) (p : Platform) {other remoteEphemeral : Bytes 32}
    (hid : peer.HasIdentity c own (c.x25519PublicKey other) psk)
    (hephemeral : peer.handshakeMaterial.remoteEphemeral = .of (c.x25519PublicKey remoteEphemeral))
    (hlocal : peer.handshake.localIndex ≠ 0) (hremote : peer.handshake.remoteIndex ≠ 0)
    (hstate : peer.handshake.state = .initiationReceived) :
    ∃ ck₁ key₁ ck₂ key₂ encryptedNothing hash macs cookie,
      let ephemeralPrivate := clampPrivateKey p.ephemeral
      let ephemeral := c.x25519PublicKey ephemeralPrivate
      let start := messageEphemeral c ephemeral peer.handshakeMaterial.chainingKey.bytes
        peer.handshakeMaterial.hash.bytes
      let mixed := mixPsk c ck₂ start.2 psk
      let message : MessageHandshakeResponse :=
        ⟨MessageType.handshakeResponse.word, peer.handshake.localIndex, peer.handshake.remoteIndex,
          ephemeral, encryptedNothing, macs⟩
      mixDh c start.1 ephemeralPrivate (c.x25519PublicKey remoteEphemeral) = some (ck₁, key₁) ∧
      mixDh c ck₁ ephemeralPrivate (c.x25519PublicKey other) = some (ck₂, key₂) ∧
      messageEncrypt c (Bytes.zero 0) mixed.2.2 mixed.2.1 = some (encryptedNothing, hash) ∧
      macs.mac1 = mac1Of c message.body (c.x25519PublicKey other) ∧
      noiseHandshakeCreateResponse c p peer = (some message, { peer with
        handshakeMaterial := { peer.handshakeMaterial with
          ephemeralPrivate := .of ephemeralPrivate
          ephemeralPublic := .of ephemeral
          chainingKey := { peer.handshakeMaterial.chainingKey with bytes := mixed.1 }
          hash := { peer.handshakeMaterial.hash with bytes := hash } }
        cookie
        handshake := { peer.handshake with state := .responseCreated } }) := by
  obtain ⟨hv₁, hv₂, hv₃, hv₄⟩ := hid.valid
  set ephemeralPrivate := clampPrivateKey p.ephemeral with hepriv
  set ephemeral := c.x25519PublicKey ephemeralPrivate with heph
  set start := messageEphemeral c ephemeral peer.handshakeMaterial.chainingKey.bytes
    peer.handshakeMaterial.hash.bytes with hstart
  obtain ⟨⟨ck₁, key₁⟩, hck₁⟩ := mixDh_some hc start.1 ephemeralPrivate remoteEphemeral
  obtain ⟨⟨ck₂, key₂⟩, hck₂⟩ := mixDh_some hc ck₁ ephemeralPrivate other
  set mixed := mixPsk c ck₂ start.2 psk with hmixed
  obtain ⟨⟨en, hash⟩, hen⟩ := messageEncrypt_some hc.encrypt (Bytes.zero 0) mixed.2.2 mixed.2.1
  set unsigned : MessageHandshakeResponse :=
    ⟨MessageType.handshakeResponse.word, peer.handshake.localIndex, peer.handshake.remoteIndex,
      ephemeral, en, .empty⟩ with hunsigned
  obtain ⟨mac2, hmacs⟩ := applyOutgoingMacs_spec (c := c) p unsigned.serializeWith
    (serializeWith_response rfl) hv₃ peer.cookie
  rw [hid.remoteStatic, NoiseKey.of_bytes] at hmacs
  refine ⟨ck₁, key₁, ck₂, key₂, en, hash,
    ⟨mac1Of c unsigned.body (c.x25519PublicKey other), mac2⟩,
    peer.cookie.recordLastMac1 (mac1Of c unsigned.body (c.x25519PublicKey other)),
    hck₁, hck₂, hen, rfl, ?_⟩
  unfold noiseHandshakeCreateResponse
  rw [if_neg (by simp [hv₃, hephemeral, hlocal, hremote, hstate])]
  simp only [hid.remoteStatic, hid.presharedKey, hephemeral, NoiseKey.of_bytes, ← hepriv, ← heph,
    ← hstart, hck₁, hck₂, ← hmixed, hen, MessageHandshakeResponse.empty, ← hunsigned, hmacs]
  rfl

/-- The initiator mixes the responder's transcript of the response. -/
theorem readResponse_of_created (hc : c.Agrees)
    {other ephemeralPrivate responderEphemeral : Bytes 32}
    (hid : peer.HasIdentity c own (c.x25519PublicKey other) psk)
    (hprivate : peer.handshakeMaterial.ephemeralPrivate = .of ephemeralPrivate)
    (message : MessageHandshakeResponse) {ck₁ key₁ ck₂ key₂ hash : Bytes 32}
    (heph : message.unencryptedEphemeral = c.x25519PublicKey responderEphemeral)
    {start : Bytes 32 × Bytes 32} (hstart : start = messageEphemeral c message.unencryptedEphemeral
      peer.handshakeMaterial.chainingKey.bytes peer.handshakeMaterial.hash.bytes)
    (hmix₁ : mixDh c start.1 responderEphemeral (c.x25519PublicKey ephemeralPrivate) =
      some (ck₁, key₁))
    (hmix₂ : mixDh c ck₁ responderEphemeral (c.x25519PublicKey own) = some (ck₂, key₂))
    (hseal : messageEncrypt c (Bytes.zero 0) (mixPsk c ck₂ start.2 psk).2.2
      (mixPsk c ck₂ start.2 psk).2.1 = some (message.encryptedNothing, hash)) :
    readResponse c message peer = some ((mixPsk c ck₂ start.2 psk).1, hash) := by
  have hopen := messageDecrypt_messageEncrypt hc hseal
  rw [mixDh_comm hc, ← heph] at hmix₁ hmix₂
  subst hstart
  unfold readResponse
  simp only [hprivate, hid.staticPrivate, hid.presharedKey, NoiseKey.of_bytes, hmix₁, hmix₂, hopen]

/-- The initiator consumes a response it can authenticate, once the index and replay checks pass. -/
theorem consumeResponse_spec {device : WgDevice} (hid : device.peer.HasIdentity c own remote psk)
    {message : MessageHandshakeResponse}
    (hprivate : device.peer.handshakeMaterial.ephemeralPrivate.valid)
    (hstate : device.peer.handshake.state = .initiationCreated)
    (htype : message.type = MessageType.handshakeResponse.word) (hsender : message.senderIndex ≠ 0)
    (hmac1 : message.macs.mac1 = mac1Of c message.body (c.x25519PublicKey own))
    (hown : message.senderIndex ≠ device.peer.handshake.localIndex)
    (hslot : device.indexMatchesSlot .handshake message.receiverIndex)
    (hreplay : ¬ (device.peer.currentKeypair.isValid ∧
      message.senderIndex = device.peer.currentKeypair.remoteIndex)) {ck hash : Bytes 32}
    (hread : readResponse c message device.peer = some (ck, hash)) :
    noiseHandshakeConsumeResponse c message device = some { device.peer with
      handshakeMaterial := { device.peer.handshakeMaterial with
        remoteEphemeral := .of message.unencryptedEphemeral
        hash := .of hash
        chainingKey := .of ck }
      handshake := { device.peer.handshake with
        state := .responseReceived
        remoteIndex := message.senderIndex } } := by
  obtain ⟨hv₁, hv₂, hv₃, hv₄⟩ := hid.valid
  have hser : serializeHandshakeResponse message =
      .ok (message.body ++ message.macs.mac1.toList ++ message.macs.mac2.toList) :=
    serializeWith_response htype message.macs
  have hverify : verifyMac1 c (serializeHandshakeResponse message) message.macs.mac1
      device.peer.staticIdentity.staticPublic := by
    rw [hser]
    refine verifyMac1_of_body hv₂ rfl ?_
    rw [hid.staticPublic]
    exact hmac1
  unfold noiseHandshakeConsumeResponse
  rw [if_neg (by simp [hv₁, hprivate, hstate]), if_neg (by simp [htype]; decide), if_neg hsender,
    if_neg (by simp [hverify]), if_neg hown, if_neg (by simp [hslot]), if_neg hreplay]
  simp only [hread]

theorem establish_valid {serial : Nat} {counter : UInt64} {initiator : Bool}
    {localIndex remoteIndex : UInt32} {birth : MonotonicTime} {sending receiving : NoiseKey}
    (hlocal : localIndex ≠ 0) (hremote : remoteIndex ≠ 0) (hbirth : 0 ≤ birth)
    (hsending : sending.valid) (hreceiving : receiving.valid) :
    NoiseKeypair.establish serial localIndex remoteIndex birth sending receiving counter initiator =
      { state := .established, localIndex, remoteIndex, sendCounter := counter,
        isInitiator := initiator, birthTime := birth, sendingKey := sending,
        receivingKey := receiving, receiveReplayWindow := .reset, serial } := by
  unfold NoiseKeypair.establish
  rw [if_neg]
  rintro (h | h | h | h | h)
  · exact hlocal h
  · exact hremote h
  · exact absurd h (Int.not_lt.mpr hbirth)
  · simp [hsending] at h
  · simp [hreceiving] at h

/-- Session derivation succeeds on either side of a finished handshake.  The initiator's keypair
becomes current and sends with the first derived key; the responder's becomes next and sends with
the second. -/
theorem beginSession_spec (p : Platform) (device : WgDevice)
    (hchain : device.peer.handshakeMaterial.chainingKey.valid)
    (hlocal : device.peer.handshake.localIndex ≠ 0)
    (hremote : device.peer.handshake.remoteIndex ≠ 0) (hbirth : 0 ≤ p.clock .sessionBirth) :
    let keys := kdf2 c [] device.peer.handshakeMaterial.chainingKey.bytes
    (device.peer.handshake.state = .responseReceived →
      ∃ derived, noiseHandshakeBeginSession c p device = (true, derived) ∧
        derived.peer.currentKeypair = ⟨.established, device.peer.handshake.localIndex,
          device.peer.handshake.remoteIndex, 0, true, p.clock .sessionBirth, .of keys.1,
          .of keys.2, .reset, p.serial⟩) ∧
    (device.peer.handshake.state = .responseCreated →
      ∃ derived, noiseHandshakeBeginSession c p device = (true, derived) ∧
        derived.peer.nextKeypair = ⟨.established, device.peer.handshake.localIndex,
          device.peer.handshake.remoteIndex, 0, false, p.clock .sessionBirth, .of keys.2,
          .of keys.1, .reset, p.serial⟩) := by
  intro keys
  have hvalid (initiator : Bool) (a b : Bytes 32) : NoiseKeypair.isValid ⟨.established,
      device.peer.handshake.localIndex, device.peer.handshake.remoteIndex, 0, initiator,
      p.clock .sessionBirth, .of a, .of b, .reset, p.serial⟩ := by
    simp [NoiseKeypair.isValid, hlocal, hremote]
  constructor
  · intro hstate
    have hderive : device.peer.deriveKeypair c p = ⟨.established, device.peer.handshake.localIndex,
        device.peer.handshake.remoteIndex, 0, true, p.clock .sessionBirth, .of keys.1, .of keys.2,
        .reset, p.serial⟩ := by
      simp only [WgPeer.deriveKeypair, hstate, decide_true, if_true]
      exact establish_valid hlocal hremote hbirth rfl rfl
    unfold noiseHandshakeBeginSession WgPeer.installKeypair
    rw [if_neg (by simp [hstate]), if_neg (by simp [hchain]), hderive, if_neg (by simp [hvalid]),
      if_pos hstate]
    refine ⟨_, rfl, ?_⟩
    split <;> rfl
  · intro hstate
    have hderive : device.peer.deriveKeypair c p = ⟨.established, device.peer.handshake.localIndex,
        device.peer.handshake.remoteIndex, 0, false, p.clock .sessionBirth, .of keys.2, .of keys.1,
        .reset, p.serial⟩ := by
      simp only [WgPeer.deriveKeypair, hstate, reduceCtorEq, decide_false, Bool.false_eq_true,
        if_false]
      exact establish_valid hlocal hremote hbirth rfl rfl
    unfold noiseHandshakeBeginSession WgPeer.installKeypair
    rw [if_neg (by simp [hstate]), if_neg (by simp [hchain]), hderive, if_neg (by simp [hvalid]),
      if_neg (by simp [hstate])]
    exact ⟨_, rfl, rfl⟩

end Messages

/-! ## Agreement -/

section Agreement

variable {c : Crypto} {staticI staticR psk : Bytes 32}

/-- The two peers after the initiation was created on one side and consumed on the other: the same
transcript, and each holds its half of the initiator's ephemeral key. -/
structure AfterInitiation (c : Crypto) (staticI staticR psk : Bytes 32)
  (initiator responder : WgPeer)
    (ephemeral chainingKey hash : Bytes 32) : Prop where
  identityI : initiator.HasIdentity c staticI (c.x25519PublicKey staticR) psk
  identityR : responder.HasIdentity c staticR (c.x25519PublicKey staticI) psk
  stateI : initiator.handshake.state = .initiationCreated
  stateR : responder.handshake.state = .initiationReceived
  privateI : initiator.handshakeMaterial.ephemeralPrivate = .of ephemeral
  publicR : responder.handshakeMaterial.remoteEphemeral = .of (c.x25519PublicKey ephemeral)
  chainI : initiator.handshakeMaterial.chainingKey = .of chainingKey
  chainR : responder.handshakeMaterial.chainingKey = .of chainingKey
  hashI : initiator.handshakeMaterial.hash = .of hash
  hashR : responder.handshakeMaterial.hash = .of hash
  index : responder.handshake.remoteIndex = initiator.handshake.localIndex

/-- The first message brings the two sides to a common transcript. -/
theorem initiation_exchanged (hc : c.Agrees) {initiator responder : WgPeer} (p₁ p₂ : Platform)
    (hI : initiator.HasIdentity c staticI (c.x25519PublicKey staticR) psk)
    (hR : responder.HasIdentity c staticR (c.x25519PublicKey staticI) psk)
    (hindex : initiator.handshake.localIndex ≠ 0)
    (haccept : responder.handshake.Admits (tai64nNow p₁.realTime) (p₂.clock .consumeInitiation)) :
    ∃ created consumed ephemeral chainingKey hash,
      noiseHandshakeCreateInitiation c p₁ initiator = (true, created) ∧
      noiseHandshakeConsumeInitiation c p₂ created.lastInitiation responder = some consumed ∧
      AfterInitiation c staticI staticR psk created consumed ephemeral chainingKey hash ∧
      created.handshake.localIndex = initiator.handshake.localIndex ∧
      created.currentKeypair = initiator.currentKeypair := by
  -- both sides precomputed the same static-static secret
  obtain ⟨ss, hssI, -, hpreI⟩ := hI.precomputed_of
  obtain ⟨ss', hssR, -, hpreR⟩ := hR.precomputed_of
  rw [hc.comm, hssI, Option.some.injEq] at hssR
  subst hssR
  obtain ⟨ck₁, key₁, es, h₁, ck₂, key₂, et, h₂, macs, cookie, hm₁, hs₁, hm₂, hs₂, hmac, hcreate⟩ :=
    createInitiation_spec p₁ hI (hc.nonzero _ _) hc.encrypt hindex
  rw [hpreI] at hm₂
  have hread := readInitiation_of_created hc hR hpreR
    ⟨MessageType.handshakeInitiation.word, initiator.handshake.localIndex,
      c.x25519PublicKey (clampPrivateKey p₁.ephemeral), es, et, macs⟩ rfl hm₁ hs₁ hm₂ hs₂
  have hcons := consumeInitiation_spec p₂ hR rfl hindex hmac hread haccept
  refine ⟨_, _, clampPrivateKey p₁.ephemeral, ck₂, h₂, hcreate, hcons, ?_, rfl, rfl⟩
  exact {
    identityI := ⟨hI.staticPrivate, hI.staticPublic, hI.remoteStatic, hI.presharedKey, hI.precomputed⟩
    identityR := ⟨hR.staticPrivate, hR.staticPublic, hR.remoteStatic, hR.presharedKey, hR.precomputed⟩
    stateI := rfl
    stateR := rfl
    privateI := rfl
    publicR := rfl
    chainI := rfl
    chainR := rfl
    hashI := rfl
    hashR := rfl
    index := rfl }

/-- The second message keeps the two sides on a common chaining key. -/
theorem response_exchanged (hc : c.Agrees) (p : Platform) (initiator : WgDevice)
    {responder : WgPeer}
    {ephemeral chainingKey hash : Bytes 32}
    (h : AfterInitiation c staticI staticR psk initiator.peer responder ephemeral chainingKey hash)
    (hindexI : initiator.peer.handshake.localIndex ≠ 0)
    (hindexR : responder.handshake.localIndex ≠ 0)
    (hregistered : initiator.indexMatchesSlot .handshake initiator.peer.handshake.localIndex)
    (hdistinct : responder.handshake.localIndex ≠ initiator.peer.handshake.localIndex)
    (hreplay : ¬ (initiator.peer.currentKeypair.isValid ∧
      responder.handshake.localIndex = initiator.peer.currentKeypair.remoteIndex)) :
    ∃ response answered received chainingKey',
      noiseHandshakeCreateResponse c p responder = (some response, answered) ∧
      noiseHandshakeConsumeResponse c response initiator = some received ∧
      answered.handshakeMaterial.chainingKey = .of chainingKey' ∧
      received.handshakeMaterial.chainingKey = .of chainingKey' ∧
      answered.handshake.state = .responseCreated ∧ received.handshake.state = .responseReceived ∧
      answered.handshake.localIndex = responder.handshake.localIndex ∧
      answered.handshake.remoteIndex = initiator.peer.handshake.localIndex ∧
      received.handshake.localIndex = initiator.peer.handshake.localIndex ∧
      received.handshake.remoteIndex = responder.handshake.localIndex := by
  obtain ⟨ck₁, key₁, ck₂, key₂, en, h', macs, cookie, hm₁, hm₂, hs, hmac, hrespond⟩ :=
    createResponse_spec hc p h.identityR h.publicR hindexR (h.index ▸ hindexI) h.stateR
  rw [h.chainR, h.hashR, NoiseKey.of_bytes, NoiseKey.of_bytes] at hm₁ hs
  have hread := readResponse_of_created hc h.identityI h.privateI
    ⟨MessageType.handshakeResponse.word, responder.handshake.localIndex,
      responder.handshake.remoteIndex, c.x25519PublicKey (clampPrivateKey p.ephemeral), en, macs⟩
    rfl rfl (by rw [h.chainI, h.hashI]; exact hm₁) hm₂ (by rw [h.chainI, h.hashI]; exact hs)
  have hslot : initiator.indexMatchesSlot .handshake responder.handshake.remoteIndex := by
    rw [h.index]
    exact hregistered
  have hreceive := consumeResponse_spec h.identityI (by rw [h.privateI]; rfl) h.stateI rfl hindexR
    hmac hdistinct hslot hreplay hread
  refine ⟨_, _, _, (mixPsk c ck₂ (messageEphemeral c (c.x25519PublicKey
    (clampPrivateKey p.ephemeral)) chainingKey hash).2 psk).1, hrespond, hreceive, ?_, ?_, rfl, rfl,
    rfl, h.index, rfl, rfl⟩
  · simp only [h.chainR, h.hashR, NoiseKey.of]
  · simp only [h.chainI, h.hashI, NoiseKey.of]

end Agreement

/-- Handshake agreement.  The initiator creates an initiation, the responder consumes it, takes a
local index and answers, the initiator consumes the answer, and both derive a session.  Every step
succeeds, the keys match crosswise, and each side's remote index is the other's local index.

The hypotheses are the identities, the checks each consumer makes on state of its own (timestamp
and flood interval, registered receiver index, sender index not in use), and clocks that read no
time before zero.  Cookies, old sessions and all other state are arbitrary on both sides. -/
theorem handshake_agreement (c : Crypto) (hc : c.Agrees) (staticI staticR psk : Bytes 32)
    (initiator responder : WgDevice) (p₁ p₂ p₃ p₄ p₅ : Platform) (indexR : UInt32)
    (hI : initiator.peer.HasIdentity c staticI (c.x25519PublicKey staticR) psk)
    (hR : responder.peer.HasIdentity c staticR (c.x25519PublicKey staticI) psk)
    (hindexI : initiator.peer.handshake.localIndex ≠ 0) (hindexR : indexR ≠ 0)
    (hregistered : initiator.indexMatchesSlot .handshake initiator.peer.handshake.localIndex = true)
    (hdistinct : indexR ≠ initiator.peer.handshake.localIndex)
    (hreplay : ¬ (initiator.peer.currentKeypair.isValid = true ∧
      indexR = initiator.peer.currentKeypair.remoteIndex))
    (haccept : responder.peer.handshake.Admits (tai64nNow p₁.realTime) (p₂.clock .consumeInitiation))
    (hclockI : 0 ≤ p₄.clock .sessionBirth) (hclockR : 0 ≤ p₅.clock .sessionBirth) :
    ∃ created consumed response answered received sessionI sessionR,
      noiseHandshakeCreateInitiation c p₁ initiator.peer = (true, created) ∧
      noiseHandshakeConsumeInitiation c p₂ created.lastInitiation responder.peer = some consumed ∧
      noiseHandshakeCreateResponse c p₃
        { consumed with handshake := { consumed.handshake with localIndex := indexR } } =
        (some response, answered) ∧
      noiseHandshakeConsumeResponse c response { initiator with peer := created } = some received ∧
      noiseHandshakeBeginSession c p₄ { initiator with peer := received } = (true, sessionI) ∧
      noiseHandshakeBeginSession c p₅ { responder with peer := answered } = (true, sessionR) ∧
      sessionI.peer.currentKeypair.isValid = true ∧ sessionR.peer.nextKeypair.isValid = true ∧
      sessionI.peer.currentKeypair.sendingKey = sessionR.peer.nextKeypair.receivingKey ∧
      sessionI.peer.currentKeypair.receivingKey = sessionR.peer.nextKeypair.sendingKey ∧
      sessionI.peer.currentKeypair.remoteIndex = sessionR.peer.nextKeypair.localIndex ∧
      sessionR.peer.nextKeypair.remoteIndex = sessionI.peer.currentKeypair.localIndex := by
  obtain ⟨created, consumed, ephemeral, ck, hash, hcreate, hcons, hafter, hlocal, hcur⟩ :=
    initiation_exchanged hc p₁ p₂ hI hR hindexI haccept
  -- taking a local index touches neither the transcript nor the identity
  have hafter' : AfterInitiation c staticI staticR psk created
      { consumed with handshake := { consumed.handshake with localIndex := indexR } }
      ephemeral ck hash :=
    { hafter with identityR := ⟨hafter.identityR.staticPrivate, hafter.identityR.staticPublic,
        hafter.identityR.remoteStatic, hafter.identityR.presharedKey,
        hafter.identityR.precomputed⟩ }
  rw [← hlocal] at hindexI hregistered hdistinct
  rw [← hcur] at hreplay
  obtain ⟨response, answered, received, ck', hrespond, hreceive, hckR, hckI, hstateR, hstateI,
      hlR, hrR, hlI, hrI⟩ :=
    response_exchanged hc p₃ { initiator with peer := created } hafter' hindexI hindexR
      hregistered hdistinct hreplay
  obtain ⟨sessionI, hsessionI, hkeypairI⟩ :=
    (beginSession_spec (c := c) p₄ { initiator with peer := received }
      (by rw [hckI]; rfl) (by rw [hlI]; exact hindexI) (by rw [hrI]; exact hindexR) hclockI).1
      hstateI
  obtain ⟨sessionR, hsessionR, hkeypairR⟩ :=
    (beginSession_spec (c := c) p₅ { responder with peer := answered }
      (by rw [hckR]; rfl) (by rw [hlR]; exact hindexR) (by rw [hrR]; exact hindexI) hclockR).2
      hstateR
  refine ⟨created, consumed, response, answered, received, sessionI, sessionR, hcreate, hcons,
    hrespond, hreceive, hsessionI, hsessionR, ?_⟩
  rw [hkeypairI, hkeypairR]
  simp only [hckI, hckR, hlI, hrI, hlR, hrR, NoiseKeypair.isValid, NoiseKey.of_valid, hindexI,
    hindexR, decide_true, Bool.and_self, ne_eq, not_false_eq_true, and_self]

/-- A device configured with the private key of 32 bytes `own` and the peer's encoded public key,
holding handshake index `index`. -/
def sampleDevice (own : UInt8) (remote : List Char) (index : UInt32) : WgDevice :=
  let device := (WgDevice.initFromParsedConfig .transparent ⟨remote, 0⟩
    (.of (List.Vector.replicate 32 own)) none).2
  let device := { device with
    peer := { device.peer with handshake := { device.peer.handshake with localIndex := index } } }
  device.registerHandshakeIndex index

def encodedOnes : List Char := "AQEBAQEBAQEBAQEBAQEBAQEBAQEBAQEBAQEBAQEBAQE=".toList

def encodedTwos : List Char := "AgICAgICAgICAgICAgICAgICAgICAgICAgICAgICAgI=".toList

/-- Two freshly configured devices agree on the keys of their first session. -/
theorem handshake_agreement_fresh : ∃ created consumed response answered received sessionI sessionR,
      noiseHandshakeCreateInitiation .transparent (.constant (seconds 10) 7)
        (sampleDevice 1 encodedTwos 5).peer = (true, created) ∧
      noiseHandshakeConsumeInitiation .transparent (.constant (seconds 11) 8)
        created.lastInitiation (sampleDevice 2 encodedOnes 0).peer = some consumed ∧
      noiseHandshakeCreateResponse .transparent (.constant (seconds 11) 9)
        { consumed with handshake := { consumed.handshake with localIndex := 6 } } =
        (some response, answered) ∧
      noiseHandshakeConsumeResponse .transparent response
        { sampleDevice 1 encodedTwos 5 with peer := created } = some received ∧
      noiseHandshakeBeginSession .transparent (.constant (seconds 12) 0)
        { sampleDevice 1 encodedTwos 5 with peer := received } = (true, sessionI) ∧
      noiseHandshakeBeginSession .transparent (.constant (seconds 11) 0)
        { sampleDevice 2 encodedOnes 0 with peer := answered } = (true, sessionR) ∧
      sessionI.peer.currentKeypair.sendingKey = sessionR.peer.nextKeypair.receivingKey := by
  obtain ⟨created, consumed, response, answered, received, sessionI, sessionR, h₁, h₂, h₃, h₄, h₅,
      h₆, -, -, hkeys, -⟩ :=
    handshake_agreement .transparent Crypto.transparent_agrees (List.Vector.replicate 32 1)
      (List.Vector.replicate 32 2) (Bytes.zero 32) (sampleDevice 1 encodedTwos 5)
      (sampleDevice 2 encodedOnes 0) (.constant (seconds 10) 7) (.constant (seconds 11) 8)
      (.constant (seconds 11) 9) (.constant (seconds 12) 0) (.constant (seconds 11) 0) 6
      ⟨by decide +kernel, by decide +kernel, by decide +kernel, by decide +kernel, by decide +kernel⟩
      ⟨by decide +kernel, by decide +kernel, by decide +kernel, by decide +kernel, by decide +kernel⟩
      (by decide +kernel) (by decide) (by decide +kernel) (by decide +kernel) (by decide +kernel)
      (by constructor <;> decide +kernel) (by decide) (by decide)
  exact ⟨created, consumed, response, answered, received, sessionI, sessionR, h₁, h₂, h₃, h₄, h₅, h₆,
    hkeys⟩

end WireguardNx.Wireguard
