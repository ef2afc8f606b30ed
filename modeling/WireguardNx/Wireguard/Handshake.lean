import WireguardNx.Wireguard.Peer

/-!
# The Noise handshake

`handshake.cpp` without its logging: key derivation and transcript mixing, the two messages of the
handshake from both sides, cookie replies, session derivation and the responder's admission check.

The source mixes in place.  Here a mixing function returns the new chaining key or hash, and the
message functions write it back to the peer where the source does, so a creation that fails half
way leaves the same half-mixed transcript.  The `dst` of an initiation is the peer's own
`last_initiation`, as its one caller passes it.
-/

namespace WireguardNx.Wireguard

/-! ## Key derivation and transcript mixing -/

/-- `ByteView` of a string literal. -/
def byteView (text : String) : List UInt8 := text.toList.map fun ch => ch.toNat.toUInt8

def handshakeName : List UInt8 := byteView "Noise_IKpsk2_25519_ChaChaPoly_BLAKE2s"

def identifierName : List UInt8 := byteView "WireGuard v1 zx2c4 Jason@zx2c4.com"

def mac1KeyLabel : List UInt8 := byteView "mac1----"

def cookieKeyLabel : List UInt8 := byteView "cookie--"

def zeroNonce : Bytes 12 := Bytes.zero 12

variable (c : Crypto) (p : Platform) (source : Endpoint) (device : WgDevice)

/-- `Kdf` with one output. -/
def kdf1 (data : List UInt8) (chainingKey : Bytes 32) : Bytes 32 :=
  c.blake2sHmac (c.blake2sHmac chainingKey.toList data).toList [1]

/-- `Kdf` with two outputs. -/
def kdf2 (data : List UInt8) (chainingKey : Bytes 32) : Bytes 32 × Bytes 32 :=
  let secret := c.blake2sHmac chainingKey.toList data
  let first := c.blake2sHmac secret.toList [1]
  (first, c.blake2sHmac secret.toList (first.toList ++ [2]))

/-- `Kdf` with three outputs. -/
def kdf3 (data : List UInt8) (chainingKey : Bytes 32) : Bytes 32 × Bytes 32 × Bytes 32 :=
  let secret := c.blake2sHmac chainingKey.toList data
  let first := c.blake2sHmac secret.toList [1]
  let second := c.blake2sHmac secret.toList (first.toList ++ [2])
  (first, second, c.blake2sHmac secret.toList (second.toList ++ [3]))

def mixHash (hash : Bytes 32) (src : List UInt8) : Bytes 32 :=
  c.blake2sHash 32 (hash.toList ++ src) []

/-- `HandshakeInit`: the initial chaining key and hash. -/
def handshakeInit (remoteStatic : Bytes 32) : Bytes 32 × Bytes 32 :=
  let chainingKey := c.blake2sHash 32 handshakeName []
  let hash := c.blake2sHash 32 (chainingKey.toList ++ identifierName) []
  (chainingKey, mixHash c hash remoteStatic.toList)

/-- `MixDh`: the new chaining key and the message key. -/
def mixDh (chainingKey privateKey publicKey : Bytes 32) : Option (Bytes 32 × Bytes 32) :=
  match c.x25519 privateKey publicKey with
  | none => none
  | some dh => if dh.isAllZero then none else some (kdf2 c dh.toList chainingKey)

def mixPrecomputedDh (chainingKey : Bytes 32) (precomputed : NoiseKey) :
    Option (Bytes 32 × Bytes 32) :=
  if precomputed.valid = false ∨ precomputed.bytes.isAllZero then none
  else some (kdf2 c precomputed.bytes.toList chainingKey)

/-- `MixPsk`: the new chaining key, the new hash and the message key. -/
def mixPsk (chainingKey hash presharedKey : Bytes 32) : Bytes 32 × Bytes 32 × Bytes 32 :=
  let (chainingKey, tempHash, key) := kdf3 c presharedKey.toList chainingKey
  (chainingKey, mixHash c hash tempHash.toList, key)

/-- `MessageEncrypt`: ciphertext with its tag, and the new hash. -/
def messageEncrypt {n : Nat} (c : Crypto) (plaintext : Bytes n) (key hash : Bytes 32) :
    Option (Bytes (n + 16) × Bytes 32) :=
  match c.chacha20poly1305Encrypt plaintext hash.toList key zeroNonce with
  | none => none
  | some (ciphertext, tag) =>
    let sealed := ciphertext.append tag
    some (sealed, mixHash c hash sealed.toList)

/-- `MessageDecrypt`: the plaintext and the new hash. -/
def messageDecrypt {n : Nat} (c : Crypto) (ciphertext : Bytes (n + 16)) (key hash : Bytes 32) :
    Option (Bytes n × Bytes 32) :=
  match c.chacha20poly1305Decrypt ciphertext.first ciphertext.last hash.toList key zeroNonce with
  | none => none
  | some plaintext => some (plaintext, mixHash c hash ciphertext.toList)

/-- `MessageEphemeral`: the new chaining key and hash. -/
def messageEphemeral (ephemeral chainingKey hash : Bytes 32) : Bytes 32 × Bytes 32 :=
  (kdf1 c ephemeral.toList chainingKey, mixHash c hash ephemeral.toList)

/-- The clamping of a fresh ephemeral private key. -/
def clampPrivateKey (bytes : Bytes 32) : Bytes 32 :=
  let bytes := bytes.set 0 (bytes.get 0 &&& 248)
  let bytes := bytes.set 31 (bytes.get 31 &&& 127)
  bytes.set 31 (bytes.get 31 ||| 64)

/-! ## Timestamps -/

/-- The doubling loop of `RoundDownToPowerOfTwo`; a 64-bit value leaves it within 64 rounds. -/
def roundDownLoop (value : UInt64) : Nat → UInt64 → UInt64
  | 0, result => result
  | fuel + 1, result =>
    if result < result <<< 1 ∧ result <<< 1 ≤ value then roundDownLoop value fuel (result <<< 1)
    else result

def roundDownToPowerOfTwo (value : UInt64) : UInt64 :=
  if value = 0 then 0 else roundDownLoop value 64 1

/-- `Tai64nNow` at a real-time reading, with its rounding for 50 initiations a second. -/
def tai64nNow (now : Timespec64) : Bytes 12 :=
  let rounding := roundDownToPowerOfTwo 20000000
  let nsec :=
    if rounding ≠ 0 then now.tvNsec - now.tvNsec.tmod (rounding.toNat : Int) else now.tvNsec
  (storeBe64 (0x400000000000000A + UInt64.ofInt now.tvSec)).append (storeBe32 (UInt32.ofInt nsec))

/-! ## Message authentication codes -/

/-- `ComputeMac1` over a serialised message; the MAC fields are not part of its input. -/
def computeMac1 (serialized : Except ParseError (List UInt8)) (remoteStatic : NoiseKey) :
    Option (Bytes 16) :=
  if remoteStatic.valid = false then none
  else
    match serialized with
    | .error _ => none
    | .ok bytes =>
      let mac1Key := c.blake2sHash 32 (mac1KeyLabel ++ remoteStatic.bytes.toList) []
      some (c.blake2sHash 16 (bytes.take (bytes.length - 2 * 16)) mac1Key.toList)

def verifyMac1 (serialized : Except ParseError (List UInt8)) (mac1 : Bytes 16)
    (localStatic : NoiseKey) : Bool :=
  match computeMac1 c serialized localStatic with
  | none => false
  | some expected => decide (expected = mac1)

def computeCookieKey (remoteStatic : NoiseKey) : Option (Bytes 32) :=
  if remoteStatic.valid = false then none
  else some (c.blake2sHash 32 (cookieKeyLabel ++ remoteStatic.bytes.toList) [])

/-- `ComputeMac2` over a serialised message. -/
def computeMac2 (serialized : Except ParseError (List UInt8)) (cookie : NoiseCookie) :
    Option (Bytes 16) :=
  match serialized with
  | .error _ => none
  | .ok bytes => some (c.blake2sHash 16 (bytes.take (bytes.length - 16)) cookie.value.toList)

/-- `ApplyOutgoingMacs` on a message given by how it serialises with its MACs: whether it
succeeded, the MACs it left and the cookie that remembers `mac1`. -/
def applyOutgoingMacs (serialize : MessageMacs → Except ParseError (List UInt8))
    (remoteStatic : NoiseKey) (cookie : NoiseCookie) : Bool × MessageMacs × NoiseCookie :=
  match computeMac1 c (serialize .empty) remoteStatic with
  | none => (false, .empty, cookie)
  | some mac1 =>
    let macs : MessageMacs := ⟨mac1, Bytes.zero 16⟩
    let cookie := cookie.recordLastMac1 mac1
    if cookie.isValid (p.clock .cookieCheck) then
      match computeMac2 c (serialize macs) cookie with
      | none => (false, macs, cookie)
      | some mac2 => (true, ⟨mac1, mac2⟩, cookie)
    else (true, macs, cookie)

/-- How an initiation serialises with given MACs. -/
def MessageHandshakeInitiation.serializeWith (message : MessageHandshakeInitiation)
    (macs : MessageMacs) : Except ParseError (List UInt8) :=
  serializeHandshakeInitiation { message with macs }

/-- How a response serialises with given MACs. -/
def MessageHandshakeResponse.serializeWith (message : MessageHandshakeResponse)
    (macs : MessageMacs) : Except ParseError (List UInt8) :=
  serializeHandshakeResponse { message with macs }

/-! ## The initiator's first message -/

/-- `noise_handshake_create_initiation`. -/
def noiseHandshakeCreateInitiation (peer : WgPeer) : Bool × WgPeer :=
  let identity := peer.staticIdentity
  if identity.staticPrivate.valid = false ∨ identity.staticPublic.valid = false ∨
      identity.remoteStatic.valid = false ∨
      peer.handshakeMaterial.precomputedStaticStatic.valid = false ∨
      peer.handshake.localIndex = 0 then
    (false, peer)
  else
    let (chainingKey, hash) := handshakeInit c identity.remoteStatic.bytes
    let ephemeralPrivate := clampPrivateKey p.ephemeral
    let ephemeralPublic := c.x25519PublicKey ephemeralPrivate
    let (chainingKey, hash) := messageEphemeral c ephemeralPublic chainingKey hash
    let dst := { MessageHandshakeInitiation.empty with
      type := MessageType.handshakeInitiation.word
      senderIndex := peer.handshake.localIndex
      unencryptedEphemeral := ephemeralPublic }
    let material := { peer.handshakeMaterial with
      ephemeralPrivate := .of ephemeralPrivate
      ephemeralPublic := .of ephemeralPublic
      chainingKey := .of chainingKey
      hash := .of hash }
    match mixDh c chainingKey ephemeralPrivate identity.remoteStatic.bytes with
    | none => (false, { peer with handshakeMaterial := material, lastInitiation := dst })
    | some (chainingKey, key) =>
      let material := { material with chainingKey := .of chainingKey }
      match messageEncrypt c identity.staticPublic.bytes key hash with
      | none => (false, { peer with handshakeMaterial := material, lastInitiation := dst })
      | some (encryptedStatic, hash) =>
        let dst := { dst with encryptedStatic }
        let material := { material with hash := .of hash }
        match mixPrecomputedDh c chainingKey material.precomputedStaticStatic with
        | none => (false, { peer with handshakeMaterial := material, lastInitiation := dst })
        | some (chainingKey, key) =>
          let material := { material with chainingKey := .of chainingKey }
          match messageEncrypt c (tai64nNow p.realTime) key hash with
          | none => (false, { peer with handshakeMaterial := material, lastInitiation := dst })
          | some (encryptedTimestamp, hash) =>
            let dst := { dst with encryptedTimestamp }
            let material := { material with hash := .of hash }
            let (ok, macs, cookie) :=
              applyOutgoingMacs c p dst.serializeWith identity.remoteStatic peer.cookie
            let dst := { dst with macs }
            if ok = false then
              (false, { peer with handshakeMaterial := material, lastInitiation := dst, cookie })
            else
              (true, { peer with
                handshakeMaterial := material
                lastInitiation := dst
                hasLastInitiation := true
                cookie
                handshake := { peer.handshake with state := .initiationCreated } })

/-! ## The responder's side of the first message -/

/-- What `noise_handshake_consume_initiation` derives from a message it can authenticate: the
transcript after it and the timestamp inside.  `none` is one of its rejections. -/
def readInitiation (src : MessageHandshakeInitiation) (peer : WgPeer) :
    Option (Bytes 32 × Bytes 32 × Bytes 12) :=
  let identity := peer.staticIdentity
  let (chainingKey, hash) := handshakeInit c identity.staticPublic.bytes
  let (chainingKey, hash) := messageEphemeral c src.unencryptedEphemeral chainingKey hash
  match mixDh c chainingKey identity.staticPrivate.bytes src.unencryptedEphemeral with
  | none => none
  | some (chainingKey, key) =>
    match messageDecrypt c src.encryptedStatic key hash with
    | none => none
    | some (remoteStatic, hash) =>
      if remoteStatic ≠ identity.remoteStatic.bytes then none
      else
        match mixPrecomputedDh c chainingKey peer.handshakeMaterial.precomputedStaticStatic with
        | none => none
        | some (chainingKey, key) =>
          match messageDecrypt c src.encryptedTimestamp key hash with
          | none => none
          | some (timestamp, hash) => some (chainingKey, hash, timestamp)

/-- `noise_handshake_consume_initiation`; a rejected message leaves the peer as it was. -/
def noiseHandshakeConsumeInitiation (src : MessageHandshakeInitiation) (peer : WgPeer) :
    Option WgPeer :=
  let identity := peer.staticIdentity
  if identity.staticPrivate.valid = false ∨ identity.staticPublic.valid = false ∨
      identity.remoteStatic.valid = false ∨
      peer.handshakeMaterial.precomputedStaticStatic.valid = false then
    none
  else if getMessageType src.type ≠ some .handshakeInitiation then none
  else if src.senderIndex = 0 then none
  else if verifyMac1 c (serializeHandshakeInitiation src) src.macs.mac1 identity.staticPublic
      = false then
    none
  else
    match readInitiation c src peer with
    | none => none
    | some (chainingKey, hash, timestamp) =>
      let now := p.clock .consumeInitiation
      if peer.handshake.hasLastInitiationTimestamp ∧
          lexicographicalCompare peer.handshake.lastInitiationTimestamp.toList timestamp.toList
            = false then
        none
      else if 0 < peer.handshake.lastInitiationConsumption ∧
          (now < peer.handshake.lastInitiationConsumption ∨
            now - peer.handshake.lastInitiationConsumption ≤ handshakeInitiationRate) then
        none
      else
        some { peer with
          handshakeMaterial := { peer.handshakeMaterial with
            remoteEphemeral := .of src.unencryptedEphemeral
            hash := .of hash
            chainingKey := .of chainingKey }
          handshake := { peer.handshake with
            state := .initiationReceived
            remoteIndex := src.senderIndex
            lastInitiationTimestamp := timestamp
            hasLastInitiationTimestamp := true
            lastInitiationConsumption := now }
          acceptedInitiations := peer.acceptedInitiations ++ [(src, timestamp)] }

/-- `noise_handshake_create_response`: the response when it could be built, and the peer. -/
def noiseHandshakeCreateResponse (peer : WgPeer) : Option MessageHandshakeResponse × WgPeer :=
  let identity := peer.staticIdentity
  if identity.remoteStatic.valid = false ∨ peer.handshakeMaterial.remoteEphemeral.valid = false ∨
      peer.handshake.localIndex = 0 ∨ peer.handshake.remoteIndex = 0 ∨
      peer.handshake.state ≠ .initiationReceived then
    (none, peer)
  else
    let ephemeralPrivate := clampPrivateKey p.ephemeral
    let ephemeralPublic := c.x25519PublicKey ephemeralPrivate
    let (chainingKey, hash) := messageEphemeral c ephemeralPublic
      peer.handshakeMaterial.chainingKey.bytes peer.handshakeMaterial.hash.bytes
    let write (chainingKey hash : Bytes 32) : NoiseHandshakeMaterial :=
      { peer.handshakeMaterial with
        ephemeralPrivate := .of ephemeralPrivate
        ephemeralPublic := .of ephemeralPublic
        chainingKey := { peer.handshakeMaterial.chainingKey with bytes := chainingKey }
        hash := { peer.handshakeMaterial.hash with bytes := hash } }
    match mixDh c chainingKey ephemeralPrivate peer.handshakeMaterial.remoteEphemeral.bytes with
    | none => (none, { peer with handshakeMaterial := write chainingKey hash })
    | some (chainingKey, _) =>
      match mixDh c chainingKey ephemeralPrivate identity.remoteStatic.bytes with
      | none => (none, { peer with handshakeMaterial := write chainingKey hash })
      | some (chainingKey, _) =>
        let (chainingKey, hash, key) := mixPsk c chainingKey hash identity.presharedKey.bytes
        match messageEncrypt c (Bytes.zero 0) key hash with
        | none => (none, { peer with handshakeMaterial := write chainingKey hash })
        | some (encryptedNothing, hash) =>
          let dst : MessageHandshakeResponse := { MessageHandshakeResponse.empty with
            type := MessageType.handshakeResponse.word
            senderIndex := peer.handshake.localIndex
            receiverIndex := peer.handshake.remoteIndex
            unencryptedEphemeral := ephemeralPublic
            encryptedNothing }
          let (ok, macs, cookie) :=
            applyOutgoingMacs c p dst.serializeWith identity.remoteStatic peer.cookie
          if ok = false then
            (none, { peer with handshakeMaterial := write chainingKey hash, cookie })
          else
            (some { dst with macs }, { peer with
              handshakeMaterial := write chainingKey hash
              cookie
              handshake := { peer.handshake with state := .responseCreated } })

/-! ## The initiator's side of the response -/

/-- What `noise_handshake_consume_response` derives from a response it can authenticate. -/
def readResponse (src : MessageHandshakeResponse) (peer : WgPeer) : Option (Bytes 32 × Bytes 32) :=
  let (chainingKey, hash) := messageEphemeral c src.unencryptedEphemeral
    peer.handshakeMaterial.chainingKey.bytes peer.handshakeMaterial.hash.bytes
  match mixDh c chainingKey peer.handshakeMaterial.ephemeralPrivate.bytes
      src.unencryptedEphemeral with
  | none => none
  | some (chainingKey, _) =>
    match mixDh c chainingKey peer.staticIdentity.staticPrivate.bytes src.unencryptedEphemeral with
    | none => none
    | some (chainingKey, _) =>
      let (chainingKey, hash, key) :=
        mixPsk c chainingKey hash peer.staticIdentity.presharedKey.bytes
      match messageDecrypt (n := 0) c src.encryptedNothing key hash with
      | none => none
      | some (_, hash) => some (chainingKey, hash)

/-- `noise_handshake_consume_response`. -/
def noiseHandshakeConsumeResponse (src : MessageHandshakeResponse) (device : WgDevice) :
    Option WgPeer :=
  let peer := device.peer
  if peer.staticIdentity.staticPrivate.valid = false ∨
      peer.handshakeMaterial.ephemeralPrivate.valid = false ∨
      peer.handshake.state ≠ .initiationCreated then
    none
  else if getMessageType src.type ≠ some .handshakeResponse then none
  else if src.senderIndex = 0 then none
  else if verifyMac1 c (serializeHandshakeResponse src) src.macs.mac1
      peer.staticIdentity.staticPublic = false then
    none
  else if src.senderIndex = peer.handshake.localIndex then none
  else if device.indexMatchesSlot .handshake src.receiverIndex = false then none
  else if peer.currentKeypair.isValid ∧ src.senderIndex = peer.currentKeypair.remoteIndex then none
  else
    match readResponse c src peer with
    | none => none
    | some (chainingKey, hash) =>
      some { peer with
        handshakeMaterial := { peer.handshakeMaterial with
          remoteEphemeral := .of src.unencryptedEphemeral
          hash := .of hash
          chainingKey := .of chainingKey }
        handshake := { peer.handshake with
          state := .responseReceived
          remoteIndex := src.senderIndex } }

/-! ## Cookie replies -/

/-- `MatchesCookieReceiverIndex`: every slot of the registry is accepted. -/
def matchesCookieReceiverIndex (receiverIndex : UInt32) : Bool :=
  decide (receiverIndex ≠ 0) && (device.lookupIndexSlot receiverIndex).isSome

/-- `noise_handshake_consume_cookie_reply`. -/
def noiseHandshakeConsumeCookieReply (src : MessageHandshakeCookie) (device : WgDevice) :
    Bool × WgPeer :=
  let peer := device.peer
  if peer.staticIdentity.remoteStatic.valid = false then (false, peer)
  else if getMessageType src.type ≠ some .cookieReply then (false, peer)
  else if matchesCookieReceiverIndex device src.receiverIndex = false then (false, peer)
  else if peer.cookie.hasLastMac1 = false then (false, peer)
  else
    match computeCookieKey c peer.staticIdentity.remoteStatic with
    | none => (false, peer)
    | some cookieKey =>
      match c.xchacha20poly1305Decrypt (src.encryptedCookie.first (n := 16) (m := 16))
          (src.encryptedCookie.last (n := 16) (m := 16)) peer.cookie.lastMac1.toList cookieKey
          src.nonce with
      | none => (false, peer)
      | some value =>
        let cookie := { peer.cookie with
          value, valid := true, birthTime := p.clock .cookieBirth }
        if peer.hasLastInitiation then
          let (ok, macs, cookie) := applyOutgoingMacs c p peer.lastInitiation.serializeWith
            peer.staticIdentity.remoteStatic cookie
          (ok, { peer with cookie, lastInitiation := { peer.lastInitiation with macs } })
        else (true, { peer with cookie })

/-! ## Session derivation -/

/-- The keypair `noise_handshake_begin_session` establishes; `DeriveSessionKeys` is `kdf2`. -/
def WgPeer.deriveKeypair (peer : WgPeer) : NoiseKeypair :=
  let (first, second) := kdf2 c [] peer.handshakeMaterial.chainingKey.bytes
  let initiator := decide (peer.handshake.state = .responseReceived)
  NoiseKeypair.establish p.serial peer.handshake.localIndex peer.handshake.remoteIndex
    (p.clock .sessionBirth) (.of (if initiator then first else second))
    (.of (if initiator then second else first)) 0 initiator

/-- The slot moves of `noise_handshake_begin_session`.  An initiator's keypair becomes current and
an unconfirmed next one is kept as previous; a responder's becomes next. -/
def WgPeer.installKeypair (peer : WgPeer) (newKeypair : NoiseKeypair) : WgPeer :=
  if peer.handshake.state = .responseReceived then
    if peer.nextKeypair.isValid then
      { peer with
        previousKeypair := peer.nextKeypair
        nextKeypair := .reset
        currentKeypair := newKeypair }
    else
      { peer with previousKeypair := peer.currentKeypair, currentKeypair := newKeypair }
  else
    { peer with nextKeypair := newKeypair, previousKeypair := .reset }

/-- `noise_handshake_begin_session`. -/
def noiseHandshakeBeginSession : Bool × WgDevice :=
  let state := device.peer.handshake.state
  let newKeypair := device.peer.deriveKeypair c p
  if state ≠ .responseCreated ∧ state ≠ .responseReceived then (false, device)
  else if device.peer.handshakeMaterial.chainingKey.valid = false then (false, device)
  else if newKeypair.isValid = false then (false, device)
  else
    let device := WgDevice.refreshKeypairIndices
      { device with peer := device.peer.installKeypair newKeypair }
    (true, { device with
      peer := WgPeer.clearTranscript { device.peer with
        handshake := { device.peer.handshake with state := .sessionDerived } } })

/-! ## Incoming handshake packets -/

inductive HandshakePacketOutcome where
  | invalid
  | initiationConsumed
  | responseConsumed
  | cookieReplyConsumed
  deriving DecidableEq, Repr

/-- `noise_handshake_consume_incoming_packet`. -/
def noiseHandshakeConsumeIncomingPacket (packet : List UInt8) (device : WgDevice) :
    HandshakePacketOutcome × WgDevice :=
  match inspectMessageType packet with
  | .error _ => (.invalid, device)
  | .ok .handshakeInitiation =>
    match parseHandshakeInitiation packet with
    | .error _ => (.invalid, device)
    | .ok initiation =>
      match noiseHandshakeConsumeInitiation c p initiation device.peer with
      | none => (.invalid, device)
      | some peer =>
        let device := { device with peer }
        let localIndex := device.allocateIndex p
        if localIndex = 0 then (.invalid, { device with peer := peer.clearTranscript })
        else
          (.initiationConsumed, WgDevice.registerHandshakeIndex { device with
            peer := { peer with handshake := { peer.handshake with localIndex } } } localIndex)
  | .ok .handshakeResponse =>
    match parseHandshakeResponse packet with
    | .error _ => (.invalid, device)
    | .ok response =>
      match noiseHandshakeConsumeResponse c response device with
      | none => (.invalid, device)
      | some peer => (.responseConsumed, { device with peer })
  | .ok .cookieReply =>
    match parseHandshakeCookie packet with
    | .error _ => (.invalid, device)
    | .ok cookie =>
      match noiseHandshakeConsumeCookieReply c p cookie device with
      | (true, peer) => (.cookieReplyConsumed, { device with peer })
      | (false, peer) => (.invalid, { device with peer })
  | .ok .transportData | .ok .invalid => (.invalid, device)

/-! ## Responder admission -/

def handshakeRateTokenCost : Int := 50000000

def handshakeRateMaximumTokens : Int := handshakeRateTokenCost * 5

def sourceAddressSize : Nat :=
  match source.family with
  | .inet => 4
  | .inet6 => 16
  | .unspecified => 0

def buildSourceBytes : Option (List UInt8) :=
  if sourceAddressSize source = 0 then none
  else some (source.address.toList.take (sourceAddressSize source) ++
    [(source.port >>> 8).toUInt8, (source.port &&& 0xFF).toUInt8])

def verifyPacketMac1 (packet : List UInt8) (localStatic : NoiseKey) : Bool :=
  let expectedSize :=
    match inspectMessageType packet with
    | .ok .handshakeInitiation => handshakeInitiationSize
    | .ok .handshakeResponse => handshakeResponseSize
    | _ => 0
  if localStatic.valid = false ∨ expectedSize = 0 ∨ packet.length ≠ expectedSize then false
  else
    let mac1Key := c.blake2sHash 32 (mac1KeyLabel ++ localStatic.bytes.toList) []
    let expected := c.blake2sHash 16 (packet.take (packet.length - 2 * 16)) mac1Key.toList
    decide (expected.toList = (packet.drop (packet.length - 2 * 16)).take 16)

/-- `ConsumeHandshakeRate` on a bucket's tokens, last update and initialised flag. -/
def consumeHandshakeRate (tokens : Int) (lastUpdate : MonotonicTime) (initialized : Bool)
    (now : MonotonicTime) : Bool × Int × MonotonicTime :=
  let (tokens, lastUpdate) :=
    if initialized = false then (handshakeRateMaximumTokens, now)
    else if lastUpdate < now then
      (min handshakeRateMaximumTokens (tokens + (now - lastUpdate)), now)
    else (tokens, lastUpdate)
  if tokens < handshakeRateTokenCost then (false, tokens, lastUpdate)
  else (true, tokens - handshakeRateTokenCost, lastUpdate)

def isUnderLoad (state : ResponderCookieState) (now : MonotonicTime) :
    Bool × ResponderCookieState :=
  let (arrivalAllowed, tokens, lastUpdate) := consumeHandshakeRate state.arrivalTokens
    state.arrivalLastUpdate state.arrivalInitialized now
  let state := { state with
    arrivalTokens := tokens
    arrivalLastUpdate := lastUpdate
    arrivalInitialized := true
    underLoadUntil := if arrivalAllowed then state.underLoadUntil else now + underLoadAfterTime }
  (!arrivalAllowed || decide (now < state.underLoadUntil), state)

/-- Whether an active rate-limit entry is the one of a source. -/
def HandshakeRateLimitEntry.matchesSource (entry : HandshakeRateLimitEntry) (source : Endpoint) :
    Bool :=
  entry.active && decide (entry.family = source.family) &&
    decide (entry.address.toList.take (sourceAddressSize source) =
      source.address.toList.take (sourceAddressSize source))

/-- Whether a rate-limit entry may be given to a new source. -/
def HandshakeRateLimitEntry.reusable (entry : HandshakeRateLimitEntry) (now : MonotonicTime) :
    Bool :=
  !entry.active ||
    (decide (entry.lastUpdate < now) && decide (underLoadAfterTime < now - entry.lastUpdate))

/-- A recycled entry, named for a source. -/
def HandshakeRateLimitEntry.forSource : HandshakeRateLimitEntry :=
  { HandshakeRateLimitEntry.empty with
    family := source.family
    address := if source.family = .inet then
        (Bytes.append (source.address.first (n := 4) (m := 12)) (Bytes.zero 12))
      else source.address
    active := true }

/-- `FindRateLimitEntry`: the entry of the source, or else the last reusable one, recycled. -/
def findRateLimitEntry (state : ResponderCookieState) (source : Endpoint) (now : MonotonicTime) :
    Option (Fin 8 × HandshakeRateLimitEntry) :=
  if sourceAddressSize source = 0 then none
  else
    match (List.finRange 8).find? fun i => (state.rateLimits i).matchesSource source with
    | some i => some (i, state.rateLimits i)
    | none =>
      match (List.finRange 8).reverse.find? fun i => (state.rateLimits i).reusable now with
      | some i => some (i, .forSource source)
      | none => none

/-- Whether the responder's secret is usable at a time. -/
def ResponderCookieState.secretFresh (state : ResponderCookieState) (now : MonotonicTime) : Bool :=
  state.secret.valid && decide (state.secretBirth ≠ 0) && decide (state.secretBirth ≤ now) &&
    decide (now - state.secretBirth ≤ cookieRefreshTime)

def checkPacketMac2 (state : ResponderCookieState) (packet : List UInt8) (source : Endpoint)
    (now : MonotonicTime) : Bool :=
  if state.secretFresh now = false then false
  else
    match buildSourceBytes source with
    | none => false
    | some sourceBytes =>
      let cookie := c.blake2sHash 16 sourceBytes state.secret.bytes.toList
      let expected := c.blake2sHash 16 (packet.take (packet.length - 16)) cookie.toList
      decide (expected.toList = packet.drop (packet.length - 16))

/-- `CreateCookieReply`, with the responder state that may have a new secret. -/
def createCookieReply (state : ResponderCookieState) (localStatic : NoiseKey) (packet : List UInt8)
    (source : Endpoint) (now : MonotonicTime) :
    Option MessageHandshakeCookie × ResponderCookieState :=
  if localStatic.valid = false then (none, state)
  else
    let state :=
      if state.secretFresh now then state
      else { state with secret := .of p.cookieSecret, secretBirth := now }
    match buildSourceBytes source, computeCookieKey c localStatic, readBytes 4 (packet.drop 4) with
    | some sourceBytes, some key, some (receiver, _) =>
      let cookie := c.blake2sHash 16 sourceBytes state.secret.bytes.toList
      let receiverIndex := loadLe32 receiver
      if receiverIndex = 0 then (none, state)
      else
        match c.xchacha20poly1305Encrypt cookie
            ((packet.drop (packet.length - 2 * 16)).take 16) key p.cookieNonce with
        | none => (none, state)
        | some (ciphertext, tag) =>
          (some ⟨MessageType.cookieReply.word, receiverIndex, p.cookieNonce,
            ciphertext.append tag⟩, state)
    | _, _, _ => (none, state)

/-- `ResponderHandshakeAdmission`, with the cookie of a reply. -/
inductive ResponderHandshakeAdmission where
  | accepted
  | cookieReply (cookie : MessageHandshakeCookie)
  | rateLimited
  | invalid
  deriving DecidableEq

/-- `noise_handshake_admit_responder_packet`. -/
def noiseHandshakeAdmitResponderPacket (packet : List UInt8) (source : Endpoint)
    (now : MonotonicTime) : ResponderHandshakeAdmission × WgDevice :=
  if device.hasPeer = false ∨ sourceAddressSize source = 0 ∨
      verifyPacketMac1 c packet device.peer.staticIdentity.staticPublic = false then
    (.invalid, device)
  else
    match isUnderLoad device.responderCookie now with
    | (false, state) => (.accepted, { device with responderCookie := state })
    | (true, state) =>
      if checkPacketMac2 c state packet source now = false then
        match createCookieReply c p state device.peer.staticIdentity.staticPublic packet source
            now with
        | (some cookie, state) => (.cookieReply cookie, { device with responderCookie := state })
        | (none, state) => (.invalid, { device with responderCookie := state })
      else
        match findRateLimitEntry state source now with
        | none => (.rateLimited, { device with responderCookie := state })
        | some (i, entry) =>
          let (allowed, tokens, lastUpdate) :=
            consumeHandshakeRate entry.tokens entry.lastUpdate entry.initialized now
          let entry := { entry with tokens, lastUpdate, initialized := true }
          let state := { state with rateLimits := Function.update state.rateLimits i entry }
          (if allowed then .accepted else .rateLimited, { device with responderCookie := state })

end WireguardNx.Wireguard
