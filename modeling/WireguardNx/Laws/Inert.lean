import WireguardNx.Laws.PeerMachine

/-!
# Unauthenticated input

What a received datagram has to pass before it counts, message by message.  A datagram that fails
any of it leaves the peer as it was, but for the responder's rate and cookie state and the scratch
packet, and is answered with a cookie reply at most.

Nothing is assumed of the primitives, and no state is excluded.  How hard it is to make a datagram
that passes is a question about the primitives.
-/

namespace WireguardNx.Wireguard

/-- The size of the payload of a transport packet. -/
def transportPayloadSize (packet : List UInt8) : Nat :=
  packet.length - transportDataHeaderSize - noiseTagSize

/-- A keypair opens a transport packet with the given header, into a buffer of `capacity` bytes. -/
structure NoiseKeypair.Opens (c : Crypto) (now : MonotonicTime) (packet : List UInt8)
    (capacity : Nat) (keypair : NoiseKeypair) (header : MessageTransportData) : Prop where
  valid : keypair.isValid = true
  live : keypair.canReceiveAt now = true
  parsed : parseTransportDataHeader packet = .ok header
  tagged : transportDataHeaderSize + noiseTagSize ≤ packet.length
  addressed : header.receiverIndex = keypair.localIndex
  counted : header.counter < rejectAfterMessages
  fits : transportPayloadSize packet ≤ capacity
  unseen : (keypair.receiveReplayWindow.tryAdvance header.counter).1 = true
  authentic : ∃ tag rest payload,
    readBytes 16 (packet.drop (transportDataHeaderSize + transportPayloadSize packet)) =
        some (tag, rest) ∧
      c.chacha20poly1305Decrypt (Bytes.ofList
        ((packet.drop transportDataHeaderSize).take (transportPayloadSize packet))) tag []
        keypair.receivingKey.bytes (buildTransportNonce header.counter) = some payload

/-- The keypair that a transport packet names by its receiver index opens it. -/
def WgDevice.OpensTransportData (c : Crypto) (now : MonotonicTime) (packet : List UInt8)
    (capacity : Nat) (device : WgDevice) : Prop :=
  ∃ header slot keypair, device.lookupIndexSlot header.receiverIndex = some slot ∧
    device.keypairForSlot slot = some keypair ∧ keypair.Opens c now packet capacity header

/-- An initiation is authentic, newer than the last and outside the flood interval. -/
structure WgPeer.AcceptsInitiation (c : Crypto) (p : Platform) (peer : WgPeer)
    (src : MessageHandshakeInitiation) : Prop where
  keyed : peer.staticIdentity.staticPrivate.valid = true ∧
    peer.staticIdentity.staticPublic.valid = true ∧ peer.staticIdentity.remoteStatic.valid = true ∧
    peer.handshakeMaterial.precomputedStaticStatic.valid = true
  sender : src.senderIndex ≠ 0
  mac1 : verifyMac1 c (serializeHandshakeInitiation src) src.macs.mac1
    peer.staticIdentity.staticPublic = true
  authentic : ∃ chainingKey hash timestamp,
    readInitiation c src peer = some (chainingKey, hash, timestamp) ∧
      peer.handshake.Admits timestamp (p.clock .consumeInitiation)

/-- A response is authentic and answers the initiation that is outstanding. -/
structure WgDevice.AcceptsResponse (c : Crypto) (device : WgDevice)
    (src : MessageHandshakeResponse) : Prop where
  keyed : device.peer.staticIdentity.staticPrivate.valid = true ∧
    device.peer.handshakeMaterial.ephemeralPrivate.valid = true
  awaited : device.peer.handshake.state = .initiationCreated
  sender : src.senderIndex ≠ 0 ∧ src.senderIndex ≠ device.peer.handshake.localIndex
  mac1 : verifyMac1 c (serializeHandshakeResponse src) src.macs.mac1
    device.peer.staticIdentity.staticPublic = true
  addressed : device.indexMatchesSlot .handshake src.receiverIndex = true
  unseen : ¬ (device.peer.currentKeypair.isValid = true ∧
    src.senderIndex = device.peer.currentKeypair.remoteIndex)
  authentic : (readResponse c src device.peer).isSome = true

/-- A cookie reply names a registered index and authenticates against the last `mac1` sent. -/
structure WgDevice.AcceptsCookieReply (c : Crypto) (device : WgDevice)
    (src : MessageHandshakeCookie) : Prop where
  addressed : matchesCookieReceiverIndex device src.receiverIndex = true
  asked : device.peer.cookie.hasLastMac1 = true
  authentic : ∃ cookieKey value,
    computeCookieKey c device.peer.staticIdentity.remoteStatic = some cookieKey ∧
      c.xchacha20poly1305Decrypt (src.encryptedCookie.first (n := 16) (m := 16))
        (src.encryptedCookie.last (n := 16) (m := 16)) device.peer.cookie.lastMac1.toList cookieKey
        src.nonce = some value

/-- A datagram is well formed as a handshake message or cookie reply, and that message counts. -/
def WgDevice.AcceptsHandshake (c : Crypto) (p : Platform) (packet : List UInt8)
    (device : WgDevice) : Prop :=
  (∃ src, parseHandshakeInitiation packet = .ok src ∧ device.peer.AcceptsInitiation c p src) ∨
    (∃ src, parseHandshakeResponse packet = .ok src ∧ device.AcceptsResponse c src) ∨
    ∃ src, parseHandshakeCookie packet = .ok src ∧ device.AcceptsCookieReply c src

section Messages

variable {c : Crypto} {p : Platform} {device : WgDevice} {packet : List UInt8}

private theorem consumeTransportDataPacket_opens {now : MonotonicTime}
    {keypair after : NoiseKeypair}
    {capacity : Nat} {header : MessageTransportData} {payload : List UInt8}
    (h : noiseConsumeTransportDataPacket c now packet keypair capacity =
      (.ok (header, payload), after)) : keypair.Opens c now packet capacity header := by
  unfold noiseConsumeTransportDataPacket at h
  split at h
  · cases h
  rename_i hvalid
  split at h
  · cases h
  rename_i hlive
  split at h
  · cases h
  rename_i read hparse
  split at h
  · cases h
  rename_i htagged
  split at h
  · cases h
  rename_i haddressed
  split at h
  · cases h
  rename_i hcounter
  simp only at h
  split at h
  · cases h
  rename_i hfits
  split at h
  · cases h
  rename_i window hadvance
  split at h
  · cases h
  rename_i tag rest htag
  split at h
  · cases h
  rename_i plain hdecrypt
  cases h
  exact {
    valid := Bool.not_eq_false _ ▸ hvalid
    live := Bool.not_eq_false _ ▸ hlive
    parsed := hparse
    tagged := Nat.not_lt.mp htagged
    addressed := not_not.mp haddressed
    counted := UInt64.not_le.mp hcounter
    fits := Nat.not_lt.mp hfits
    unseen := by rw [hadvance]
    authentic := ⟨tag, rest, plain, htag, hdecrypt⟩ }

/-- A transport packet that no keypair opens is refused, and the device is as before. -/
theorem consumeIncomingTransportData_refuses {now : MonotonicTime} {capacity : Nat}
    (h : ¬ device.OpensTransportData c now packet capacity) :
    ∃ error, noiseConsumeIncomingTransportDataPacket c now packet device capacity =
      (.error error, device) := by
  unfold noiseConsumeIncomingTransportDataPacket
  split
  · exact ⟨_, rfl⟩
  rename_i header hparse
  split
  · exact ⟨_, rfl⟩
  rename_i slot hslot
  split
  · exact ⟨_, rfl⟩
  rename_i keypair hkeypair
  cases hconsumed : noiseConsumeTransportDataPacket c now packet keypair capacity with
  | mk result written =>
    cases result with
    | error error =>
      obtain ⟨-, -, rfl⟩ | ⟨_, _, _, hok, -⟩ := consumeTransportDataPacket_spec hconsumed
      · exact ⟨error, congrArg (Prod.mk _) (setKeypairForSlot_self hkeypair)⟩
      · cases hok
    | ok data =>
      have hopens := consumeTransportDataPacket_opens hconsumed
      obtain rfl : header = data.1 := Except.ok.inj (hparse.symm.trans hopens.parsed)
      exact absurd ⟨data.1, slot, keypair, hslot, hkeypair, hopens⟩ h

private theorem consumeInitiation_refuses {peer : WgPeer} {src : MessageHandshakeInitiation}
    (h : ¬ peer.AcceptsInitiation c p src) :
    noiseHandshakeConsumeInitiation c p src peer = none := by
  refine Option.eq_none_iff_forall_ne_some.mpr fun after hcons => h ?_
  unfold noiseHandshakeConsumeInitiation at hcons
  simp only at hcons
  split at hcons
  · cases hcons
  rename_i hkeyed
  simp only [not_or, Bool.not_eq_false] at hkeyed
  split at hcons
  · cases hcons
  split at hcons
  · cases hcons
  rename_i hsender
  split at hcons
  · cases hcons
  rename_i hmac1
  split at hcons
  · cases hcons
  rename_i chainingKey hash timestamp hread
  split at hcons
  · cases hcons
  rename_i hnewer
  split at hcons
  · cases hcons
  rename_i hflood
  refine ⟨hkeyed, hsender, Bool.not_eq_false _ ▸ hmac1, chainingKey, hash, timestamp, hread, ?_, ?_⟩
  · intro hlast
    by_contra hstale
    exact hnewer ⟨hlast, Bool.not_eq_true _ ▸ hstale⟩
  · intro hlast
    simp only [not_and, not_or, Int.not_lt, Int.not_le] at hflood
    exact hflood hlast

private theorem consumeResponse_refuses {src : MessageHandshakeResponse}
    (h : ¬ device.AcceptsResponse c src) : noiseHandshakeConsumeResponse c src device = none := by
  refine Option.eq_none_iff_forall_ne_some.mpr fun after hcons => h ?_
  unfold noiseHandshakeConsumeResponse at hcons
  simp only at hcons
  split at hcons
  · cases hcons
  rename_i hstart
  simp only [not_or, Bool.not_eq_false, not_not] at hstart
  split at hcons
  · cases hcons
  split at hcons
  · cases hcons
  rename_i hsender
  split at hcons
  · cases hcons
  rename_i hmac1
  split at hcons
  · cases hcons
  rename_i hown
  split at hcons
  · cases hcons
  rename_i hslot
  split at hcons
  · cases hcons
  rename_i hunseen
  split at hcons
  · cases hcons
  rename_i chainingKey hash hread
  exact {
    keyed := ⟨hstart.1, hstart.2.1⟩
    awaited := hstart.2.2
    sender := ⟨hsender, hown⟩
    mac1 := Bool.not_eq_false _ ▸ hmac1
    addressed := Bool.not_eq_false _ ▸ hslot
    unseen := hunseen
    authentic := by rw [hread]; rfl }

private theorem consumeCookieReply_refuses {src : MessageHandshakeCookie}
    (h : ¬ device.AcceptsCookieReply c src) :
    noiseHandshakeConsumeCookieReply c p src device = (false, device.peer) := by
  unfold noiseHandshakeConsumeCookieReply
  simp only
  iterate 3 (split; · rfl)
  rename_i haddressed
  split
  · rfl
  rename_i hasked
  split
  · rfl
  rename_i cookieKey hkey
  split
  · rfl
  rename_i value hdecrypt
  exact absurd ⟨Bool.not_eq_false _ ▸ haddressed, Bool.not_eq_false _ ▸ hasked,
    cookieKey, value, hkey, hdecrypt⟩ h

/-- What a device accepts does not depend on its responder's cookie state. -/
theorem acceptsHandshake_of_cookie {responderCookie : ResponderCookieState}
    (h : WgDevice.AcceptsHandshake c p packet { device with responderCookie }) :
    device.AcceptsHandshake c p packet := by
  obtain hinitiation | ⟨src, hparse, h⟩ | ⟨src, hparse, h⟩ := h
  · exact .inl hinitiation
  · exact .inr (.inl ⟨src, hparse, h.keyed, h.awaited, h.sender, h.mac1, h.addressed, h.unseen,
      h.authentic⟩)
  · exact .inr (.inr ⟨src, hparse, h.addressed, h.asked, h.authentic⟩)

private theorem inspectMessageType_ne_invalid {packet : List UInt8} :
    inspectMessageType packet ≠ .ok .invalid := by
  unfold inspectMessageType
  split
  · exact nofun
  split
  · exact nofun
  · exact nofun
  · rename_i type hinvalid _
    exact fun htype => hinvalid (Except.ok.inj htype)

/-- A handshake datagram that does not count is refused, and the device is as before. -/
theorem consumeIncomingPacket_refuses (h : ¬ device.AcceptsHandshake c p packet) :
    noiseHandshakeConsumeIncomingPacket c p packet device = (.invalid, device) := by
  unfold WgDevice.AcceptsHandshake at h
  simp only [not_or, not_exists, not_and] at h
  obtain ⟨hinitiation, hresponse, hcookie⟩ := h
  unfold noiseHandshakeConsumeIncomingPacket
  split
  · rfl
  · split
    · rfl
    · rename_i src hparse
      rw [consumeInitiation_refuses (hinitiation src hparse)]
  · split
    · rfl
    · rename_i src hparse
      rw [consumeResponse_refuses (hresponse src hparse)]
  · split
    · rfl
    · rename_i src hparse
      rw [consumeCookieReply_refuses (hcookie src hparse)]
  · rfl
  · rfl

end Messages

end WireguardNx.Wireguard

namespace WireguardNx.Runtime

open Wireguard

/-- A datagram counts for a peer: it is for the current activation, and a keypair opens it, or it
is a handshake message that is admitted and accepted, or a cookie reply that is accepted.  While a
datagram is pending no handshake message is looked at. -/
structure PeerRuntime.Accepts (c : Crypto) (p : Platform) (s : PeerRuntime)
    (event : EncryptedDatagramReceivedEvent) : Prop where
  current : s.isCurrentActivation event.peer.activationGeneration = true
  transport : s.isInTransportState = true
  peer : s.hasProtocolPeer = true
  message :
    s.device.OpensTransportData c (p.clock .receive) event.packet maxDecryptedPayloadSize ∨
      (s.pendingDatagram = none ∧ s.device.AcceptsHandshake c p event.packet ∧
        (inspectMessageType event.packet ≠ .ok .cookieReply →
          (noiseHandshakeAdmitResponderPacket c p s.device event.packet event.source
            event.occurredAt).1 = .accepted))

/-- What a datagram that does not count may do. -/
def PeerRuntime.Ignores (s : PeerRuntime) (event : EncryptedDatagramReceivedEvent)
    (st : HandlerState) : Prop :=
  ∃ responderCookie decryptedPacket,
    st.runtime = { s with device := { s.device with responderCookie }, decryptedPacket } ∧
      (st.effects = [] ∨ ∃ bytes, st.effects = [.sendCookieReply event.peer event.source bytes])

section Handlers

variable {c : Crypto} {p : Platform} {s : PeerRuntime} {event : EncryptedDatagramReceivedEvent}

theorem ignores_self : s.Ignores event ⟨s, []⟩ := ⟨_, _, rfl, .inl rfl⟩

private theorem handleTransportData_ignores
    (h : ¬ s.device.OpensTransportData c (p.clock .receive) event.packet maxDecryptedPayloadSize) :
    s.Ignores event (HandlerState.handleTransportData c p ⟨s, []⟩ event) := by
  obtain ⟨error, hrefused⟩ := consumeIncomingTransportData_refuses h
  unfold HandlerState.handleTransportData
  split
  · exact ignores_self
  simp only
  rw [hrefused]
  exact ⟨_, _, rfl, .inl rfl⟩

/-- A handshake message that is refused, with the cookie state that its admission left. -/
theorem consumeHandshakeDatagram_ignores {responderCookie : ResponderCookieState}
    (h : s.pendingDatagram = none → ¬ s.device.AcceptsHandshake c p event.packet) :
    s.Ignores event (HandlerState.consumeHandshakeDatagram c p
      ⟨{ s with device := { s.device with responderCookie } }, []⟩ event) := by
  unfold HandlerState.consumeHandshakeDatagram
  split
  · exact ⟨_, _, rfl, .inl rfl⟩
  rename_i hfree
  have hrefuses : ¬ WgDevice.AcceptsHandshake c p event.packet { s.device with responderCookie } :=
    fun haccepts =>
      h (Option.not_isSome_iff_eq_none.mp hfree) (acceptsHandshake_of_cookie haccepts)
  rw [consumeIncomingPacket_refuses hrefuses]
  exact ⟨_, _, rfl, .inl rfl⟩

private theorem handleEncryptedDatagram_ignores (h : ¬ s.Accepts c p event) :
    s.Ignores event (s.handleEncryptedDatagram c p event) := by
  unfold PeerRuntime.handleEncryptedDatagram
  split
  · exact ignores_self
  rename_i hchecks
  simp only [not_or, Bool.not_eq_false] at hchecks
  obtain ⟨hcur, htrans, hpeer, -⟩ := hchecks
  split
  · exact ignores_self
  · exact handleTransportData_ignores fun hopens => h ⟨hcur, htrans, hpeer, .inl hopens⟩
  rename_i type htransportData htype
  unfold HandlerState.handleHandshakeDatagram
  split
  · -- an initiation or a response has to be admitted first
    rename_i hhandshake
    have hadmission (hfree : s.pendingDatagram = none)
        (hacc : (noiseHandshakeAdmitResponderPacket c p s.device event.packet event.source
          event.occurredAt).1 = .accepted) : ¬ s.device.AcceptsHandshake c p event.packet :=
      fun haccepts => h ⟨hcur, htrans, hpeer, .inr ⟨hfree, haccepts, fun _ => hacc⟩⟩
    obtain ⟨responderCookie, hcookie⟩ := admitResponderPacket_cookie (c := c) (p := p) event.packet
      event.source event.occurredAt s.device
    simp only
    generalize noiseHandshakeAdmitResponderPacket c p s.device event.packet event.source
      event.occurredAt = admitted at hadmission hcookie ⊢
    obtain ⟨admission, device⟩ := admitted
    obtain rfl : device = { s.device with responderCookie } := hcookie
    cases admission with
    | accepted =>
      exact consumeHandshakeDatagram_ignores fun hfree => hadmission hfree rfl
    | cookieReply cookie =>
      simp only
      split
      · exact ⟨_, _, rfl, .inr ⟨_, rfl⟩⟩
      · exact ⟨_, _, rfl, .inl rfl⟩
    | rateLimited | invalid => exact ⟨_, _, rfl, .inl rfl⟩
  · rename_i hother
    refine consumeHandshakeDatagram_ignores fun hfree haccepts => ?_
    refine h ⟨hcur, htrans, hpeer, .inr ⟨hfree, haccepts, fun hcookie => ?_⟩⟩
    exfalso
    cases type with
    | invalid => exact inspectMessageType_ne_invalid htype
    | handshakeInitiation => exact hother (.inl rfl)
    | handshakeResponse => exact hother (.inr rfl)
    | cookieReply => exact hcookie htype
    | transportData => exact htransportData rfl

/-- A datagram that does not count leaves the whole peer unchanged, the UDP endpoint, the counters,
the lifecycle, the keypairs, the handshake, the registry, the queue, the timers and the slot
included: only the responder's rate and cookie state and the scratch packet may change, and a cookie
reply to the sender is the only effect. -/
theorem unauthenticated_inert (c : Crypto) (p : Platform) (s : PeerRuntime)
    (event : EncryptedDatagramReceivedEvent) (h : ¬ s.Accepts c p event) :
    ∃ responderCookie decryptedPacket batch,
      s.handle c p (.encryptedDatagramReceived event) =
          some ({ s with device := { s.device with responderCookie }, decryptedPacket }, batch) ∧
        (batch.effects = [] ∨
          ∃ bytes, batch.effects = [.sendCookieReply event.peer event.source bytes]) := by
  obtain ⟨responderCookie, decryptedPacket, hruntime, heff⟩ := handleEncryptedDatagram_ignores h
  have hlen : (s.handleEncryptedDatagram c p event).effects.length ≤ 6 := by
    obtain heff | ⟨bytes, heff⟩ := heff
    · rw [heff]; decide
    · rw [heff]; exact Nat.le_add_left 1 5
  have hhandled : (s.handle c p (.encryptedDatagramReceived event)).isSome = true :=
    handle_isSome_iff.mpr ⟨_, rfl, hlen⟩
  obtain ⟨⟨after, batch⟩, hhandle⟩ := Option.isSome_iff_exists.mp hhandled
  obtain ⟨st, hst, -, hfinal⟩ := handle_finalized hhandle
  obtain rfl : s.handleEncryptedDatagram c p event = st := Option.some.inj hst
  -- neither batch asks for a timer, so that finishing it changes nothing
  have hfinished : PeerRuntime.finalizeTimerEffects (s.handleEncryptedDatagram c p event).effects
      (s.handleEncryptedDatagram c p event).runtime =
        ((s.handleEncryptedDatagram c p event).effects,
          (s.handleEncryptedDatagram c p event).runtime) := by
    obtain heff | ⟨bytes, heff⟩ := heff
    · rw [heff]; rfl
    · rw [heff]; rfl
  obtain ⟨hbatch, hafter⟩ := Prod.mk.inj (hfinished.symm.trans hfinal)
  refine ⟨responderCookie, decryptedPacket, batch, ?_, ?_⟩
  · rw [← hruntime, hafter]
    exact hhandle
  · rw [← hbatch]
    exact heff

end Handlers

/-- A transport packet for an index that the sample peer never had. -/
def sampleStray : EncryptedDatagramReceivedEvent :=
  ⟨sampleIdentity, [4, 0, 0, 0, 99, 0, 0, 0] ++ List.replicate 24 0, sampleEndpoint, [],
    ⟨seconds 12, 0⟩, seconds 12⟩

theorem unauthenticated_inert_sample :
    ∃ s, sampleRun .transparent (fun _ _ => True) 0 sampleEstablished = some s ∧
      ∃ responderCookie decryptedPacket batch,
        s.handle .transparent (.constant (seconds 12) 8) (.encryptedDatagramReceived sampleStray) =
            some ({ s with device := { s.device with responderCookie }, decryptedPacket }, batch) ∧
          (batch.effects = [] ∨
            ∃ bytes,
              batch.effects = [.sendCookieReply sampleStray.peer sampleStray.source bytes]) := by
  have hrun : (sampleRun .transparent (fun _ _ => True) 0 sampleEstablished).map
      (fun s => s.device.lookupIndexSlot 99) = some none := by decide +kernel
  obtain ⟨s, hs, hlookup⟩ := Option.map_eq_some_iff.mp hrun
  refine ⟨s, hs, unauthenticated_inert .transparent (.constant (seconds 12) 8) s sampleStray ?_⟩
  rintro ⟨-, -, -, ⟨header, slot, keypair, hslot, -, hopens⟩ | ⟨-, haccepts, -⟩⟩
  · have hheader : parseTransportDataHeader sampleStray.packet = .ok ⟨4, 99, 0⟩ := by decide +kernel
    obtain rfl : (⟨4, 99, 0⟩ : MessageTransportData) = header :=
      Except.ok.inj (hheader.symm.trans hopens.parsed)
    rw [hlookup] at hslot
    cases hslot
  · obtain ⟨src, hparse, -⟩ | ⟨src, hparse, -⟩ | ⟨src, hparse, -⟩ := haccepts
    · cases hparse
    · cases hparse
    · cases hparse

end WireguardNx.Runtime
