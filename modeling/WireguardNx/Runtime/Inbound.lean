import WireguardNx.Runtime.PeerTimers

/-!
# Received datagrams

Handshake messages, cookie replies and transport data as they arrive (`inbound.cpp`).
-/

namespace WireguardNx.Runtime

open Wireguard

namespace HandlerState

/-- A session is complete: enter the active state, or note the new handshake in it. -/
def enterActiveOrNote (s : PeerRuntime) (event : EncryptedDatagramReceivedEvent) :
    Bool × PeerRuntime :=
  if s.lifecycle.state = .handshaking then
    s.enterActive event.peer.activationGeneration event.occurredAt
  else
    (true, { s with lifecycle := { s.lifecycle with
      lastHandshakeNs := event.occurredAt, established := true } })

/-- An authenticated packet was received: note its source and size. -/
def recordAuthenticated (s : PeerRuntime) (event : EncryptedDatagramReceivedEvent) : PeerRuntime :=
  (s.updateEndpointFromAuthenticatedPacket event.source event.sourceText).recordReceivedBytes
    event.packet.length event.occurredAt

variable (c : Crypto) (p : Platform) (st : HandlerState) (event : EncryptedDatagramReceivedEvent)

def completeInitiatorSession : HandlerState :=
  if st.runtime.hasProtocolPeer = false then st
  else
    match completeSession c p st.runtime.device with
    | (false, device) => { st with runtime := { st.runtime with device } }
    | (true, device) =>
      let st := { st with runtime := recordAuthenticated { st.runtime with device } event }
      let st := (st.onAuthenticatedPacketTraversal event.peer event.timerFacts)
        |>.onAuthenticatedPacketReceived event.peer
      match enterActiveOrNote st.runtime event with
      | (false, s) => { st with runtime := s }
      | (true, s) =>
        let st := ({ st with runtime := s }.onSessionDerived event.peer event.timerFacts)
          |>.onHandshakeComplete event.peer
        if st.runtime.stagedInnerPacketCount ≠ 0 then
          st.add (.queueInnerPacketSubmission event.peer)
        else st.sendKeepaliveOrFail c p event.peer event.occurredAt

/-- The next keypair was confirmed by a packet under it. -/
def confirmPromoted : HandlerState :=
  let s := st.runtime.withPeer (confirmResponderSession st.runtime.device.peer)
  let s := (enterActiveOrNote s event).2
  ({ st with runtime := s }.onHandshakeComplete event.peer).add
    (.queueInnerPacketSubmission event.peer)

/-- A payload as it stands in the slot it was decrypted into, which entering the error state fills
with zeros. -/
def slotBytes (payload : List UInt8) : List UInt8 :=
  if st.runtime.lifecycle.state = .error then List.replicate payload.length 0 else payload

/-- A decrypted payload: note the traffic and publish the inner packet if it is well formed. -/
def publishPayload (payload : List UInt8) : HandlerState :=
  let payload := st.slotBytes payload
  let st := st.onDataPacketReceived event.peer event.timerFacts
  match validatePaddedInnerIpPacket payload with
  | .error _ => st
  | .ok (size, _) =>
    let s := st.runtime
    let generation := s.nextDecryptedPacketGeneration
    let s := { s with
      decryptedPacket := ⟨payload.take size, generation⟩
      nextDecryptedPacketGeneration := followingGeneration generation }
    { st with runtime := s }.add (.publishDecryptedPacket event.peer generation)

def handleTransportData : HandlerState :=
  if st.runtime.hasProtocolPeer = false then st
  else
    let s := { st.runtime with decryptedPacket := .empty }
    match noiseConsumeIncomingTransportDataPacket c (p.clock .receive) event.packet s.device
        maxDecryptedPayloadSize with
    | (.error _, device) => { st with runtime := { s with device } }
    | (.ok data, device) =>
      let st := { st with runtime := recordAuthenticated { s with device } event }
      let st := (st.onAuthenticatedPacketTraversal event.peer event.timerFacts)
        |>.onAuthenticatedPacketReceived event.peer
      let st := st.refreshKeyFreshness c p event.peer event.occurredAt
      let st := if data.promotedNextKeypair then st.confirmPromoted event else st
      if data.payload = [] then st else st.publishPayload event data.payload

/-- An accepted initiation: answer it and derive the responder's session. -/
def answerInitiation : HandlerState :=
  let st := (st.onAuthenticatedPacketTraversal event.peer event.timerFacts)
    |>.onAuthenticatedPacketReceived event.peer
  match st.runtime.prepareHandshakeResponse c p with
  | (false, s) => { st with runtime := s }
  | (true, s) =>
    let st := { st with runtime := recordAuthenticated s event }
    (st.onSessionDerived event.peer event.timerFacts).addSendPending event.peer

/-- A handshake message that was admitted, or a cookie reply. -/
def consumeHandshakeDatagram : HandlerState :=
  if st.runtime.pendingDatagram.isSome then st
  else
    let (outcome, device) :=
      noiseHandshakeConsumeIncomingPacket c p event.packet st.runtime.device
    let st := { st with runtime := { st.runtime with device } }
    match outcome with
    | .invalid => st
    | .cookieReplyConsumed =>
      { st with runtime := st.runtime.recordReceivedBytes event.packet.length event.occurredAt }
    | .responseConsumed => st.completeInitiatorSession c p event
    | .initiationConsumed => st.answerInitiation c p event

/-- `HandleEncryptedDatagram` after its first checks. -/
def handleHandshakeDatagram (type : MessageType) : HandlerState :=
  if type = .handshakeInitiation ∨ type = .handshakeResponse then
    let (admission, device) := noiseHandshakeAdmitResponderPacket c p st.runtime.device event.packet
      event.source event.occurredAt
    let st := { st with runtime := { st.runtime with device } }
    match admission with
    | .cookieReply cookie =>
      match serializeHandshakeCookie cookie with
      | .ok bytes => st.add (.sendCookieReply event.peer event.source bytes)
      | .error _ => st
    | .accepted => st.consumeHandshakeDatagram c p event
    | .rateLimited | .invalid => st
  else st.consumeHandshakeDatagram c p event

end HandlerState

/-- `HandleEvent(EncryptedDatagramReceivedEvent)`. -/
def PeerRuntime.handleEncryptedDatagram (c : Crypto) (p : Platform) (s : PeerRuntime)
    (event : EncryptedDatagramReceivedEvent) : HandlerState :=
  if s.isCurrentActivation event.peer.activationGeneration = false ∨
      s.isInTransportState = false ∨ s.hasProtocolPeer = false ∨ event.packet = [] then
    ⟨s, []⟩
  else
    match inspectMessageType event.packet with
    | .error _ => ⟨s, []⟩
    | .ok .transportData => HandlerState.handleTransportData c p ⟨s, []⟩ event
    | .ok type => HandlerState.handleHandshakeDatagram c p ⟨s, []⟩ event type

end WireguardNx.Runtime
