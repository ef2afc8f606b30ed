import WireguardNx.Runtime.State

/-!
# Outbound datagrams

Filling the single pending slot, starting handshakes and draining the staged packets
(`outbound.cpp`).  The handler for a finished send is in `Runtime.Handle`, since it uses the timer
and failure handlers as well.
-/

namespace WireguardNx.Runtime

open Wireguard

def defaultEffectiveInnerMtu : UInt16 := 1420

def resolveEffectiveInnerMtu (configuredMtu : UInt16) : UInt16 :=
  if configuredMtu = 0 then defaultEffectiveInnerMtu else configuredMtu

namespace PeerRuntime

/-! ## The pending slot -/

/-- Fill the pending slot under the next datagram generation. -/
def setPending (s : PeerRuntime) (bytes : List UInt8) (innerPacketId : UInt64)
    (kind : PendingDatagramKind) : PeerRuntime :=
  { s with
    pendingDatagram := some ⟨bytes, s.nextDatagramGeneration, innerPacketId, kind⟩
    nextDatagramGeneration := followingGeneration s.nextDatagramGeneration }

/-- The generation of the pending datagram, as an effect for it carries it. -/
def pendingGeneration (s : PeerRuntime) : UInt32 :=
  match s.pendingDatagram with
  | none => 0
  | some pending => pending.generation

def prepareHandshakeInitiation (s : PeerRuntime) (kind : PendingDatagramKind) :
    Bool × PeerRuntime :=
  if s.hasProtocolPeer = false ∨ s.device.peer.hasLastInitiation = false ∨
      s.pendingDatagram.isSome then
    (false, s)
  else
    match serializeHandshakeInitiation s.device.peer.lastInitiation with
    | .error _ => (false, s)
    | .ok bytes => (true, s.setPending bytes 0 kind)

def prepareHandshakeResponse (c : Crypto) (p : Platform) (s : PeerRuntime) : Bool × PeerRuntime :=
  if s.hasProtocolPeer = false ∨ s.pendingDatagram.isSome then (false, s)
  else
    match noiseHandshakeCreateResponse c p s.device.peer with
    | (none, peer) => (false, s.withPeer peer)
    | (some response, peer) =>
      let s := s.withPeer peer
      match serializeHandshakeResponse response with
      | .error _ => (false, s)
      | .ok bytes =>
        match deriveResponderSession c p s.device with
        | (false, device) => (false, { s with device })
        | (true, device) => (true, { s with device }.setPending bytes 0 .handshakeResponse)

/-- The clock reading under which a transport datagram reserves its counter. -/
def createSite : PendingDatagramKind → ClockSite
  | .keepalive => .createKeepalive
  | _ => .createData

/-- `PrepareTransportDatagram`; the error is the one it reports to its caller. -/
def prepareTransportDatagram (c : Crypto) (p : Platform) (s : PeerRuntime) (payload : List UInt8)
    (kind : PendingDatagramKind) (innerPacketId : UInt64) :
    Except TransportDataError Unit × PeerRuntime :=
  if s.hasProtocolPeer = false ∨ s.pendingDatagram.isSome then (.error .invalidKeypair, s)
  else
    let creation := noiseCreateTransportDataPacket c (p.clock (createSite kind))
      maxEncryptedDatagramSize s.device.peer.currentKeypair payload
      (resolveEffectiveInnerMtu s.config.mtu).toNat
    let s := s.withPeer { s.device.peer with currentKeypair := creation.keypair }
    match creation.result with
    | .error error => (.error error, s)
    | .ok bytes => (.ok (), s.setPending bytes innerPacketId kind)

end PeerRuntime

namespace HandlerState

/-! ## Handshakes -/

variable (c : Crypto) (p : Platform) (st : HandlerState)

/-- The effect that hands the pending datagram to the transport. -/
def addSendPending (identity : PeerIdentity) : HandlerState :=
  st.add (.sendPendingDatagram identity st.runtime.pendingGeneration)

/-- The tail of `StartHandshake` after the controller has decided. -/
def sendInitiation (st : HandlerState) (identity : PeerIdentity)
    (action : HandshakeTransitionAction) : Bool × HandlerState :=
  match action with
  | .ignore => (true, st)
  | .sendInitiation =>
    match st.runtime.prepareHandshakeInitiation .handshakeInitiation with
    | (false, s) => (false, { st with runtime := s })
    | (true, s) => (true, { st with runtime := s }.addSendPending identity)
  | .exhausted | .fatal => (false, st)

/-- `StartHandshake`, which all callers use without its retry flag. -/
def startHandshake (c : Crypto) (p : Platform) (st : HandlerState) (identity : PeerIdentity) :
    Bool × HandlerState :=
  let s := st.runtime
  if s.hasProtocolPeer = false ∨ s.pendingDatagram.isSome then (false, st)
  else
    let (action, device) := Wireguard.startHandshake c p s.device
    { st with runtime := { s with device } }.sendInitiation identity action

/-- Start a handshake, or enter the error state when that fails. -/
def startHandshakeOrFail (identity : PeerIdentity) (now : Ktime) : HandlerState :=
  match st.startHandshake c p identity with
  | (true, st) => st
  | (false, st) => st.enterActivationError .handshake .handshakeInitFailed now

/-! ## Staged packets -/

/-- Whether a staged packet belongs to an activation. -/
def ownedBy (identity : PeerIdentity) (packet : InnerPacketRecord) : Bool :=
  decide (packet.peerIndex = identity.peerIndex) &&
    decide (packet.activationGeneration = identity.activationGeneration)

/-- One staged packet of this activation, with an open binding in a transport state: encrypt it,
or start the handshake it waits for. -/
def sendStaged (identity : PeerIdentity) (now : Ktime) (front : InnerPacketRecord) : HandlerState :=
  match st.runtime.device.peer.getOutboundStagingAction (p.clock .stagingAction) with
  | .initiateHandshake => st.startHandshakeOrFail c p identity now
  | .idle => st
  | .send =>
    match st.runtime.prepareTransportDatagram c p front.bytes .transportData front.packetId with
    | (.ok _, s) => { st with runtime := s }.addSendPending identity
    | (.error error, s) =>
      let (action, peer) := applyStagedSendOutcome s.device.peer (.buildFailed error)
      let st := { st with runtime := s.withPeer peer }
      match action with
      | .initiateHandshake => st.startHandshakeOrFail c p identity now
      | .stopOnTerminalFailure => st.enterActivationError .internal .internalFailure now
      | .continue => st

/-- A staged packet leaves the queue unsent. -/
def dropStaged (disposition : QueueDisposition) : HandlerState :=
  { st with runtime := st.runtime.withPeer { st.runtime.device.peer with
    stagedOutboundPackets :=
      (st.runtime.device.peer.stagedOutboundPackets.pop disposition).2 } }

/-- The loop of `ProcessOutboundQueue`.  Each round that goes on has popped a packet, so the
number of staged packets bounds the rounds.  A build failure never goes on, because
`ApplyStagedSendOutcome` answers one with a handshake or a stop. -/
def processOutboundLoop (c : Crypto) (p : Platform) (identity : PeerIdentity) (now : Ktime) :
    Nat → HandlerState → HandlerState
  | 0, st => st
  | rounds + 1, st =>
    let s := st.runtime
    match s.device.peer.stagedOutboundPackets.front with
    | none => st
    | some front =>
      if ownedBy identity front = false then
        processOutboundLoop c p identity now rounds (st.dropStaged .stale)
      else if s.lifecycle.state = .resolvingEndpoint then st
      else if s.binding.isOpen = false ∨ s.binding.suspended then st
      else if s.isInTransportState = false then
        processOutboundLoop c p identity now rounds (st.dropStaged .unavailable)
      else st.sendStaged c p identity now front

def processOutboundQueue (identity : PeerIdentity) (now : Ktime) : HandlerState :=
  if st.runtime.hasProtocolPeer = false ∨ st.runtime.pendingDatagram.isSome then st
  else
    processOutboundLoop c p identity now st.runtime.device.peer.stagedOutboundPackets.count st

end HandlerState

namespace PeerRuntime

/-! ## Staging -/

/-- Whether a packet fits the staging record. -/
def stageable (packet : List UInt8) : Bool :=
  decide (packet ≠ []) && decide (packet.length ≤ maxInnerIpPacketSize)

/-- The record a packet is staged as. -/
def stagingRecord (identity : PeerIdentity) (packet : List UInt8) (packetId : UInt64) :
    InnerPacketRecord :=
  ⟨packet, packetId, identity.activationGeneration, identity.peerIndex⟩

variable (c : Crypto) (p : Platform) (s : PeerRuntime)

/-- `Push` on the staged packets; `none` is a full queue. -/
def pushStaged (record : InnerPacketRecord) : Option PeerRuntime :=
  match s.device.peer.stagedOutboundPackets.push record with
  | (.full, _) => none
  | (.pushed, queue) =>
    some (s.withPeer { s.device.peer with stagedOutboundPackets := queue })

/-- The queue after a refused push, which counts the refusal. -/
def refuseStaged (record : InnerPacketRecord) : PeerRuntime :=
  s.withPeer { s.device.peer with
    stagedOutboundPackets := (s.device.peer.stagedOutboundPackets.push record).2 }

/-- `HandleEvent(InnerPacketStagedEvent)`. -/
def handleInnerPacketStaged (event : InnerPacketStagedEvent) : HandlerState :=
  if s.isCurrentActivation event.peer.activationGeneration = false ∨
      s.acceptsInnerPacketSubmission = false ∨ s.hasProtocolPeer = false ∨
      stageable event.packet = false then
    ⟨s, []⟩
  else
    let record := stagingRecord event.peer event.packet event.packetId
    match s.pushStaged record with
    | none => ⟨s.refuseStaged record, []⟩
    | some s =>
      if s.isInTransportState then
        HandlerState.processOutboundQueue c p ⟨s, []⟩ event.peer event.occurredAt
      else ⟨s, []⟩

/-- Stage the packets of a batch; `none` is the abort on a full queue. -/
def pushBatch (identity : PeerIdentity) : List (List UInt8 × UInt64) → PeerRuntime →
    Option PeerRuntime
  | [], s => some s
  | (packet, packetId) :: packets, s =>
    match s.pushStaged (stagingRecord identity packet packetId) with
    | none => none
    | some s => pushBatch identity packets s

/-- `HandleEvent(InnerPacketBatchStagedEvent)`; `none` is its abort. -/
def handleInnerPacketBatchStaged (event : InnerPacketBatchStagedEvent) : Option HandlerState :=
  if s.isCurrentActivation event.peer.activationGeneration = false ∨
      s.acceptsInnerPacketSubmission = false ∨ s.hasProtocolPeer = false ∨
      event.packets = [] ∨ maximumInnerPacketBatchSize < event.packets.length ∨
      s.canStageInnerPackets event.packets.length = false then
    some ⟨s, []⟩
  else if event.packets.any fun packet => stageable packet.1 = false then some ⟨s, []⟩
  else
    match pushBatch event.peer event.packets s with
    | none => none
    | some s =>
      if s.isInTransportState then
        some (HandlerState.processOutboundQueue c p ⟨s, []⟩ event.peer event.occurredAt)
      else some ⟨s, []⟩

/-- `HandleEvent(ProcessOutboundQueueEvent)`. -/
def handleProcessOutboundQueue (event : ProcessOutboundQueueEvent) : HandlerState :=
  if s.isCurrentActivation event.peer.activationGeneration then
    HandlerState.processOutboundQueue c p ⟨s, []⟩ event.peer event.occurredAt
  else ⟨s, []⟩

end PeerRuntime

end WireguardNx.Runtime
