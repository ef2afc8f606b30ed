import WireguardNx.Wireguard.Timers
import WireguardNx.Wireguard.InnerPacket

/-!
# Events, effects and effect batches

A peer of the runtime is driven by events and answers each with a batch of effects
(`runtime_events.hpp`).  A batch holds at most eight effects, and every event type has a budget of
its own; adding to a full batch or exceeding the budget aborts the process.  Here a batch carries
the bound on its size, and the operations that can abort return an `Option`.

The raw state and result codes of a path observation are only logged, and are left out, as is the
effect that arms the debug probe's timeout, which no peer emits.
-/

namespace WireguardNx.Runtime

open Wireguard

/-! ## Identities -/

/-- `ktime_t`, in nanoseconds. -/
abbrev Ktime := Int

structure PeerIdentity where
  peerIndex : UInt32
  activationGeneration : UInt32
  deriving DecidableEq, Repr

/-- `AllocateGeneration`: the counter after `next` has been handed out; it skips zero. -/
def followingGeneration (next : UInt32) : UInt32 := if next + 1 = 0 then 1 else next + 1

def isCurrentGeneration (expected observed : UInt32) : Bool :=
  decide (expected ≠ 0) && decide (expected = observed)

/-- `socket_handle`. -/
abbrev SocketHandle := Int

def invalidSocket : SocketHandle := -1

/-- `socket_error`. -/
inductive SocketError where
  | none
  | invalidEndpoint
  | transportInitFailed
  | openFailed
  | sendFailed
  | receiveFailed
  deriving DecidableEq, Repr

inductive PeerErrorStage where
  | none
  | config
  | resolveEndpoint
  | handshake
  | transport
  | internal
  deriving DecidableEq, Repr

inductive PeerErrorCode where
  | none
  | configInvalid
  | endpointMissing
  | endpointMalformed
  | endpointResolutionFailed
  | transportInitFailed
  | internalFailure
  | keyInvalid
  | handshakeInitFailed
  | transportOpenFailed
  | transportSendFailed
  | transportReceiveFailed
  | handshakeTimedOut
  deriving DecidableEq, Repr

/-- `network_path_availability`. -/
inductive NetworkPathAvailability where
  | unknown
  | unavailable
  | available
  deriving DecidableEq, Repr

structure TimerFacts where
  now : TimerDeadline
  randomU32 : UInt32
  deriving DecidableEq, Repr

/-! ## Events -/

structure ActivationRequestedEvent where
  peerIndex : UInt32
  occurredAt : Ktime

structure DeactivationRequestedEvent where
  peer : PeerIdentity
  occurredAt : Ktime

structure NetworkPathRequestStartedEvent where
  peer : PeerIdentity
  pathGeneration : UInt32
  success : Bool

structure NetworkPathAvailabilityChangedEvent where
  peer : PeerIdentity
  pathGeneration : UInt32
  availability : NetworkPathAvailability
  occurredAt : Ktime

/-- `TransportFailureEvent`; its operation is only logged. -/
structure TransportFailureEvent where
  peer : PeerIdentity
  socket : SocketHandle
  socketGeneration : UInt32
  error : SocketError
  occurredAt : Ktime

/-- `endpoint_resolution_result`. -/
structure EndpointResolutionResult where
  success : Bool
  errorStage : PeerErrorStage
  errorCode : PeerErrorCode
  resolved : Endpoint
  text : List Char

structure EndpointResolvedEvent where
  peer : PeerIdentity
  pathGeneration : UInt32
  result : EndpointResolutionResult
  occurredAt : Ktime

inductive UdpBindPurpose where
  | activation
  | rebind
  deriving DecidableEq, Repr

structure UdpBindOpenedEvent where
  peer : PeerIdentity
  pathGeneration : UInt32
  endpoint : Endpoint
  endpointText : List Char
  socket : SocketHandle
  error : SocketError
  socketGeneration : UInt32
  purpose : UdpBindPurpose
  timerFacts : TimerFacts
  occurredAt : Ktime

structure UdpRebindRequestedEvent where
  peer : PeerIdentity
  occurredAt : Ktime

structure EncryptedDatagramReceivedEvent where
  peer : PeerIdentity
  packet : List UInt8
  source : Endpoint
  sourceText : List Char
  timerFacts : TimerFacts
  occurredAt : Ktime

structure PendingDatagramSentEvent where
  peer : PeerIdentity
  datagramGeneration : UInt32
  bytesSent : Nat
  error : SocketError
  timerFacts : TimerFacts
  occurredAt : Ktime

structure InnerPacketStagedEvent where
  peer : PeerIdentity
  packet : List UInt8
  packetId : UInt64
  timerFacts : TimerFacts
  occurredAt : Ktime

def maximumInnerPacketBatchSize : Nat := 3

/-- `InnerPacketBatchStagedEvent`; the arrays and their count are one list of packets with their
ids. -/
structure InnerPacketBatchStagedEvent where
  peer : PeerIdentity
  packets : List (List UInt8 × UInt64)
  timerFacts : TimerFacts
  occurredAt : Ktime

structure ProcessOutboundQueueEvent where
  peer : PeerIdentity
  timerFacts : TimerFacts
  occurredAt : Ktime

structure ProtocolTimerExpiredEvent where
  peer : PeerIdentity
  hook : TimerHook
  token : TimerToken
  timerFacts : TimerFacts
  occurredAt : Ktime

inductive PeerEvent where
  | activationRequested (event : ActivationRequestedEvent)
  | deactivationRequested (event : DeactivationRequestedEvent)
  | networkPathRequestStarted (event : NetworkPathRequestStartedEvent)
  | networkPathAvailabilityChanged (event : NetworkPathAvailabilityChangedEvent)
  | transportFailure (event : TransportFailureEvent)
  | endpointResolved (event : EndpointResolvedEvent)
  | udpBindOpened (event : UdpBindOpenedEvent)
  | udpRebindRequested (event : UdpRebindRequestedEvent)
  | encryptedDatagramReceived (event : EncryptedDatagramReceivedEvent)
  | pendingDatagramSent (event : PendingDatagramSentEvent)
  | innerPacketStaged (event : InnerPacketStagedEvent)
  | innerPacketBatchStaged (event : InnerPacketBatchStagedEvent)
  | processOutboundQueue (event : ProcessOutboundQueueEvent)
  | protocolTimerExpired (event : ProtocolTimerExpiredEvent)

/-- `MaxEffectsForEvent`. -/
def PeerEvent.maxEffects : PeerEvent → Nat
  | .activationRequested _ | .networkPathRequestStarted _ | .endpointResolved _
  | .pendingDatagramSent _ | .innerPacketStaged _ | .innerPacketBatchStaged _
  | .processOutboundQueue _ => 5
  | .transportFailure _ => 6
  | .deactivationRequested _ => 7
  | .networkPathAvailabilityChanged _ | .udpBindOpened _ => 7
  | .udpRebindRequested _ => 1
  | .encryptedDatagramReceived _ | .protocolTimerExpired _ => 6

/-- The peer index by which `PeerRegistry::Dispatch` chooses the peer of an event. -/
def PeerEvent.peerIndex : PeerEvent → UInt32
  | .activationRequested event => event.peerIndex
  | .deactivationRequested event => event.peer.peerIndex
  | .networkPathRequestStarted event => event.peer.peerIndex
  | .networkPathAvailabilityChanged event => event.peer.peerIndex
  | .transportFailure event => event.peer.peerIndex
  | .endpointResolved event => event.peer.peerIndex
  | .udpBindOpened event => event.peer.peerIndex
  | .udpRebindRequested event => event.peer.peerIndex
  | .encryptedDatagramReceived event => event.peer.peerIndex
  | .pendingDatagramSent event => event.peer.peerIndex
  | .innerPacketStaged event => event.peer.peerIndex
  | .innerPacketBatchStaged event => event.peer.peerIndex
  | .processOutboundQueue event => event.peer.peerIndex
  | .protocolTimerExpired event => event.peer.peerIndex

/-! ## Effects -/

structure OpenUdpBindEffect where
  peer : PeerIdentity
  pathGeneration : UInt32
  endpoint : Endpoint
  endpointText : List Char
  socketGeneration : UInt32
  replacesSocket : SocketHandle
  purpose : UdpBindPurpose
  deriving DecidableEq

inductive RuntimeEffect where
  | resolveEndpoint (peer : PeerIdentity) (pathGeneration : UInt32) (endpoint : List Char)
  | startNetworkPathRequest (peer : PeerIdentity) (pathGeneration : UInt32)
  | stopNetworkPathRequest (peer : PeerIdentity) (pathGeneration : UInt32)
  | openUdpBind (bind : OpenUdpBindEffect)
  | closeUdpSocket (pathGeneration : UInt32) (socket : SocketHandle)
  | sendPendingDatagram (peer : PeerIdentity) (datagramGeneration : UInt32)
  | sendCookieReply (peer : PeerIdentity) (destination : Endpoint) (packet : List UInt8)
  | queueReceive (peer : PeerIdentity)
  | armProtocolTimer (peer : PeerIdentity) (hook : TimerHook) (token : TimerToken)
      (deadline : TimerDeadline)
  | cancelProtocolTimer (peer : PeerIdentity) (hook : TimerHook) (token : TimerToken)
  | queueInnerPacketSubmission (peer : PeerIdentity)
  | publishDecryptedPacket (peer : PeerIdentity) (packetGeneration : UInt32)
  | cancelDebugProbeTimeout
  deriving DecidableEq

/-- `EffectBatch::Capacity`. -/
abbrev effectBatchCapacity : Nat := 8

/-- `EffectBatch`, which never holds more than its capacity. -/
structure EffectBatch where
  effects : List RuntimeEffect
  size_le : effects.length ≤ effectBatchCapacity
  deriving DecidableEq

namespace EffectBatch

/-- A value-initialised batch. -/
def empty : EffectBatch := ⟨[], Nat.zero_le _⟩

def size (batch : EffectBatch) : Nat := batch.effects.length

/-- `Add`; `none` is its abort. -/
def add (batch : EffectBatch) (effect : RuntimeEffect) : Option EffectBatch :=
  if h : batch.effects.length < effectBatchCapacity then
    some ⟨batch.effects ++ [effect], by rw [List.length_append]; exact h⟩
  else none

/-- `Append`; `none` is its abort. -/
def append (batch other : EffectBatch) : Option EffectBatch :=
  if h : batch.effects.length + other.effects.length ≤ effectBatchCapacity then
    some ⟨batch.effects ++ other.effects, by rw [List.length_append]; exact h⟩
  else none

/-- The batch that a handler's calls of `Add`, in order, leave in an empty one. -/
def collect (effects : List RuntimeEffect) : Option EffectBatch :=
  effects.foldlM add empty

end EffectBatch

end WireguardNx.Runtime
