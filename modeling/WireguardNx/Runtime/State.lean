import WireguardNx.Runtime.Events
import WireguardNx.Wireguard.PeerController

/-!
# The peer runtime

The state of one peer of the runtime, `UdpBinding` and the lifecycle operations of
`lifecycle.cpp`.  A handler of the source works on the peer and adds effects to a batch it is
given; here it works on a `HandlerState`, the peer together with the effects added so far.

Left out are the reports built for clients, the copy of the last path observation, which only
decides what is logged, and the scratch record a packet is copied into before it is staged.
-/

namespace WireguardNx.Runtime

open Wireguard

/-! ## The UDP binding -/

structure UdpBinding where
  endpoint : Endpoint
  endpointText : List Char
  socket : SocketHandle
  generation : UInt32
  hasEndpoint : Bool
  suspended : Bool
  deriving DecidableEq

namespace UdpBinding

/-- A value-initialised binding. -/
def empty : UdpBinding := ⟨.empty, [], invalidSocket, 0, false, false⟩

variable (binding : UdpBinding)

def isOpen : Bool := decide (binding.socket ≠ invalidSocket)

/-- `Matches`. -/
def matchesSocket (generation : UInt32) (socket : SocketHandle) : Bool :=
  decide (binding.generation = generation) && decide (binding.socket = socket)

def setEndpoint (endpoint : Endpoint) (text : List Char) : UdpBinding :=
  { binding with endpoint, endpointText := text, hasEndpoint := true }

def clearEndpoint : UdpBinding :=
  { binding with endpoint := .empty, endpointText := [], hasEndpoint := false }

/-- `AdoptOpenSocket`; `none` is its abort on a socket that is still held. -/
def adoptOpenSocket (endpoint : Endpoint) (text : List Char) (generation : UInt32)
    (socket : SocketHandle) : Option UdpBinding :=
  if binding.socket ≠ invalidSocket then none
  else some { binding.setEndpoint endpoint text with socket, generation, suspended := false }

/-- `ReleaseSocket`; the socket it returns is the one the binding had. -/
def releaseSocket : UdpBinding :=
  { binding with socket := invalidSocket, generation := 0 }

def releaseAndSuspend : UdpBinding :=
  { binding.releaseSocket with suspended := true }

end UdpBinding

/-! ## Peer state -/

inductive PeerRuntimeState where
  | inactive
  | resolvingEndpoint
  | handshaking
  | active
  | error
  deriving DecidableEq, Repr

/-- The fields of `PeerConfigEntry` that the runtime reads. -/
structure PeerConfigEntry where
  endpoint : List Char
  publicKey : List Char
  allowedIps : List Char
  persistentKeepalive : UInt16
  mtu : UInt16
  deriving DecidableEq, Repr

/-- The fields of `PeerConfigDerivedInfo` that the runtime reads. -/
structure PeerConfigDerivedInfo where
  localPrivateKey : NoiseKey
  presharedKey : NoiseKey
  hasPresharedKey : Bool
  secretsValid : Bool

/-- `PeerRuntimeInfo`, without the tick count that is always zero and the copy of the configured
keepalive interval. -/
structure PeerRuntimeInfo where
  state : PeerRuntimeState
  errorStage : PeerErrorStage
  lastErrorCode : PeerErrorCode
  activationGeneration : UInt32
  stateChangedNs : Ktime
  lastHandshakeNs : Ktime
  lastRxNs : Ktime
  lastTxNs : Ktime
  rxBytes : Nat
  txBytes : Nat
  established : Bool
  deriving DecidableEq, Repr

/-- `PendingDatagramKind`, without the value for an empty slot. -/
inductive PendingDatagramKind where
  | handshakeInitiation
  | handshakeResponse
  | transportData
  | keepalive
  deriving DecidableEq, Repr

/-- `PendingDatagram`; its array and used size are one list. -/
structure PendingDatagram where
  bytes : List UInt8
  generation : UInt32
  innerPacketId : UInt64
  kind : PendingDatagramKind
  deriving DecidableEq, Repr

def maxEncryptedDatagramSize : Nat :=
  transportDataHeaderSize + getPaddedTransportPayloadSize maxInnerIpPacketSize + noiseTagSize

def maxDecryptedPayloadSize : Nat := getPaddedTransportPayloadSize maxInnerIpPacketSize

/-- `DecryptedPacketSlot`; its array and used size are one list. -/
structure DecryptedPacketSlot where
  bytes : List UInt8
  generation : UInt32
  deriving DecidableEq, Repr

/-- A cleared slot. -/
def DecryptedPacketSlot.empty : DecryptedPacketSlot := ⟨[], 0⟩

/-- `PeerRuntime`.  An empty pending slot is `none`; `device` and `instantiated` are its protocol
record, `timers` the coordinator its controller owns. -/
structure PeerRuntime where
  config : PeerConfigEntry
  derived : PeerConfigDerivedInfo
  binding : UdpBinding
  device : WgDevice
  instantiated : Bool
  timers : TimerCoordinator
  lifecycle : PeerRuntimeInfo
  nextActivationGeneration : UInt32
  nextPathRequestGeneration : UInt32
  pathRequestGeneration : UInt32
  pathAvailability : NetworkPathAvailability
  rebindOnPathConfirmation : Bool
  waitingForLocalPath : Bool
  endpointResolutionStarted : Bool
  receiveStarted : Bool
  nextSocketGeneration : UInt32
  pendingSocketGeneration : UInt32
  pendingBindPurpose : UdpBindPurpose
  nextDatagramGeneration : UInt32
  pendingDatagram : Option PendingDatagram
  decryptedPacket : DecryptedPacketSlot
  nextDecryptedPacketGeneration : UInt32
  peerIndex : UInt32

/-- The peer and the effects a handler has added so far. -/
structure HandlerState where
  runtime : PeerRuntime
  effects : List RuntimeEffect

namespace PeerRuntime

/-! ## Queries -/

variable (s : PeerRuntime) (now : Ktime)

/-- Whether `ProtocolPeer` returns a peer; it is then the device's. -/
def hasProtocolPeer : Bool := s.instantiated && s.device.hasPeer

def isCurrentActivation (generation : UInt32) : Bool :=
  isCurrentGeneration s.lifecycle.activationGeneration generation

def isCurrentPathRequest (activation path : UInt32) : Bool :=
  s.isCurrentActivation activation && decide (path ≠ 0) && decide (path = s.pathRequestGeneration)

def isInTransportState : Bool :=
  decide (s.lifecycle.state = .handshaking) || decide (s.lifecycle.state = .active)

def acceptsInnerPacketSubmission : Bool :=
  decide (s.lifecycle.state = .resolvingEndpoint) || s.isInTransportState

def stagedInnerPacketCount : Nat :=
  if s.hasProtocolPeer then s.device.peer.stagedOutboundPackets.count else 0

def canStageInnerPackets (count : Nat) : Bool :=
  s.hasProtocolPeer &&
    decide (count ≤ peerStagedPacketCapacity - s.device.peer.stagedOutboundPackets.count)

def validateConfiguration : PeerErrorCode :=
  if s.config.publicKey = [] ∨ s.config.allowedIps = [] then .configInvalid
  else if s.derived.secretsValid = false ∨ noiseIsValidEncodedKey s.config.publicKey = false then
    .keyInvalid
  else if s.config.endpoint = [] then .endpointMissing
  else .none

/-! ## Lifecycle -/

def resetLifecycle (state : PeerRuntimeState) (activation : UInt32) (now : Ktime) : PeerRuntime :=
  { s with lifecycle :=
    ⟨state, .none, .none, activation, now, 0, 0, 0, 0, 0, false⟩ }

def resetProtocol : PeerRuntime :=
  { s with device := .reset, instantiated := false }

def deactivate : PeerRuntime :=
  let s := { s with
    pendingDatagram := none
    pendingSocketGeneration := 0
    decryptedPacket := .empty
    timers := s.timers.cancelAll
    pathRequestGeneration := 0
    pathAvailability := .unknown
    rebindOnPathConfirmation := false
    waitingForLocalPath := false
    endpointResolutionStarted := false
    receiveStarted := false }
  s.resetProtocol.resetLifecycle .inactive 0 now

def beginActivation : PeerRuntime :=
  { s with nextActivationGeneration := followingGeneration s.nextActivationGeneration }
    |>.resetLifecycle .resolvingEndpoint s.nextActivationGeneration now

def enterHandshaking (activation : UInt32) (now : Ktime) : Bool × PeerRuntime :=
  if s.isCurrentActivation activation = false ∨ s.lifecycle.state ≠ .resolvingEndpoint then
    (false, s)
  else
    (true, { s with lifecycle := { s.lifecycle with
      state := .handshaking, errorStage := .none, lastErrorCode := .none, stateChangedNs := now } })

def enterActive (activation : UInt32) (now : Ktime) : Bool × PeerRuntime :=
  if s.isCurrentActivation activation = false ∨ s.lifecycle.state ≠ .handshaking then (false, s)
  else
    (true, { s with lifecycle := { s.lifecycle with
      state := .active, errorStage := .none, lastErrorCode := .none, established := true,
      stateChangedNs := now, lastHandshakeNs := now } })

def enterError (stage : PeerErrorStage) (code : PeerErrorCode) (now : Ktime) : PeerRuntime :=
  { s with lifecycle := { s.lifecycle with
    state := .error, errorStage := stage, lastErrorCode := code, established := false,
    stateChangedNs := now } }

def recordReceivedBytes (count : Nat) (now : Ktime) : PeerRuntime :=
  { s with lifecycle := { s.lifecycle with
    rxBytes := (s.lifecycle.rxBytes + count) % 2 ^ 64, lastRxNs := now } }

def recordTransmittedBytes (count : Nat) (now : Ktime) : PeerRuntime :=
  { s with lifecycle := { s.lifecycle with
    txBytes := (s.lifecycle.txBytes + count) % 2 ^ 64, lastTxNs := now } }

def instantiateProtocol (c : Crypto) (s : PeerRuntime) : Bool × PeerRuntime :=
  let s := s.resetProtocol
  if s.derived.secretsValid = false then (false, s)
  else
    match WgDevice.initFromParsedConfig c ⟨s.config.publicKey, s.config.persistentKeepalive⟩
        s.derived.localPrivateKey
        (if s.derived.hasPresharedKey then some s.derived.presharedKey else none) with
    | (false, device) => (false, { s with device })
    | (true, device) => (true, { s with device, instantiated := true })

/-- A write to the protocol peer. -/
def withPeer (peer : WgPeer) : PeerRuntime :=
  { s with device := { s.device with peer } }

def clearStagedInnerPackets : PeerRuntime :=
  if s.hasProtocolPeer then s.withPeer (s.device.peer.clearStagedOutboundPackets .cleared) else s

def updateEndpointFromAuthenticatedPacket (source : Endpoint) (text : List Char) : PeerRuntime :=
  if source.family = .unspecified then s
  else { s with binding := s.binding.setEndpoint source text }

/-- `Configure` on a peer that holds no socket; `none` is its abort otherwise. -/
def configure (peerIndex : UInt32) (config : PeerConfigEntry) (derived : PeerConfigDerivedInfo)
    (now : Ktime) : Option PeerRuntime :=
  if s.binding.socket ≠ invalidSocket then none
  else
    let s := { s with binding := s.binding.clearEndpoint }.deactivate now
    some ({ s with peerIndex, config, derived }.resetLifecycle .inactive 0 now)

end PeerRuntime

/-- The configuration entry of an empty slot. -/
def PeerConfigEntry.empty : PeerConfigEntry := ⟨[], [], [], 0, 0⟩

/-- A default-constructed peer. -/
def PeerRuntime.empty : PeerRuntime where
  config := .empty
  derived := ⟨.clear, .clear, false, false⟩
  binding := .empty
  device := .reset
  instantiated := false
  timers := .empty
  lifecycle := ⟨.inactive, .none, .none, 0, 0, 0, 0, 0, 0, 0, false⟩
  nextActivationGeneration := 1
  nextPathRequestGeneration := 1
  pathRequestGeneration := 0
  pathAvailability := .unknown
  rebindOnPathConfirmation := false
  waitingForLocalPath := false
  endpointResolutionStarted := false
  receiveStarted := false
  nextSocketGeneration := 1
  pendingSocketGeneration := 0
  pendingBindPurpose := .activation
  nextDatagramGeneration := 1
  pendingDatagram := none
  decryptedPacket := .empty
  nextDecryptedPacketGeneration := 1
  peerIndex := 0

/-! ## Errors -/

/-- The order in which all five timers are cancelled. -/
def timerHooks : List TimerHook :=
  [.retransmitHandshake, .sendKeepalive, .newHandshake, .zeroKeyMaterial, .persistentKeepalive]

namespace HandlerState

/-- `effects.Add`. -/
def add (st : HandlerState) (effect : RuntimeEffect) : HandlerState :=
  { st with effects := st.effects ++ [effect] }

/-- The state part of `EnterActivationError`: everything but the released socket. -/
def erroredRuntime (s : PeerRuntime) (stage : PeerErrorStage) (code : PeerErrorCode)
    (now : Ktime) : PeerRuntime :=
  let s := { s with
    pendingDatagram := none, pendingSocketGeneration := 0, decryptedPacket := .empty }
  let s := s.clearStagedInnerPackets
  let s :=
    if s.hasProtocolPeer then
      { s with device := WgDevice.clearIndexRegistry { s.device with
        peer := s.device.peer.scrubTransientState } }
    else s
  s.enterError stage code now

def enterActivationError (st : HandlerState) (stage : PeerErrorStage) (code : PeerErrorCode)
    (now : Ktime) : HandlerState :=
  let s := erroredRuntime st.runtime stage code now
  let identity : PeerIdentity := ⟨s.peerIndex, s.lifecycle.activationGeneration⟩
  let st : HandlerState :=
    if s.binding.isOpen then
      ⟨{ s with binding := s.binding.releaseSocket },
        st.effects ++ [.closeUdpSocket s.pathRequestGeneration s.binding.socket]⟩
    else ⟨s, st.effects⟩
  if identity.activationGeneration = 0 then st
  else
    { st with
      effects := st.effects ++ timerHooks.map fun hook => .cancelProtocolTimer identity hook .empty }

end HandlerState

end WireguardNx.Runtime
