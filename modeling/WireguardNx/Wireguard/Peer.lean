import WireguardNx.Wireguard.InnerPacket
import WireguardNx.Wireguard.Messages
import WireguardNx.Wireguard.Session
import WireguardNx.Wireguard.Timers

/-!
# The peer and the device

`wg_peer` owns the identity, handshake, keypairs, timer intent and staged packets of one tunnel;
`wg_device` owns that peer, the registry of receiver indices and the responder's cookie state.
This module has their data and the operations of `peer.cpp` and `device.cpp`; the handshake
functions that work on them are in `Wireguard.Handshake`.

The peer's name, the handshake's transition count and time, the exhausted-sequence count and the
allocator's last index are only written or logged, and are left out.
-/

namespace WireguardNx.Wireguard

/-! ## The handshake record -/

inductive HandshakeState where
  | zeroed
  | initiationCreated
  | initiationReceived
  | responseCreated
  | responseReceived
  | sessionDerived
  | failed
  deriving DecidableEq, Repr

/-- `noise_handshake`. -/
structure NoiseHandshake where
  state : HandshakeState
  localIndex : UInt32
  remoteIndex : UInt32
  lastInitiationTimestamp : Bytes 12
  lastInitiationConsumption : MonotonicTime
  hasLastInitiationTimestamp : Bool
  deriving DecidableEq

/-- `noise_handshake_init`. -/
def NoiseHandshake.init : NoiseHandshake := ⟨.zeroed, 0, 0, Bytes.zero 12, 0, false⟩

/-! ## The peer -/

structure HandshakeRetryState where
  active : Bool
  sendAttempts : UInt32
  sequenceCount : UInt32
  deriving DecidableEq, Repr

/-- A value-initialised retry state. -/
def HandshakeRetryState.empty : HandshakeRetryState := ⟨false, 0, 0⟩

abbrev peerStagedPacketCapacity : Nat := 8

/-- `wg_peer`.  `acceptedInitiations` is history: the initiations this peer object accepted, each
with the timestamp decrypted from it, oldest first; no function of the model reads it. -/
structure WgPeer where
  persistentKeepaliveInterval : UInt16
  staticIdentity : NoiseStaticIdentity
  handshakeMaterial : NoiseHandshakeMaterial
  cookie : NoiseCookie
  handshake : NoiseHandshake
  timers : WgTimers
  currentKeypair : NoiseKeypair
  nextKeypair : NoiseKeypair
  previousKeypair : NoiseKeypair
  stagedOutboundPackets : InnerPacketQueue peerStagedPacketCapacity
  handshakeRetry : HandshakeRetryState
  lastInitiation : MessageHandshakeInitiation
  hasLastInitiation : Bool
  acceptedInitiations : List (MessageHandshakeInitiation × Bytes 12)

inductive OutboundStagingAction where
  | idle
  | send
  | initiateHandshake
  deriving DecidableEq, Repr

inductive HandshakeRetryTimeoutAction where
  | ignore
  | retry
  | exhausted
  deriving DecidableEq, Repr

namespace WgPeer

/-- A default-constructed peer. -/
def empty : WgPeer where
  persistentKeepaliveInterval := 0
  staticIdentity := .reset
  handshakeMaterial := .reset
  cookie := .reset
  handshake := .init
  timers := .init
  currentKeypair := .reset
  nextKeypair := .reset
  previousKeypair := .reset
  stagedOutboundPackets := .empty (by decide)
  handshakeRetry := .empty
  lastInitiation := .empty
  hasLastInitiation := false
  acceptedInitiations := []

/-- `wg_peer_initialize`: a fresh peer with its identity and the static-static secret. -/
def initializePeer (c : Crypto) (localPrivateKey : NoiseKey) (remotePublicKey : List Char)
    (presharedKey : Option NoiseKey) (persistentKeepaliveInterval : UInt16) : Option WgPeer :=
  match NoiseStaticIdentity.initFromKeys c localPrivateKey remotePublicKey presharedKey with
  | none => none
  | some identity =>
    match noisePrecomputeStaticStatic c identity with
    | none => none
    | some precomputed =>
      some { empty with
        persistentKeepaliveInterval
        staticIdentity := identity
        handshakeMaterial := { NoiseHandshakeMaterial.reset with
          precomputedStaticStatic := precomputed } }

variable (peer : WgPeer)

/-- `wg_peer_reset_keypairs`. -/
def resetKeypairs : WgPeer :=
  { peer with currentKeypair := .reset, nextKeypair := .reset, previousKeypair := .reset }

/-- `wg_peer_get_outbound_staging_action`. -/
def getOutboundStagingAction (now : MonotonicTime) : OutboundStagingAction :=
  if peer.stagedOutboundPackets.count = 0 then .idle
  else if peer.currentKeypair.canSendAt now then .send
  else .initiateHandshake

/-- `wg_peer_clear_staged_outbound_packets`; its count is only logged by the callers modelled.
The disposition defaults to `Cleared` in the source. -/
def clearStagedOutboundPackets (disposition : QueueDisposition) : WgPeer :=
  { peer with stagedOutboundPackets := (peer.stagedOutboundPackets.clear disposition).2 }

/-- `wg_peer_clear_last_initiation`. -/
def clearLastInitiation : WgPeer :=
  { peer with lastInitiation := .empty, hasLastInitiation := false }

/-- `wg_peer_begin_handshake_retry_sequence`. -/
def beginHandshakeRetrySequence : WgPeer :=
  { peer with handshakeRetry := ⟨true, 1, peer.handshakeRetry.sequenceCount + 1⟩ }

def maxSendAttempts : UInt32 := maxTimerHandshakes + 2

/-- `wg_peer_handle_handshake_retry_timeout`. -/
def handleHandshakeRetryTimeout : HandshakeRetryTimeoutAction × WgPeer :=
  if peer.handshakeRetry.active = false then (.ignore, peer)
  else if peer.handshakeRetry.sendAttempts < maxSendAttempts then
    (.retry, { peer with
      handshakeRetry := { peer.handshakeRetry with
        sendAttempts := peer.handshakeRetry.sendAttempts + 1 } })
  else
    (.exhausted, ({ peer with
      handshakeRetry := { peer.handshakeRetry with active := false } }
        |>.clearStagedOutboundPackets .retryExhausted).clearLastInitiation)

/-- `wg_peer_complete_handshake_retry_sequence`. -/
def completeHandshakeRetrySequence : WgPeer :=
  { peer with
    handshakeRetry := { peer.handshakeRetry with active := false, sendAttempts := 0 } }
    |>.clearLastInitiation

/-- `noise_handshake_clear_transcript`: everything but the static-static secret, the handshake
state and the last accepted timestamp. -/
def clearTranscript : WgPeer :=
  { peer with
    handshakeMaterial := { NoiseHandshakeMaterial.reset with
      precomputedStaticStatic := peer.handshakeMaterial.precomputedStaticStatic }
    handshake := { peer.handshake with localIndex := 0, remoteIndex := 0 } }

/-- `wg_peer_zero_key_material`.  `noise_handshake_init` also forgets the last accepted
initiation timestamp. -/
def zeroKeyMaterial : WgPeer :=
  let peer := peer.clearTranscript
  let peer := { peer with handshake := .init }
  let peer := peer.completeHandshakeRetrySequence
  let peer := peer.resetKeypairs
  peer.clearStagedOutboundPackets .cleared

/-- `wg_peer_scrub_transient_state`. -/
def scrubTransientState : WgPeer :=
  let peer := peer.clearTranscript
  let peer := { peer with cookie := .reset }
  let peer := peer.clearLastInitiation
  let peer := { peer with handshakeRetry := .empty }
  let peer := peer.resetKeypairs
  peer.clearStagedOutboundPackets .cleared

end WgPeer

/-! ## The responder's cookie state -/

structure HandshakeRateLimitEntry where
  family : AddressFamily
  address : Bytes 16
  lastUpdate : MonotonicTime
  tokens : Int
  active : Bool
  initialized : Bool
  deriving DecidableEq

/-- A value-initialised entry. -/
def HandshakeRateLimitEntry.empty : HandshakeRateLimitEntry :=
  ⟨.unspecified, Bytes.zero 16, 0, 0, false, false⟩

/-- `ResponderCookieState`, with its eight rate-limit entries. -/
structure ResponderCookieState where
  secret : NoiseKey
  secretBirth : MonotonicTime
  arrivalLastUpdate : MonotonicTime
  underLoadUntil : MonotonicTime
  arrivalTokens : Int
  arrivalInitialized : Bool
  rateLimits : Fin 8 → HandshakeRateLimitEntry

/-- A value-initialised cookie state. -/
def ResponderCookieState.empty : ResponderCookieState :=
  ⟨.clear, 0, 0, 0, 0, false, fun _ => .empty⟩

/-! ## The device -/

/-- The slots of `wg_index_slot` that have a registry entry; its `None` is `Option.none`. -/
inductive WgIndexSlot where
  | handshake
  | currentKeypair
  | nextKeypair
  | previousKeypair
  deriving DecidableEq, Repr

/-- `wg_index_registry_entry`. -/
structure WgIndexRegistryEntry where
  index : UInt32
  active : Bool
  deriving DecidableEq, Repr

/-- `wg_index_registry`; `GetRegistryEntry` is application. -/
abbrev WgIndexRegistry := WgIndexSlot → WgIndexRegistryEntry

/-- A value-initialised registry. -/
def WgIndexRegistry.empty : WgIndexRegistry := fun _ => ⟨0, false⟩

/-- `wg_device`. -/
structure WgDevice where
  indexRegistry : WgIndexRegistry
  responderCookie : ResponderCookieState
  peer : WgPeer
  hasPeer : Bool

/-- `wg_index_allocator_next`: the index handed out and the static counter after it. -/
def wgIndexAllocatorNext (nextIndex seed : UInt32) : UInt32 × UInt32 :=
  let start := if nextIndex = 0 then (if seed = 0 then 1 else seed) else nextIndex
  (start, if start + 1 = 0 then 1 else start + 1)

namespace WgDevice

/-- `wg_device_reset`: a default-constructed device. -/
def reset : WgDevice := ⟨.empty, .empty, .empty, false⟩

/-- The part of a tunnel's configuration entry that the device reads. -/
structure Config where
  publicKey : List Char
  persistentKeepalive : UInt16
  deriving DecidableEq, Repr

/-- `wg_device_init_from_parsed_config`; on failure the device is left reset. -/
def initFromParsedConfig (c : Crypto) (config : Config) (localPrivateKey : NoiseKey)
    (presharedKey : Option NoiseKey) : Bool × WgDevice :=
  if localPrivateKey.valid = false then (false, reset)
  else
    match WgPeer.initializePeer c localPrivateKey config.publicKey presharedKey
        config.persistentKeepalive with
    | none => (false, reset)
    | some peer => (true, { reset with peer, hasPeer := true })

variable (device : WgDevice)

/-- `wg_device_lookup_index_slot`: the first slot, in the source's order, that holds the index. -/
def lookupIndexSlot (index : UInt32) : Option WgIndexSlot :=
  if index = 0 then none
  else
    [WgIndexSlot.handshake, .currentKeypair, .nextKeypair, .previousKeypair].find? fun slot =>
      (device.indexRegistry slot).active && decide ((device.indexRegistry slot).index = index)

/-- `wg_device_index_matches_slot`. -/
def indexMatchesSlot (slot : WgIndexSlot) (index : UInt32) : Bool :=
  decide (index ≠ 0) && (device.indexRegistry slot).active &&
    decide ((device.indexRegistry slot).index = index)

/-- The loop of `wg_device_allocate_index`, `attempts` candidates from the counter on. -/
def allocateIndexLoop (device : WgDevice) (seed : UInt32) : Nat → UInt32 → UInt32
  | 0, _ => 0
  | attempts + 1, nextIndex =>
    let (candidate, nextIndex) := wgIndexAllocatorNext nextIndex seed
    if candidate ≠ 0 ∧ device.lookupIndexSlot candidate = none then candidate
    else device.allocateIndexLoop seed attempts nextIndex

/-- `wg_device_allocate_index`; zero when no candidate was free. -/
def allocateIndex (p : Platform) : UInt32 :=
  device.allocateIndexLoop p.indexSeed 32 p.nextIndex

/-- `wg_device_clear_index_registry`. -/
def clearIndexRegistry : WgDevice := { device with indexRegistry := .empty }

def setRegistryEntry (slot : WgIndexSlot) (index : UInt32) : WgDevice :=
  { device with
    indexRegistry := Function.update device.indexRegistry slot ⟨index, decide (index ≠ 0)⟩ }

/-- `wg_device_register_handshake_index`. -/
def registerHandshakeIndex (index : UInt32) : WgDevice :=
  device.setRegistryEntry .handshake index

/-- The index `wg_device_refresh_keypair_indices` registers for a keypair. -/
def registeredIndex (keypair : NoiseKeypair) : UInt32 :=
  if keypair.isValid then keypair.localIndex else 0

/-- `wg_device_refresh_keypair_indices` for the device's own peer. -/
def refreshKeypairIndices : WgDevice :=
  device.setRegistryEntry .handshake 0
    |>.setRegistryEntry .currentKeypair (registeredIndex device.peer.currentKeypair)
    |>.setRegistryEntry .nextKeypair (registeredIndex device.peer.nextKeypair)
    |>.setRegistryEntry .previousKeypair (registeredIndex device.peer.previousKeypair)

/-- `wg_device_promote_next_keypair`: two moves, each leaving its source reset. -/
def promoteNextKeypair : Bool × WgDevice :=
  if device.peer.nextKeypair.isValid = false then (false, device)
  else
    (true, refreshKeypairIndices { device with
      peer := { device.peer with
        previousKeypair := device.peer.currentKeypair
        currentKeypair := device.peer.nextKeypair
        nextKeypair := .reset } })

/-- `wg_peer_keypair_for_slot`. -/
def keypairForSlot : WgIndexSlot → Option NoiseKeypair
  | .handshake => none
  | .currentKeypair => some device.peer.currentKeypair
  | .nextKeypair => some device.peer.nextKeypair
  | .previousKeypair => some device.peer.previousKeypair

/-- A write through the pointer `wg_peer_keypair_for_slot` returns. -/
def setKeypairForSlot (slot : WgIndexSlot) (keypair : NoiseKeypair) : WgDevice :=
  match slot with
  | .handshake => device
  | .currentKeypair => { device with peer := { device.peer with currentKeypair := keypair } }
  | .nextKeypair => { device with peer := { device.peer with nextKeypair := keypair } }
  | .previousKeypair => { device with peer := { device.peer with previousKeypair := keypair } }

end WgDevice

end WireguardNx.Wireguard
