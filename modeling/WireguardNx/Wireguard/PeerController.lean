import WireguardNx.Wireguard.Data
import WireguardNx.Wireguard.Handshake

/-!
# The peer controller

The protocol decisions of `peer_controller.cpp`: what the outcome of a send does to the staged
packet at the head of the queue, and when a handshake starts, retries or gives up.
-/

namespace WireguardNx.Wireguard

/-! ## Staged packets -/

inductive OutboundSendOutcomeKind where
  | sent
  | keyUnavailable
  | buildFatal
  | transportDropped
  | transportFatal
  deriving DecidableEq, Repr

def OutboundSendOutcomeKind.buildFailed (error : TransportDataError) : OutboundSendOutcomeKind :=
  if error = .invalidKeypair ∨ error = .keyExpired ∨ error = .counterExhausted then .keyUnavailable
  else .buildFatal

inductive StagedPacketAction where
  | «continue»
  | initiateHandshake
  | stopOnTerminalFailure
  deriving DecidableEq, Repr

/-- `PeerController::ApplyStagedSendOutcome`.  A packet is retired by popping whatever stands at
the head of the queue; the rest of the transition record is not read. -/
def applyStagedSendOutcome (peer : WgPeer) :
    OutboundSendOutcomeKind → StagedPacketAction × WgPeer
  | .sent => (.continue, { peer with
      stagedOutboundPackets := (peer.stagedOutboundPackets.pop .sent).2 })
  | .keyUnavailable => (.initiateHandshake, peer)
  | .transportDropped => (.continue, { peer with
      stagedOutboundPackets := (peer.stagedOutboundPackets.pop .sendFailed).2 })
  | .buildFatal | .transportFatal => (.stopOnTerminalFailure, peer)

/-! ## Handshakes -/

inductive HandshakeTransitionAction where
  | ignore
  | sendInitiation
  | exhausted
  | fatal
  deriving DecidableEq, Repr

variable (c : Crypto) (p : Platform) (device : WgDevice)

/-- `wg_device_create_handshake_initiation`. -/
def WgDevice.createHandshakeInitiation : Bool × WgDevice :=
  if device.hasPeer = false then (false, device)
  else
    let localIndex := device.allocateIndex p
    if localIndex = 0 then (false, device)
    else
      let device := WgDevice.registerHandshakeIndex { device with
        peer := { device.peer with
          handshake := { device.peer.handshake with localIndex, remoteIndex := 0 } } } localIndex
      let (ok, peer) := noiseHandshakeCreateInitiation c p device.peer
      (ok, { device with peer })

def prepareFreshInitiation (beginSequence : Bool) : HandshakeTransitionAction × WgDevice :=
  match device.createHandshakeInitiation c p with
  | (false, device) => (.fatal, device)
  | (true, device) =>
    (.sendInitiation,
      if beginSequence then { device with peer := device.peer.beginHandshakeRetrySequence }
      else device)

def startHandshake : HandshakeTransitionAction × WgDevice :=
  if device.peer.handshakeRetry.active ∧
      (device.peer.timers.hooks .retransmitHandshake).pending then
    (.ignore, device)
  else prepareFreshInitiation c p device true

def handleHandshakeRetryTimer : HandshakeTransitionAction × WgDevice :=
  match device.peer.handleHandshakeRetryTimeout with
  | (.ignore, _) => (.ignore, device)
  | (.exhausted, peer) => (.exhausted, { device with peer })
  | (.retry, peer) => prepareFreshInitiation c p { device with peer } false

def completeSession : Bool × WgDevice :=
  match noiseHandshakeBeginSession c p device with
  | (false, device) => (false, device)
  | (true, device) =>
    (true, { device with peer := device.peer.completeHandshakeRetrySequence })

def deriveResponderSession : Bool × WgDevice :=
  noiseHandshakeBeginSession c p device

def confirmResponderSession (peer : WgPeer) : WgPeer := peer.completeHandshakeRetrySequence

end WireguardNx.Wireguard
