import WireguardNx.Runtime.Activation
import WireguardNx.Runtime.Inbound

/-!
# Handling one event

The handler for a finished send, and `PeerRuntime::Handle`: run the event's handler, collect its
effects into a batch, fill in the timer tokens and check the event's budget.
-/

namespace WireguardNx.Runtime

open Wireguard

namespace HandlerState

/-! ## Finished sends -/

/-- What a send that succeeded does, by the kind of its datagram. -/
def completeSent (c : Crypto) (p : Platform) (st : HandlerState) (event : PendingDatagramSentEvent)
    (kind : PendingDatagramKind) : HandlerState :=
  let st := { st with
    runtime := st.runtime.recordTransmittedBytes event.bytesSent event.occurredAt }
  let st := (st.onAuthenticatedPacketTraversal event.peer event.timerFacts)
    |>.onAuthenticatedPacketSent event.peer
  match kind with
  | .handshakeInitiation =>
    let st := st.arm event.peer .retransmitHandshake (handshakeRetryDeadline event.timerFacts)
    if st.runtime.receiveStarted = false then
      { st with runtime := { st.runtime with receiveStarted := true } }.add
        (.queueReceive event.peer)
    else st
  | .handshakeResponse => st
  | .transportData =>
    if st.runtime.hasProtocolPeer then
      let peer := (applyStagedSendOutcome st.runtime.device.peer .sent).2
      let st := { st with runtime := st.runtime.withPeer peer }
      let st := (st.onDataPacketSent event.peer event.timerFacts).add
        (.queueInnerPacketSubmission event.peer)
      st.refreshKeyFreshness c p event.peer event.occurredAt
    else st
  | .keepalive => st.refreshKeyFreshness c p event.peer event.occurredAt

/-- What a send that failed does, by the kind of its datagram.  The failure event that a local
send failure turns into names the binding's own socket and is never terminal. -/
def completeFailed (st : HandlerState) (event : PendingDatagramSentEvent)
    (kind : PendingDatagramKind) : HandlerState :=
  let st :=
    if kind = .transportData ∧ st.runtime.hasProtocolPeer then
      let peer := (applyStagedSendOutcome st.runtime.device.peer .transportDropped).2
      { st with runtime := st.runtime.withPeer peer }
    else st
  if event.error = .sendFailed then
    let failure := st.runtime.handleTransportFailure ⟨event.peer, st.runtime.binding.socket,
      st.runtime.binding.generation, event.error, event.occurredAt⟩
    let st : HandlerState := ⟨failure.runtime, st.effects ++ failure.effects⟩
    if kind = .handshakeInitiation then
      st.arm event.peer .retransmitHandshake (handshakeRetryDeadline event.timerFacts)
    else st
  else st.enterActivationError .transport .transportSendFailed event.occurredAt

end HandlerState

namespace PeerRuntime

variable (c : Crypto) (p : Platform) (s : PeerRuntime)

/-- `HandlePendingDatagramCompletion`. -/
def handlePendingDatagramSent (event : PendingDatagramSentEvent) : HandlerState :=
  match s.pendingDatagram with
  | none => ⟨s, []⟩
  | some pending =>
    if s.isCurrentActivation event.peer.activationGeneration = false ∨
        pending.generation ≠ event.datagramGeneration then
      ⟨s, []⟩
    else
      let st : HandlerState := ⟨{ s with pendingDatagram := none }, []⟩
      if event.error = .none then st.completeSent c p event pending.kind
      else st.completeFailed event pending.kind

/-! ## Dispatch -/

/-- `HandleEvent` by event type; `none` is an abort inside a handler. -/
def handleEvent : PeerEvent → Option HandlerState
  | .activationRequested event => some (s.handleActivationRequested event)
  | .deactivationRequested event => some (s.handleDeactivationRequested event)
  | .networkPathRequestStarted event => some (s.handleNetworkPathRequestStarted event)
  | .networkPathAvailabilityChanged event => some (s.handleNetworkPathAvailabilityChanged event)
  | .transportFailure event => some (s.handleTransportFailure event)
  | .endpointResolved event => some (s.handleEndpointResolved event)
  | .udpBindOpened event => s.handleUdpBindOpened c p event
  | .udpRebindRequested event => some (s.handleUdpRebindRequested event)
  | .encryptedDatagramReceived event => some (s.handleEncryptedDatagram c p event)
  | .pendingDatagramSent event => some (s.handlePendingDatagramSent c p event)
  | .innerPacketStaged event => some (s.handleInnerPacketStaged c p event)
  | .innerPacketBatchStaged event => s.handleInnerPacketBatchStaged c p event
  | .processOutboundQueue event => some (s.handleProcessOutboundQueue c p event)
  | .protocolTimerExpired event => some (s.handleProtocolTimerExpired c p event)

theorem finalizeTimerEffects_length (effects : List RuntimeEffect) (s : PeerRuntime) :
    (finalizeTimerEffects effects s).1.length = effects.length := by
  induction effects generalizing s with
  | nil => rfl
  | cons effect effects ih => simp only [finalizeTimerEffects, List.length_cons, ih]

/-- Fill the tokens into a finished batch. -/
def finalizeBatch (batch : EffectBatch) : PeerRuntime × EffectBatch :=
  let finalized := finalizeTimerEffects batch.effects s
  (finalized.2, ⟨finalized.1, by rw [finalizeTimerEffects_length]; exact batch.size_le⟩)

/-- `PeerRuntime::Handle`; `none` is an abort: in a handler, on adding to a full batch, or on a
batch beyond the event's budget. -/
def handle (event : PeerEvent) : Option (PeerRuntime × EffectBatch) :=
  match s.handleEvent c p event with
  | none => none
  | some st =>
    match EffectBatch.collect st.effects with
    | none => none
    | some batch =>
      let (s, batch) := st.runtime.finalizeBatch batch
      if event.maxEffects < batch.size then none else some (s, batch)

end PeerRuntime

end WireguardNx.Runtime
