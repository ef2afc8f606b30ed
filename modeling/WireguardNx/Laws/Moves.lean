import WireguardNx.Laws.Device
import WireguardNx.Runtime.Handle

/-!
# What a handler can do, coarsely

A handler of the peer runtime is a sequence of moves: it adds an effect, notes something that no
invariant is about, fills the pending slot and asks for the datagram to be sent, drops a staged
packet that cannot be sent, gives a handshake up, suspends the transport, or enters the error
state.  What an invariant has to survive is then one case per move, not one per branch of every
handler.

Some events first put the peer into a state that no move describes: a packet is staged, a send
completes, an activation begins or ends, a socket is adopted, key material is zeroed.  `Entry`
lists these.  That every handler makes its entry and goes on with moves is read off the finer
descriptions of `Traffic` and `Turn`.
-/

namespace WireguardNx.Runtime

open Wireguard PeerRuntime HandlerState

/-! ## Moves -/

def RuntimeEffect.isSend : RuntimeEffect → Bool
  | .sendPendingDatagram _ _ => true
  | _ => false

/-- Two states of a peer between which nothing happened that an invariant is about. -/
structure PeerRuntime.Same (c : Crypto) (s t : PeerRuntime) : Prop where
  state : t.lifecycle.state = s.lifecycle.state ∨
    (s.lifecycle.state = .handshaking ∧ t.lifecycle.state = .active)
  activation : t.lifecycle.activationGeneration = s.lifecycle.activationGeneration
  peerIndex : t.peerIndex = s.peerIndex
  instantiated : t.instantiated = s.instantiated
  socket : t.binding.socket = s.binding.socket
  suspended : t.binding.suspended = s.binding.suspended
  pending : t.pendingDatagram = s.pendingDatagram
  nextDatagram : t.nextDatagramGeneration = s.nextDatagramGeneration
  device : s.device.Advances c t.device

/-- The part of a peer that `Same` is about. -/
def PeerRuntime.core (s : PeerRuntime) :
    PeerRuntimeState × UInt32 × UInt32 × Bool × SocketHandle × Bool × Option PendingDatagram ×
      UInt32 × WgDevice :=
  (s.lifecycle.state, s.lifecycle.activationGeneration, s.peerIndex, s.instantiated,
    s.binding.socket, s.binding.suspended, s.pendingDatagram, s.nextDatagramGeneration, s.device)

/-- A transport datagram is built from the head of the queue. -/
def PeerRuntime.Carries (s : PeerRuntime) (kind : PendingDatagramKind) (packetId : UInt64) : Prop :=
  kind = .transportData → ∃ front,
    s.device.peer.stagedOutboundPackets.front = some front ∧ front.packetId = packetId

/-- One move of a handler that works for `identity`. -/
inductive Move (c : Crypto) (identity : PeerIdentity) : HandlerState → HandlerState → Prop
  | emit (st : HandlerState) (effect : RuntimeEffect) (hsend : effect.isSend = false) :
      Move c identity st (st.add effect)
  | note (st : HandlerState) (s : PeerRuntime) (hsame : st.runtime.Same c s) :
      Move c identity st { st with runtime := s }
  /-- The pending slot is filled. -/
  | fill (st : HandlerState) (bytes : List UInt8) (packetId : UInt64) (kind : PendingDatagramKind)
      (htrans : st.runtime.isInTransportState = true)
      (hact : identity.activationGeneration = st.runtime.lifecycle.activationGeneration)
      (hpend : st.runtime.pendingDatagram = none)
      (hdata : st.runtime.Carries kind packetId) :
      Move c identity st
        ⟨st.runtime.setPending bytes packetId kind,
          st.effects ++ [.sendPendingDatagram identity st.runtime.nextDatagramGeneration]⟩
  | drop (st : HandlerState) (disposition : QueueDisposition)
      (hdisposition : disposition = .stale ∨ disposition = .unavailable)
      (hpend : st.runtime.pendingDatagram = none) :
      Move c identity st (st.dropStaged disposition)
  /-- A handshake is given up, which clears the queue. -/
  | giveUp (st : HandlerState) (device : WgDevice)
      (hkeeps : st.runtime.device.Keeps { device with peer := { device.peer with
        stagedOutboundPackets := st.runtime.device.peer.stagedOutboundPackets } })
      (hqueue : device.peer.stagedOutboundPackets =
        (st.runtime.device.peer.stagedOutboundPackets.clear .retryExhausted).2) :
      Move c identity st { st with runtime := { st.runtime with device } }
  | suspend (st : HandlerState) :
      Move c identity st
        { st with runtime := { st.runtime with
          binding := st.runtime.binding.releaseAndSuspend } }
  | fail (st : HandlerState) (stage : PeerErrorStage) (code : PeerErrorCode) (now : Ktime) :
      Move c identity st (st.enterActivationError stage code now)

abbrev Moves (c : Crypto) (identity : PeerIdentity) : HandlerState → HandlerState → Prop :=
  Relation.ReflTransGen (Move c identity)

/-- The peer is in a transport state, in the activation the handler works for. -/
structure HandlerState.Current (identity : PeerIdentity) (st : HandlerState) : Prop where
  transport : st.runtime.isInTransportState = true
  activation : identity.activationGeneration = st.runtime.lifecycle.activationGeneration

namespace PeerRuntime.Same

variable {c : Crypto} {s t u : PeerRuntime}

/-- A change of nothing that `Same` is about. -/
theorem of_core (h : t.core = s.core) : s.Same c t := by
  simp only [core, Prod.mk.injEq] at h
  obtain ⟨hstate, hact, hindex, hinst, hsocket, hsusp, hpend, hnext, hdev⟩ := h
  refine ⟨Or.inl hstate, hact, hindex, hinst, hsocket, hsusp, hpend, hnext, ?_⟩
  rw [hdev]
  exact (WgDevice.Keeps.refl _).advances

/-- A change of the device alone. -/
theorem ofDevice {device : WgDevice} (h : s.device.Advances c device) :
    s.Same c { s with device } :=
  ⟨Or.inl rfl, rfl, rfl, rfl, rfl, rfl, rfl, rfl, h⟩

/-- A change of the protocol peer alone. -/
theorem ofPeer {peer : WgPeer} (h : s.device.peer.Keeps peer) : s.Same c (s.withPeer peer) :=
  ofDevice ⟨rfl, Or.inl h⟩

theorem transport (h : s.Same c t) : t.isInTransportState = s.isInTransportState := by
  unfold isInTransportState
  obtain h | ⟨hs, ht⟩ := h.state
  · rw [h]
  · rw [hs, ht]; rfl

theorem hasProtocolPeer (h : s.Same c t) : t.hasProtocolPeer = s.hasProtocolPeer := by
  unfold PeerRuntime.hasProtocolPeer
  rw [h.instantiated, h.device.hasPeer]

theorem current {identity : PeerIdentity} {st : HandlerState} (h : st.runtime.Same c t)
    (hcur : st.Current identity) : Current identity { st with runtime := t } :=
  ⟨h.transport.trans hcur.transport, hcur.activation.trans h.activation.symm⟩

end PeerRuntime.Same

namespace Moves

variable {c : Crypto} {identity : PeerIdentity} {st st' : HandlerState}

theorem emit (effect : RuntimeEffect) (hsend : effect.isSend = false) :
    Moves c identity st (st.add effect) :=
  .single (.emit st effect hsend)

theorem note {s : PeerRuntime} (hsame : st.runtime.Same c s) :
    Moves c identity st { st with runtime := s } :=
  .single (.note st s hsame)

theorem cancel (hook : TimerHook) : Moves c identity st (st.cancel identity hook) :=
  emit _ rfl

theorem fail (stage : PeerErrorStage) (code : PeerErrorCode) (now : Ktime) :
    Moves c identity st (st.enterActivationError stage code now) :=
  .single (.fail st stage code now)
end Moves

/-! ## The error state -/

section ErrorState

/-- The device as `EnterActivationError` leaves it. -/
def PeerRuntime.scrubbedDevice (s : PeerRuntime) : WgDevice :=
  if s.hasProtocolPeer then
    WgDevice.clearIndexRegistry { s.device with
      peer := (s.device.peer.clearStagedOutboundPackets .cleared).scrubTransientState }
  else s.device

/-- The effects `EnterActivationError` adds. -/
def PeerRuntime.errorEffects (s : PeerRuntime) : List RuntimeEffect :=
  (if s.binding.isOpen then [.closeUdpSocket s.pathRequestGeneration s.binding.socket] else []) ++
    if s.lifecycle.activationGeneration = 0 then []
    else timerHooks.map fun hook =>
      .cancelProtocolTimer ⟨s.peerIndex, s.lifecycle.activationGeneration⟩ hook .empty

/-- `EnterActivationError` in one piece. -/
theorem enterActivationError_eq (st : HandlerState) (stage : PeerErrorStage) (code : PeerErrorCode)
    (now : Ktime) :
    st.enterActivationError stage code now =
      ⟨{ st.runtime with
          pendingDatagram := none
          pendingSocketGeneration := 0
          decryptedPacket := .empty
          device := st.runtime.scrubbedDevice
          binding := if st.runtime.binding.isOpen then st.runtime.binding.releaseSocket
            else st.runtime.binding
          lifecycle := { st.runtime.lifecycle with
            state := .error, errorStage := stage, lastErrorCode := code, established := false,
            stateChangedNs := now } },
        st.effects ++ st.runtime.errorEffects⟩ := by
  have hruntime : erroredRuntime st.runtime stage code now =
      { st.runtime with
        pendingDatagram := none
        pendingSocketGeneration := 0
        decryptedPacket := .empty
        device := st.runtime.scrubbedDevice
        lifecycle := { st.runtime.lifecycle with
          state := .error, errorStage := stage, lastErrorCode := code, established := false,
          stateChangedNs := now } } := by
    unfold erroredRuntime clearStagedInnerPackets
      scrubbedDevice enterError
    by_cases hpeer : st.runtime.hasProtocolPeer
    · have hpeer' : (st.runtime.instantiated && st.runtime.device.hasPeer) = true := hpeer
      simp only [hasProtocolPeer, hpeer', if_true, withPeer]
    · have hpeer' : (st.runtime.instantiated && st.runtime.device.hasPeer) = false :=
        Bool.not_eq_true _ ▸ hpeer
      simp only [hasProtocolPeer, hpeer', Bool.false_eq_true, if_false]
  unfold enterActivationError errorEffects
  rw [hruntime]
  by_cases hopen : st.runtime.binding.isOpen
  · by_cases hact : st.runtime.lifecycle.activationGeneration = 0
    · simp only [hopen, if_true, hact, List.append_nil]
    · simp only [hopen, if_true, hact, if_false, List.append_assoc]
  · by_cases hact : st.runtime.lifecycle.activationGeneration = 0
    · simp only [hopen, Bool.false_eq_true, if_false, hact, if_true, List.append_nil]
    · simp only [hopen, Bool.false_eq_true, if_false, hact, List.nil_append]

theorem scrubbedDevice_hasPeer (s : PeerRuntime) : s.scrubbedDevice.hasPeer = s.device.hasPeer := by
  unfold scrubbedDevice
  split
  · rfl
  · rfl

/-- Scrubbing keeps all but the queue, which it clears. -/
theorem scrubbedDevice_keeps (s : PeerRuntime) :
    s.device.peer.Keeps { s.scrubbedDevice.peer with
      stagedOutboundPackets := s.device.peer.stagedOutboundPackets } := by
  unfold scrubbedDevice
  split
  · exact ⟨⟨rfl, rfl, rfl, fun _ => ⟨rfl, rfl⟩⟩, rfl⟩
  · exact .refl _

theorem scrubbedDevice_currentKeypair {s : PeerRuntime} (h : s.hasProtocolPeer) :
    s.scrubbedDevice.peer.currentKeypair = .reset := by
  unfold scrubbedDevice
  rw [if_pos h]
  rfl

end ErrorState

/-! ## Entries -/

/-- The identity an event names; an activation request names no activation. -/
def PeerEvent.identity : PeerEvent → PeerIdentity
  | .activationRequested event => ⟨event.peerIndex, 0⟩
  | .deactivationRequested event => event.peer
  | .networkPathRequestStarted event => event.peer
  | .networkPathAvailabilityChanged event => event.peer
  | .transportFailure event => event.peer
  | .endpointResolved event => event.peer
  | .udpBindOpened event => event.peer
  | .udpRebindRequested event => event.peer
  | .encryptedDatagramReceived event => event.peer
  | .pendingDatagramSent event => event.peer
  | .innerPacketStaged event => event.peer
  | .innerPacketBatchStaged event => event.peer
  | .processOutboundQueue event => event.peer
  | .protocolTimerExpired event => event.peer

def PeerEvent.staging : PeerEvent → List (List UInt8 × UInt64)
  | .innerPacketStaged event => [(event.packet, event.packetId)]
  | .innerPacketBatchStaged event => event.packets
  | _ => []

namespace PeerRuntime

def zeroed (s : PeerRuntime) : PeerRuntime :=
  { s with device := WgDevice.clearIndexRegistry { s.device with
    peer := s.device.peer.zeroKeyMaterial } }

/-- The peer after a datagram of some kind has left the pending slot. -/
def completed (s : PeerRuntime) (kind : PendingDatagramKind) (disposition : QueueDisposition) :
    PeerRuntime :=
  if kind = .transportData ∧ s.hasProtocolPeer then
    { s with pendingDatagram := none }.withPeer { s.device.peer with
      stagedOutboundPackets := (s.device.peer.stagedOutboundPackets.pop disposition).2 }
  else { s with pendingDatagram := none }

/-- The peer with a socket adopted outside of an activation's first bind. -/
def rebound (s : PeerRuntime) (binding : UdpBinding) : PeerRuntime :=
  { s with pendingSocketGeneration := 0, binding }

/-- The peer with its first socket and a fresh protocol peer. -/
def bound (s : PeerRuntime) (binding : UdpBinding) (peer : WgPeer) (now : Ktime) : PeerRuntime :=
  { s with
    pendingSocketGeneration := 0
    binding
    device := { WgDevice.reset with peer, hasPeer := true }
    instantiated := true
    lifecycle := { s.lifecycle with
      state := .handshaking, errorStage := .none, lastErrorCode := .none, stateChangedNs := now } }

end PeerRuntime

/-- What an event does to the peer before its handler goes on with moves. -/
inductive Entry (c : Crypto) (s : PeerRuntime) : PeerEvent → HandlerState → Prop
  | stay (event : PeerEvent) : Entry c s event ⟨s, []⟩
  | staged (event : PeerEvent) (after : PeerRuntime) (hevent : event.staging ≠ [])
      (hact : s.isCurrentActivation event.identity.activationGeneration = true)
      (hpeer : s.hasProtocolPeer = true)
      (hpush : PeerRuntime.pushBatch event.identity event.staging s = some after) :
      Entry c s event ⟨after, []⟩
  | refused (event : InnerPacketStagedEvent) (record : InnerPacketRecord)
      (hfull : s.pushStaged record = none) :
      Entry c s (.innerPacketStaged event) ⟨s.refuseStaged record, []⟩
  | completed (event : PendingDatagramSentEvent) (pending : PendingDatagram)
      (hpend : s.pendingDatagram = some pending)
      (hact : s.isCurrentActivation event.peer.activationGeneration = true)
      (hgen : pending.generation = event.datagramGeneration) :
      Entry c s (.pendingDatagramSent event)
        ⟨s.completed pending.kind (if event.error = .none then .sent else .sendFailed), []⟩
  | zeroed (event : ProtocolTimerExpiredEvent) (hcurrent : s.isCurrentExpiry event = true)
      (hhook : event.hook = .zeroKeyMaterial) :
      Entry c s (.protocolTimerExpired event)
        ⟨s.zeroed, [.cancelProtocolTimer event.peer event.hook .empty]⟩
  | activated (event : ActivationRequestedEvent) (hconfig : s.validateConfiguration = .none) :
      Entry c s (.activationRequested event)
        ⟨s.activated event.occurredAt, [.startNetworkPathRequest
          ⟨event.peerIndex, (s.activated event.occurredAt).lifecycle.activationGeneration⟩
          (s.activated event.occurredAt).pathRequestGeneration]⟩
  | deactivated (event : DeactivationRequestedEvent)
      (hact : s.isCurrentActivation event.peer.activationGeneration = true) :
      Entry c s (.deactivationRequested event) (s.handleDeactivationRequested event)
  | rebound (event : UdpBindOpenedEvent) (binding : UdpBinding)
      (htrans : s.isInTransportState = true) (hopen : binding.isOpen = true)
      (hsusp : binding.suspended = false) :
      Entry c s (.udpBindOpened event)
        ⟨s.rebound binding,
          if s.binding.socket ≠ invalidSocket then
            [.closeUdpSocket s.pathRequestGeneration s.binding.socket]
          else []⟩
  | bound (event : UdpBindOpenedEvent) (binding : UdpBinding) (peer : WgPeer)
      (hstate : s.lifecycle.state = .resolvingEndpoint) (hopen : binding.isOpen = true)
      (hsusp : binding.suspended = false)
      (hpeer : ∃ key text psk interval,
        WgPeer.initializePeer c key text psk interval = some peer) :
      Entry c s (.udpBindOpened event) ⟨s.bound binding peer event.occurredAt, []⟩
  | unbound (event : UdpBindOpenedEvent) (binding : UdpBinding)
      (hstate : s.lifecycle.state = .resolvingEndpoint) :
      Entry c s (.udpBindOpened event) (HandlerState.enterActivationError
        ⟨(s.rebound binding).resetProtocol, []⟩ .config .keyInvalid event.occurredAt)

def Enters (c : Crypto) (s : PeerRuntime) (event : PeerEvent) (st : HandlerState) : Prop :=
  ∃ entry, Entry c s event entry ∧ Moves c event.identity entry st

theorem Enters.stay {c : Crypto} {s : PeerRuntime} {event : PeerEvent} {st : HandlerState}
    (h : Moves c event.identity ⟨s, []⟩ st) : Enters c s event st :=
  ⟨_, .stay event, h⟩

theorem eq_of_isCurrentActivation {s : PeerRuntime} {generation : UInt32}
    (h : s.isCurrentActivation generation) : generation = s.lifecycle.activationGeneration := by
  unfold isCurrentActivation isCurrentGeneration at h
  rw [Bool.and_eq_true, decide_eq_true_eq, decide_eq_true_eq] at h
  exact h.2.symm

end WireguardNx.Runtime
