import WireguardNx.Laws.InnerPacketQueue
import WireguardNx.Laws.Traffic

/-!
# What the handlers of traffic do

`Received` says what becomes of a datagram, one case per outcome with everything it went through.
From it and from the functions that send, every handler between the bind of an activation and its
end is traffic: an entry, such as a packet that is staged or a slot that is freed, and then work.

Each outcome is a case, failures of primitives and failed checks among them.
-/

namespace WireguardNx.Runtime

open Wireguard PeerRuntime HandlerState List

variable {device : WgDevice} {live : Prop} {c : Crypto} {p : Platform} {st : HandlerState}
  {identity : PeerIdentity} {s : PeerRuntime}

/-! ## Received datagrams -/

namespace HandlerState

/-- What every authenticated packet does to the timers. -/
def traverse (st : HandlerState) (event : EncryptedDatagramReceivedEvent) : HandlerState :=
  (st.onAuthenticatedPacketTraversal event.peer event.timerFacts)
    |>.onAuthenticatedPacketReceived event.peer

/-- An authenticated packet is recorded and its timers are touched. -/
def authenticate (st : HandlerState) (event : EncryptedDatagramReceivedEvent) : HandlerState :=
  { st with runtime := recordAuthenticated st.runtime event }.traverse event

/-- The end of `HandleTransportData`, for a packet that was opened. -/
def deliver (c : Crypto) (p : Platform) (st : HandlerState)
    (event : EncryptedDatagramReceivedEvent) (data : IncomingTransportData) : HandlerState :=
  let refreshed := (st.authenticate event).refreshKeyFreshness c p event.peer event.occurredAt
  let confirmed := if data.promotedNextKeypair then refreshed.confirmPromoted event else refreshed
  if data.payload = [] then confirmed else confirmed.publishPayload event data.payload

/-- The end of `CompleteInitiatorSession`, with the session derived. -/
def establish (st : HandlerState) (event : EncryptedDatagramReceivedEvent) : HandlerState :=
  let st := st.authenticate event
  ({ st with runtime := (enterActiveOrNote st.runtime event).2 }.onSessionDerived event.peer
    event.timerFacts).onHandshakeComplete event.peer

/-- An established session sends what is staged, or a keepalive. -/
def openSession (c : Crypto) (p : Platform) (st : HandlerState)
    (event : EncryptedDatagramReceivedEvent) : HandlerState :=
  if st.runtime.stagedInnerPacketCount ≠ 0 then st.add (.queueInnerPacketSubmission event.peer)
  else st.sendKeepaliveOrFail c p event.peer event.occurredAt

end HandlerState

section Inbound

variable {event : EncryptedDatagramReceivedEvent}

theorem recordAuthenticated_spec (s : PeerRuntime) (event : EncryptedDatagramReceivedEvent) :
    (recordAuthenticated s event).setup = s.setup ∧
      (recordAuthenticated s event).work = s.work ∧
      (recordAuthenticated s event).lifecycle.state = s.lifecycle.state ∧
      (s.binding.hasEndpoint →
        (recordAuthenticated s event).binding.hasEndpoint) := by
  unfold recordAuthenticated updateEndpointFromAuthenticatedPacket
  split
  · exact ⟨rfl, rfl, rfl, id⟩
  · exact ⟨rfl, rfl, rfl, fun _ => rfl⟩

private theorem recordAuthenticated_setPending (s : PeerRuntime)
    (event : EncryptedDatagramReceivedEvent)
    (bytes : List UInt8) (packetId : UInt64) (kind : PendingDatagramKind) :
    recordAuthenticated (s.setPending bytes packetId kind) event =
      (recordAuthenticated s event).setPending bytes packetId kind := by
  unfold recordAuthenticated updateEndpointFromAuthenticatedPacket
  split
  · rfl
  · rfl

theorem recordAuthenticated_carried : Carried c p identity live st
      { st with runtime := recordAuthenticated st.runtime event } := by
  obtain ⟨hsetup, hwork, hstate, hendpoint⟩ := recordAuthenticated_spec st.runtime event
  exact .ofNote hsetup hwork (.inl hstate) hendpoint

theorem enterActiveOrNote_spec (s : PeerRuntime) (event : EncryptedDatagramReceivedEvent) :
    (enterActiveOrNote s event).2.setup = s.setup ∧
      (enterActiveOrNote s event).2.work = s.work ∧
      ((enterActiveOrNote s event).2.lifecycle.state = s.lifecycle.state ∨
        (s.lifecycle.state = .handshaking ∧
          (enterActiveOrNote s event).2.lifecycle.state = .active)) ∧
      (enterActiveOrNote s event).2.binding = s.binding := by
  unfold enterActiveOrNote enterActive
  split
  · rename_i hstate
    split
    · exact ⟨rfl, rfl, .inl rfl, rfl⟩
    · exact ⟨rfl, rfl, .inr ⟨hstate, rfl⟩, rfl⟩
  · exact ⟨rfl, rfl, .inl rfl, rfl⟩

theorem enterActiveOrNote_carried (event : EncryptedDatagramReceivedEvent) :
    Carried c p identity live st { st with runtime := (enterActiveOrNote st.runtime event).2 } := by
  obtain ⟨hsetup, hwork, hstate, hbinding⟩ := enterActiveOrNote_spec st.runtime event
  exact .ofNote hsetup hwork hstate fun h => hbinding ▸ h

private theorem onAuthenticatedPacketTraversal_carried {facts : TimerFacts} :
    Carried c p identity live st (st.onAuthenticatedPacketTraversal identity facts) := by
  unfold onAuthenticatedPacketTraversal
  split
  · exact .arm _ _
  · exact .refl

theorem traverse_carried : Carried c p event.peer live st (st.traverse event) :=
  onAuthenticatedPacketTraversal_carried.trans (.cancel (by decide))

theorem authenticate_carried : Carried c p event.peer live st (st.authenticate event) :=
  recordAuthenticated_carried.trans traverse_carried

private theorem onDataPacketSent_carried (facts : TimerFacts) :
    Carried c p identity live st (st.onDataPacketSent identity facts) := by
  unfold onDataPacketSent
  split
  · exact .arm _ _
  · exact .refl

theorem onAuthenticatedPacketTraversal_runtime (st : HandlerState) (identity : PeerIdentity)
    (facts : TimerFacts) :
    (st.onAuthenticatedPacketTraversal identity facts).runtime = st.runtime := by
  unfold onAuthenticatedPacketTraversal
  split
  · rfl
  · rfl

theorem onDataPacketSent_runtime (st : HandlerState) (identity : PeerIdentity)
    (facts : TimerFacts) : (st.onDataPacketSent identity facts).runtime = st.runtime := by
  unfold onDataPacketSent
  split
  · rfl
  · rfl

theorem completeSession_derives {derived : WgDevice}
    (h : completeSession c p device = (true, derived)) : DeriveOp c p device derived := by
  unfold completeSession at h
  split at h
  · cases h
  · rename_i hbegin
    cases h
    exact .initiator hbegin

/-- A session that could not be derived leaves the device alone. -/
theorem beginSession_failed {after : WgDevice}
    (h : noiseHandshakeBeginSession c p device = (false, after)) : after = device := by
  unfold noiseHandshakeBeginSession at h
  simp only at h
  iterate 3 (split at h; · cases h; rfl)
  · cases h

private theorem completeSession_failed {after : WgDevice}
    (h : completeSession c p device = (false, after)) :
    after = device := by
  unfold completeSession at h
  split at h
  · rename_i hbegin
    cases h
    exact beginSession_failed hbegin
  · cases h

/-- In a transport state the response of the current activation always ends in the active one. -/
theorem enterActiveOrNote_ok {s : PeerRuntime}
    (h : s.isCurrentActivation event.peer.activationGeneration) :
    (enterActiveOrNote s event).1 := by
  unfold enterActiveOrNote enterActive
  split
  · rename_i hstate
    rw [if_neg (by simp [h, hstate])]
  · rfl

private theorem isCurrentActivation_congr {s t : PeerRuntime} (h : t.setup = s.setup)
    {generation : UInt32} : t.isCurrentActivation generation = s.isCurrentActivation generation := by
  unfold isCurrentActivation
  rw [show t.lifecycle.activationGeneration = s.lifecycle.activationGeneration from
    congrArg Setup.activationGeneration h]

theorem establish_carried (h : DeriveOp c p st.runtime.device device) :
    Carried c p event.peer live st
      ({ st with runtime := { st.runtime with device } }.establish event) :=
  (Carried.derive .refl h (authenticate_carried.trans (enterActiveOrNote_carried event))
    (zeroKeyMaterialDeadline event.timerFacts)).trans (.cancel (by decide))

private theorem confirmPromoted_carried :
    Carried c p event.peer live st (st.confirmPromoted event) := by
  have hconfirmed : Carried c p event.peer live st { st with
      runtime := st.runtime.withPeer (confirmResponderSession st.runtime.device.peer) } :=
    .operate (.confirm st.runtime.device)
  have hactive := hconfirmed.trans (enterActiveOrNote_carried event)
  exact (hactive.trans (.cancel (by decide))).trans (.emit _ rfl)

private theorem publishPayload_carried {payload : List UInt8} :
    Carried c p event.peer live st (st.publishPayload event payload) := by
  have hreceived : Carried c p event.peer live st
      (st.onDataPacketReceived event.peer event.timerFacts) := by
    unfold onDataPacketReceived
    simp only
    split
    · exact .refl
    split
    · exact .operate (.flag st.runtime.device true)
    · exact .arm _ _
  unfold publishPayload
  simp only
  split
  · exact hreceived
  · refine hreceived.trans (.trans ?_ (.emit (.publishDecryptedPacket event.peer _) rfl))
    exact .note rfl rfl rfl rfl

theorem deliver_work (hcur : live → (st.authenticate event).Current event.peer)
    (data : IncomingTransportData) :
    Work c p event.peer live (st.authenticate event) (st.deliver c p event data) := by
  unfold deliver
  simp only
  refine (refreshKeyFreshness_tried hcur event.occurredAt).sending.work.trans ?_
  have hconfirmed {refreshed : HandlerState} : Work c p event.peer live refreshed
      (if data.promotedNextKeypair = true then refreshed.confirmPromoted event else refreshed) := by
    split
    · exact confirmPromoted_carried.work
    · exact .refl _
  split
  · exact hconfirmed
  · exact hconfirmed.trans publishPayload_carried.work

theorem openSession_work (hcur : live → st.Current event.peer) :
    Work c p event.peer live st (st.openSession c p event) := by
  unfold openSession
  split
  · exact .single (.emit _ (.queueInnerPacketSubmission event.peer) rfl)
  · exact (sendKeepaliveOrFail_tried hcur event.occurredAt).sending.work

/-- A response: the peer builds it, and the session is derived if that succeeded. -/
theorem prepareHandshakeResponse_spec {s after : PeerRuntime} {ok : Bool}
    (h : s.prepareHandshakeResponse c p = (ok, after)) :
    (ok = false ∧ ∃ device, (device = s.device ∨ DeviceOp c p s.device device) ∧
        device.peer.handshakeRetry = s.device.peer.handshakeRetry ∧
        device.peer.stagedOutboundPackets = s.device.peer.stagedOutboundPackets ∧
        after = { s with device }) ∨
      (ok ∧ s.pendingDatagram = none ∧ ∃ created derived bytes,
        DeviceOp c p s.device created ∧ DeriveOp c p created derived ∧
          after = { s with device := derived }.setPending bytes 0 .handshakeResponse) := by
  unfold prepareHandshakeResponse at h
  split at h
  · cases h; exact .inl ⟨rfl, _, .inl rfl, rfl, rfl, rfl⟩
  rename_i hfree
  simp only [not_or, Bool.not_eq_true, Option.isSome_eq_false_iff, Option.isNone_iff_eq_none] at hfree
  have hrespond : DeviceOp c p s.device _ := .respond s.device
  split at h
  · rename_i hcreate
    rw [hcreate] at hrespond
    cases h
    exact .inl ⟨rfl, _, .inr hrespond, createResponse_retry hcreate,
      (createResponse_keeps hcreate).queue, rfl⟩
  rename_i response peer hcreate
  rw [hcreate] at hrespond
  simp only at h
  split at h
  · cases h
    exact .inl ⟨rfl, _, .inr hrespond, createResponse_retry hcreate,
      (createResponse_keeps hcreate).queue, rfl⟩
  split at h
  · rename_i hderive
    cases h
    refine .inl ⟨rfl, _, .inr hrespond, createResponse_retry hcreate,
      (createResponse_keeps hcreate).queue, ?_⟩
    rw [beginSession_failed hderive]
    rfl
  · rename_i hderive
    cases h
    exact .inr ⟨rfl, hfree.2, _, _, _, hrespond, .responder hderive, rfl⟩

/-- What looking at a datagram does to the device: nothing but what the protocol does. -/
structure Looked (c : Crypto) (p : Platform) (before after : WgDevice) : Prop where
  ops : Relation.ReflTransGen (DeviceOp c p) before after
  queue : after.peer.stagedOutboundPackets = before.peer.stagedOutboundPackets
  retry : after.peer.handshakeRetry = before.peer.handshakeRetry

/-- A handshake response that completes a session of the initiator, with the device that has read it
and the one with the session. -/
structure PeerRuntime.Completes (c : Crypto) (p : Platform) (s : PeerRuntime)
    (event : EncryptedDatagramReceivedEvent) (read derived : WgDevice) : Prop where
  current : s.isCurrentActivation event.peer.activationGeneration = true
  transport : s.isInTransportState = true
  peer : s.hasProtocolPeer = true
  free : s.pendingDatagram = none
  reads : ∃ admitted, noiseHandshakeAdmitResponderPacket c p s.device event.packet event.source
      event.occurredAt = (.accepted, admitted) ∧
    noiseHandshakeConsumeIncomingPacket c p event.packet admitted = (.responseConsumed, read)
  derives : completeSession c p read = (true, derived)

/-- What becomes of a datagram that was received. -/
inductive Received (c : Crypto) (p : Platform) (s : PeerRuntime)
    (event : EncryptedDatagramReceivedEvent) : HandlerState → Prop
  /-- Not for this activation, not authentic, or a cookie; a cookie may be sent for it. -/
  | refused (device : WgDevice) (after : PeerRuntime) (effects : List RuntimeEffect)
      (hlooked : Looked c p s.device device) (hsetup : after.setup = s.setup)
      (hwork : after.work = work { s with device })
      (hstate : after.lifecycle.state = s.lifecycle.state)
      (hendpoint : after.binding.hasEndpoint = s.binding.hasEndpoint)
      (heff : effects = [] ∨
        ∃ endpoint bytes, effects = [.sendCookieReply event.peer endpoint bytes]) :
      Received c p s event ⟨after, effects⟩
  | delivered (device : WgDevice) (data : IncomingTransportData)
      (hcons : noiseConsumeIncomingTransportDataPacket c (p.clock .receive) event.packet s.device
        maxDecryptedPayloadSize = (.ok data, device)) :
      Received c p s event
        (deliver c p ⟨{ s with decryptedPacket := .empty, device }, []⟩ event data)
  | established (device derived : WgDevice) (hlooked : Looked c p s.device device)
      (hcompletes : s.Completes c p event device derived) :
      Received c p s event
        ((establish ⟨{ s with device := derived }, []⟩ event).openSession c p event)
  /-- An initiation that cannot be answered. -/
  | unanswered (device failed : WgDevice) (hlooked : Looked c p s.device device)
      (hfailed : failed = device ∨ DeviceOp c p device failed)
      (hretry : failed.peer.handshakeRetry = device.peer.handshakeRetry)
      (hqueue : failed.peer.stagedOutboundPackets = device.peer.stagedOutboundPackets) :
      Received c p s event
        ⟨{ s with device := failed }, (traverse ⟨{ s with device }, []⟩ event).effects⟩
  | answered (device created derived : WgDevice) (bytes : List UInt8)
      (hlooked : Looked c p s.device device) (hpend : s.pendingDatagram = none)
      (hcreated : DeviceOp c p device created) (hderived : DeriveOp c p created derived) :
      Received c p s event (addSendPending
        ⟨(recordAuthenticated { s with device := derived } event).setPending bytes 0
            .handshakeResponse,
          (traverse ⟨{ s with device }, []⟩ event).effects ++
            [.armProtocolTimer event.peer .zeroKeyMaterial .empty
              (zeroKeyMaterialDeadline event.timerFacts)]⟩ event.peer)

end Inbound

section Received

variable {event : EncryptedDatagramReceivedEvent}

theorem traverse_runtime (st : HandlerState) (event : EncryptedDatagramReceivedEvent) :
    (st.traverse event).runtime = st.runtime :=
  onAuthenticatedPacketTraversal_runtime st event.peer event.timerFacts

theorem authenticate_runtime (st : HandlerState) (event : EncryptedDatagramReceivedEvent) :
    (st.authenticate event).runtime = recordAuthenticated st.runtime event :=
  traverse_runtime _ event

theorem Looked.refl (device : WgDevice) : Looked c p device device := ⟨.refl, rfl, rfl⟩

theorem Looked.judge (device : WgDevice) (packet : List UInt8) (source : Endpoint)
    (now : MonotonicTime) :
    Looked c p device (noiseHandshakeAdmitResponderPacket c p device packet source now).2 := by
  have hop := DeviceOp.judge (c := c) (p := p) device packet source now
  generalize hadmitted : noiseHandshakeAdmitResponderPacket c p device packet source now = admitted
    at hop ⊢
  obtain ⟨admission, after⟩ := admitted
  obtain ⟨-, hpeer⟩ := admitResponderPacket_keeps hadmitted
  exact ⟨.single hop, congrArg _ hpeer, congrArg _ hpeer⟩

theorem Looked.consume {first : WgDevice} (h : Looked c p first device) (packet : List UInt8) :
    Looked c p first (noiseHandshakeConsumeIncomingPacket c p packet device).2 := by
  have hop := DeviceOp.consume (c := c) (p := p) device packet
  generalize hcons : noiseHandshakeConsumeIncomingPacket c p packet device = consumed at hop ⊢
  obtain ⟨outcome, after⟩ := consumed
  exact ⟨h.ops.tail hop, (consumeIncomingPacket_advances hcons).peer.carries.queue.trans h.queue,
    (consumeIncomingPacket_retry hcons).trans h.retry⟩

/-- A datagram that only the device has seen. -/
theorem Received.seen (h : Looked c p s.device device) :
    Received c p s event ⟨{ s with device }, []⟩ :=
  .refused device _ [] h rfl rfl rfl rfl (.inl rfl)

/-- With a session derived, `CompleteInitiatorSession` goes on to its end: in the current activation
the active state is entered or kept. -/
theorem completeInitiatorSession_of_derived {derived : WgDevice}
    (hact : s.isCurrentActivation event.peer.activationGeneration)
    (hpeer : hasProtocolPeer { s with device })
    (hderived : completeSession c p device = (true, derived)) :
    completeInitiatorSession c p ⟨{ s with device }, []⟩ event =
      (establish ⟨{ s with device := derived }, []⟩ event).openSession c p event := by
  have hok : (enterActiveOrNote (authenticate
      ⟨{ s with device := derived }, []⟩ event).runtime event).1 := by
    refine enterActiveOrNote_ok ?_
    rw [authenticate_runtime]
    exact (isCurrentActivation_congr (recordAuthenticated_spec _ event).1).trans hact
  unfold completeInitiatorSession establish
  rw [if_neg (by rw [hpeer]; decide), hderived]
  simp only
  split
  · rename_i hentered
    exact Bool.noConfusion ((congrArg Prod.fst hentered).symm.trans hok)
  · rename_i hentered
    rw [show (enterActiveOrNote (authenticate ⟨{ s with device := derived }, []⟩ event).runtime
      event).2 = _ from congrArg Prod.snd hentered]
    rfl

private theorem completeInitiatorSession_received (hlooked : Looked c p s.device device)
    (hcompletes : ∀ derived, completeSession c p device = (true, derived) →
      s.Completes c p event device derived) :
    Received c p s event (completeInitiatorSession c p ⟨{ s with device }, []⟩ event) := by
  generalize hsession : completeSession c p device = session
  obtain ⟨ok, derived⟩ := session
  by_cases hpeer : PeerRuntime.hasProtocolPeer { s with device } = true
  · cases ok with
    | true =>
      have hall := hcompletes derived hsession
      rw [completeInitiatorSession_of_derived hall.current hpeer hsession]
      exact .established device derived hlooked hall
    | false =>
      unfold completeInitiatorSession
      rw [if_neg (by rw [hpeer]; decide), hsession, completeSession_failed hsession]
      exact .seen hlooked
  · unfold completeInitiatorSession
    rw [if_pos (Bool.not_eq_true _ ▸ hpeer)]
    exact .seen hlooked

private theorem answerInitiation_received (hlooked : Looked c p s.device device) :
    Received c p s event (answerInitiation c p ⟨{ s with device }, []⟩ event) := by
  have hruntime := traverse_runtime ⟨{ s with device }, []⟩ event
  unfold answerInitiation
  simp only
  rw [show onAuthenticatedPacketReceived (onAuthenticatedPacketTraversal
    ⟨{ s with device }, []⟩ event.peer event.timerFacts) event.peer =
      traverse ⟨{ s with device }, []⟩ event from rfl, hruntime]
  split
  · rename_i t hprep
    obtain ⟨-, failed, hfailed, hretry, hqueue, rfl⟩ | ⟨hok, -⟩ :=
      prepareHandshakeResponse_spec hprep
    · exact .unanswered device failed hlooked hfailed hretry hqueue
    · cases hok
  · rename_i t hprep
    obtain ⟨hok, -⟩ | ⟨-, hpend, created, derived, bytes, hcreated, hderived, rfl⟩ :=
      prepareHandshakeResponse_spec hprep
    · cases hok
    -- the slot is filled before the packet is recorded; the two do not touch
    rw [recordAuthenticated_setPending]
    exact .answered device created derived bytes hlooked hpend hcreated hderived

theorem consumeHandshakeDatagram_received (hlooked : Looked c p s.device device)
    (hcompletes : s.pendingDatagram = none → ∀ read derived,
      noiseHandshakeConsumeIncomingPacket c p event.packet device = (.responseConsumed, read) →
      completeSession c p read = (true, derived) → s.Completes c p event read derived) :
    Received c p s event (consumeHandshakeDatagram c p ⟨{ s with device }, []⟩ event) := by
  unfold consumeHandshakeDatagram
  split
  · exact .seen hlooked
  rename_i hfree
  have hpend : s.pendingDatagram = none := by simpa using hfree
  simp only
  have hread := hlooked.consume event.packet
  generalize hcons : noiseHandshakeConsumeIncomingPacket c p event.packet device = consumed
    at hread ⊢
  obtain ⟨outcome, read⟩ := consumed
  cases outcome with
  | invalid => exact .seen hread
  | cookieReplyConsumed => exact .refused read _ [] hread rfl rfl rfl rfl (.inl rfl)
  | responseConsumed =>
    exact completeInitiatorSession_received hread fun derived => hcompletes hpend read derived
      hcons
  | initiationConsumed => exact answerInitiation_received hread

/-- Every datagram is refused, delivered, or takes part in a handshake. -/
theorem handleEncryptedDatagram_received (event : EncryptedDatagramReceivedEvent) :
    Received c p s event (s.handleEncryptedDatagram c p event) := by
  unfold handleEncryptedDatagram
  split
  · exact .seen (.refl _)
  rename_i hchecks
  simp only [not_or, Bool.not_eq_false] at hchecks
  obtain ⟨hact, htrans, hpeer, -⟩ := hchecks
  split
  · exact .seen (.refl _)
  · unfold handleTransportData
    rw [if_neg (by simp [hpeer])]
    simp only
    split
    · rename_i device hcons
      have hop := DeviceOp.receive (c := c) (p := p) s.device event.packet
      rw [hcons] at hop
      exact .refused device _ [] ⟨.single hop,
        (consumeIncomingTransportDataPacket_keeps hcons).peer.queue,
        consumeIncomingTransportDataPacket_retry hcons⟩ rfl rfl rfl rfl (.inl rfl)
    · rename_i data device hcons
      exact .delivered device data hcons
  · rename_i type htype
    unfold handleHandshakeDatagram
    split
    · have hjudged := Looked.judge (c := c) (p := p) s.device event.packet event.source
        event.occurredAt
      simp only
      generalize hadm : noiseHandshakeAdmitResponderPacket c p s.device event.packet event.source
        event.occurredAt = admitted at hjudged ⊢
      obtain ⟨admission, device⟩ := admitted
      cases admission with
      | cookieReply cookie =>
        simp only
        split
        · exact .refused device _ _ hjudged rfl rfl rfl rfl (.inr ⟨_, _, rfl⟩)
        · exact .seen hjudged
      | accepted =>
        exact consumeHandshakeDatagram_received hjudged fun hpend read derived hread hderives =>
          ⟨hact, htrans, hpeer, hpend, ⟨device, hadm, hread⟩, hderives⟩
      | rateLimited | invalid => exact .seen hjudged
    · rename_i hother
      refine consumeHandshakeDatagram_received (.refl s.device) fun _ read derived hread _ => ?_
      have hresponse := (consumeIncomingPacket_response hread).2
      exact (hother (.inr (Except.ok.inj (htype.symm.trans hresponse)))).elim

theorem Looked.carried {identity : PeerIdentity} {effects : List RuntimeEffect}
    (h : Looked c p s.device device) :
    Carried c p identity live ⟨s, effects⟩ ⟨{ s with device }, effects⟩ := by
  obtain ⟨hops, -, -⟩ := h
  induction hops with
  | refl => exact .refl
  | tail _ hop ih => exact ih.trans (.operate hop)

/-- The timers that a packet touches after the device has looked at it. -/
theorem Looked.traversed (h : Looked c p s.device device) : Carried c p event.peer live ⟨s, []⟩
      ⟨{ s with device }, (HandlerState.traverse ⟨{ s with device }, []⟩ event).effects⟩ := by
  have htraversed : Carried c p event.peer live ⟨s, []⟩ _ := h.carried.trans traverse_carried
  rwa [show traverse ⟨{ s with device }, []⟩ event = ⟨{ s with device }, _⟩ from
    congrArg (HandlerState.mk · _) (traverse_runtime ⟨{ s with device }, []⟩ event)] at htraversed

theorem Received.work {st : HandlerState} (h : Received c p s event st)
    (hcur : live → Current event.peer ⟨s, []⟩) : Work c p event.peer live ⟨s, []⟩ st := by
  cases h with
  | refused device after effects hlooked hsetup hwork hstate hendpoint heff =>
    have hnoted : Carried c p event.peer live ⟨s, []⟩ ⟨after, []⟩ :=
      hlooked.carried.trans (.note hsetup hwork hstate hendpoint)
    obtain rfl | ⟨endpoint, bytes, rfl⟩ := heff
    · exact hnoted.work
    · exact (hnoted.trans (.emit (.sendCookieReply event.peer endpoint bytes) rfl)).work
  | delivered device data hcons =>
    have hop := DeviceOp.receive (c := c) (p := p) s.device event.packet
    rw [hcons] at hop
    have hcleared : Carried c p event.peer live ⟨s, []⟩ ⟨{ s with decryptedPacket := .empty }, []⟩ :=
      .note rfl rfl rfl rfl
    have hauthentic := (hcleared.trans (.operate hop)).trans authenticate_carried
    exact hauthentic.work.trans (deliver_work (fun hlive => hauthentic.current (hcur hlive)) data)
  | established device derived hlooked hcompletes =>
    have hestablished : Carried c p event.peer live ⟨s, []⟩ _ :=
      hlooked.carried.trans (establish_carried (completeSession_derives hcompletes.derives))
    exact hestablished.work.trans
      (openSession_work fun hlive => hestablished.current (hcur hlive))
  | unanswered device failed hlooked hfailed =>
    obtain rfl | hop := hfailed
    · exact hlooked.traversed.work
    · exact (hlooked.traversed.trans (.operate hop)).work
  | answered device created derived bytes hlooked hpend hcreated hderived =>
    have hcreated' : Carried c p event.peer live ⟨s, []⟩ _ :=
      hlooked.traversed.trans (.operate hcreated)
    refine (hcreated'.derive hderived recordAuthenticated_carried
      (zeroKeyMaterialDeadline event.timerFacts)).fill hcur bytes ?_ nofun
    have hwork := (recordAuthenticated_spec { s with device := derived } event).2.1
    simp only [PeerRuntime.work, Prod.mk.injEq] at hwork
    exact hwork.2.1.trans hpend

end Received

/-! ## Expired timers -/

section Expiry

variable {event : ProtocolTimerExpiredEvent}

theorem expireRetransmitHandshake_work (hcur : live → st.Current event.peer) :
    Work c p event.peer live st (expireRetransmitHandshake c p st event) := by
  unfold expireRetransmitHandshake
  simp only
  have hretried : Carried c p event.peer live st _ := .operate (.retry st.runtime.device)
  revert hretried
  generalize handleHandshakeRetryTimer c p st.runtime.device = retried
  obtain ⟨action, device⟩ := retried
  intro hretried
  cases action with
  | exhausted =>
    simp only
    split
    · exact (hretried.trans (.arm _ _)).work
    · exact hretried.work
  | ignore => exact hretried.work
  | sendInitiation =>
    simp only
    split
    · rename_i hprep
      obtain ⟨hok, -⟩ | ⟨-, hpend, bytes, rfl⟩ := prepareHandshakeInitiation_cases hprep
      · cases hok
      · exact hretried.fill hcur bytes hpend nofun
    · rename_i hprep
      obtain ⟨-, rfl⟩ | ⟨hok, -⟩ := prepareHandshakeInitiation_cases hprep
      · exact hretried.work.step (.fail _ _ _ _)
      · cases hok
  | fatal => exact hretried.work.step (.fail _ _ _ _)

theorem expireSendKeepalive_work (hcur : live → st.Current event.peer) :
    Work c p event.peer live st (expireSendKeepalive c p st event) := by
  unfold expireSendKeepalive
  split
  · exact .refl _
  split
  · exact (startHandshakeOrFail_tried hcur _).sending.work
  split
  · rename_i hprep
    exact (prepareTransportDatagram_refused hcur hprep).sending.work.step (.fail _ _ _ _)
  · rename_i hprep
    obtain ⟨_, hok, -⟩ | ⟨-, hpend, device, bytes, hop, -, rfl⟩ :=
      prepareTransportDatagram_spec hprep
    · cases hok
    -- the flag and the timer come before the slot, which they do not touch
    have hflagged : Carried c p event.peer live st _ :=
      (Carried.operate hop).trans (.operate (.flag device false))
    simp only
    split
    · exact (hflagged.trans (.arm event.hook (keepaliveDeadline event.timerFacts))).fill hcur bytes
        hpend nofun
    · exact hflagged.fill hcur bytes hpend nofun

theorem expireNewHandshake_work (hcur : live → st.Current event.peer) :
    Work c p event.peer live st (expireNewHandshake c p st event) := by
  unfold expireNewHandshake
  split
  · exact (startHandshakeOrFail_tried hcur _).sending.work
  · exact .refl _

theorem expirePersistentKeepalive_work (hcur : live → st.Current event.peer) :
    Work c p event.peer live st (expirePersistentKeepalive c p st event) := by
  unfold expirePersistentKeepalive
  simp only
  split
  · exact .refl _
  split
  · exact (startHandshakeOrFail_tried hcur _).sending.work
  · exact (sendKeepaliveOrFail_tried hcur _).sending.work

end Expiry

/-! ## The handlers -/

/-- A datagram in the slot is one of a transport state. -/
def PeerRuntime.SlotSound (s : PeerRuntime) : Prop :=
  s.pendingDatagram.isSome = true → s.isInTransportState = true

/-- A handler leaves the peer alone, or the event is for the current activation and the handler
works after its entry, which is traffic too. -/
def Idles (c : Crypto) (p : Platform) (s : PeerRuntime) (event : PeerEvent) (st : HandlerState) :
    Prop :=
  st = ⟨s, []⟩ ∨ (s.isCurrentActivation event.identity.activationGeneration = true ∧
    ∃ entry, Entry c s event entry ∧ Traffic c p event.identity ⟨s, []⟩ entry ∧
      Work c p event.identity s.SlotSound entry st)

/-- A handler leaves the peer alone, or the event is for the current activation and the handler
sends something after it has staged what the event brings. -/
def Sends (c : Crypto) (p : Platform) (s : PeerRuntime) (event : PeerEvent) (st : HandlerState) :
    Prop :=
  st = ⟨s, []⟩ ∨ (s.isCurrentActivation event.identity.activationGeneration = true ∧
    ∃ queue, Entry c s event ⟨s.withQueue queue, []⟩ ∧
      Sending c p event.identity True ⟨s.withQueue queue, []⟩ st)

section Handlers

variable {kind : PendingDatagramKind}

theorem Sends.idles {event : PeerEvent} (h : Sends c p s event st) : Idles c p s event st := by
  obtain hsame | ⟨hcurrent, queue, hentry, hsending⟩ := h
  · exact .inl hsame
  · exact .inr ⟨hcurrent, _, hentry, .single (.queue _ queue False.elim),
      hsending.work.mono fun _ => trivial⟩

/-- A handler without an entry of its own. -/
theorem Idles.stay {event : PeerEvent}
    (hcurrent : s.isCurrentActivation event.identity.activationGeneration)
    (h : Work c p event.identity s.SlotSound ⟨s, []⟩ st) : Idles c p s event st :=
  .inr ⟨hcurrent, _, .stay event, .refl _, h⟩

/-- A datagram changes something in the activation it is for only, in a transport state and with a
protocol peer. -/
theorem handleEncryptedDatagram_current (event : EncryptedDatagramReceivedEvent) :
    s.handleEncryptedDatagram c p event = ⟨s, []⟩ ∨
      (s.isCurrentActivation event.peer.activationGeneration ∧
        s.isInTransportState ∧ s.hasProtocolPeer) := by
  unfold handleEncryptedDatagram
  split
  · exact .inl rfl
  · rename_i hchecks
    simp only [not_or, Bool.not_eq_false] at hchecks
    exact .inr ⟨hchecks.1, hchecks.2.1, hchecks.2.2.1⟩

theorem handleEncryptedDatagram_idles (event : EncryptedDatagramReceivedEvent) :
    Idles c p s (.encryptedDatagramReceived event) (s.handleEncryptedDatagram c p event) := by
  obtain hsame | ⟨hcurrent, htrans, -⟩ := handleEncryptedDatagram_current event
  · exact .inl hsame
  · exact .stay hcurrent ((handleEncryptedDatagram_received event).work
      fun _ => ⟨htrans, eq_of_isCurrentActivation hcurrent⟩)

theorem handleTransportFailure_idles (event : TransportFailureEvent) :
    Idles c p s (.transportFailure event) (s.handleTransportFailure event) := by
  unfold handleTransportFailure
  split
  · exact .inl rfl
  rename_i hchecks
  simp only [not_or, Bool.not_eq_false] at hchecks
  simp only
  split
  · exact .inl rfl
  · exact .stay hchecks.1 (.single (.fail _ _ _ _))

theorem isCurrentActivation_of_isCurrentExpiry {event : ProtocolTimerExpiredEvent}
    (h : s.isCurrentExpiry event) : s.isCurrentActivation event.peer.activationGeneration := by
  unfold isCurrentExpiry at h
  simp only [Bool.and_eq_true] at h
  exact h.1.1.1.1.1

theorem handleProtocolTimerExpired_idles (event : ProtocolTimerExpiredEvent) :
    Idles c p s (.protocolTimerExpired event) (s.handleProtocolTimerExpired c p event) := by
  unfold handleProtocolTimerExpired
  split
  · exact .inl rfl
  rename_i hcurrent
  rw [Bool.not_eq_false] at hcurrent
  have hact := isCurrentActivation_of_isCurrentExpiry hcurrent
  simp only
  have hcancel (hhook : event.hook ≠ .zeroKeyMaterial) : Work c p event.peer s.SlotSound ⟨s, []⟩
      (cancel ⟨s, []⟩ event.peer event.hook) :=
    (Carried.cancel hhook).work
  split
  · rename_i hsusp
    exact .stay hact (hcancel hsusp.2)
  split
  · rename_i htrans
    exact .stay hact (hcancel htrans.2)
  rename_i htrans
  -- every hook but the zeroing one is acted on in a transport state only
  have hcur (hhook : event.hook ≠ .zeroKeyMaterial) : s.SlotSound →
      Current event.peer (cancel ⟨s, []⟩ event.peer event.hook) := by
    refine fun _ => ⟨?_, eq_of_isCurrentActivation hact⟩
    by_contra hnot
    exact htrans ⟨Bool.eq_false_iff.mpr hnot, hhook⟩
  split
  · rename_i hhook
    have hother : event.hook ≠ .zeroKeyMaterial := by simp [hhook]
    exact .stay hact ((hcancel hother).trans (expireRetransmitHandshake_work (hcur hother)))
  · rename_i hhook
    have hother : event.hook ≠ .zeroKeyMaterial := by simp [hhook]
    exact .stay hact ((hcancel hother).trans (expireSendKeepalive_work (hcur hother)))
  · rename_i hhook
    have hother : event.hook ≠ .zeroKeyMaterial := by simp [hhook]
    exact .stay hact ((hcancel hother).trans (expireNewHandshake_work (hcur hother)))
  · rename_i hhook
    have hother : event.hook ≠ .zeroKeyMaterial := by simp [hhook]
    exact .stay hact ((hcancel hother).trans (expirePersistentKeepalive_work (hcur hother)))
  · rename_i hhook
    have hzero : Traffic c p event.peer ⟨s, []⟩ _ := .single (.zero ⟨s, []⟩ id)
    rw [← hhook] at hzero
    exact .inr ⟨hact, _, .zeroed event hcurrent hhook, hzero, .refl _⟩

/-- Staging one packet: refused on a full queue, appended otherwise. -/
theorem pushStaged_cases (s : PeerRuntime) (record : InnerPacketRecord) :
    (s.device.peer.stagedOutboundPackets.count = peerStagedPacketCapacity ∧
        s.pushStaged record = none) ∨
      ∃ queue, s.device.peer.stagedOutboundPackets.count ≠ peerStagedPacketCapacity ∧
        s.pushStaged record = some (s.withPeer { s.device.peer with
          stagedOutboundPackets := queue }) ∧
        queue.toList = s.device.peer.stagedOutboundPackets.toList ++ [record] ∧
        queue.retired = s.device.peer.stagedOutboundPackets.retired := by
  unfold pushStaged
  by_cases hfull : s.device.peer.stagedOutboundPackets.count = peerStagedPacketCapacity
  · obtain ⟨hresult, -⟩ := InnerPacketQueue.push_of_eq _ record hfull
    left
    generalize s.device.peer.stagedOutboundPackets.push record = pushed at hresult
    obtain ⟨result, queue⟩ := pushed
    cases hresult
    exact ⟨hfull, rfl⟩
  · obtain ⟨hresult, hlist, hretired⟩ := InnerPacketQueue.push_of_ne _ record hfull
    right
    generalize s.device.peer.stagedOutboundPackets.push record = pushed at hresult hlist hretired
    obtain ⟨result, queue⟩ := pushed
    cases hresult
    exact ⟨queue, hfull, rfl, hlist, hretired⟩

/-- Staging a batch appends its packets and changes nothing else. -/
theorem pushBatch_spec {packets : List (List UInt8 × UInt64)} {after : PeerRuntime}
    (h : pushBatch identity packets s = some after) :
    ∃ queue, after = s.withPeer { s.device.peer with stagedOutboundPackets := queue } ∧
      queue.toList = s.device.peer.stagedOutboundPackets.toList ++
        packets.map (fun packet => stagingRecord identity packet.1 packet.2) ∧
      queue.retired = s.device.peer.stagedOutboundPackets.retired := by
  induction packets generalizing s with
  | nil =>
    cases h
    exact ⟨_, rfl, by rw [map_nil, append_nil], rfl⟩
  | cons packet packets ih =>
    unfold pushBatch at h
    obtain ⟨-, hnone⟩ | ⟨queue, -, hsome, hlist, hretired⟩ :=
      pushStaged_cases s (stagingRecord identity packet.1 packet.2)
    · rw [hnone] at h; cases h
    · rw [hsome] at h
      obtain ⟨final, rfl, hfinal, hfinalRetired⟩ := ih h
      refine ⟨final, rfl, ?_, hfinalRetired.trans hretired⟩
      rw [hfinal, map_cons, append_cons]
      congr 1

theorem handleInnerPacketStaged_sends (event : InnerPacketStagedEvent) :
    Sends c p s (.innerPacketStaged event) (s.handleInnerPacketStaged c p event) := by
  unfold handleInnerPacketStaged
  split
  · exact .inl rfl
  rename_i hchecks
  simp only [not_or, Bool.not_eq_false] at hchecks
  simp only
  split
  · rename_i hfull
    exact .inr ⟨hchecks.1, _, .refused event _ hfull, .refl⟩
  · rename_i after hpush
    have hbatch : pushBatch event.peer [(event.packet, event.packetId)] s =
        some after := by
      simp only [pushBatch, hpush]
    have hentry : Entry c s (.innerPacketStaged event) ⟨after, []⟩ :=
      .staged _ after (by simp [PeerEvent.staging]) hchecks.1 hchecks.2.2.1 hbatch
    obtain ⟨queue, rfl, -⟩ := pushBatch_spec hbatch
    refine .inr ⟨hchecks.1, queue, hentry, ?_⟩
    split
    · exact (processOutboundQueue_sending _ fun _ => eq_of_isCurrentActivation hchecks.1).1
    · exact .refl

theorem handleInnerPacketBatchStaged_sends {event : InnerPacketBatchStagedEvent}
    (h : s.handleInnerPacketBatchStaged c p event = some st) :
    Sends c p s (.innerPacketBatchStaged event) st := by
  unfold handleInnerPacketBatchStaged at h
  split at h
  · cases h; exact .inl rfl
  rename_i hchecks
  simp only [not_or, Bool.not_eq_false] at hchecks
  split at h
  · cases h; exact .inl rfl
  split at h
  · cases h
  rename_i after hbatch
  have hentry : Entry c s (.innerPacketBatchStaged event) ⟨after, []⟩ :=
    .staged _ after hchecks.2.2.2.1 hchecks.1 hchecks.2.2.1 hbatch
  obtain ⟨queue, rfl, -⟩ := pushBatch_spec hbatch
  split at h
  · cases h
    exact .inr ⟨hchecks.1, queue, hentry,
      (processOutboundQueue_sending _ fun _ => eq_of_isCurrentActivation hchecks.1).1⟩
  · cases h
    exact .inr ⟨hchecks.1, queue, hentry, .refl⟩

theorem handleProcessOutboundQueue_sends (event : ProcessOutboundQueueEvent) :
    Sends c p s (.processOutboundQueue event) (s.handleProcessOutboundQueue c p event) := by
  unfold handleProcessOutboundQueue
  split
  · rename_i hact
    exact .inr ⟨hact, s.device.peer.stagedOutboundPackets, .stay _,
      (processOutboundQueue_sending _ fun _ => eq_of_isCurrentActivation hact).1⟩
  · exact .inl rfl

/-- The effects of a packet that was sent, which leave the peer alone. -/
theorem onAuthenticatedPacketTraversal_effects (st : HandlerState) (identity : PeerIdentity)
    (facts : TimerFacts) :
    ∃ effects : List RuntimeEffect, (∀ effect ∈ effects, effect.IsTraffic identity) ∧
      (st.onAuthenticatedPacketTraversal identity facts).onAuthenticatedPacketSent identity =
        { st with effects := st.effects ++ effects } := by
  unfold onAuthenticatedPacketTraversal onAuthenticatedPacketSent
    cancel arm add
  split
  · refine ⟨[_, _], ?_, by rw [append_assoc]; rfl⟩
    simp [RuntimeEffect.IsTraffic]
  · refine ⟨[_], ?_, rfl⟩
    simp [RuntimeEffect.IsTraffic]

theorem Carried.emits (effects : List RuntimeEffect)
    (h : ∀ effect ∈ effects, effect.IsTraffic identity) :
    Carried c p identity live st { st with effects := st.effects ++ effects } := by
  induction effects generalizing st with
  | nil => rw [append_nil]; exact .refl
  | cons effect effects ih =>
    have hfirst : Carried c p identity live st (st.add effect) :=
      .emit effect (h effect mem_cons_self)
    have hrest := hfirst.trans (ih fun e he => h e (mem_cons_of_mem _ he))
    simpa [add] using hrest

theorem completed_of_not (disposition : QueueDisposition)
    (h : ¬ (kind = .transportData ∧ s.hasProtocolPeer)) :
    s.completed kind disposition = { s with pendingDatagram := none } := by
  unfold completed
  rw [if_neg h]

private theorem completeSent_work {event : PendingDatagramSentEvent}
    (hcur : live → Current event.peer ⟨s, []⟩) :
    Work c p event.peer live ⟨s.completed kind .sent, []⟩
      (completeSent c p ⟨{ s with pendingDatagram := none }, []⟩ event kind) := by
  unfold completeSent
  simp only
  obtain ⟨effects, hsend, heff⟩ := onAuthenticatedPacketTraversal_effects
    ⟨{ s with pendingDatagram := none }.recordTransmittedBytes event.bytesSent event.occurredAt, []⟩
    event.peer event.timerFacts
  rw [heff]
  -- bytes and effects are noted on whatever peer the completion left
  have hnoted (s₀ : PeerRuntime) : Carried c p event.peer live ⟨s₀, []⟩
      ⟨s₀.recordTransmittedBytes event.bytesSent event.occurredAt, [] ++ effects⟩ := by
    have hrecorded : Carried c p event.peer live ⟨s₀, []⟩
        ⟨s₀.recordTransmittedBytes event.bytesSent event.occurredAt, []⟩ :=
      .note rfl rfl rfl rfl
    exact hrecorded.trans (.emits effects hsend)
  cases kind with
  | handshakeInitiation =>
    rw [completed_of_not _ (by simp)]
    have harmed := (hnoted { s with pendingDatagram := none }).trans
      (.arm .retransmitHandshake (handshakeRetryDeadline event.timerFacts))
    simp only
    split
    · exact harmed.work.step (.listen _)
    · exact harmed.work
  | handshakeResponse =>
    rw [completed_of_not _ (by simp)]
    exact (hnoted _).work
  | transportData =>
    simp only
    split
    · rename_i hpeer
      have hpopped := hnoted (s.completed .transportData .sent)
      unfold completed at hpopped ⊢
      rw [if_pos ⟨rfl, hpeer⟩] at hpopped ⊢
      have hsubmitted := (hpopped.trans (onDataPacketSent_carried event.timerFacts)).trans
        (.emit (.queueInnerPacketSubmission event.peer) rfl)
      refine hsubmitted.work.trans (refreshKeyFreshness_tried (fun hlive => ?_) _).sending.work
      exact hsubmitted.current ⟨(hcur hlive).transport, (hcur hlive).activation⟩
    · rename_i hpeer
      have hnot : ¬ (PendingDatagramKind.transportData = .transportData ∧
          s.hasProtocolPeer) := fun h => hpeer h.2
      rw [completed_of_not _ hnot]
      exact (hnoted _).work
  | keepalive =>
    rw [completed_of_not _ (by simp)]
    have hcarried := hnoted { s with pendingDatagram := none }
    refine hcarried.work.trans (refreshKeyFreshness_tried (fun hlive => ?_) _).sending.work
    exact hcarried.current ⟨(hcur hlive).transport, (hcur hlive).activation⟩

/-- A local send failure is never terminal. -/
theorem handleTransportFailure_sendFailed (s : PeerRuntime) (identity : PeerIdentity)
    (socket : SocketHandle) (generation : UInt32) (now : Ktime) :
    s.handleTransportFailure ⟨identity, socket, generation, .sendFailed, now⟩ = ⟨s, []⟩ := by
  unfold handleTransportFailure
  split
  · rfl
  · rfl

/-- A failed send frees the slot; then it asks for a retransmission, does nothing, or ends the
activation. -/
theorem completeFailed_eq (event : PendingDatagramSentEvent) (kind : PendingDatagramKind) :
    completeFailed ⟨{ s with pendingDatagram := none }, []⟩ event kind =
      if event.error = .sendFailed then
        if kind = .handshakeInitiation then
          arm ⟨s.completed kind .sendFailed, []⟩ event.peer .retransmitHandshake
            (handshakeRetryDeadline event.timerFacts)
        else ⟨s.completed kind .sendFailed, []⟩
      else enterActivationError ⟨s.completed kind .sendFailed, []⟩ .transport
        .transportSendFailed event.occurredAt := by
  have hdropped : (if kind = .transportData ∧
        hasProtocolPeer { s with pendingDatagram := none } = true then
      (⟨withPeer { s with pendingDatagram := none }
        (applyStagedSendOutcome s.device.peer .transportDropped).2, []⟩ : HandlerState)
      else ⟨{ s with pendingDatagram := none }, []⟩) = ⟨s.completed kind .sendFailed, []⟩ := by
    unfold completed
    by_cases hdata : kind = .transportData ∧ s.hasProtocolPeer
    · rw [if_pos hdata, if_pos (show kind = .transportData ∧
        hasProtocolPeer { s with pendingDatagram := none } = true from hdata)]
      rfl
    · rw [if_neg hdata, if_neg (show ¬ (kind = .transportData ∧
        hasProtocolPeer { s with pendingDatagram := none } = true) from hdata)]
  unfold completeFailed
  simp only
  rw [hdropped]
  by_cases herror : event.error = .sendFailed
  · rw [if_pos herror, if_pos herror, herror, handleTransportFailure_sendFailed]
    rfl
  · rw [if_neg herror, if_neg herror]

private theorem completeFailed_work {event : PendingDatagramSentEvent} :
    Work c p event.peer live ⟨s.completed kind .sendFailed, []⟩
      (completeFailed ⟨{ s with pendingDatagram := none }, []⟩ event kind) := by
  rw [completeFailed_eq]
  split
  · split
    · exact (Carried.arm _ _).work
    · exact .refl _
  · exact .single (.fail _ _ _ _)

/-- The slot is freed, and the packet that was in it leaves the queue. -/
theorem completed_traffic {disposition : QueueDisposition} :
    Traffic c p identity ⟨s, []⟩ ⟨s.completed kind disposition, []⟩ := by
  have hfreed : Traffic c p identity ⟨s, []⟩ ⟨{ s with pendingDatagram := none }, []⟩ :=
    .single (.free _ id)
  unfold completed
  split
  · exact hfreed.step (.queue _ _ False.elim)
  · exact hfreed

theorem handlePendingDatagramSent_idles (event : PendingDatagramSentEvent) :
    Idles c p s (.pendingDatagramSent event) (s.handlePendingDatagramSent c p event) := by
  unfold handlePendingDatagramSent
  split
  · exact .inl rfl
  rename_i pending hpend
  split
  · exact .inl rfl
  rename_i hchecks
  simp only [not_or, Bool.not_eq_false, Decidable.not_not] at hchecks
  have hentry := Entry.completed (c := c) event pending hpend hchecks.1 hchecks.2
  refine .inr ⟨hchecks.1, _, hentry, completed_traffic, ?_⟩
  simp only
  split
  · refine completeSent_work fun hslot => ⟨hslot ?_, eq_of_isCurrentActivation hchecks.1⟩
    rw [hpend]
    rfl
  · exact completeFailed_work

end Handlers

end WireguardNx.Runtime
