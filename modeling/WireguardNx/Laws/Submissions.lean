import WireguardNx.Laws.PeerMachine

/-!
# Staged packets that nothing will send

A packet that is staged while a datagram is in flight stays in the queue.  What sends it later is a
`QueueInnerPacketSubmission` effect, handled as a `ProcessOutboundQueue` event, or the end of the
handshake that is being retried.  A peer is `stuck` if it could send the head of its queue now and
no handshake is being retried; then a submission has to be outstanding.

Most handlers do not leave a peer stuck that was not: what they try ends with the slot taken, with a
handshake running or in the error state.  The completion of a send is the exception.  It submits
the rest of the queue after a staged packet was sent, and not after any other datagram.
-/

namespace WireguardNx.Runtime

open Wireguard PeerRuntime HandlerState List

variable {c : Crypto} {p : Platform} {s : PeerRuntime}

/-! ## Stuck peers -/

def PeerRuntime.isCurrentPacket (s : PeerRuntime) (packet : InnerPacketRecord) : Bool :=
  s.isCurrentActivation packet.activationGeneration

/-- The peer could send: it is active with an open, unsuspended binding. -/
def PeerRuntime.isUp (s : PeerRuntime) : Bool :=
  decide (s.lifecycle.state = .active) && s.binding.isOpen && !s.binding.suspended

/-- The slot is free and a packet of the current activation is at the head of the queue. -/
def PeerRuntime.isWaiting (s : PeerRuntime) : Bool :=
  s.isUp && s.pendingDatagram.isNone &&
    s.device.peer.stagedOutboundPackets.toList.head?.any s.isCurrentPacket

/-- A packet is waiting and no handshake is being retried. -/
def PeerRuntime.stuck (s : PeerRuntime) : Bool :=
  s.isWaiting && !s.device.peer.handshakeRetry.active

/-- The part of a peer that decides whether it is stuck. -/
def PeerRuntime.stuckView (s : PeerRuntime) :
    PeerRuntimeState × UInt32 × SocketHandle × Bool × Option PendingDatagram ×
      List InnerPacketRecord × HandshakeRetryState :=
  (s.lifecycle.state, s.lifecycle.activationGeneration, s.binding.socket, s.binding.suspended,
    s.pendingDatagram, s.device.peer.stagedOutboundPackets.toList, s.device.peer.handshakeRetry)

theorem stuck_of_view {t : PeerRuntime} (h : t.stuckView = s.stuckView) : t.stuck = s.stuck := by
  simp only [stuckView, Prod.mk.injEq] at h
  obtain ⟨hstate, hact, hsocket, hsusp, hpend, hqueue, hretry⟩ := h
  have hcurrent : t.isCurrentPacket = s.isCurrentPacket := by
    funext packet
    simp only [isCurrentPacket, isCurrentActivation, hact]
  simp only [stuck, isWaiting, isUp, UdpBinding.isOpen, hstate,
    hsocket, hsusp, hpend, hqueue, hretry, hcurrent]

theorem not_stuck_of_state (h : s.lifecycle.state ≠ .active) : s.stuck = false := by
  simp [stuck, isWaiting, isUp, h]

private theorem not_stuck_of_closed (h : s.binding.isOpen = false) : s.stuck = false := by
  simp [stuck, isWaiting, isUp, h]

theorem not_stuck_of_suspended (h : s.binding.suspended) : s.stuck = false := by
  simp [stuck, isWaiting, isUp, h]

theorem not_stuck_of_pending (h : s.pendingDatagram.isSome) : s.stuck = false := by
  have hnone : s.pendingDatagram.isNone = false := by
    rw [Option.isNone_eq_false_iff]; exact h
  simp [stuck, isWaiting, hnone]

theorem not_stuck_of_retry (h : s.device.peer.handshakeRetry.active) : s.stuck = false := by
  simp [stuck, h]

theorem not_stuck_of_empty (h : s.device.peer.stagedOutboundPackets.toList = []) :
    s.stuck = false := by
  simp [stuck, isWaiting, h]

theorem enterActivationError_not_stuck (st : HandlerState) (stage : PeerErrorStage)
    (code : PeerErrorCode) (now : Ktime) :
    (st.enterActivationError stage code now).runtime.stuck = false := by
  refine not_stuck_of_state ?_
  rw [enterActivationError_eq]
  exact nofun

/-! ## What is tried does not leave the peer stuck -/

section Attempts

variable (st : HandlerState) (identity : PeerIdentity) (now : Ktime)

/-- What an attempt to send comes to: the peer has failed, a datagram took the slot, or nothing was
done because a handshake is running already. -/
def HandlerState.Attempts (st after : HandlerState) : Prop :=
  after.runtime.lifecycle.state = .error ∨ after.runtime.pendingDatagram.isSome = true ∨
    (after = st ∧ st.runtime.device.peer.handshakeRetry.active = true ∧
      (st.runtime.device.peer.timers.hooks .retransmitHandshake).pending = true)

theorem HandlerState.Attempts.not_stuck {st after : HandlerState} (h : st.Attempts after) :
    after.runtime.stuck = false := by
  obtain herror | hpend | ⟨rfl, hretry, -⟩ := h
  · exact not_stuck_of_state (by rw [herror]; exact nofun)
  · exact not_stuck_of_pending hpend
  · exact not_stuck_of_retry hretry

theorem enterActivationError_attempts {mid : HandlerState} {stage : PeerErrorStage}
    {code : PeerErrorCode} : st.Attempts (mid.enterActivationError stage code now) :=
  .inl (by rw [enterActivationError_eq])

theorem prepareHandshakeInitiation_pending {kind : PendingDatagramKind} {after : PeerRuntime}
    (h : s.prepareHandshakeInitiation kind = (true, after)) : after.pendingDatagram.isSome := by
  obtain ⟨hok, -⟩ | ⟨-, -, bytes, rfl⟩ := prepareHandshakeInitiation_cases h
  · cases hok
  · rfl

/-- A handshake that starts is running already, or its initiation took the slot. -/
theorem startHandshake_started {after : HandlerState}
    (h : st.startHandshake c p identity = (true, after)) :
    (after = st ∧ st.runtime.device.peer.handshakeRetry.active ∧
        (st.runtime.device.peer.timers.hooks .retransmitHandshake).pending) ∨
      after.runtime.pendingDatagram.isSome := by
  unfold HandlerState.startHandshake at h
  simp only at h
  split at h
  · cases h
  generalize hdev : startHandshake c p st.runtime.device = started at h
  obtain ⟨action, device⟩ := started
  cases action with
  | ignore =>
    cases h
    unfold Wireguard.startHandshake at hdev
    split at hdev
    · rename_i hrunning
      cases hdev
      exact .inl ⟨rfl, hrunning⟩
    · unfold prepareFreshInitiation at hdev
      split at hdev
      · cases hdev
      · cases hdev
  | sendInitiation =>
    simp only [sendInitiation] at h
    split at h
    · cases h
    · rename_i hprep
      cases h
      exact .inr (prepareHandshakeInitiation_pending hprep)
  | exhausted | fatal => cases h

theorem startHandshakeOrFail_attempts : st.Attempts (st.startHandshakeOrFail c p identity now) := by
  unfold startHandshakeOrFail
  split
  · rename_i after hstart
    exact .inr (startHandshake_started st identity hstart).symm
  · exact enterActivationError_attempts _ _

theorem prepareTransportDatagram_pending {payload : List UInt8} {kind : PendingDatagramKind}
    {packetId : UInt64} {after : PeerRuntime}
    (h : s.prepareTransportDatagram c p payload kind packetId = (.ok (), after)) :
    after.pendingDatagram.isSome := by
  unfold prepareTransportDatagram at h
  split at h
  · cases h
  simp only at h
  split at h
  · cases h
  · cases h; rfl

private theorem sendKeepaliveOrFail_pending :
    (st.sendKeepaliveOrFail c p identity now).runtime.lifecycle.state = .error ∨
      (st.sendKeepaliveOrFail c p identity now).runtime.pendingDatagram.isSome := by
  unfold sendKeepaliveOrFail
  split
  · exact .inl (by rw [enterActivationError_eq])
  · rename_i hprep
    exact .inr (prepareTransportDatagram_pending hprep)

theorem sendKeepaliveOrFail_attempts {first : HandlerState} :
    first.Attempts (st.sendKeepaliveOrFail c p identity now) :=
  (sendKeepaliveOrFail_pending st identity now).imp_right .inl

private theorem sendStaged_not_stuck {front : InnerPacketRecord}
    (hfront : st.runtime.device.peer.stagedOutboundPackets.front = some front) :
    (st.sendStaged c p identity now front).runtime.stuck = false := by
  unfold sendStaged
  split
  · exact (startHandshakeOrFail_attempts _ _ _).not_stuck
  · -- an empty queue has no head
    rename_i hidle
    unfold WgPeer.getOutboundStagingAction at hidle
    split at hidle
    · rename_i hcount
      rw [InnerPacketQueue.front, if_pos hcount] at hfront
      cases hfront
    split at hidle
    · cases hidle
    · cases hidle
  · split
    · rename_i hprep
      exact not_stuck_of_pending (prepareTransportDatagram_pending hprep)
    · rw [applyStagedSendOutcome_buildFailed]
      simp only
      split
      · exact (startHandshakeOrFail_attempts _ _ _).not_stuck
      · exact enterActivationError_not_stuck _ _ _ _
      · rename_i haction
        split at haction
        · cases haction
        · cases haction

variable {st identity}

private theorem processOutboundLoop_not_stuck {rounds : Nat}
    (hrounds : st.runtime.device.peer.stagedOutboundPackets.count ≤ rounds) :
    (processOutboundLoop c p identity now rounds st).runtime.stuck = false := by
  induction rounds generalizing st with
  | zero =>
    refine not_stuck_of_empty (length_eq_zero_iff.mp ?_)
    rw [InnerPacketQueue.length_toList]
    exact Nat.le_zero.mp hrounds
  | succ rounds ih =>
    unfold processOutboundLoop
    simp only
    split
    · rename_i hfront
      rw [InnerPacketQueue.front_eq, head?_eq_none_iff] at hfront
      exact not_stuck_of_empty hfront
    · rename_i front hfront
      have hdrop (disposition : QueueDisposition) :
          (st.dropStaged disposition).runtime.device.peer.stagedOutboundPackets.count ≤ rounds := by
        rw [InnerPacketQueue.front_eq] at hfront
        obtain ⟨rest, hlist⟩ := head?_eq_some_iff.mp hfront
        have htail := (InnerPacketQueue.pop_spec
          st.runtime.device.peer.stagedOutboundPackets disposition).1
        rw [hlist] at htail
        rw [← InnerPacketQueue.length_toList] at hrounds ⊢
        rw [hlist, length_cons] at hrounds
        have hlen := congrArg length htail
        simp only [tail_cons] at hlen
        exact (Nat.le_of_eq hlen).trans (Nat.le_of_succ_le_succ hrounds)
      split
      · exact ih (hdrop .stale)
      split
      · rename_i hstate
        exact not_stuck_of_state (by rw [hstate]; exact nofun)
      split
      · rename_i hbinding
        obtain hclosed | hsusp := hbinding
        · exact not_stuck_of_closed hclosed
        · exact not_stuck_of_suspended hsusp
      split
      · exact ih (hdrop .unavailable)
      · exact sendStaged_not_stuck _ _ _ hfront

/-- Draining the queue leaves no peer stuck that has a protocol. -/
theorem processOutboundQueue_not_stuck
    (hpeer : st.runtime.isInTransportState → st.runtime.hasProtocolPeer) :
    (st.processOutboundQueue c p identity now).runtime.stuck = false := by
  unfold processOutboundQueue
  split
  · rename_i hskip
    obtain hnone | hpend := hskip
    · refine not_stuck_of_state fun hactive => ?_
      have htrans : st.runtime.isInTransportState := by
        simp [isInTransportState, hactive]
      rw [hpeer htrans] at hnone
      cases hnone
    · exact not_stuck_of_pending hpend
  · exact processOutboundLoop_not_stuck now (Nat.le_refl _)

/-- A transport that is recovered sends something, unless a handshake is running already. -/
theorem recoverTransport_attempts (hpeer : st.runtime.hasProtocolPeer) :
    st.Attempts (st.recoverTransport c p identity now) := by
  unfold recoverTransport
  split
  · rename_i hskip
    obtain hpend | hnone := hskip
    · exact .inr (.inl hpend)
    · exact Bool.noConfusion (hnone.symm.trans hpeer)
  split
  · simp only
    generalize (if st.runtime.stagedInnerPacketCount ≠ 0 then
      st.processOutboundQueue c p identity now else st) = drained
    split
    · rename_i hpend
      exact .inr (.inl hpend)
    · exact sendKeepaliveOrFail_attempts _ _ _
  · exact startHandshakeOrFail_attempts _ _ _

end Attempts

/-! ## Calm parts of handlers -/

/-- A submission for the current activation is among the effects. -/
def HandlerState.Submits (st : HandlerState) : Prop :=
  ∃ identity, .queueInnerPacketSubmission identity ∈ st.effects ∧
    identity.activationGeneration = st.runtime.lifecycle.activationGeneration

/-- The peer is stuck afterwards only if it was before, in the same activation. -/
def HandlerState.Calm (st after : HandlerState) : Prop :=
  after.runtime.stuck = true → st.runtime.stuck = true ∧
    after.runtime.lifecycle.activationGeneration = st.runtime.lifecycle.activationGeneration

/-- The peer is stuck afterwards only if it was before, or with a submission. -/
def HandlerState.Wakes (st after : HandlerState) : Prop :=
  after.runtime.stuck = true → after.Submits ∨ (st.runtime.stuck = true ∧
    after.runtime.lifecycle.activationGeneration = st.runtime.lifecycle.activationGeneration)

namespace HandlerState

variable {st mid after : HandlerState}

theorem Calm.refl (st : HandlerState) : st.Calm st := fun h => ⟨h, rfl⟩

theorem Calm.of_view (h : after.runtime.stuckView = st.runtime.stuckView) : st.Calm after := by
  intro hstuck
  rw [stuck_of_view h] at hstuck
  simp only [stuckView, Prod.mk.injEq] at h
  exact ⟨hstuck, h.2.1⟩

theorem Calm.of_not_stuck (h : after.runtime.stuck = false) : st.Calm after := by
  intro hstuck
  rw [h] at hstuck
  cases hstuck

theorem Calm.trans (h₁ : st.Calm mid) (h₂ : mid.Calm after) : st.Calm after := by
  intro hstuck
  obtain ⟨hmid, hact⟩ := h₂ hstuck
  obtain ⟨hst, hfirst⟩ := h₁ hmid
  exact ⟨hst, hact.trans hfirst⟩

theorem Calm.wakes (h : st.Calm after) : st.Wakes after := fun hstuck => .inr (h hstuck)

theorem Calm.trans_wakes (h₁ : st.Calm mid) (h₂ : mid.Wakes after) : st.Wakes after := by
  intro hstuck
  obtain hsubmits | ⟨hmid, hact⟩ := h₂ hstuck
  · exact .inl hsubmits
  · obtain ⟨hst, hfirst⟩ := h₁ hmid
    exact .inr ⟨hst, hact.trans hfirst⟩

/-- A submission for the activation a handler works for. -/
theorem Submits.of_add {identity : PeerIdentity}
    (h : identity.activationGeneration = st.runtime.lifecycle.activationGeneration) :
    (st.add (.queueInnerPacketSubmission identity)).Submits :=
  ⟨identity, mem_append_right _ mem_cons_self, h⟩

end HandlerState

variable {identity : PeerIdentity} {st after : HandlerState}

theorem Move.activation (h : Move c identity st after) :
    after.runtime.lifecycle.activationGeneration = st.runtime.lifecycle.activationGeneration := by
  cases h with
  | note s hsame => exact hsame.activation
  | fail stage code now => rw [enterActivationError_eq]
  | _ => rfl

theorem Moves.activation (h : Moves c identity st after) :
    after.runtime.lifecycle.activationGeneration = st.runtime.lifecycle.activationGeneration := by
  induction h with
  | refl => rfl
  | tail _ hmove ih => exact hmove.activation.trans ih

theorem Carried.activation (h : Carried c p identity True st after) :
    after.runtime.lifecycle.activationGeneration = st.runtime.lifecycle.activationGeneration :=
  (h.work.moves trivial).activation

theorem view_of_setup {t : PeerRuntime} (hsetup : t.setup = s.setup)
    (hstate : t.lifecycle.state = s.lifecycle.state)
    (hpend : t.pendingDatagram = s.pendingDatagram)
    (hqueue : t.device.peer.stagedOutboundPackets = s.device.peer.stagedOutboundPackets)
    (hretry : t.device.peer.handshakeRetry = s.device.peer.handshakeRetry) :
    t.stuckView = s.stuckView := by
  unfold stuckView
  rw [hstate, hpend, hqueue, hretry]
  exact congrArg (fun u : Setup => (s.lifecycle.state, u.activationGeneration, u.socket, u.suspended,
    s.pendingDatagram, s.device.peer.stagedOutboundPackets.toList, s.device.peer.handshakeRetry))
    hsetup

theorem refreshKeyFreshness_cases (st : HandlerState) (identity : PeerIdentity) (now : Ktime) :
    (st.refreshKeyFreshness c p identity now = st ∧
        (st.runtime.hasProtocolPeer = false ∨
          st.runtime.device.peer.currentKeypair.needsRekeyAt (p.clock .refresh) = false ∨
          st.runtime.pendingDatagram.isSome ∨
          st.runtime.device.peer.handshakeRetry.active)) ∨
      (st.refreshKeyFreshness c p identity now).runtime.stuck = false := by
  unfold refreshKeyFreshness
  simp only
  split
  · rename_i hidle
    exact .inl ⟨rfl, hidle⟩
  · exact .inr (startHandshakeOrFail_attempts _ _ _).not_stuck

private theorem refreshKeyFreshness_calm {st : HandlerState} {now : Ktime} :
    st.Calm (st.refreshKeyFreshness c p identity now) := by
  obtain ⟨hsame, -⟩ | hnot := refreshKeyFreshness_cases (c := c) (p := p) st identity now
  · rw [hsame]; exact .refl st
  · exact .of_not_stuck hnot

/-! ## Received datagrams -/

section Received

variable {st : HandlerState} {event : EncryptedDatagramReceivedEvent}

/-- An authenticated packet changes nothing that decides whether the peer is stuck. -/
theorem authenticate_view {st : HandlerState} {event : EncryptedDatagramReceivedEvent} :
    (st.authenticate event).runtime.stuckView = st.runtime.stuckView := by
  rw [authenticate_runtime]
  obtain ⟨hsetup, hwork, hstate, -⟩ := recordAuthenticated_spec st.runtime event
  simp only [work, Prod.mk.injEq] at hwork
  exact view_of_setup hsetup hstate hwork.2.1 (by rw [hwork.1]) (by rw [hwork.1])

theorem publishPayload_spec {st : HandlerState} {event : EncryptedDatagramReceivedEvent}
    {payload : List UInt8} :
    (st.publishPayload event payload).runtime.stuckView = st.runtime.stuckView ∧
      st.effects ⊆ (st.publishPayload event payload).effects := by
  have hreceived : (st.onDataPacketReceived event.peer event.timerFacts).runtime.stuckView =
      st.runtime.stuckView ∧
        st.effects ⊆ (st.onDataPacketReceived event.peer event.timerFacts).effects := by
    unfold onDataPacketReceived
    simp only
    split
    · exact ⟨rfl, Subset.refl _⟩
    split
    · exact ⟨rfl, Subset.refl _⟩
    · exact ⟨rfl, subset_append_left _ _⟩
  unfold publishPayload
  simp only
  split
  · exact hreceived
  · exact ⟨hreceived.1, Subset.trans hreceived.2 (subset_append_left _ _)⟩

private theorem publishPayload_submits {payload : List UInt8} (h : st.Submits) :
    (st.publishPayload event payload).Submits := by
  obtain ⟨identity, hmem, hact⟩ := h
  obtain ⟨hview, heff⟩ := publishPayload_spec
  simp only [stuckView, Prod.mk.injEq] at hview
  exact ⟨identity, heff hmem, hact.trans hview.2.1.symm⟩

private theorem confirmPromoted_submits (hact : event.peer.activationGeneration =
    st.runtime.lifecycle.activationGeneration) : (st.confirmPromoted event).Submits := by
  have hsetup := (enterActiveOrNote_spec
    (st.runtime.withPeer (confirmResponderSession st.runtime.device.peer)) event).1
  exact .of_add (hact.trans (congrArg Setup.activationGeneration hsetup).symm)

private theorem deliver_wakes (hcur : st.Current event.peer) {data : IncomingTransportData} :
    st.Wakes (st.deliver c p event data) := by
  have hauthentic : Carried c p event.peer True st _ := authenticate_carried
  have hcur' := hauthentic.current hcur
  have htried := refreshKeyFreshness_tried (c := c) (p := p)
      (fun _ : True => hcur') event.occurredAt
  have hact := hcur'.activation.trans (htried.sending.work.moves trivial).activation.symm
  have hrefreshed : st.Calm ((st.authenticate event).refreshKeyFreshness c p event.peer
      event.occurredAt) :=
    (Calm.of_view authenticate_view).trans refreshKeyFreshness_calm
  unfold deliver
  simp only
  by_cases hpromoted : data.promotedNextKeypair
  · rw [if_pos hpromoted]
    have hsubmits := confirmPromoted_submits hact
    split
    · exact fun _ => .inl hsubmits
    · exact fun _ => .inl (publishPayload_submits hsubmits)
  · rw [if_neg hpromoted]
    split
    · exact hrefreshed.wakes
    · exact (hrefreshed.trans (.of_view publishPayload_spec.1)).wakes

/-- A session that is complete submits the queue, or sends a keepalive if there is none. -/
theorem openSession_wakes {st : HandlerState} (hact : event.peer.activationGeneration =
    st.runtime.lifecycle.activationGeneration) {first : HandlerState} :
    first.Wakes (st.openSession c p event) := by
  unfold openSession
  split
  · exact fun _ => .inl (.of_add hact)
  · refine (Calm.of_not_stuck ?_).wakes
    exact (show first.Attempts _ from sendKeepaliveOrFail_attempts _ _ _).not_stuck

private theorem handleEncryptedDatagram_wakes :
    Wakes ⟨s, []⟩ (s.handleEncryptedDatagram c p event) := by
  obtain hsame | ⟨hcurrent, htrans, -⟩ := handleEncryptedDatagram_current (c := c) (p := p) event
  · rw [hsame]
    exact (Calm.refl _).wakes
  have hact := eq_of_isCurrentActivation hcurrent
  generalize hst : s.handleEncryptedDatagram c p event = st
  have hreceived : Received c p s event st := hst ▸ handleEncryptedDatagram_received event
  cases hreceived with
  | refused device after effects hlooked hsetup hwork hstate =>
    simp only [work, Prod.mk.injEq] at hwork
    refine (Calm.of_view (view_of_setup hsetup hstate hwork.2.1 ?_ ?_)).wakes
    · rw [hwork.1]; exact hlooked.queue
    · rw [hwork.1]; exact hlooked.retry
  | delivered device data hcons =>
    have hview : stuckView { s with decryptedPacket := .empty, device } = s.stuckView :=
      view_of_setup rfl rfl rfl (consumeIncomingTransportDataPacket_keeps hcons).peer.queue
        (consumeIncomingTransportDataPacket_retry hcons)
    exact (Calm.of_view hview).trans_wakes
      (deliver_wakes ⟨htrans, hact⟩)
  | established device derived hlooked hcompletes =>
    have hestablished : Carried c p event.peer True ⟨s, []⟩ _ :=
      hlooked.carried.trans (establish_carried (completeSession_derives hcompletes.derives))
    exact openSession_wakes (hact.trans hestablished.activation.symm)
  | unanswered device failed hlooked _ hretry hqueue =>
    have hview : stuckView { s with device := failed } = s.stuckView :=
      view_of_setup rfl rfl rfl (hqueue.trans hlooked.queue) (hretry.trans hlooked.retry)
    exact (Calm.of_view hview).wakes
  | answered => exact (Calm.of_not_stuck (not_stuck_of_pending rfl)).wakes

end Received

/-! ## Sockets and the local path -/

section Sockets

private theorem rejectSocket_view {event : UdpBindOpenedEvent} :
    (s.rejectSocket event).runtime.stuckView = s.stuckView := by
  unfold rejectSocket
  split
  · rfl
  · rfl

private theorem sendFirstInitiation_not_stuck {event : UdpBindOpenedEvent} :
    (s.sendFirstInitiation c p event).runtime.stuck = false := by
  unfold sendFirstInitiation
  simp only
  generalize (if s.hasProtocolPeer = true then startHandshake c p s.device
    else (.fatal, s.device)) = start
  split
  · exact enterActivationError_not_stuck _ _ _ _
  split
  · exact enterActivationError_not_stuck _ _ _ _
  · rename_i hprep
    exact not_stuck_of_pending (prepareHandshakeInitiation_pending hprep)

/-- No turn but traffic leaves a peer stuck that was not. -/
theorem Turn.calm (hs : s.Sound c) {event : PeerEvent} {st : HandlerState}
    (h : Turn c p s event st) (hother : event.isTraffic = false) : Calm ⟨s, []⟩ st := by
  have herror {st : HandlerState} {stage : PeerErrorStage} {code : PeerErrorCode} {now : Ktime} :
      Calm ⟨s, []⟩ (st.enterActivationError stage code now) :=
    .of_not_stuck (enterActivationError_not_stuck _ _ _ _)
  cases h with
  | idle | ignore => exact .refl _
  | traffic _ _ hevent => exact Bool.noConfusion (hother.symm.trans hevent)
  | refuse | unresolved | unopened | unkeyed => exact herror
  | activate => exact .of_not_stuck (not_stuck_of_state nofun)
  | deactivate event hcurrent =>
    refine .of_not_stuck (not_stuck_of_state ?_)
    rw [(handleDeactivationRequested_spec hcurrent).1.state]
    exact nofun
  | doubt | regain | resolve | rebind | bind => exact .of_view rfl
  | lose event =>
    rcases losePath_cases { s with pathAvailability := .unavailable } event.peer with
      ⟨-, heq⟩ | ⟨-, -, heq⟩
    · rw [heq]
      exact .of_view rfl
    · rw [heq]
      exact .of_not_stuck (not_stuck_of_suspended rfl)
  | stale event | drop event => exact .of_view rejectSocket_view
  | rebound event binding st _ _ htrans _ _ _ _ _ _ _ hrecovered =>
    rw [hrecovered]
    exact .of_not_stuck (recoverTransport_attempts _ (hs.transport_peer htrans)).not_stuck
  | bound event binding peer st _ _ _ _ _ _ _ _ _ _ _ _ hstart =>
    rw [hstart]
    exact .of_not_stuck sendFirstInitiation_not_stuck

private theorem handleTransportFailure_calm {event : TransportFailureEvent} :
    Calm ⟨s, []⟩ (s.handleTransportFailure event) := by
  unfold handleTransportFailure
  split
  · exact .refl _
  simp only
  split
  · exact .refl _
  · exact .of_not_stuck (enterActivationError_not_stuck _ _ _ _)

end Sockets

/-! ## Staged packets and timers -/

section Staging

/-- The queue is drained, or the peer is not active. -/
theorem drainStaged_not_stuck (hs : s.Sound c) {identity : PeerIdentity} {now : Ktime}
    {queue : InnerPacketQueue peerStagedPacketCapacity} :
    let after := s.withPeer { s.device.peer with stagedOutboundPackets := queue }
    (if after.isInTransportState then
        processOutboundQueue c p ⟨after, []⟩ identity now
      else ⟨after, []⟩).runtime.stuck = false := by
  intro after
  split
  · exact processOutboundQueue_not_stuck now (withQueue_sound hs queue).transport_peer
  · rename_i htrans
    refine not_stuck_of_state fun hactive => htrans ?_
    have hstate : after.lifecycle.state = .active := hactive
    simp [isInTransportState, hstate]

private theorem handleInnerPacketStaged_calm (hs : s.Sound c) {event : InnerPacketStagedEvent} :
    Calm ⟨s, []⟩ (s.handleInnerPacketStaged c p event) := by
  unfold handleInnerPacketStaged
  split
  · exact .refl _
  simp only
  obtain ⟨hfull, hnone⟩ | ⟨queue, hroom, hsome, -, -⟩ :=
    pushStaged_cases s (stagingRecord event.peer event.packet event.packetId)
  · -- a refused packet changes nothing but the statistics
    rw [hnone]
    refine .of_view ?_
    have hlist := (InnerPacketQueue.push_of_eq _ (stagingRecord event.peer event.packet
      event.packetId) hfull).2.1
    simp only [stuckView, refuseStaged, withPeer, hlist]
  · rw [hsome]
    exact .of_not_stuck (drainStaged_not_stuck hs)

private theorem handleInnerPacketBatchStaged_calm (hs : s.Sound c)
    {event : InnerPacketBatchStagedEvent}
    {st : HandlerState} (h : s.handleInnerPacketBatchStaged c p event = some st) :
    Calm ⟨s, []⟩ st := by
  unfold handleInnerPacketBatchStaged at h
  split at h
  · cases h; exact .refl _
  split at h
  · cases h; exact .refl _
  split at h
  · cases h
  · rename_i after hpush
    obtain ⟨queue, rfl, -⟩ := pushBatch_spec hpush
    rw [← apply_ite some, Option.some.injEq] at h
    rw [← h]
    exact .of_not_stuck (drainStaged_not_stuck hs)

/-- A submission that is handled leaves no packet behind, except for one of another activation. -/
theorem handleProcessOutboundQueue_stuck (hs : s.Sound c) {event : ProcessOutboundQueueEvent}
    (h : (s.handleProcessOutboundQueue c p event).runtime.stuck) :
    s.stuck ∧ (s.handleProcessOutboundQueue c p event).runtime = s ∧
      s.isCurrentActivation event.peer.activationGeneration = false := by
  unfold handleProcessOutboundQueue at h ⊢
  split at h
  · rw [processOutboundQueue_not_stuck event.occurredAt hs.transport_peer] at h
    cases h
  · rename_i hcurrent
    rw [if_neg hcurrent]
    exact ⟨h, rfl, Bool.not_eq_true _ ▸ hcurrent⟩

/-- A retransmission that sends nothing has no attempt left, and gives up what is staged if it just
used up the last one. -/
theorem expireRetransmitHandshake_cases (st : HandlerState) (event : ProtocolTimerExpiredEvent) :
    (expireRetransmitHandshake c p st event).runtime.lifecycle.state = .error ∨
      (expireRetransmitHandshake c p st event).runtime.pendingDatagram.isSome ∨
      ((st.runtime.device.peer.handshakeRetry.active = false ∨
          WgPeer.maxSendAttempts ≤ st.runtime.device.peer.handshakeRetry.sendAttempts) ∧
        ∃ device effects, expireRetransmitHandshake c p st event =
            ⟨{ st.runtime with device }, effects⟩ ∧
          (device = st.runtime.device ∨ device.peer.stagedOutboundPackets.toList = []) ∧
          (effects = st.effects ∨ ∃ deadline, effects = st.effects ++
            [.armProtocolTimer event.peer .zeroKeyMaterial .empty deadline])) := by
  unfold expireRetransmitHandshake
  generalize hretry : handleHandshakeRetryTimer c p st.runtime.device = retried
  obtain ⟨action, device⟩ := retried
  obtain ⟨rfl, rfl, hactive⟩ | ⟨rfl, hattempts, rfl⟩ | ⟨rfl | rfl, -⟩ :=
    handleHandshakeRetryTimer_cases hretry
  · exact .inr (.inr ⟨.inl hactive, _, _, rfl, .inl rfl, .inl rfl⟩)
  · have hempty := (InnerPacketQueue.clear_spec st.runtime.device.peer.stagedOutboundPackets
      .retryExhausted).1
    simp only
    split
    · exact .inr (.inr ⟨.inr hattempts, _, _, rfl, .inr hempty, .inr ⟨_, rfl⟩⟩)
    · exact .inr (.inr ⟨.inr hattempts, _, _, rfl, .inr hempty, .inl rfl⟩)
  · simp only
    split
    · rename_i hprep
      exact .inr (.inl (prepareHandshakeInitiation_pending hprep))
    · exact .inl (by rw [enterActivationError_eq])
  · simp only
    exact .inl (by rw [enterActivationError_eq])

theorem expireSendKeepalive_cases (st : HandlerState) (event : ProtocolTimerExpiredEvent) :
    (st.runtime.lifecycle.state ≠ .active ∧
        expireSendKeepalive c p st event = st) ∨
      st.Attempts (expireSendKeepalive c p st event) := by
  unfold expireSendKeepalive
  split
  · rename_i hstate
    exact .inl ⟨hstate, rfl⟩
  split
  · exact .inr (startHandshakeOrFail_attempts _ _ _)
  split
  · exact .inr (enterActivationError_attempts _ _)
  · rename_i hprep
    refine .inr (.inr (.inl ?_))
    have hpend := prepareTransportDatagram_pending hprep
    simp only
    split
    · exact hpend
    · exact hpend

theorem expireNewHandshake_cases (st : HandlerState) (event : ProtocolTimerExpiredEvent) :
    (st.runtime.lifecycle.state ≠ .active ∧
        expireNewHandshake c p st event = st) ∨
      st.Attempts (expireNewHandshake c p st event) := by
  unfold expireNewHandshake
  split
  · exact .inr (startHandshakeOrFail_attempts _ _ _)
  · rename_i hstate
    exact .inl ⟨hstate, rfl⟩

theorem expirePersistentKeepalive_cases (st : HandlerState) (event : ProtocolTimerExpiredEvent) :
    ((st.runtime.lifecycle.state ≠ .active ∨
          st.runtime.device.peer.persistentKeepaliveInterval = 0) ∧
        expirePersistentKeepalive c p st event = st) ∨
      st.Attempts (expirePersistentKeepalive c p st event) := by
  unfold expirePersistentKeepalive
  simp only
  split
  · rename_i hidle
    exact .inl ⟨hidle, rfl⟩
  split
  · exact .inr (startHandshakeOrFail_attempts _ _ _)
  · exact .inr (sendKeepaliveOrFail_attempts _ _ _)

private theorem handleProtocolTimerExpired_calm {event : ProtocolTimerExpiredEvent} :
    Calm ⟨s, []⟩ (s.handleProtocolTimerExpired c p event) := by
  unfold handleProtocolTimerExpired
  split
  · exact .refl _
  simp only
  have hcancel : Calm ⟨s, []⟩ (cancel ⟨s, []⟩ event.peer event.hook) :=
    .of_view rfl
  have hended {idle : Prop} {st : HandlerState}
      (h : (idle ∧ st = cancel ⟨s, []⟩ event.peer event.hook) ∨
        (cancel ⟨s, []⟩ event.peer event.hook).Attempts st) :
      Calm ⟨s, []⟩ st := by
    obtain ⟨-, rfl⟩ | hattempts := h
    · exact hcancel
    · exact .of_not_stuck hattempts.not_stuck
  split
  · exact hcancel
  split
  · exact hcancel
  split
  · obtain herror | hpend | ⟨-, device, effects, hst, hdev, -⟩ :=
      expireRetransmitHandshake_cases (c := c) (p := p) _ event
    · exact .of_not_stuck (not_stuck_of_state (by rw [herror]; exact nofun))
    · exact .of_not_stuck (not_stuck_of_pending hpend)
    · rw [hst]
      obtain rfl | hempty := hdev
      · exact hcancel
      · exact .of_not_stuck (not_stuck_of_empty hempty)
  · exact hended (expireSendKeepalive_cases _ event)
  · exact hended (expireNewHandshake_cases _ event)
  · exact hended (expirePersistentKeepalive_cases _ event)
  · exact .of_not_stuck (not_stuck_of_empty rfl)

end Staging

/-! ## Completed sends -/

section Completion

/-- The packet at the head of the queue once a datagram of some kind has left the slot. -/
def PeerRuntime.nextInQueue (s : PeerRuntime) (kind : PendingDatagramKind) :
    Option InnerPacketRecord :=
  (s.device.peer.stagedOutboundPackets.toList.drop (if kind = .transportData then 1 else 0)).head?

/-- The event frees the slot of an active peer that has a packet to send and is not retrying a
handshake, and the handler neither submits the queue nor starts a rekey. -/
def PeerRuntime.strands (p : Platform) (s : PeerRuntime) : PeerEvent → Bool
  | .pendingDatagramSent event =>
    (s.completing (.pendingDatagramSent event)).any fun pending =>
      (decide (event.error = .sendFailed) || (decide (event.error = .none) &&
        decide (pending.kind ≠ .transportData) && !(decide (pending.kind = .keepalive) &&
          s.device.peer.currentKeypair.needsRekeyAt (p.clock .refresh)))) &&
      s.isUp && (s.nextInQueue pending.kind).any s.isCurrentPacket &&
      !s.device.peer.handshakeRetry.active
  | _ => false

variable {event : PendingDatagramSentEvent} {pending : PendingDatagram}

/-- What a stuck peer looks like that has just freed its slot. -/
theorem stuck_completed (hpeer : s.hasProtocolPeer) {kind : PendingDatagramKind}
    {disposition : QueueDisposition} (h : (s.completed kind disposition).stuck) :
    s.isUp ∧ (s.nextInQueue kind).any s.isCurrentPacket ∧
      s.device.peer.handshakeRetry.active = false := by
  by_cases hdata : kind = .transportData
  · have hlist := (InnerPacketQueue.pop_spec s.device.peer.stagedOutboundPackets disposition).1
    unfold completed at h
    rw [if_pos ⟨hdata, hpeer⟩] at h
    simp only [stuck, isWaiting, Bool.and_eq_true, Bool.not_eq_true'] at h
    refine ⟨h.1.1.1, ?_, h.2⟩
    have hhead := h.1.2
    simp only [withPeer, hlist] at hhead
    rw [nextInQueue, if_pos hdata, drop_one]
    exact hhead
  · rw [completed_of_not disposition (fun hkind => hdata hkind.1)] at h
    simp only [stuck, isWaiting, Bool.and_eq_true, Bool.not_eq_true'] at h
    refine ⟨h.1.1.1, ?_, h.2⟩
    rw [nextInQueue, if_neg hdata, drop_zero]
    exact h.1.2

theorem strands_of_stuck (hpeer : s.hasProtocolPeer)
    (hcompleting : s.completing (.pendingDatagramSent event) = some pending)
    (hquiet : event.error = .sendFailed ∨ (event.error = .none ∧ pending.kind ≠ .transportData ∧
      ¬ (pending.kind = .keepalive ∧
        s.device.peer.currentKeypair.needsRekeyAt (p.clock .refresh))))
    (disposition : QueueDisposition) (h : (s.completed pending.kind disposition).stuck) :
    s.strands p (.pendingDatagramSent event) := by
  obtain ⟨hup, hhead, hretry⟩ := stuck_completed hpeer h
  unfold strands
  simp only [hcompleting, Option.any_some, hup, hhead, hretry, Bool.and_true, Bool.not_false]
  obtain hfailed | ⟨hnone, hkind, hrekey⟩ := hquiet
  · simp [hfailed]
  · simp only [hnone, Bool.or_eq_true, Bool.and_eq_true, decide_eq_true_eq, Bool.not_eq_true']
    refine .inr ⟨⟨trivial, hkind⟩, ?_⟩
    rw [Bool.eq_false_iff]
    intro hboth
    rw [Bool.and_eq_true, decide_eq_true_eq] at hboth
    exact hrekey hboth

/-- A datagram that was sent: the rest of the queue is submitted after a staged packet. -/
theorem completeSent_stuck (hpeer : s.hasProtocolPeer)
    (hact : event.peer.activationGeneration = s.lifecycle.activationGeneration)
    (hcompleting : s.completing (.pendingDatagramSent event) = some pending)
    (hnone : event.error = .none) :
    let after := completeSent c p ⟨{ s with pendingDatagram := none }, []⟩ event
      pending.kind
    after.runtime.stuck → after.Submits ∨
      (s.strands p (.pendingDatagramSent event) ∧
        after.runtime.lifecycle.activationGeneration = s.lifecycle.activationGeneration) := by
  intro after hstuck
  have hruntime := onAuthenticatedPacketTraversal_runtime ⟨recordTransmittedBytes
    { s with pendingDatagram := none } event.bytesSent event.occurredAt, []⟩ event.peer
    event.timerFacts
  unfold after completeSent at hstuck ⊢
  simp only at hstuck ⊢
  revert hstuck hruntime
  generalize onAuthenticatedPacketTraversal _ event.peer event.timerFacts = traversed
  intro hruntime
  have hsame : (traversed.onAuthenticatedPacketSent event.peer).runtime =
      recordTransmittedBytes { s with pendingDatagram := none } event.bytesSent
        event.occurredAt := hruntime
  have hview : (traversed.onAuthenticatedPacketSent event.peer).runtime.stuckView =
      stuckView { s with pendingDatagram := none } := by
    rw [hsame]; rfl
  -- every kind but a staged packet leaves the peer as it was, without the datagram
  have hquiet (kind : PendingDatagramKind) (hkind : pending.kind = kind)
      (hdata : kind ≠ .transportData) (t : PeerRuntime)
      (ht : t.stuckView = stuckView { s with pendingDatagram := none })
      (hrekey : ¬ (kind = .keepalive ∧
        s.device.peer.currentKeypair.needsRekeyAt (p.clock .refresh)))
      (hstuck : t.stuck) : s.strands p (.pendingDatagramSent event) ∧
        t.lifecycle.activationGeneration = s.lifecycle.activationGeneration := by
    refine ⟨strands_of_stuck hpeer hcompleting
      (.inr ⟨hnone, hkind ▸ hdata, hkind ▸ hrekey⟩) .sent ?_, ?_⟩
    · rw [completed_of_not _ (fun h => hdata (hkind.symm.trans h.1)), ← stuck_of_view ht]
      exact hstuck
    · simp only [stuckView, Prod.mk.injEq] at ht
      exact ht.2.1
  cases hkind : pending.kind with
  | handshakeInitiation =>
    simp only
    split
    · intro hstuck
      exact .inr (hquiet _ hkind (by simp) _ hview (by simp) hstuck)
    · intro hstuck
      exact .inr (hquiet _ hkind (by simp) _ hview (by simp) hstuck)
  | handshakeResponse =>
    intro hstuck
    exact .inr (hquiet _ hkind (by simp) _ hview (by simp) hstuck)
  | transportData =>
    simp only
    rw [if_pos (by rw [hsame]; exact hpeer)]
    set submitted := (onDataPacketSent _ event.peer event.timerFacts).add
      (.queueInnerPacketSubmission event.peer) with hsubmitted
    have hsubmits : submitted.Submits := by
      refine Submits.of_add ?_
      rw [onDataPacketSent_runtime]
      refine hact.trans ?_
      simp only [withPeer, hsame]
      rfl
    intro hstuck
    obtain ⟨hidle, -⟩ | hnot := refreshKeyFreshness_cases (c := c) (p := p) submitted event.peer
      event.occurredAt
    · rw [hidle]
      exact .inl hsubmits
    · rw [hnot] at hstuck
      cases hstuck
  | keepalive =>
    intro hstuck
    obtain ⟨hidle, hreason⟩ | hnot := refreshKeyFreshness_cases (c := c) (p := p)
      (traversed.onAuthenticatedPacketSent event.peer) event.peer event.occurredAt
    · rw [hidle] at hstuck ⊢
      refine .inr (hquiet _ hkind (by simp) _ hview ?_ hstuck)
      rintro ⟨-, hrekey⟩
      obtain hnopeer | hfresh | hpend | hretry := hreason
      · rw [hsame] at hnopeer
        exact absurd hnopeer (Bool.eq_false_iff.not.mpr (not_not_intro hpeer))
      · rw [hsame] at hfresh
        exact Bool.eq_false_iff.mp hfresh hrekey
      · rw [hsame] at hpend
        cases hpend
      · rw [not_stuck_of_retry hretry] at hstuck
        cases hstuck
    · rw [hnot] at hstuck
      cases hstuck

/-- A datagram that was not sent: nothing is submitted. -/
theorem completeFailed_stuck (hpeer : s.hasProtocolPeer)
    (hcompleting : s.completing (.pendingDatagramSent event) = some pending) :
    let after := completeFailed ⟨{ s with pendingDatagram := none }, []⟩ event
      pending.kind
    after.runtime.stuck → s.strands p (.pendingDatagramSent event) ∧
      after.runtime.lifecycle.activationGeneration = s.lifecycle.activationGeneration := by
  intro after hstuck
  unfold after at hstuck ⊢
  rw [completeFailed_eq] at hstuck ⊢
  by_cases hsend : event.error = .sendFailed
  · rw [if_pos hsend] at hstuck ⊢
    -- the peer is the one whose slot was freed, with or without another timer
    have hstranded (hstuck : (s.completed pending.kind .sendFailed).stuck) :
        s.strands p (.pendingDatagramSent event) :=
      strands_of_stuck hpeer hcompleting (.inl hsend) _ hstuck
    have hact : (s.completed pending.kind .sendFailed).lifecycle.activationGeneration =
        s.lifecycle.activationGeneration := by
      unfold completed
      split
      · rfl
      · rfl
    split at hstuck
    · rename_i hkind
      rw [if_pos hkind]
      exact ⟨hstranded hstuck, hact⟩
    · rename_i hkind
      rw [if_neg hkind]
      exact ⟨hstranded hstuck, hact⟩
  · rw [if_neg hsend, enterActivationError_not_stuck] at hstuck
    cases hstuck

private theorem handlePendingDatagramSent_stuck (hs : s.Sound c) :
    let after := s.handlePendingDatagramSent c p event
    after.runtime.stuck → after.Submits ∨
      ((s.stuck ∨ s.strands p (.pendingDatagramSent event)) ∧
        after.runtime.lifecycle.activationGeneration = s.lifecycle.activationGeneration) := by
  intro after hstuck
  unfold after handlePendingDatagramSent at hstuck ⊢
  cases hpend : s.pendingDatagram with
  | none =>
    simp only [hpend] at hstuck
    exact .inr ⟨.inl hstuck, rfl⟩
  | some pending =>
    have hpeer := hs.transport_peer (hs.pending_transport (by rw [hpend]; rfl))
    simp only [hpend] at hstuck ⊢
    by_cases hstale : s.isCurrentActivation event.peer.activationGeneration = false ∨
        pending.generation ≠ event.datagramGeneration
    · rw [if_pos hstale] at hstuck ⊢
      exact .inr ⟨.inl hstuck, rfl⟩
    · rw [if_neg hstale] at hstuck ⊢
      simp only [not_or, Bool.not_eq_false, not_not] at hstale
      have hcompleting : s.completing (.pendingDatagramSent event) = some pending := by
        simp [completing, hpend, Option.filter, hstale.1, hstale.2]
      by_cases hnone : event.error = .none
      · rw [if_pos hnone] at hstuck ⊢
        obtain hsubmits | ⟨hstrands, hact⟩ := completeSent_stuck hpeer
          (eq_of_isCurrentActivation hstale.1) hcompleting hnone hstuck
        · exact .inl hsubmits
        · exact .inr ⟨.inr hstrands, hact⟩
      · rw [if_neg hnone] at hstuck ⊢
        obtain ⟨hstrands, hact⟩ := completeFailed_stuck hpeer hcompleting hstuck
        exact .inr ⟨.inr hstrands, hact⟩

end Completion

/-! ## Every event -/

/-- An event leaves a peer stuck only with a submission, or if the peer was stuck before, or if the
event strands a packet. -/
theorem handleEvent_stuck (hs : s.Sound c) {event : PeerEvent} {st : HandlerState}
    (h : s.handleEvent c p event = some st) (hstuck : st.runtime.stuck) :
    st.Submits ∨ ((s.stuck ∨ s.strands p event) ∧
      st.runtime.lifecycle.activationGeneration = s.lifecycle.activationGeneration) := by
  have hwakes (hwakes : Wakes ⟨s, []⟩ st) : st.Submits ∨
      ((s.stuck ∨ s.strands p event) ∧
        st.runtime.lifecycle.activationGeneration = s.lifecycle.activationGeneration) :=
    (hwakes hstuck).imp_right fun ⟨hbefore, hact⟩ => ⟨.inl hbefore, hact⟩
  have hturn (hother : event.isTraffic = false) : Wakes ⟨s, []⟩ st :=
    ((handleEvent_turn h).calm hs hother).wakes
  cases event with
  | transportFailure event => cases h; exact hwakes handleTransportFailure_calm.wakes
  | encryptedDatagramReceived event => cases h; exact hwakes handleEncryptedDatagram_wakes
  | pendingDatagramSent event => cases h; exact handlePendingDatagramSent_stuck hs hstuck
  | innerPacketStaged event => cases h; exact hwakes (handleInnerPacketStaged_calm hs).wakes
  | innerPacketBatchStaged event => exact hwakes (handleInnerPacketBatchStaged_calm hs h).wakes
  | processOutboundQueue event =>
    cases h
    obtain ⟨hbefore, hsame, -⟩ := handleProcessOutboundQueue_stuck hs hstuck
    exact .inr ⟨.inl hbefore, by rw [hsame]⟩
  | protocolTimerExpired event => cases h; exact hwakes handleProtocolTimerExpired_calm.wakes
  | _ => exact hwakes (hturn rfl)

/-! ## Runs with their submissions -/

/-- A peer and the submissions it has asked for that were not handled yet. -/
structure SubmissionRun where
  peer : PeerRuntime
  outstanding : List PeerIdentity

namespace SubmissionRun

def submissions (batch : EffectBatch) : List PeerIdentity :=
  batch.effects.filterMap fun effect =>
    match effect with
    | .queueInnerPacketSubmission identity => some identity
    | _ => none

/-- The submissions that an event leaves outstanding.  The work item that handles them coalesces, so
one event handles all of its activation. -/
def remaining (run : SubmissionRun) : PeerEvent → List PeerIdentity
  | .processOutboundQueue event => run.outstanding.filter fun identity =>
      identity.activationGeneration ≠ event.peer.activationGeneration
  | _ => run.outstanding

def apply (c : Crypto) (run : SubmissionRun) (step : Platform × PeerEvent) : Option SubmissionRun :=
  (run.peer.handle c step.1 step.2).map fun handled =>
    ⟨handled.1, run.remaining step.2 ++ submissions handled.2⟩

/-- A submission for the current activation is outstanding. -/
def submitted (run : SubmissionRun) : Bool :=
  run.outstanding.any fun identity =>
    decide (identity.activationGeneration = run.peer.lifecycle.activationGeneration)

/-- The step strands a packet, and no submission is outstanding that would find it. -/
def Strands (run : SubmissionRun) (step : Platform × PeerEvent) : Prop :=
  run.submitted = false ∧ run.peer.strands step.1 step.2 = true

instance (run : SubmissionRun) (step : Platform × PeerEvent) : Decidable (run.Strands step) :=
  inferInstanceAs (Decidable (_ ∧ _))

end SubmissionRun

/-- A configured peer that handles events, with the submissions it asked for. -/
def submissionsWhere (c : Crypto) (allowed : SubmissionRun → Platform × PeerEvent → Prop) :
    Machine SubmissionRun :=
  .ofActions (fun run => run.peer.Configured ∧ run.outstanding = [])
    (fun run step => step.2.Admissible run.peer ∧ allowed run step) (SubmissionRun.apply c)

section Runs

variable {allowed : SubmissionRun → Platform × PeerEvent → Prop} {run : SubmissionRun}

private theorem submissionsWhere_sound (h : (submissionsWhere c allowed).Reachable run) :
    run.peer.Sound c := by
  refine h.invariant (P := fun run => run.peer.Sound c) ?_ ?_
  · rintro run ⟨⟨peerIndex, config, derived, now, hconf⟩, -⟩
    exact configure_sound hconf
  · rintro run next - hs ⟨⟨p, event⟩, ⟨hevent, -⟩, hstep⟩
    obtain ⟨⟨after, batch⟩, hhandle, rfl⟩ := Option.map_eq_some_iff.mp hstep
    exact handle_sound hhandle hevent hs

private theorem mem_submissions {batch : EffectBatch} {identity : PeerIdentity}
    (h : .queueInnerPacketSubmission identity ∈ batch.effects) :
    identity ∈ SubmissionRun.submissions batch :=
  mem_filterMap.mpr ⟨_, h, rfl⟩

/-- A stuck peer is in an activation, so an event for another one does not handle its
submissions. -/
theorem activation_of_stuck (h : s.stuck) : ∃ generation,
    s.isCurrentActivation generation ∧ generation = s.lifecycle.activationGeneration := by
  simp only [stuck, isWaiting, Bool.and_eq_true, Option.any_eq_true] at h
  obtain ⟨packet, -, hcurrent⟩ := h.1.2
  exact ⟨_, hcurrent, eq_of_isCurrentActivation hcurrent⟩

/-- One step keeps every stuck peer submitted. -/
theorem SubmissionRun.apply_submitted {next : SubmissionRun} {step : Platform × PeerEvent}
    (hs : run.peer.Sound c) (hrun : run.peer.stuck → run.submitted)
    (hallowed : ¬ run.Strands step) (hstep : run.apply c step = some next)
    (hstuck : next.peer.stuck) : next.submitted := by
  obtain ⟨⟨after, batch⟩, hhandle, rfl⟩ := Option.map_eq_some_iff.mp hstep
  obtain ⟨st, timers, intent, hst, rfl, hkept⟩ := handle_spec hhandle
  have hstuck' : st.runtime.stuck := hstuck
  obtain ⟨identity, hmem, hact⟩ | ⟨hbefore, hact⟩ := handleEvent_stuck hs hst hstuck'
  · refine any_eq_true.mpr ⟨identity, mem_append_right _ ?_, decide_eq_true hact⟩
    exact mem_submissions (hkept _ hmem rfl)
  · have hsubmitted : run.submitted := by
      obtain hbefore | hstrands := hbefore
      · exact hrun hbefore
      · by_contra hnot
        exact hallowed ⟨Bool.not_eq_true _ ▸ hnot, hstrands⟩
    obtain ⟨identity, hmem, hident⟩ := any_eq_true.mp hsubmitted
    have hident' := of_decide_eq_true hident
    refine any_eq_true.mpr ⟨identity, mem_append_left _ ?_,
      decide_eq_true (hident'.trans hact.symm)⟩
    unfold remaining
    split
    · rename_i event hevent
      -- the event is for another activation, or it would have left the peer unstuck
      rw [hevent] at hst
      cases hst
      obtain ⟨hpeer, -, hother⟩ := handleProcessOutboundQueue_stuck hs hstuck'
      obtain ⟨generation, hcurrent, hgen⟩ := activation_of_stuck hpeer
      refine mem_filter.mpr ⟨hmem, decide_eq_true fun hsame => ?_⟩
      rw [← hsame, hident', ← hgen, hcurrent] at hother
      cases hother
    · exact hmem

/-- In a run that strands no packet, an active peer with a free slot and a packet of its activation
at the head of the queue has a submission outstanding or is retrying a handshake. -/
theorem no_stranded_packets
    (h : (submissionsWhere c fun run step => ¬ run.Strands step).Reachable run)
    (hwait : run.peer.isWaiting = true) :
    run.submitted = true ∨ run.peer.device.peer.handshakeRetry.active = true := by
  have hinv : run.peer.stuck = true → run.submitted = true := by
    refine h.invariant (P := fun run => run.peer.stuck = true → run.submitted = true) ?_ ?_
    · rintro run ⟨⟨peerIndex, config, derived, now, hconf⟩, -⟩ hstuck
      have hempty : run.peer.device.peer.stagedOutboundPackets.toList = [] := by
        rw [(configure_spec hconf).1]; rfl
      rw [not_stuck_of_empty hempty] at hstuck
      cases hstuck
    · rintro run next hreach hrun ⟨step, ⟨-, hallowed⟩, hstep⟩
      exact SubmissionRun.apply_submitted (submissionsWhere_sound hreach) hrun hallowed hstep
  by_cases hretry : run.peer.device.peer.handshakeRetry.active = true
  · exact .inr hretry
  · refine .inl (hinv ?_)
    simp [stuck, hwait, hretry]

def sampleSubmissions (allowed : SubmissionRun → Platform × PeerEvent → Prop)
    [∀ run step, Decidable (allowed run step)] (events : List (Platform × PeerEvent)) :
    Option SubmissionRun :=
  (samplePeer 0).bind fun s => Machine.runActions
    (fun run step => step.2.Admissible run.peer ∧ allowed run step)
    (SubmissionRun.apply .transparent) events ⟨s, []⟩

theorem sampleSubmissions_reachable [∀ run step, Decidable (allowed run step)]
    {events : List (Platform × PeerEvent)} (h : sampleSubmissions allowed events = some run) :
    (submissionsWhere .transparent allowed).Reachable run := by
  obtain ⟨first, hfirst, hrun⟩ := Option.bind_eq_some_iff.mp h
  exact .of_runActions (.start ⟨samplePeer_configured hfirst, rfl⟩) hrun

/-- Two packets are staged, and the first is sent: the second one is waiting. -/
theorem no_stranded_packets_sample :
    ∃ run, (submissionsWhere .transparent fun run step => ¬ run.Strands step).Reachable run ∧
      run.peer.isWaiting = true ∧
      (run.submitted = true ∨ run.peer.device.peer.handshakeRetry.active = true) := by
  have hrun : (sampleSubmissions (fun run step => ¬ run.Strands step) (sampleEstablished ++
      [sampleSent (seconds 11) 2 .none, sampleStaged (seconds 12) samplePacket 1,
        sampleStaged (seconds 12) samplePacket 2, sampleSent (seconds 12) 3 .none])).map
      (fun run => run.peer.isWaiting) = some true := by
    decide +kernel
  obtain ⟨run, hrun, hwait⟩ := Option.map_eq_some_iff.mp hrun
  have hreach := sampleSubmissions_reachable hrun
  exact ⟨run, hreach, hwait, no_stranded_packets hreach hwait⟩

/-- A packet is staged while the keepalive that confirms the session is in flight.  Once the
keepalive was sent, the packet waits and nothing will send it. -/
theorem staged_packet_stranded :
    ∃ run, (submissionsWhere .transparent fun _ _ => True).Reachable run ∧
      run.peer.isWaiting = true ∧ run.outstanding = [] ∧
      run.peer.device.peer.handshakeRetry.active = false := by
  have hrun : (sampleSubmissions (fun _ _ => True) (sampleEstablished ++
      [sampleStaged (seconds 11) samplePacket 1, sampleSent (seconds 11) 2 .none])).map
      (fun run => (run.peer.isWaiting, run.outstanding.isEmpty,
        run.peer.device.peer.handshakeRetry.active)) = some (true, true, false) := by
    decide +kernel
  obtain ⟨run, hrun, hfacts⟩ := Option.map_eq_some_iff.mp hrun
  simp only [Prod.mk.injEq, List.isEmpty_iff] at hfacts
  exact ⟨run, sampleSubmissions_reachable hrun, hfacts⟩

end Runs

end WireguardNx.Runtime
