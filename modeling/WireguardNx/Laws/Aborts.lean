import WireguardNx.Laws.Budget
import WireguardNx.Laws.Timers

/-!
# The events that abort

The effects of the remaining handlers, and from all of them which events a reachable peer handles:
with primitives that succeed, an event aborts exactly if it overruns its budget in one of the ways
that `Overruns` lists.  The abort of `AdoptOpenSocket` is out of reach, because a peer that waits
for its first socket holds none and a replaced socket is released before the new one is adopted.

The primitives are assumed to succeed (`Crypto.Succeeds`), and an activation to be requested only of
a peer without one.  Nothing is assumed of the clock and of random numbers.
-/

namespace WireguardNx.Runtime

open Wireguard PeerRuntime HandlerState List

variable {c : Crypto} {p : Platform} {s : PeerRuntime}

/-! ## Activation and the local path -/

section Activation

/-- Outside of a transport state there is no socket. -/
theorem PeerRuntime.Sound.closed (hs : s.Sound c) (h : s.isInTransportState = false) :
    s.binding.isOpen = false := by
  refine Bool.eq_false_iff.mpr fun hopen => ?_
  rw [(hs.open_transport hopen).1] at h
  cases h

theorem isInTransportState_of_state (h : s.lifecycle.state = .inactive ∨
    s.lifecycle.state = .error ∨ s.lifecycle.state = .resolvingEndpoint) :
    s.isInTransportState = false := by
  unfold isInTransportState
  obtain h | h | h := h
  all_goals rw [h]; rfl

/-- Entering the error state without a socket. -/
theorem enterActivationError_closed {stage : PeerErrorStage} {code : PeerErrorCode} {now : Ktime}
    (hclosed : s.binding.isOpen = false) :
    Adds ⟨s, []⟩ 5 (enterActivationError ⟨s, []⟩ stage code now) := by
  unfold Adds
  rw [enterActivationError_effects, length_append]
  refine Nat.add_le_add_left ((errorEffects_length_le s).trans ?_) _
  rw [hclosed]
  exact Nat.le_refl 5

theorem handleActivationRequested_adds (hs : s.Sound c) (event : ActivationRequestedEvent)
    (hstate : s.lifecycle.state = .inactive ∨ s.lifecycle.state = .error) :
    Adds ⟨s, []⟩ 5 (s.handleActivationRequested event) := by
  unfold handleActivationRequested
  simp only
  split
  · refine enterActivationError_closed (hs.closed (isInTransportState_of_state ?_))
    exact hstate.imp_right .inl
  · exact Nat.le_add_left 1 4

theorem handleDeactivationRequested_adds (event : DeactivationRequestedEvent) :
    Adds ⟨s, []⟩ 7 (s.handleDeactivationRequested event) := by
  by_cases hcur : s.isCurrentActivation event.peer.activationGeneration
  · unfold Adds
    rw [(handleDeactivationRequested_spec hcur).2.1]
    show _ ≤ 0 + (1 + 1 + 5)
    rw [Nat.zero_add]
    refine Nat.add_le_add (Nat.add_le_add ?_ ?_) ?_
    all_goals split
    all_goals decide
  · unfold handleDeactivationRequested
    rw [if_pos (Bool.not_eq_true _ ▸ hcur)]
    exact Nat.zero_le 7

theorem handleUdpRebindRequested_adds (event : UdpRebindRequestedEvent) :
    Adds ⟨s, []⟩ 1 (s.handleUdpRebindRequested event) := by
  unfold handleUdpRebindRequested
  split
  · exact Nat.zero_le 1
  split
  · exact Nat.zero_le 1
  · exact Nat.le_refl 1

private theorem handleNetworkPathAvailabilityChanged_adds
    {event : NetworkPathAvailabilityChangedEvent} :
    Adds ⟨s, []⟩ 7 (s.handleNetworkPathAvailabilityChanged event) := by
  have hrebind (s' : PeerRuntime) : Adds ⟨s, []⟩ 7
      (s'.handleUdpRebindRequested ⟨event.peer, event.occurredAt⟩) :=
    (handleUdpRebindRequested_adds (s := s') _).le (by decide)
  have hnone (s' : PeerRuntime) : Adds ⟨s, []⟩ 7 ⟨s', []⟩ := Nat.zero_le 7
  unfold handleNetworkPathAvailabilityChanged
  split
  · exact hnone _
  split
  · split
    · exact hnone _
    · exact hnone _
  split
  · split
    · exact hrebind _
    · exact hnone _
  simp only
  split
  · rcases losePath_cases { s with pathAvailability := event.availability } event.peer with
      ⟨-, heq⟩ | ⟨-, -, heq⟩
    · rw [heq]
      exact hnone _
    · rw [heq]
      exact Nat.le_add_left 5 2
  · unfold gainPath
    simp only
    split
    · exact Nat.le_add_left 1 6
    split
    · exact hrebind _
    · exact hnone _

end Activation

/-! ## Sockets -/

section Sockets

variable {event : UdpBindOpenedEvent}

private theorem handleTransportFailure_adds {event : TransportFailureEvent} :
    Adds ⟨s, []⟩ 6 (s.handleTransportFailure event) := by
  unfold handleTransportFailure
  split
  · exact Nat.zero_le 6
  simp only
  split
  · exact Nat.zero_le 6
  · exact (Adds.refl _).fail _ _ _

private theorem handleEndpointResolved_adds (hs : s.Sound c) {event : EndpointResolvedEvent} :
    Adds ⟨s, []⟩ 5 (s.handleEndpointResolved event) := by
  unfold handleEndpointResolved
  split
  · exact Nat.zero_le 5
  rename_i hchecks
  simp only [not_or, Decidable.not_not] at hchecks
  split
  · refine enterActivationError_closed (hs.closed (isInTransportState_of_state ?_))
    exact .inr (.inr hchecks.2.1)
  · exact Nat.le_add_left 1 4

theorem rejectSocket_adds : Adds ⟨s, []⟩ 1 (s.rejectSocket event) := by
  unfold rejectSocket
  split
  · exact Nat.le_refl 1
  · exact Nat.zero_le 1

private theorem beginHandshaking_adds (event : UdpBindOpenedEvent) :
    Adds ⟨s, []⟩ 6 (s.beginHandshaking c p event) := by
  have hfail (s' : PeerRuntime) (stage : PeerErrorStage) (code : PeerErrorCode) :
      Adds ⟨s, []⟩ 6
        (enterActivationError ⟨s', []⟩ stage code event.occurredAt) :=
    (Adds.refl ⟨s', []⟩).fail _ _ _
  unfold beginHandshaking
  split
  · exact hfail _ _ _
  split
  · exact Nat.le_add_left 1 5
  rename_i started _
  unfold sendFirstInitiation
  simp only
  generalize (if started.hasProtocolPeer = true then startHandshake c p started.device
    else (.fatal, started.device)) = start
  split
  · exact hfail _ _ _
  split
  · exact hfail _ _ _
  · exact Nat.le_add_left 1 5

theorem adoptOpenSocket_of_closed (binding : UdpBinding) (h : binding.socket = invalidSocket)
    (endpoint : Endpoint) (text : List Char) (generation : UInt32) (socket : SocketHandle) :
    ∃ after, binding.adoptOpenSocket endpoint text generation socket = some after := by
  unfold UdpBinding.adoptOpenSocket
  rw [if_neg (not_not_intro h)]
  exact ⟨_, rfl⟩

/-- The first socket of an activation is adopted by a peer that holds none. -/
theorem completeActivationBind_adds (hs : s.Sound c) (event : UdpBindOpenedEvent) :
    ∃ st, s.completeActivationBind c p event = some st ∧ Adds ⟨s, []⟩ 7 st := by
  unfold completeActivationBind
  split
  · exact ⟨_, rfl, rejectSocket_adds.le (by decide)⟩
  rename_i hchecks
  simp only [not_or, Decidable.not_not] at hchecks
  split
  · exact ⟨_, rfl, rejectSocket_adds.fail _ _ _⟩
  have hclosed := hs.closed (isInTransportState_of_state (.inr (.inr hchecks.2.1)))
  have hsocket := socket_of_not_isOpen (Bool.eq_false_iff.mp hclosed)
  obtain ⟨binding, hadopt⟩ := adoptOpenSocket_of_closed _ hsocket event.endpoint event.endpointText
    event.socketGeneration event.socket
  rw [hadopt]
  exact ⟨_, rfl, (beginHandshaking_adds (s := { s with binding }) event).le (by decide)⟩

/-! ## Recovering the transport -/

variable {st : HandlerState} {identity : PeerIdentity}

/-- A keepalive that cannot be sent costs six effects, one too many after the close of a socket. -/
theorem sendKeepaliveOrFail_length_iff (hc : c.Succeeds) (hst : st.Usable c)
    (hact : st.runtime.lifecycle.activationGeneration ≠ 0) (hle : st.effects.length ≤ 1)
    {identity : PeerIdentity} {now : Ktime} :
    (st.sendKeepaliveOrFail c p identity now).effects.length ≤ 6 ↔
      ¬ (st.effects.length = 1 ∧ st.runtime.canSend p .createKeepalive = false) := by
  have hends := sendKeepaliveOrFail_ends (p := p) hc hst.peer identity now
  by_cases hone : st.effects.length = 1
  · have hiff := hends.length_le_iff (by decide) hact hst.isOpen
    rw [hone] at hiff
    rw [hiff]
    simp [hst.pending, hone]
  · refine iff_of_true ?_ fun h => hone h.1
    have hadds := hends.adds (by decide)
    unfold Adds at hadds
    omega

/-- Once the peer has failed a keepalive fails again. -/
theorem sendKeepaliveOrFail_length_of_failed (hpeer : st.runtime.hasProtocolPeer)
    (hact : st.runtime.lifecycle.activationGeneration ≠ 0) {stage : PeerErrorStage}
    {code : PeerErrorCode} {identity : PeerIdentity} {now : Ktime} :
    6 < ((st.enterActivationError stage code now).sendKeepaliveOrFail c p identity
      now).effects.length := by
  have hpeer' : (st.enterActivationError stage code now).runtime.hasProtocolPeer := by
    simpa only [enterActivationError_eq, hasProtocolPeer, scrubbedDevice_hasPeer]
      using hpeer
  have hpend : (st.enterActivationError stage code now).runtime.pendingDatagram = none := by
    rw [enterActivationError_eq]
  have hsend : (st.enterActivationError stage code now).runtime.canSend p .createKeepalive =
      false := by
    simp only [enterActivationError_eq, canSend, scrubbedDevice_currentKeypair hpeer]
    rfl
  have hact' : (st.enterActivationError stage code now).runtime.lifecycle.activationGeneration
      ≠ 0 := by
    rw [enterActivationError_eq]; exact hact
  rw [sendKeepaliveOrFail_of_not_canSend identity now hpeer' hpend hsend]
  simp only [enterActivationError_effects, length_append, errorEffects_length hact,
    errorEffects_length hact']
  omega

private theorem recoverTransport_length_iff (hc : c.Succeeds) (hst : st.Usable c)
    (hact : st.runtime.lifecycle.activationGeneration ≠ 0) (hle : st.effects.length ≤ 1)
    {next : Option InnerPacketRecord}
    (hnext : next = nextPacket identity st.runtime.device.peer.stagedOutboundPackets.toList)
    {now : Ktime} : (st.recoverTransport c p identity now).effects.length ≤ 6 ↔
      ¬ (st.runtime.lifecycle.state = .active ∧ st.runtime.canSend p .recover ∧
        (st.runtime.oversized p next ∨ (st.effects.length = 1 ∧
          st.runtime.canSend p .createKeepalive = false ∧
          (next = none ∨ st.runtime.waits p next)))) := by
  unfold recoverTransport
  rw [if_neg (by simp [hst.pending, hst.peer])]
  change (if st.runtime.lifecycle.state = .active ∧ st.runtime.canSend p .recover = true then _
    else _ : HandlerState).effects.length ≤ 6 ↔ _
  by_cases hactive : st.runtime.lifecycle.state = .active ∧ st.runtime.canSend p .recover
  · rw [if_pos hactive]
    obtain ⟨hstate, hsend⟩ := hactive
    have hdrained : Drained p st next now (if st.runtime.stagedInnerPacketCount ≠ 0 then
        st.processOutboundQueue c p identity now else st) := by
      rw [hnext]
      split
      · exact processOutboundQueue_drained hc hst
      · rename_i hcount
        refine drained_of_nil (length_eq_zero_iff.mp ?_)
        simpa [stagedInnerPacketCount, hst.peer, InnerPacketQueue.length_toList]
          using hcount
    revert hdrained
    generalize (if st.runtime.stagedInnerPacketCount ≠ 0 then
      st.processOutboundQueue c p identity now else st) = drained
    have husable (queue : InnerPacketQueue peerStagedPacketCapacity) :
        (st.withQueue queue).Usable c :=
      ⟨hst.transport, hst.isOpen, hst.suspended, hst.peer, hst.ready.of_eq rfl rfl, hst.pending⟩
    -- a queue that was drained without a send is followed by a keepalive
    have hkeepalive (queue : InnerPacketQueue peerStagedPacketCapacity)
        (hsize : ¬ st.runtime.oversized p next)
        (hfree : next = none ∨ st.runtime.waits p next) :
        ((st.withQueue queue).sendKeepaliveOrFail c p identity now).effects.length ≤ 6 ↔
          ¬ (st.runtime.lifecycle.state = .active ∧ st.runtime.canSend p .recover ∧
            (st.runtime.oversized p next ∨ (st.effects.length = 1 ∧
              st.runtime.canSend p .createKeepalive = false ∧
              (next = none ∨ st.runtime.waits p next)))) := by
      refine (sendKeepaliveOrFail_length_iff hc (husable queue) hact hle).trans
        (not_congr ⟨?_, ?_⟩)
      · rintro ⟨hone, hlate⟩
        exact ⟨hstate, hsend, .inr ⟨hone, hlate, hfree⟩⟩
      · rintro ⟨-, -, hover | ⟨hone, hlate, -⟩⟩
        · exact absurd hover hsize
        · exact ⟨hone, hlate⟩
    intro hdrained
    cases hdrained with
    | idle queue _ hnone =>
      rw [if_neg (by simp [HandlerState.withQueue, withPeer, hst.pending])]
      exact hkeepalive queue (by simp [oversized, hnone]) (.inl hnone)
    | waiting queue hwaits =>
      rw [if_neg (by simp [HandlerState.withQueue, withPeer, hst.pending])]
      exact hkeepalive queue (not_oversized_of_waits hwaits) (.inr hwaits)
    | sent after hsent hsome hsize hwaits =>
      rw [if_pos hsent.pending]
      refine iff_of_true ?_ (by simp [hsize, hsome, hwaits])
      rw [hsent.effects]
      omega
    | failed queue hsize =>
      rw [if_neg (by rw [enterActivationError_eq]; simp)]
      refine iff_of_false (Nat.not_le_of_lt ?_) (by simp [hstate, hsend, hsize])
      exact sendKeepaliveOrFail_length_of_failed (husable queue).peer hact
  · rw [if_neg hactive]
    refine iff_of_true ?_ fun h => hactive ⟨h.1, h.2.1⟩
    have hends := startHandshakeOrFail_ends (p := p) hc hst.peer hst.ready identity now
    have hadds := hends.length_le_iff (by decide) hact hst.isOpen
    have hlen := hadds.mpr (by simp [hst.pending])
    omega

/-- A replacement socket aborts exactly if it is adopted and the recovery fails. -/
theorem completeRebind_length_iff (hc : c.Succeeds) (hs : s.Sound c) :
    (∃ st, s.completeRebind c p event = some st ∧ st.effects.length ≤ 7) ↔
      ¬ ((s.isCurrentActivation event.peer.activationGeneration ∧
          s.isInTransportState ∧ s.binding.hasEndpoint ∧
          s.waitingForLocalPath = false ∧ s.pathAvailability = .available ∧
          event.error = .none ∧ event.socket ≠ invalidSocket) ∧
        s.recoveryFails p event.peer) := by
  have hreject : ∃ st, some (s.rejectSocket event) = some st ∧ st.effects.length ≤ 7 :=
    ⟨_, rfl, (rejectSocket_adds.le (by decide)).length_le⟩
  unfold completeRebind
  by_cases hchecks : s.isCurrentActivation event.peer.activationGeneration = false ∨
      s.isInTransportState = false ∨ s.binding.hasEndpoint = false ∨
      s.waitingForLocalPath ∨ s.pathAvailability ≠ .available
  · rw [if_pos hchecks]
    refine iff_of_true hreject ?_
    rintro ⟨⟨hcur, htrans, hendpoint, hwait, hpath, -⟩, -⟩
    simp [hcur, htrans, hendpoint, hwait, hpath] at hchecks
  rw [if_neg hchecks]
  by_cases hsocket : event.error ≠ .none ∨ event.socket = invalidSocket
  · rw [if_pos hsocket]
    refine iff_of_true hreject ?_
    rintro ⟨⟨-, -, -, -, -, herror, hvalid⟩, -⟩
    simp [herror, hvalid] at hsocket
  rw [if_neg hsocket]
  simp only [not_or, Bool.not_eq_false, Bool.not_eq_true, Decidable.not_not] at hchecks hsocket
  obtain ⟨hcur, htrans, hendpoint, hwait, hpath⟩ := hchecks
  obtain ⟨binding, hadopt⟩ := adoptOpenSocket_of_closed s.binding.releaseSocket rfl
    event.endpoint event.endpointText event.socketGeneration event.socket
  obtain ⟨-, hadopted, -, hsusp, -⟩ := adoptOpenSocket_cases hadopt
  have hpeer := hs.transport_peer htrans
  simp only [hadopt, Option.some.injEq, exists_eq_left']
  set close : List RuntimeEffect := if s.binding.socket ≠ invalidSocket then
    [.closeUdpSocket s.pathRequestGeneration s.binding.socket] else [] with hclose
  have hcount : close.length = if s.binding.isOpen then 1 else 0 := by
    rw [hclose]
    unfold UdpBinding.isOpen
    by_cases hvalid : s.binding.socket ≠ invalidSocket
    · simp [hvalid]
    · simp [hvalid]
  have hone : close.length = 1 ↔ s.binding.isOpen := by
    rw [hcount]
    cases s.binding.isOpen <;> simp
  rw [add, length_append]
  refine Nat.succ_le_succ_iff.trans ?_
  by_cases hpend : s.pendingDatagram = none
  · have husable : Usable c ⟨{ s with binding }, close⟩ :=
      ⟨htrans, isOpen_of_socket hadopted hsocket.2, hsusp, hpeer, hs.ready hpeer, hpend⟩
    have hle : close.length ≤ 1 := by
      rw [hcount]
      split
      · exact Nat.le_refl 1
      · exact Nat.zero_le 1
    refine (recoverTransport_length_iff hc husable (activation_ne_zero hcur) hle rfl).trans
      (not_congr ?_)
    simp only [hone, recoveryFails, hpend, Bool.and_eq_true, Bool.or_eq_true,
      decide_eq_true_eq, Option.isNone_none, true_and, Bool.not_eq_true',
      Option.isNone_iff_eq_none]
    constructor
    · rintro ⟨hactive, hsend, hfails⟩
      refine ⟨⟨hcur, htrans, hendpoint, hwait, hpath, hsocket⟩, ⟨hactive, hsend⟩, ?_⟩
      exact hfails.imp_right fun h => ⟨⟨h.1, h.2.1⟩, h.2.2⟩
    · rintro ⟨-, ⟨hactive, hsend⟩, hfails⟩
      exact ⟨hactive, hsend, hfails.imp_right fun h => ⟨h.1.1, h.1.2, h.2⟩⟩
  · have hsome := Option.isSome_iff_ne_none.mpr hpend
    unfold recoverTransport
    rw [if_pos (.inl hsome)]
    refine iff_of_true ?_ (by simp [recoveryFails, hpend])
    show close.length ≤ 6
    rw [hcount]
    split
    · decide
    · decide

theorem adoptsRebind_iff :
    s.adoptsRebind event ↔ event.purpose = .rebind ∧ event.socketGeneration ≠ 0 ∧
      s.isCurrentPathRequest event.peer.activationGeneration event.pathGeneration ∧
      event.socketGeneration = s.pendingSocketGeneration ∧ s.pendingBindPurpose = .rebind ∧
      s.isInTransportState ∧ s.binding.hasEndpoint ∧
      s.waitingForLocalPath = false ∧ s.pathAvailability = .available ∧ event.error = .none ∧
      event.socket ≠ invalidSocket := by
  simp only [adoptsRebind, Bool.and_eq_true, decide_eq_true_eq, Bool.not_eq_true',
    and_assoc]

private theorem handleUdpBindOpened_length_iff (hc : c.Succeeds) (hs : s.Sound c) :
    (∃ st, s.handleUdpBindOpened c p event = some st ∧ st.effects.length ≤ 7) ↔
      ¬ s.Overruns c p (.udpBindOpened event) := by
  have hsound : Sound c { s with pendingSocketGeneration := 0 } :=
    Same.sound (s := s) (.of_core rfl) hs
  unfold handleUdpBindOpened
  by_cases hchecks : event.socketGeneration = 0 ∨
      s.isCurrentPathRequest event.peer.activationGeneration event.pathGeneration = false ∨
      event.socketGeneration ≠ s.pendingSocketGeneration ∨ event.purpose ≠ s.pendingBindPurpose
  · rw [if_pos hchecks]
    refine iff_of_true ⟨_, rfl, (rejectSocket_adds.le (by decide)).length_le⟩ ?_
    rintro ⟨hadopts, -⟩
    obtain ⟨hpurpose, hnonzero, hreq, hgen, hbind, -⟩ := adoptsRebind_iff.mp hadopts
    obtain hzero | hstale | hother | hwrong := hchecks
    · exact hnonzero hzero
    · rw [hreq] at hstale; cases hstale
    · exact hother hgen
    · exact hwrong (hpurpose.trans hbind.symm)
  · rw [if_neg hchecks]
    simp only [not_or, Bool.not_eq_false, Decidable.not_not] at hchecks
    obtain ⟨hnonzero, hreq, hgen, hbind⟩ := hchecks
    have hcur : s.isCurrentActivation event.peer.activationGeneration := by
      unfold isCurrentPathRequest at hreq
      simp only [Bool.and_eq_true] at hreq
      exact hreq.1.1
    simp only
    cases hpurpose : event.purpose with
    | rebind =>
      refine (completeRebind_length_iff hc hsound).trans (not_congr (and_congr_left' ?_))
      rw [adoptsRebind_iff]
      constructor
      · rintro ⟨-, hadopts⟩
        exact ⟨hpurpose, hnonzero, hreq, hgen, hbind.symm.trans hpurpose, hadopts⟩
      · rintro ⟨-, -, -, -, -, hadopts⟩
        exact ⟨hcur, hadopts⟩
    | activation =>
      obtain ⟨st, hst, hadds⟩ := completeActivationBind_adds (p := p) hsound event
      refine iff_of_true ⟨st, hst, hadds.length_le⟩ ?_
      simp [Overruns, adoptsRebind, hpurpose]

end Sockets

/-! ## Received datagrams -/

section Received

variable {st : HandlerState} {event : EncryptedDatagramReceivedEvent}

theorem authenticate_adds {st : HandlerState} {event : EncryptedDatagramReceivedEvent} :
    st.Adds 2 (st.authenticate event) :=
  (onAuthenticatedPacketTraversal_adds _ event.peer event.timerFacts).add _

private theorem publishPayload_adds {payload : List UInt8} :
    st.Adds 2 (st.publishPayload event payload) := by
  have hreceived := onDataPacketReceived_adds st event.peer event.timerFacts
  unfold publishPayload
  simp only
  split
  · exact hreceived.le (by decide)
  · exact (hreceived.note _).add _

/-- Transport data refreshes the keys or confirms a keypair, and not both. -/
theorem deliver_adds (hc : c.Succeeds) {data : IncomingTransportData}
    (hready : st.runtime.hasProtocolPeer → st.runtime.device.peer.Ready c)
    (hfresh : data.promotedNextKeypair →
      st.runtime.device.peer.currentKeypair.needsRekeyAt (p.clock .refresh) = false) :
    st.Adds 6 (st.deliver c p event data) := by
  have hdev : (st.authenticate event).runtime.device = st.runtime.device := by
    rw [authenticate_runtime]
    exact congrArg Prod.fst (recordAuthenticated_spec st.runtime event).2.1
  have hpeer : (st.authenticate event).runtime.hasProtocolPeer = st.runtime.hasProtocolPeer := by
    unfold hasProtocolPeer
    rw [hdev, authenticate_runtime]
    exact congrArg (· && _)
      (congrArg Setup.instantiated (recordAuthenticated_spec st.runtime event).1)
  rw [← hdev] at hfresh hready
  rw [← hpeer] at hready
  have hconfirmed : st.Adds 4 (if data.promotedNextKeypair then
      ((st.authenticate event).refreshKeyFreshness c p event.peer event.occurredAt).confirmPromoted
        event
      else (st.authenticate event).refreshKeyFreshness c p event.peer event.occurredAt) := by
    split
    · rename_i hpromoted
      obtain ⟨hsame, -⟩ | ⟨hneeds, -⟩ :=
        refreshKeyFreshness_of_ready (p := p) event.peer event.occurredAt hc hready
      · rw [hsame]
        exact ((authenticate_adds.note _).add _).add _
      · exact absurd hneeds (Bool.eq_false_iff.mp (hfresh hpromoted))
    · exact (authenticate_adds.trans
        (refreshKeyFreshness_adds event.peer hc hready event.occurredAt)).le (by decide)
  unfold deliver
  simp only
  split
  · exact hconfirmed.le (by decide)
  · exact hconfirmed.trans publishPayload_adds

/-- Establishing a session changes neither the activation nor what traffic works on. -/
theorem establish_spec (st : HandlerState) (event : EncryptedDatagramReceivedEvent) :
    (st.establish event).runtime.setup = st.runtime.setup ∧
      (st.establish event).runtime.work = st.runtime.work := by
  obtain ⟨hsetup, hwork, -⟩ := recordAuthenticated_spec st.runtime event
  obtain ⟨hsetup', hwork', -⟩ := enterActiveOrNote_spec (st.authenticate event).runtime event
  rw [authenticate_runtime] at hsetup' hwork'
  refine ⟨Eq.trans ?_ (hsetup'.trans hsetup), Eq.trans ?_ (hwork'.trans hwork)⟩ <;>
    rw [← authenticate_runtime] <;> rfl

/-- A response that completes a session is handled to the end. -/
theorem PeerRuntime.Completes.handled {read derived : WgDevice}
    (h : s.Completes c p event read derived) :
    Looked c p s.device read ∧ read.peer.handshake.state = .responseReceived ∧
      s.handleEncryptedDatagram c p event =
        (establish ⟨{ s with device := derived }, []⟩ event).openSession c p event := by
  obtain ⟨admitted, hadm, hread⟩ := h.reads
  obtain ⟨hstate, htype⟩ := consumeIncomingPacket_response hread
  have hlooked : Looked c p s.device read := by
    have hjudged := (Looked.judge (c := c) (p := p) s.device event.packet event.source
      event.occurredAt).consume event.packet
    rwa [hadm, hread] at hjudged
  have hpacket : event.packet ≠ [] := by
    rintro hnil
    rw [hnil] at htype
    cases htype
  refine ⟨hlooked, hstate, ?_⟩
  unfold handleEncryptedDatagram
  rw [if_neg (by simp [h.current, h.transport, h.peer, hpacket]), htype]
  simp only
  unfold handleHandshakeDatagram consumeHandshakeDatagram
  rw [if_pos (.inr rfl), hadm]
  simp only
  rw [if_neg (by simp [h.free]), hread]
  refine completeInitiatorSession_of_derived h.current ?_ h.derives
  exact (hasProtocolPeer_withDevice hlooked.sameRecord.hasPeer).trans h.peer

/-- The keepalive of a new session that cannot be sent is one failure too much. -/
theorem completes_length_iff (hc : c.Succeeds) {read derived : WgDevice}
    (h : s.Completes c p event read derived) :
    (s.handleEncryptedDatagram c p event).effects.length ≤ 6 ↔
      ¬ (s.stagedInnerPacketCount = 0 ∧ p.Strays) := by
  obtain ⟨hlooked, hstate, hhandled⟩ := h.handled
  obtain ⟨hcur, hvalid⟩ := completeSession_initiator h.derives hstate
  obtain ⟨hsetup, hwork⟩ := establish_spec ⟨{ s with device := derived }, []⟩ event
  have hadds : Adds ⟨{ s with device := derived }, []⟩ 4
      (establish ⟨{ s with device := derived }, []⟩ event) :=
    ((authenticate_adds.note _).add _).add _
  have hmost := hadds.length_le
  have hleast : 2 ≤ (establish ⟨{ s with device := derived }, []⟩ event).effects.length := by
    show 2 ≤ (_ ++ [_] ++ [_] : List RuntimeEffect).length
    simp only [length_append, length_singleton]
    omega
  rw [hhandled]
  generalize establish ⟨{ s with device := derived }, []⟩ event = st at *
  have hdev : st.runtime.device = derived := congrArg Prod.fst hwork
  have hkeeps := completeSession_keeps h.derives
  have hpeer : st.runtime.hasProtocolPeer := by
    have hpeer := h.peer
    unfold hasProtocolPeer at hpeer ⊢
    rw [hdev, hkeeps.hasPeer, hlooked.sameRecord.hasPeer,
      show st.runtime.instantiated = s.instantiated from congrArg Setup.instantiated hsetup, hpeer]
  have hpend : st.runtime.pendingDatagram = none := (congrArg (·.2.1) hwork).trans h.free
  have hstaged : st.runtime.stagedInnerPacketCount = s.stagedInnerPacketCount := by
    unfold stagedInnerPacketCount
    rw [hpeer, h.peer, hdev, hkeeps.peer.queue, hlooked.queue]
  have hsend : st.runtime.canSend p .createKeepalive ↔ ¬ p.Strays := by
    unfold canSend
    rw [hdev, hcur]
    exact deriveKeypair_canSendAt_iff hvalid
  unfold openSession
  rw [hstaged]
  split
  · rename_i hsome
    refine iff_of_true ?_ fun h => hsome h.1
    simp only [add, length_append, length_singleton]
    omega
  rename_i hnone
  by_cases hstrays : p.Strays
  · -- the error state costs five effects at least, on top of two
    have hact : st.runtime.lifecycle.activationGeneration ≠ 0 := fun hzero =>
      activation_ne_zero h.current ((congrArg Setup.activationGeneration hsetup).symm.trans hzero)
    refine iff_of_false ?_ fun h => h ⟨not_not.mp hnone, hstrays⟩
    rw [sendKeepaliveOrFail_of_not_canSend _ _ hpeer hpend
      (Bool.eq_false_iff.mpr fun hcan => hsend.mp hcan hstrays), enterActivationError_effects,
      length_append, errorEffects_length hact]
    omega
  · refine iff_of_true ?_ fun h => hstrays h.2
    have hsent : st.Sent (st.sendKeepaliveOrFail c p event.peer event.occurredAt) :=
      sendKeepaliveOrFail_of_canSend _ _ hc hpeer hpend (hsend.mpr hstrays)
    rw [hsent.effects]
    omega

private theorem handleEncryptedDatagram_length_iff (hc : c.Succeeds) (hs : s.Sound c) :
    (s.handleEncryptedDatagram c p event).effects.length ≤ 6 ↔
      ¬ s.Overruns c p (.encryptedDatagramReceived event) := by
  by_cases hcompletes : ∃ read derived, s.Completes c p event read derived
  · obtain ⟨read, derived, h⟩ := hcompletes
    refine (completes_length_iff hc h).trans (not_congr ?_)
    exact ⟨fun hfails => ⟨⟨read, derived, h⟩, hfails⟩, And.right⟩
  refine iff_of_true ?_ fun h => hcompletes h.1
  obtain hsame | ⟨-, -, hpeer⟩ := handleEncryptedDatagram_current (c := c) (p := p) (s := s) event
  · rw [hsame]
    exact Nat.zero_le 6
  have hreceived : Received c p s event _ := handleEncryptedDatagram_received event
  generalize s.handleEncryptedDatagram c p event = after at hreceived
  have htraversed (device : WgDevice) : (traverse ⟨{ s with device }, []⟩
      event).effects.length ≤ 2 :=
    ((onAuthenticatedPacketTraversal_adds _ event.peer event.timerFacts).add _).length_le
  cases hreceived with
  | refused device after effects _ _ _ _ _ heff =>
    obtain rfl | ⟨endpoint, bytes, rfl⟩ := heff
    · exact Nat.zero_le 6
    · exact Nat.succ_le_succ (Nat.zero_le 5)
  | delivered device data hcons =>
    have hkeeps := consumeIncomingTransportDataPacket_keeps hcons
    refine (deliver_adds hc (fun _ => hkeeps.peer.ready (hs.ready hpeer)) ?_).length_le
    exact fun hpromoted =>
      consumeIncomingTransportDataPacket_promoted hcons hs.nextFresh hpromoted _
  | established device derived _ h => exact (hcompletes ⟨device, derived, h⟩).elim
  | unanswered device failed => exact (htraversed device).trans (by decide)
  | answered device created derived bytes =>
    have hcount := htraversed device
    simp only [addSendPending, add, length_append,
      length_singleton]
    omega

end Received

/-! ## Every event -/

section Events

private theorem handleProtocolTimerExpired_length_iff (hc : c.Succeeds) (hs : s.Sound c)
    {event : ProtocolTimerExpiredEvent} :
    (s.handleProtocolTimerExpired c p event).effects.length ≤ 6 ↔
      ¬ s.Overruns c p (.protocolTimerExpired event) := by
  by_cases hcur : s.isCurrentExpiry event
  · by_cases hopen : s.binding.isOpen
    · obtain ⟨htrans, hsusp⟩ := hs.open_transport hopen
      have hact : s.lifecycle.activationGeneration ≠ 0 :=
        activation_ne_zero (isCurrentActivation_of_isCurrentExpiry hcur)
      have hends := handleProtocolTimerExpired_ends (p := p) hc hs hcur htrans hsusp
      refine (hends.length_le_iff (by decide) hact hopen).trans (not_congr ?_)
      exact ⟨fun hfails => ⟨hcur, hopen, hfails⟩, fun h => h.2.2⟩
    · -- without a socket only the expired timer is cancelled
      refine iff_of_true ?_ fun h => hopen h.2.1
      unfold handleProtocolTimerExpired
      rw [if_neg (by simp [hcur])]
      simp only
      split
      · exact Nat.le_add_left 1 5
      split
      · exact Nat.le_add_left 1 5
      rename_i hsusp htrans
      cases hhook : event.hook with
      | zeroKeyMaterial => exact Nat.le_add_left 1 5
      | _ =>
        simp only [hhook, ne_eq, reduceCtorEq, not_false_eq_true, and_true, Bool.not_eq_true,
          Bool.not_eq_false] at hsusp htrans
        exact absurd (hs.transport_open htrans hsusp) hopen
  · unfold handleProtocolTimerExpired
    rw [if_pos (Bool.not_eq_true _ ▸ hcur)]
    exact iff_of_true (Nat.zero_le 6) fun h => hcur h.1

/-- A reachable peer handles an event exactly if the event does not overrun its budget. -/
theorem handled_iff_not_overruns (hc : c.Succeeds) (hs : (peers c).Reachable s)
    {event : PeerEvent} (hevent : event.Admissible s) :
    (s.handle c p event).isSome = true ↔ ¬ s.Overruns c p event := by
  have hsound := peersWhere_sound hs
  refine handle_isSome_iff.trans ?_
  cases event with
  | activationRequested event =>
    exact iff_of_true ⟨_, rfl, (handleActivationRequested_adds hsound event hevent).length_le⟩ id
  | deactivationRequested event =>
    exact iff_of_true ⟨_, rfl, (handleDeactivationRequested_adds event).length_le⟩ id
  | networkPathRequestStarted event => exact iff_of_true ⟨_, rfl, Nat.zero_le 5⟩ id
  | networkPathAvailabilityChanged event =>
    exact iff_of_true ⟨_, rfl, handleNetworkPathAvailabilityChanged_adds.length_le⟩ id
  | transportFailure event =>
    exact iff_of_true ⟨_, rfl, handleTransportFailure_adds.length_le⟩ id
  | endpointResolved event =>
    exact iff_of_true ⟨_, rfl, (handleEndpointResolved_adds hsound).length_le⟩ id
  | udpBindOpened event => exact handleUdpBindOpened_length_iff hc hsound
  | udpRebindRequested event =>
    exact iff_of_true ⟨_, rfl, (handleUdpRebindRequested_adds event).length_le⟩ id
  | encryptedDatagramReceived event =>
    simp only [handleEvent, Option.some.injEq, exists_eq_left']
    exact handleEncryptedDatagram_length_iff hc hsound
  | pendingDatagramSent event =>
    simp only [handleEvent, Option.some.injEq, exists_eq_left']
    exact handlePendingDatagramSent_length_iff hc hsound
  | innerPacketStaged event =>
    simp only [handleEvent, Option.some.injEq, exists_eq_left']
    exact handleInnerPacketStaged_length_iff hc hsound
  | innerPacketBatchStaged event => exact handleInnerPacketBatchStaged_length_iff hc hsound
  | processOutboundQueue event =>
    simp only [handleEvent, Option.some.injEq, exists_eq_left']
    exact handleProcessOutboundQueue_length_iff hc hsound
  | protocolTimerExpired event =>
    simp only [handleEvent, Option.some.injEq, exists_eq_left']
    exact handleProtocolTimerExpired_length_iff hc hsound

/-- The first initiation of the sample peer was sent. -/
theorem handled_iff_not_overruns_sample :
    ∃ s, (sampleRun .transparent (fun _ _ => True) 0 (sampleActivation (seconds 10))) = some s ∧
      (s.handle .transparent (sampleSent (seconds 10) 1 .none).1
        (sampleSent (seconds 10) 1 .none).2).isSome = true := by
  have hrun : (sampleRun .transparent (fun _ _ => True) 0
      (sampleActivation (seconds 10))).isSome = true := by
    decide +kernel
  obtain ⟨s, hs⟩ := Option.isSome_iff_exists.mp hrun
  refine ⟨s, hs, (handled_iff_not_overruns Crypto.transparent_succeeds
    (sampleRun_reachable hs) ?_).mpr ?_⟩
  · exact trivial
  · exact fun h => h.2.1 rfl

/-- The first initiation of the sample peer cannot be sent to its endpoint. -/
theorem sent_error_aborts : ∃ s, (peers .transparent).Reachable s ∧
      s.handle .transparent (.constant (seconds 10) 7) (.pendingDatagramSent
        ⟨sampleIdentity, 1, 148, .invalidEndpoint, ⟨seconds 10, 0⟩, seconds 10⟩) = none := by
  have hrun : (sampleRun .transparent (fun _ _ => True) 0 (sampleActivation (seconds 10))).map
      (fun s => (s.handle .transparent (.constant (seconds 10) 7) (.pendingDatagramSent
        ⟨sampleIdentity, 1, 148, .invalidEndpoint, ⟨seconds 10, 0⟩, seconds 10⟩)).isNone) =
        some true := by
    decide +kernel
  obtain ⟨s, hs, hnone⟩ := Option.map_eq_some_iff.mp hrun
  exact ⟨s, sampleRun_reachable hs, Option.isNone_iff_eq_none.mp hnone⟩

end Events

end WireguardNx.Runtime
