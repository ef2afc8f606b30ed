import WireguardNx.Laws.Handlers

/-!
# What an event can do

Every event is traffic, or one of the few turns of an activation: it begins or ends, the local path
is doubted, confirmed, lost or gained, an endpoint is asked for, a socket is asked for, or the
answer to such a request is adopted, dropped or ends in the error state.  `handleEvent_turn` says so,
each turn with the state it leaves, the effects it adds and the checks it passed.

No state and no failure of a primitive is excluded; a handler that aborts makes no turn.
-/

namespace WireguardNx.Runtime

open Wireguard PeerRuntime HandlerState

/-- The peer with a socket asked for under the next socket generation. -/
def PeerRuntime.opening (s : PeerRuntime) (purpose : UdpBindPurpose) : PeerRuntime :=
  { s with
    nextSocketGeneration := followingGeneration s.nextSocketGeneration
    pendingSocketGeneration := s.nextSocketGeneration
    pendingBindPurpose := purpose }

/-- The peer with its local path available. -/
def PeerRuntime.reachable (s : PeerRuntime) (rebindOnPathConfirmation : Bool) : PeerRuntime :=
  { s with
    pathAvailability := .available
    waitingForLocalPath := false
    rebindOnPathConfirmation }

/-- Whether an opened socket is the one the peer asked for last. -/
def PeerRuntime.awaits (s : PeerRuntime) (event : UdpBindOpenedEvent) : Bool :=
  decide (event.socketGeneration ≠ 0) &&
    s.isCurrentPathRequest event.peer.activationGeneration event.pathGeneration &&
    decide (event.socketGeneration = s.pendingSocketGeneration) &&
    decide (event.purpose = s.pendingBindPurpose)

def PeerEvent.isAnswer : PeerEvent → Bool
  | .endpointResolved _ | .udpBindOpened _ => true
  | _ => false

def PeerEvent.isTraffic : PeerEvent → Bool
  | .transportFailure _ | .encryptedDatagramReceived _ | .pendingDatagramSent _
  | .innerPacketStaged _ | .innerPacketBatchStaged _ | .processOutboundQueue _
  | .protocolTimerExpired _ => true
  | _ => false

/-- Whether an event tells about the path or asks for another socket. -/
def PeerEvent.isPathEvent : PeerEvent → Bool
  | .networkPathAvailabilityChanged _ | .udpRebindRequested _ => true
  | _ => false

/-- The socket a binding holds, as the effect that closes it. -/
def PeerRuntime.closing (s : PeerRuntime) : List RuntimeEffect :=
  if s.binding.socket ≠ invalidSocket then
    [.closeUdpSocket s.pathRequestGeneration s.binding.socket]
  else []

/-- What an event can do to a peer. -/
inductive Turn (c : Crypto) (p : Platform) (s : PeerRuntime) : PeerEvent → HandlerState → Prop
  | idle (event : PeerEvent) (hevent : event.isAnswer = false) : Turn c p s event ⟨s, []⟩
  | traffic (event : PeerEvent) (st : HandlerState) (hevent : event.isTraffic = true)
      (hcurrent : s.isCurrentActivation event.identity.activationGeneration = true)
      (h : Traffic c p event.identity ⟨s, []⟩ st)
      (henters : s.SlotSound → Enters c s event st) : Turn c p s event st
  /-- The configuration is not usable. -/
  | refuse (event : ActivationRequestedEvent) (stage : PeerErrorStage) (code : PeerErrorCode)
      (hconfig : s.validateConfiguration ≠ .none) :
      Turn c p s (.activationRequested event)
        (enterActivationError ⟨s, []⟩ stage code event.occurredAt)
  | activate (event : ActivationRequestedEvent) (hconfig : s.validateConfiguration = .none) :
      Turn c p s (.activationRequested event)
        ⟨s.activated event.occurredAt, [.startNetworkPathRequest
          ⟨event.peerIndex, s.nextActivationGeneration⟩ s.nextPathRequestGeneration]⟩
  | deactivate (event : DeactivationRequestedEvent)
      (hcurrent : s.isCurrentActivation event.peer.activationGeneration = true) :
      Turn c p s (.deactivationRequested event) (s.handleDeactivationRequested event)
  /-- A change that may have invalidated the binding, or the news that nothing changed. -/
  | doubt (event : NetworkPathAvailabilityChangedEvent) (flag : Bool)
      (hcurrent : s.isCurrentPathRequest event.peer.activationGeneration event.pathGeneration = true)
      (havail : s.pathAvailability = .available) :
      Turn c p s (.networkPathAvailabilityChanged event)
        ⟨{ s with rebindOnPathConfirmation := flag }, []⟩
  | lose (event : NetworkPathAvailabilityChangedEvent)
      (hcurrent :
        s.isCurrentPathRequest event.peer.activationGeneration event.pathGeneration = true) :
      Turn c p s (.networkPathAvailabilityChanged event)
        ({ s with pathAvailability := .unavailable }.losePath event.peer)
  /-- The path is available and nothing is asked for, because it was asked for before. -/
  | regain (event : NetworkPathAvailabilityChangedEvent)
      (hcurrent : s.isCurrentPathRequest event.peer.activationGeneration event.pathGeneration = true)
      (hresolving : s.lifecycle.state = .resolvingEndpoint → s.endpointResolutionStarted = true)
      (hsusp : s.binding.suspended = true → s.isInTransportState = true →
        s.binding.hasEndpoint = true → s.pendingSocketGeneration ≠ 0) :
      Turn c p s (.networkPathAvailabilityChanged event)
        ⟨s.reachable s.rebindOnPathConfirmation, []⟩
  | resolve (event : NetworkPathAvailabilityChangedEvent)
      (hcurrent : s.isCurrentPathRequest event.peer.activationGeneration event.pathGeneration = true)
      (hstate : s.lifecycle.state = .resolvingEndpoint) :
      Turn c p s (.networkPathAvailabilityChanged event)
        ⟨{ s.reachable s.rebindOnPathConfirmation with endpointResolutionStarted := true },
          [.resolveEndpoint event.peer s.pathRequestGeneration s.config.endpoint]⟩
  | rebind (event : PeerEvent) (flag : Bool) (hevent : event.isPathEvent = true)
      (hcurrent : s.isCurrentActivation event.identity.activationGeneration = true)
      (htrans : s.isInTransportState = true) (hendpoint : s.binding.hasEndpoint = true)
      (hpath : s.pathRequestGeneration ≠ 0) (hpend : s.pendingSocketGeneration = 0) :
      Turn c p s event
        ⟨(s.reachable flag).opening .rebind,
          [.openUdpBind ⟨event.identity, s.pathRequestGeneration, s.binding.endpoint,
            s.binding.endpointText, s.nextSocketGeneration, s.binding.socket, .rebind⟩]⟩
  | ignore (event : EndpointResolvedEvent)
      (h : s.isCurrentPathRequest event.peer.activationGeneration event.pathGeneration = true →
        s.lifecycle.state = .resolvingEndpoint →
        s.waitingForLocalPath = true ∨ s.pathAvailability ≠ .available) :
      Turn c p s (.endpointResolved event) ⟨s, []⟩
  | unresolved (event : EndpointResolvedEvent) (stage : PeerErrorStage) (code : PeerErrorCode)
      (hcurrent : s.isCurrentPathRequest event.peer.activationGeneration event.pathGeneration = true)
      (hstate : s.lifecycle.state = .resolvingEndpoint) :
      Turn c p s (.endpointResolved event)
        (enterActivationError ⟨s, []⟩ stage code event.occurredAt)
  | bind (event : EndpointResolvedEvent)
      (hcurrent : s.isCurrentPathRequest event.peer.activationGeneration event.pathGeneration = true)
      (hstate : s.lifecycle.state = .resolvingEndpoint) (hwait : s.waitingForLocalPath = false)
      (havail : s.pathAvailability = .available) :
      Turn c p s (.endpointResolved event)
        ⟨opening { s with
            binding := s.binding.setEndpoint event.result.resolved event.result.text } .activation,
          [.openUdpBind ⟨event.peer, s.pathRequestGeneration, event.result.resolved,
            event.result.text, s.nextSocketGeneration, invalidSocket, .activation⟩]⟩
  | stale (event : UdpBindOpenedEvent) (h : s.awaits event = false) :
      Turn c p s (.udpBindOpened event) (s.rejectSocket event)
  /-- The socket is the awaited one, but has no use now. -/
  | drop (event : UdpBindOpenedEvent) (h : s.awaits event = true)
      (hrebind : event.purpose = .rebind → s.isInTransportState = true →
        s.binding.hasEndpoint = true → s.waitingForLocalPath = false →
        s.pathAvailability = .available → event.error ≠ .none ∨ event.socket = invalidSocket)
      (hact : event.purpose = .activation → s.lifecycle.state = .resolvingEndpoint →
        s.waitingForLocalPath = true ∨ s.pathAvailability ≠ .available) :
      Turn c p s (.udpBindOpened event)
        (rejectSocket { s with pendingSocketGeneration := 0 } event)
  /-- The first socket of the activation could not be opened. -/
  | unopened (event : UdpBindOpenedEvent) (h : s.awaits event = true)
      (hstate : s.lifecycle.state = .resolvingEndpoint) :
      Turn c p s (.udpBindOpened event)
        ((rejectSocket { s with pendingSocketGeneration := 0 } event)
          |>.enterActivationError .transport .transportOpenFailed event.occurredAt)
  | rebound (event : UdpBindOpenedEvent) (binding : UdpBinding) (st : HandlerState)
      (h : s.awaits event = true) (hpurpose : event.purpose = .rebind)
      (htrans : s.isInTransportState = true) (hwait : s.waitingForLocalPath = false)
      (havail : s.pathAvailability = .available) (hopened : event.socket ≠ invalidSocket)
      (hsocket : binding.socket = event.socket) (hgen : binding.generation =
        event.socketGeneration) (hsusp : binding.suspended = false)
      (hendpoint : binding.hasEndpoint = true)
      (hrecovered : st =
        recoverTransport c p ⟨s.rebound binding, s.closing⟩ event.peer
          event.occurredAt)
      (htraffic : Traffic c p event.peer ⟨s.rebound binding, s.closing⟩ st) :
      Turn c p s (.udpBindOpened event) (st.add (.queueReceive event.peer))
  | bound (event : UdpBindOpenedEvent) (binding : UdpBinding) (peer : WgPeer) (st : HandlerState)
      (h : s.awaits event = true) (hpurpose : event.purpose = .activation)
      (hstate : s.lifecycle.state = .resolvingEndpoint) (hwait : s.waitingForLocalPath = false)
      (havail : s.pathAvailability = .available) (hopened : event.socket ≠ invalidSocket)
      (hclosed : s.binding.socket = invalidSocket) (hsocket : binding.socket = event.socket)
      (hgen : binding.generation = event.socketGeneration)
      (hsusp : binding.suspended = false) (hendpoint : binding.hasEndpoint = true)
      (hpeer : ∃ key text psk,
        WgPeer.initializePeer c key text psk s.config.persistentKeepalive = some peer)
      (hstart : st = (s.bound binding peer event.occurredAt).sendFirstInitiation c p event)
      (htraffic : Traffic c p event.peer ⟨s.bound binding peer event.occurredAt, []⟩ st) :
      Turn c p s (.udpBindOpened event) st
  /-- The protocol could not be instantiated from the configured keys. -/
  | unkeyed (event : UdpBindOpenedEvent) (binding : UdpBinding) (h : s.awaits event = true)
      (hpurpose : event.purpose = .activation) (hstate : s.lifecycle.state = .resolvingEndpoint)
      (hopened : event.socket ≠ invalidSocket) (hclosed : s.binding.socket = invalidSocket)
      (hsocket : binding.socket = event.socket) :
      Turn c p s (.udpBindOpened event) (enterActivationError
        ⟨(s.rebound binding).resetProtocol, []⟩ .config .keyInvalid event.occurredAt)

section Turns

variable {c : Crypto} {p : Platform} {s : PeerRuntime} {st : HandlerState} {live : Prop}
  {event : UdpBindOpenedEvent}

theorem isAnswer_of_isTraffic {event : PeerEvent} (h : event.isTraffic) :
    event.isAnswer = false := by
  cases event with
  | endpointResolved | udpBindOpened => cases h
  | _ => rfl

theorem Turn.ofIdles {event : PeerEvent} (h : Idles c p s event st)
    (hevent : event.isTraffic) : Turn c p s event st := by
  obtain rfl | ⟨hcurrent, entry, hentry, hfirst, hwork⟩ := h
  · exact .idle event (isAnswer_of_isTraffic hevent)
  · exact .traffic event st hevent hcurrent (hfirst.trans hwork.traffic)
      fun hslot => ⟨entry, hentry, hwork.moves hslot⟩

theorem isCurrentActivation_of_isCurrentPathRequest {activation path : UInt32}
    (h : s.isCurrentPathRequest activation path) : s.isCurrentActivation activation := by
  unfold isCurrentPathRequest at h
  rw [Bool.and_eq_true, Bool.and_eq_true] at h
  exact h.1.1

theorem path_of_isCurrentPathRequest {activation path : UInt32}
    (h : s.isCurrentPathRequest activation path) :
    path = s.pathRequestGeneration ∧ s.pathRequestGeneration ≠ 0 := by
  unfold isCurrentPathRequest at h
  simp only [Bool.and_eq_true, decide_eq_true_eq] at h
  exact ⟨h.2, h.2 ▸ h.1.2⟩

theorem isCurrentActivation_of_awaits (h : s.awaits event) :
    s.isCurrentActivation event.peer.activationGeneration := by
  unfold awaits at h
  simp only [Bool.and_eq_true] at h
  exact isCurrentActivation_of_isCurrentPathRequest h.1.1.2

/-! ## Requests -/

/-- A request for another socket is taken up, or refused for one of the reasons listed. -/
theorem handleUdpRebindRequested_cases (event : UdpRebindRequestedEvent) :
    (s.handleUdpRebindRequested event = ⟨s, []⟩ ∧
      (s.isCurrentActivation event.peer.activationGeneration →
        s.isInTransportState → s.binding.hasEndpoint →
        s.waitingForLocalPath = false → s.pathAvailability = .available →
        s.pathRequestGeneration ≠ 0 → s.pendingSocketGeneration ≠ 0)) ∨
      (s.handleUdpRebindRequested event =
          ⟨s.opening .rebind, [.openUdpBind ⟨event.peer, s.pathRequestGeneration,
            s.binding.endpoint, s.binding.endpointText, s.nextSocketGeneration, s.binding.socket,
            .rebind⟩]⟩ ∧
        s.isCurrentActivation event.peer.activationGeneration ∧
        s.isInTransportState ∧ s.binding.hasEndpoint ∧
        s.waitingForLocalPath = false ∧ s.pathAvailability = .available ∧
        s.pathRequestGeneration ≠ 0 ∧ s.pendingSocketGeneration = 0) := by
  unfold handleUdpRebindRequested
  by_cases hfirst : s.isCurrentActivation event.peer.activationGeneration = false ∨
      s.isInTransportState = false ∨ s.binding.hasEndpoint = false
  · rw [if_pos hfirst]
    refine .inl ⟨rfl, fun hact htrans hendpoint => ?_⟩
    rcases hfirst with h | h | h
    · rw [h] at hact; cases hact
    · rw [h] at htrans; cases htrans
    · rw [h] at hendpoint; cases hendpoint
  rw [if_neg hfirst]
  by_cases hsecond : s.waitingForLocalPath ∨ s.pathAvailability ≠ .available ∨
      s.pathRequestGeneration = 0 ∨ s.pendingSocketGeneration ≠ 0
  · rw [if_pos hsecond]
    refine .inl ⟨rfl, fun _ _ _ hwait havail hpath => ?_⟩
    rcases hsecond with h | h | h | h
    · rw [h] at hwait; cases hwait
    · exact absurd havail h
    · exact absurd h hpath
    · exact h
  · rw [if_neg hsecond]
    simp only [not_or, Bool.not_eq_false, Bool.not_eq_true, not_not] at hfirst hsecond
    exact .inr ⟨rfl, hfirst.1, hfirst.2.1, hfirst.2.2, hsecond.1, hsecond.2.1, hsecond.2.2.1,
      hsecond.2.2.2⟩

/-- A peer whose path is available already. -/
theorem reachable_of_available (hwait : s.waitingForLocalPath = false)
    (havail : s.pathAvailability = .available) (flag : Bool) :
    s.reachable flag = { s with rebindOnPathConfirmation := flag } := by
  unfold reachable
  rw [← havail, ← hwait]

private theorem handleUdpRebindRequested_turn {event : UdpRebindRequestedEvent} :
    Turn c p s (.udpRebindRequested event) (s.handleUdpRebindRequested event) := by
  obtain ⟨heq, -⟩ | ⟨heq, hcurrent, htrans, hendpoint, hwait, havail, hpath, hpend⟩ :=
    handleUdpRebindRequested_cases event
  · rw [heq]; exact .idle _ rfl
  · have hturn : Turn c p s (.udpRebindRequested event) _ :=
      .rebind _ s.rebindOnPathConfirmation rfl hcurrent htrans hendpoint hpath hpend
    rw [reachable_of_available hwait havail] at hturn
    rw [heq]
    exact hturn

private theorem gainPath_turn {event : NetworkPathAvailabilityChangedEvent} (hcurrent :
      s.isCurrentPathRequest event.peer.activationGeneration event.pathGeneration) :
    Turn c p s (.networkPathAvailabilityChanged event)
      ({ s with pathAvailability := .available }.gainPath event) := by
  unfold gainPath
  simp only
  split
  · rename_i hstate
    exact .resolve event hcurrent hstate.2
  rename_i hstarted
  have hresolving : s.lifecycle.state = .resolvingEndpoint →
      s.endpointResolutionStarted := fun hstate => by
    by_contra hnot
    exact hstarted ⟨Bool.eq_false_iff.mpr hnot, hstate⟩
  split
  · obtain ⟨heq, hrefused⟩ | ⟨heq, hact, htrans, hendpoint, -, -, hpath, hpend⟩ :=
      handleUdpRebindRequested_cases (s := s.reachable s.rebindOnPathConfirmation)
        ⟨event.peer, event.occurredAt⟩
    · refine heq ▸ .regain event hcurrent hresolving fun _ htrans hendpoint => ?_
      exact hrefused (isCurrentActivation_of_isCurrentPathRequest hcurrent) htrans hendpoint
        rfl rfl (path_of_isCurrentPathRequest hcurrent).2
    · exact heq ▸ .rebind (.networkPathAvailabilityChanged event) s.rebindOnPathConfirmation rfl
        hact htrans hendpoint hpath hpend
  · rename_i hnot
    exact .regain event hcurrent hresolving fun hsusp htrans hendpoint =>
      absurd ⟨hsusp, htrans, hendpoint⟩ hnot

private theorem handleNetworkPathAvailabilityChanged_turn
    {event : NetworkPathAvailabilityChangedEvent} :
    Turn c p s (.networkPathAvailabilityChanged event)
      (s.handleNetworkPathAvailabilityChanged event) := by
  unfold handleNetworkPathAvailabilityChanged
  split
  · exact .idle _ rfl
  rename_i hcurrent
  rw [Bool.not_eq_false] at hcurrent
  split
  · split
    · rename_i hdoubt
      exact .doubt event true hcurrent hdoubt.1
    · exact .idle _ rfl
  rename_i hknown
  split
  · rename_i hsame
    split
    · rename_i hconfirm
      have havail : s.pathAvailability = .available := hsame.symm.trans hconfirm.1
      obtain ⟨heq, -⟩ | ⟨heq, hact, htrans, hendpoint, hwait, -, hpath, hpend⟩ :=
        handleUdpRebindRequested_cases (s := { s with rebindOnPathConfirmation := false })
          ⟨event.peer, event.occurredAt⟩
      · rw [heq]
        exact .doubt event false hcurrent havail
      · have hturn : Turn c p s (.networkPathAvailabilityChanged event) _ :=
          .rebind _ false rfl hact htrans hendpoint hpath hpend
        rw [reachable_of_available (s := s) hwait havail] at hturn
        rw [heq]
        exact hturn
    · exact .idle _ rfl
  simp only
  split
  · rename_i hunavailable
    rw [hunavailable]
    exact .lose event hcurrent
  · rename_i hother
    have havail : event.availability = .available := by
      cases hcase : event.availability with
      | unknown => exact absurd hcase hknown
      | unavailable => exact absurd hcase hother
      | available => rfl
    rw [havail]
    exact gainPath_turn hcurrent

private theorem handleEndpointResolved_turn {event : EndpointResolvedEvent} :
    Turn c p s (.endpointResolved event) (s.handleEndpointResolved event) := by
  unfold handleEndpointResolved
  split
  · rename_i hchecks
    refine .ignore event fun hcurrent hstate => ?_
    exact (hchecks.resolve_left (by simp [hcurrent])).resolve_left (not_not.mpr hstate)
  rename_i hchecks
  simp only [not_or, Bool.not_eq_false, Bool.not_eq_true, not_not] at hchecks
  split
  · exact .unresolved event _ _ hchecks.1 hchecks.2.1
  · exact .bind event hchecks.1 hchecks.2.1 hchecks.2.2.1 hchecks.2.2.2

/-! ## Answers -/

theorem adoptOpenSocket_cases {binding after : UdpBinding} {endpoint : Endpoint} {text : List Char}
    {generation : UInt32} {socket : SocketHandle}
    (h : binding.adoptOpenSocket endpoint text generation socket = some after) :
    binding.socket = invalidSocket ∧ after.socket = socket ∧ after.generation = generation ∧
      after.suspended = false ∧ after.hasEndpoint := by
  unfold UdpBinding.adoptOpenSocket at h
  split at h
  · cases h
  · rename_i hclosed
    cases h
    exact ⟨not_not.mp hclosed, rfl, rfl, rfl, rfl⟩

private theorem completeRebind_turn (h : s.awaits event) (hpurpose : event.purpose = .rebind)
    (hst : completeRebind c p { s with pendingSocketGeneration := 0 } event = some st) :
    Turn c p s (.udpBindOpened event) st := by
  have hnot : event.purpose = .activation → s.lifecycle.state = .resolvingEndpoint →
      s.waitingForLocalPath ∨ s.pathAvailability ≠ .available := fun hother => by
    rw [hpurpose] at hother; cases hother
  unfold completeRebind at hst
  split at hst
  · rename_i hchecks
    cases hst
    refine .drop event h (fun _ htrans hendpoint hwait havail => ?_) hnot
    have hact := isCurrentActivation_of_awaits h
    rcases hchecks with hcheck | hcheck | hcheck | hcheck | hcheck
    · exact Bool.noConfusion (hcheck.symm.trans hact)
    · exact Bool.noConfusion (hcheck.symm.trans htrans)
    · exact Bool.noConfusion (hcheck.symm.trans hendpoint)
    · exact Bool.noConfusion (hcheck.symm.trans hwait)
    · exact absurd havail hcheck
  rename_i hchecks
  simp only [not_or, Bool.not_eq_false, Bool.not_eq_true, not_not] at hchecks
  split at hst
  · rename_i hfailed
    cases hst
    exact .drop event h (fun _ _ _ _ _ => hfailed) hnot
  rename_i hopened
  rw [not_or] at hopened
  simp only at hst
  split at hst
  · cases hst
  rename_i binding hadopt
  obtain ⟨-, hsocket, hgen, hsusp, hendpoint⟩ := adoptOpenSocket_cases hadopt
  cases hst
  exact .rebound event binding _ h hpurpose hchecks.2.1 hchecks.2.2.2.1 hchecks.2.2.2.2 hopened.2
    hsocket hgen hsusp hendpoint rfl
    (recoverTransport_sending False.elim event.occurredAt).work.traffic

/-- A fresh protocol peer, or none and a reset protocol. -/
theorem instantiateProtocol_cases {after : PeerRuntime} {ok : Bool}
    (h : s.instantiateProtocol c = (ok, after)) : (ok = false ∧ after = s.resetProtocol) ∨
      (ok ∧ ∃ peer, (∃ key text psk,
          WgPeer.initializePeer c key text psk s.config.persistentKeepalive = some peer) ∧
        after = { s with
          device := { WgDevice.reset with peer, hasPeer := true }, instantiated := true }) := by
  unfold instantiateProtocol WgDevice.initFromParsedConfig at h
  simp only at h
  split at h
  · cases h; exact .inl ⟨rfl, rfl⟩
  split at h
  · rename_i hinit
    split at hinit
    · cases hinit; cases h; exact .inl ⟨rfl, rfl⟩
    split at hinit
    · cases hinit; cases h; exact .inl ⟨rfl, rfl⟩
    · cases hinit
  · rename_i hinit
    split at hinit
    · cases hinit
    split at hinit
    · cases hinit
    · rename_i peer hpeer
      cases hinit; cases h
      exact .inr ⟨rfl, peer, ⟨_, _, _, hpeer⟩, rfl⟩

theorem enterHandshaking_spec {after : PeerRuntime} {ok : Bool} {generation : UInt32} {now : Ktime}
    (h : s.enterHandshaking generation now = (ok, after))
    (hact : s.isCurrentActivation generation)
    (hstate : s.lifecycle.state = .resolvingEndpoint) :
    ok ∧ after = { s with lifecycle := { s.lifecycle with
      state := .handshaking, errorStage := .none, lastErrorCode := .none,
      stateChangedNs := now } } := by
  unfold enterHandshaking at h
  split at h
  · rename_i hnot
    rcases hnot with hnot | hnot
    · rw [hact] at hnot; cases hnot
    · exact absurd hstate hnot
  · cases h; exact ⟨rfl, rfl⟩

theorem sendFirstInitiation_sending (hcur : live → Current event.peer ⟨s, []⟩) :
    Sending c p event.peer live ⟨s, []⟩ (s.sendFirstInitiation c p event) := by
  unfold sendFirstInitiation
  simp only
  have hstarted : Sent c p event.peer live ⟨s, []⟩ ⟨{ s with
      device := (if s.hasProtocolPeer = true then startHandshake c p s.device
        else (.fatal, s.device)).2 }, []⟩ := by
    split
    · exact .operate hcur (.start s.device)
    · exact .refl hcur
  revert hstarted
  generalize (if s.hasProtocolPeer = true then startHandshake c p s.device
    else (.fatal, s.device)) = started
  obtain ⟨action, device⟩ := started
  intro hstarted
  simp only
  split
  · exact hstarted.sending.tail (.fail _ _ _ _)
  split
  · rename_i hprep
    obtain ⟨-, rfl⟩ | ⟨hok, -⟩ := prepareHandshakeInitiation_cases hprep
    · exact hstarted.sending.tail (.fail _ _ _ _)
    · cases hok
  · rename_i hprep
    obtain ⟨hok, -⟩ | ⟨-, hpend, bytes, rfl⟩ := prepareHandshakeInitiation_cases hprep
    · cases hok
    · exact (hstarted.fill bytes hpend (by nofun)).sending

private theorem completeActivationBind_turn (h : s.awaits event)
    (hpurpose : event.purpose = .activation)
    (hst : completeActivationBind c p { s with pendingSocketGeneration := 0 } event = some st) :
    Turn c p s (.udpBindOpened event) st := by
  unfold completeActivationBind at hst
  have hcurrent := isCurrentActivation_of_awaits h
  split at hst
  · rename_i hchecks
    cases hst
    refine .drop event h (fun hother => by rw [hpurpose] at hother; cases hother)
      fun _ hstate => ?_
    have hrest := hchecks.resolve_left fun hcheck =>
      Bool.noConfusion (hcheck.symm.trans hcurrent)
    exact hrest.resolve_left (not_not.mpr hstate)
  rename_i hchecks
  simp only [not_or, Bool.not_eq_false, Bool.not_eq_true, not_not] at hchecks
  obtain ⟨hact, hstate, hwait, havail⟩ := hchecks
  split at hst
  · cases hst; exact .unopened event h hstate
  rename_i hopened
  rw [not_or] at hopened
  split at hst
  · cases hst
  rename_i binding hadopt
  obtain ⟨hclosed, hsocket, hgen, hsusp, hendpoint⟩ := adoptOpenSocket_cases hadopt
  cases hst
  unfold beginHandshaking
  split
  · rename_i hinstantiate
    obtain ⟨-, rfl⟩ | ⟨hok, -⟩ := instantiateProtocol_cases hinstantiate
    · exact .unkeyed event binding h hpurpose hstate hopened.2 hclosed hsocket
    · cases hok
  · rename_i hinstantiate
    obtain ⟨hok, -⟩ | ⟨-, peer, hpeer, rfl⟩ := instantiateProtocol_cases hinstantiate
    · cases hok
    split
    · rename_i henter
      obtain ⟨hok, -⟩ := enterHandshaking_spec henter hact hstate
      cases hok
    · rename_i henter
      obtain ⟨-, rfl⟩ := enterHandshaking_spec henter hact hstate
      exact .bound event binding peer _ h hpurpose hstate hwait havail hopened.2 hclosed
        hsocket hgen hsusp hendpoint hpeer rfl
        (sendFirstInitiation_sending False.elim).work.traffic

private theorem handleUdpBindOpened_turn (hst : s.handleUdpBindOpened c p event = some st) :
    Turn c p s (.udpBindOpened event) st := by
  unfold handleUdpBindOpened at hst
  split at hst
  · rename_i hstale
    cases hst
    refine .stale event (Bool.eq_false_iff.mpr fun hawaits => ?_)
    unfold awaits at hawaits
    simp only [Bool.and_eq_true, decide_eq_true_eq] at hawaits
    rcases hstale with hcheck | hcheck | hcheck | hcheck
    · exact hawaits.1.1.1 hcheck
    · rw [hcheck] at hawaits; cases hawaits.1.1.2
    · exact hcheck hawaits.1.2
    · exact hcheck hawaits.2
  rename_i hchecks
  have hawaits : s.awaits event := by
    unfold awaits
    simp only [not_or, Bool.not_eq_false, not_not] at hchecks
    simp only [Bool.and_eq_true, decide_eq_true_eq]
    exact ⟨⟨⟨hchecks.1, hchecks.2.1⟩, hchecks.2.2.1⟩, hchecks.2.2.2⟩
  simp only at hst
  split at hst
  · rename_i hpurpose
    exact completeRebind_turn hawaits hpurpose hst
  · rename_i hpurpose
    exact completeActivationBind_turn hawaits hpurpose hst

/-- Every event is one of the turns. -/
theorem handleEvent_turn {event : PeerEvent} (h : s.handleEvent c p event = some st) :
    Turn c p s event st := by
  cases event with
  | activationRequested event =>
    cases h
    unfold handleActivationRequested
    simp only
    split
    · rename_i hconfig
      exact .refuse event _ _ hconfig
    · rename_i hconfig
      exact .activate event (not_not.mp hconfig)
  | deactivationRequested event =>
    cases h
    by_cases hcurrent : s.isCurrentActivation event.peer.activationGeneration
    · exact .deactivate event hcurrent
    · unfold handleDeactivationRequested
      rw [if_pos (Bool.eq_false_iff.mpr hcurrent)]
      exact .idle _ rfl
  | networkPathRequestStarted event => cases h; exact .idle _ rfl
  | networkPathAvailabilityChanged event =>
    cases h; exact handleNetworkPathAvailabilityChanged_turn
  | transportFailure event => cases h; exact .ofIdles (handleTransportFailure_idles event) rfl
  | endpointResolved event => cases h; exact handleEndpointResolved_turn
  | udpBindOpened event => exact handleUdpBindOpened_turn h
  | udpRebindRequested event => cases h; exact handleUdpRebindRequested_turn
  | encryptedDatagramReceived event =>
    cases h; exact .ofIdles (handleEncryptedDatagram_idles event) rfl
  | pendingDatagramSent event => cases h; exact .ofIdles (handlePendingDatagramSent_idles event) rfl
  | innerPacketStaged event => cases h; exact .ofIdles (handleInnerPacketStaged_sends event).idles rfl
  | innerPacketBatchStaged event => exact .ofIdles (handleInnerPacketBatchStaged_sends h).idles rfl
  | processOutboundQueue event =>
    cases h; exact .ofIdles (handleProcessOutboundQueue_sends event).idles rfl
  | protocolTimerExpired event => cases h; exact .ofIdles (handleProtocolTimerExpired_idles event) rfl

/-! ## Turns as entries and moves -/

/-- A path that is lost takes an open socket with it, and the timers of its traffic. -/
theorem losePath_cases (s : PeerRuntime) (identity : PeerIdentity) :
    (¬ (s.binding.isOpen ∧ s.binding.suspended = false) ∧ s.losePath identity =
      ⟨{ s with rebindOnPathConfirmation := false, waitingForLocalPath := true }, []⟩) ∨
    (s.binding.isOpen ∧ s.binding.suspended = false ∧ s.losePath identity =
      ⟨{ s with
          rebindOnPathConfirmation := false
          waitingForLocalPath := true
          binding := s.binding.releaseAndSuspend },
        [.cancelProtocolTimer identity .retransmitHandshake .empty,
          .cancelProtocolTimer identity .sendKeepalive .empty,
          .cancelProtocolTimer identity .newHandshake .empty,
          .cancelProtocolTimer identity .persistentKeepalive .empty,
          .closeUdpSocket s.pathRequestGeneration s.binding.socket]⟩) := by
  unfold losePath suspendTransport
  simp only
  split
  · rename_i hopen
    split
    · rename_i hsusp
      exact .inl ⟨fun h => Bool.false_ne_true (h.2.symm.trans hsusp), rfl⟩
    · rename_i hsusp
      rw [if_pos (of_decide_eq_true hopen)]
      exact .inr ⟨hopen, Bool.eq_false_iff.mpr hsusp, rfl⟩
  · rename_i hclosed
    exact .inl ⟨fun h => hclosed h.1, rfl⟩

private theorem losePath_moves {identity : PeerIdentity} :
    Moves c identity ⟨s, []⟩ (s.losePath identity) := by
  have hnoted : Moves c identity ⟨s, []⟩
      ⟨{ s with rebindOnPathConfirmation := false, waitingForLocalPath := true }, []⟩ :=
    Moves.note (.of_core rfl)
  rcases losePath_cases s identity with ⟨-, heq⟩ | ⟨-, -, heq⟩
  · rw [heq]
    exact hnoted
  · rw [heq]
    have hcancels := (((hnoted.trans (Moves.cancel .retransmitHandshake)).trans
      (Moves.cancel .sendKeepalive)).trans (Moves.cancel .newHandshake)).trans
      (Moves.cancel .persistentKeepalive)
    exact (hcancels.tail (Move.suspend _)).tail (Move.emit _ _ rfl)

theorem rejectSocket_moves : Moves c event.peer ⟨s, []⟩ (s.rejectSocket event) := by
  unfold rejectSocket
  split
  · exact Moves.emit _ rfl
  · exact .refl

theorem isOpen_of_socket {binding : UdpBinding} {socket : SocketHandle}
    (hsocket : binding.socket = socket) (hvalid : socket ≠ invalidSocket) : binding.isOpen := by
  unfold UdpBinding.isOpen
  rw [hsocket]
  exact decide_eq_true hvalid

/-- Every turn makes its entry and goes on with moves. -/
theorem Turn.enters {event : PeerEvent} (h : Turn c p s event st) (hslot : s.SlotSound) :
    Enters c s event st := by
  -- the answer to a request for a socket is taken off first
  have hcleared (event : UdpBindOpenedEvent) : Moves c event.peer ⟨s, []⟩
      (rejectSocket { s with pendingSocketGeneration := 0 } event) := by
    have hnoted : Moves c event.peer ⟨s, []⟩ ⟨{ s with pendingSocketGeneration := 0 }, []⟩ :=
      Moves.note (.of_core rfl)
    exact hnoted.trans rejectSocket_moves
  have hnote (after : PeerRuntime) (hcore : after.core = s.core) :
      Moves c event.identity ⟨s, []⟩ ⟨after, []⟩ :=
    Moves.note (.of_core hcore)
  have hask (after : PeerRuntime) (effect : RuntimeEffect) (hcore : after.core = s.core)
      (hsend : effect.isSend = false) : Moves c event.identity ⟨s, []⟩ ⟨after, [effect]⟩ :=
    (hnote after hcore).tail (.emit ⟨after, []⟩ effect hsend)
  cases h with
  | idle | ignore => exact .stay .refl
  | traffic _ _ _ _ _ henters => exact henters hslot
  | refuse | unresolved => exact .stay (Moves.fail _ _ _)
  | activate event hconfig => exact ⟨_, .activated event hconfig, .refl⟩
  | deactivate event hcurrent => exact ⟨_, .deactivated event hcurrent, .refl⟩
  | doubt | regain => exact .stay (hnote _ rfl)
  | lose event =>
    exact .stay ((hnote { s with pathAvailability := .unavailable } rfl).trans
      losePath_moves)
  | resolve | rebind | bind => exact .stay (hask _ _ rfl rfl)
  | stale event => exact .stay rejectSocket_moves
  | drop event => exact .stay (hcleared event)
  | unopened event => exact .stay ((hcleared event).tail (.fail _ _ _ _))
  | rebound event binding st h _ htrans _ _ hopened hsocket _ hsusp _ hrecovered =>
    have hact := eq_of_isCurrentActivation (isCurrentActivation_of_awaits h)
    have hcur : Current event.peer ⟨s.rebound binding, s.closing⟩ :=
      ⟨htrans, hact⟩
    have hmoves : Moves c event.peer ⟨s.rebound binding, s.closing⟩ st :=
      hrecovered ▸ (recoverTransport_sending (fun _ => hcur) _).work.moves trivial
    exact ⟨_, .rebound event binding htrans (isOpen_of_socket hsocket hopened) hsusp,
      hmoves.tail (.emit _ _ rfl)⟩
  | bound event binding peer _ h _ hstate _ _ hopened _ hsocket _ hsusp _ hpeer hstart =>
    obtain ⟨key, text, psk, hpeer⟩ := hpeer
    have hact := eq_of_isCurrentActivation (isCurrentActivation_of_awaits h)
    have hcur : Current event.peer ⟨s.bound binding peer event.occurredAt, []⟩ :=
      ⟨rfl, hact⟩
    refine ⟨_, .bound event binding peer hstate (isOpen_of_socket hsocket hopened) hsusp
      ⟨key, text, psk, _, hpeer⟩, ?_⟩
    exact hstart ▸ (sendFirstInitiation_sending fun _ => hcur).work.moves trivial
  | unkeyed event binding _ _ hstate => exact ⟨_, .unbound event binding hstate, .refl⟩

/-- Every handler makes its entry and goes on with moves. -/
theorem handleEvent_enters {event : PeerEvent} (hslot : s.SlotSound)
    (h : s.handleEvent c p event = some st) : Enters c s event st :=
  (handleEvent_turn h).enters hslot

end Turns

end WireguardNx.Runtime
