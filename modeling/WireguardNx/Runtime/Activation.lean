import WireguardNx.Runtime.PeerTimers

/-!
# Activation, the local path and the UDP binding

The handlers of `activation.cpp`: activation and deactivation, observations of the local network
path, endpoint resolution, and sockets that were opened or failed.
-/

namespace WireguardNx.Runtime

open Wireguard

def mapSocketError : SocketError → PeerErrorCode
  | .none => .none
  | .transportInitFailed => .transportInitFailed
  | .openFailed => .transportOpenFailed
  | .sendFailed => .transportSendFailed
  | .receiveFailed => .transportReceiveFailed
  | .invalidEndpoint => .internalFailure

namespace PeerRuntime

/-! ## Activation -/

variable (c : Crypto) (p : Platform) (s : PeerRuntime)

/-- The peer after an activation request with a usable configuration. -/
def activated (now : Ktime) : PeerRuntime :=
  let s := { s with
    binding := s.binding.clearEndpoint
    pendingDatagram := none
    pendingSocketGeneration := 0
    decryptedPacket := .empty }
  let s := s.resetProtocol.beginActivation now
  { s with
    pathRequestGeneration := s.nextPathRequestGeneration
    nextPathRequestGeneration := followingGeneration s.nextPathRequestGeneration
    pathAvailability := .unknown
    rebindOnPathConfirmation := false
    waitingForLocalPath := true
    endpointResolutionStarted := false
    receiveStarted := false }

/-- `HandleEvent(ActivationRequestedEvent)`. -/
def handleActivationRequested (event : ActivationRequestedEvent) : HandlerState :=
  let configError := s.validateConfiguration
  if configError ≠ .none then
    HandlerState.enterActivationError ⟨s, []⟩
      (if configError = .configInvalid then .config else .resolveEndpoint) configError
      event.occurredAt
  else
    let s := s.activated event.occurredAt
    ⟨s, [.startNetworkPathRequest ⟨event.peerIndex, s.lifecycle.activationGeneration⟩
      s.pathRequestGeneration]⟩

/-- Cancel one timer outright, as a deactivation does. -/
def deactivateTimer (st : HandlerState) (identity : PeerIdentity) (hook : TimerHook) :
    HandlerState :=
  let peer := st.runtime.device.peer
  let (token, timers) := st.runtime.timers.cancel hook
  ⟨{ st.runtime.withPeer { peer with timers := peer.timers.cancel hook } with timers },
    st.effects ++ [.cancelProtocolTimer identity hook token]⟩

/-- `HandleEvent(DeactivationRequestedEvent)`. -/
def handleDeactivationRequested (event : DeactivationRequestedEvent) : HandlerState :=
  if s.isCurrentActivation event.peer.activationGeneration = false then ⟨s, []⟩
  else
    let st : HandlerState := ⟨s, []⟩
    let st :=
      if s.pathRequestGeneration ≠ 0 then
        st.add (.stopNetworkPathRequest event.peer s.pathRequestGeneration)
      else st
    let st :=
      if s.binding.isOpen then
        ⟨{ s with binding := s.binding.releaseSocket },
          st.effects ++ [.closeUdpSocket s.pathRequestGeneration s.binding.socket]⟩
      else st
    let st :=
      if st.runtime.hasProtocolPeer then
        timerHooks.foldl (fun st hook => deactivateTimer st event.peer hook) st
      else st
    { st with runtime := st.runtime.deactivate event.occurredAt }

/-! ## The local path -/

/-- `HandleEvent(NetworkPathRequestStartedEvent)`, which only logs. -/
def handleNetworkPathRequestStarted (_ : NetworkPathRequestStartedEvent) : HandlerState := ⟨s, []⟩

/-- `HandleEvent(UdpRebindRequestedEvent)`. -/
def handleUdpRebindRequested (event : UdpRebindRequestedEvent) : HandlerState :=
  if s.isCurrentActivation event.peer.activationGeneration = false ∨
      s.isInTransportState = false ∨ s.binding.hasEndpoint = false then
    ⟨s, []⟩
  else if s.waitingForLocalPath ∨ s.pathAvailability ≠ .available ∨
      s.pathRequestGeneration = 0 ∨ s.pendingSocketGeneration ≠ 0 then
    ⟨s, []⟩
  else
    ⟨{ s with
        nextSocketGeneration := followingGeneration s.nextSocketGeneration
        pendingSocketGeneration := s.nextSocketGeneration
        pendingBindPurpose := .rebind },
      [.openUdpBind ⟨event.peer, s.pathRequestGeneration, s.binding.endpoint,
        s.binding.endpointText, s.nextSocketGeneration, s.binding.socket, .rebind⟩]⟩

/-- The local path became unavailable. -/
def losePath (identity : PeerIdentity) : HandlerState :=
  let s := { s with rebindOnPathConfirmation := false, waitingForLocalPath := true }
  if s.binding.isOpen then HandlerState.suspendTransport ⟨s, []⟩ identity else ⟨s, []⟩

/-- The local path became available. -/
def gainPath (event : NetworkPathAvailabilityChangedEvent) : HandlerState :=
  let s := { s with waitingForLocalPath := false }
  if s.endpointResolutionStarted = false ∧ s.lifecycle.state = .resolvingEndpoint then
    ⟨{ s with endpointResolutionStarted := true },
      [.resolveEndpoint event.peer s.pathRequestGeneration s.config.endpoint]⟩
  else if s.binding.suspended ∧ s.isInTransportState ∧ s.binding.hasEndpoint then
    s.handleUdpRebindRequested ⟨event.peer, event.occurredAt⟩
  else ⟨s, []⟩

/-- `HandleEvent(NetworkPathAvailabilityChangedEvent)`. -/
def handleNetworkPathAvailabilityChanged (event : NetworkPathAvailabilityChangedEvent) :
    HandlerState :=
  if s.isCurrentPathRequest event.peer.activationGeneration event.pathGeneration = false then
    ⟨s, []⟩
  else if event.availability = .unknown then
    if s.pathAvailability = .available ∧ s.isInTransportState ∧ s.binding.isOpen ∧
        s.rebindOnPathConfirmation = false then
      ⟨{ s with rebindOnPathConfirmation := true }, []⟩
    else ⟨s, []⟩
  else if event.availability = s.pathAvailability then
    if event.availability = .available ∧ s.rebindOnPathConfirmation then
      { s with rebindOnPathConfirmation := false }.handleUdpRebindRequested
        ⟨event.peer, event.occurredAt⟩
    else ⟨s, []⟩
  else
    let s := { s with pathAvailability := event.availability }
    if event.availability = .unavailable then s.losePath event.peer else s.gainPath event

/-! ## Sockets -/

/-- `HandleEvent(TransportFailureEvent)`. -/
def handleTransportFailure (event : TransportFailureEvent) : HandlerState :=
  if s.isCurrentActivation event.peer.activationGeneration = false ∨
      s.isInTransportState = false ∨
      s.binding.matchesSocket event.socketGeneration event.socket = false then
    ⟨s, []⟩
  else
    let code := mapSocketError event.error
    if code = .none ∨ code = .transportSendFailed ∨ code = .transportReceiveFailed then ⟨s, []⟩
    else HandlerState.enterActivationError ⟨s, []⟩ .transport code event.occurredAt

/-- `HandleEvent(EndpointResolvedEvent)`. -/
def handleEndpointResolved (event : EndpointResolvedEvent) : HandlerState :=
  if s.isCurrentPathRequest event.peer.activationGeneration event.pathGeneration = false ∨
      s.lifecycle.state ≠ .resolvingEndpoint ∨ s.waitingForLocalPath ∨
      s.pathAvailability ≠ .available then
    ⟨s, []⟩
  else if event.result.success = false then
    HandlerState.enterActivationError ⟨s, []⟩ event.result.errorStage event.result.errorCode
      event.occurredAt
  else
    ⟨{ s with
        binding := s.binding.setEndpoint event.result.resolved event.result.text
        nextSocketGeneration := followingGeneration s.nextSocketGeneration
        pendingSocketGeneration := s.nextSocketGeneration
        pendingBindPurpose := .activation },
      [.openUdpBind ⟨event.peer, s.pathRequestGeneration, event.result.resolved, event.result.text,
        s.nextSocketGeneration, invalidSocket, .activation⟩]⟩

/-- Close a socket that was opened for nothing. -/
def rejectSocket (event : UdpBindOpenedEvent) : HandlerState :=
  if event.socket ≠ invalidSocket then
    ⟨s, [.closeUdpSocket s.pathRequestGeneration event.socket]⟩
  else ⟨s, []⟩

/-- A replacement socket was opened; `none` is the abort of `AdoptOpenSocket`. -/
def completeRebind (event : UdpBindOpenedEvent) : Option HandlerState :=
  if s.isCurrentActivation event.peer.activationGeneration = false ∨
      s.isInTransportState = false ∨ s.binding.hasEndpoint = false ∨ s.waitingForLocalPath ∨
      s.pathAvailability ≠ .available then
    some (s.rejectSocket event)
  else if event.error ≠ .none ∨ event.socket = invalidSocket then some (s.rejectSocket event)
  else
    let oldSocket := s.binding.socket
    match s.binding.releaseSocket.adoptOpenSocket event.endpoint event.endpointText
        event.socketGeneration event.socket with
    | none => none
    | some binding =>
      let st : HandlerState :=
        ⟨{ s with binding },
          if oldSocket ≠ invalidSocket then [.closeUdpSocket s.pathRequestGeneration oldSocket]
          else []⟩
      some ((st.recoverTransport c p event.peer event.occurredAt).add (.queueReceive event.peer))

/-- The first initiation of an activation. -/
def sendFirstInitiation (event : UdpBindOpenedEvent) : HandlerState :=
  let (action, device) :=
    if s.hasProtocolPeer then Wireguard.startHandshake c p s.device else (.fatal, s.device)
  let s := { s with device }
  if action ≠ .sendInitiation then
    HandlerState.enterActivationError ⟨s, []⟩ .handshake .handshakeInitFailed event.occurredAt
  else
    match s.prepareHandshakeInitiation .handshakeInitiation with
    | (false, s) =>
      HandlerState.enterActivationError ⟨s, []⟩ .handshake .handshakeInitFailed event.occurredAt
    | (true, s) => HandlerState.addSendPending ⟨s, []⟩ event.peer

/-- The first handshake of an activation, once its socket is held. -/
def beginHandshaking (event : UdpBindOpenedEvent) : HandlerState :=
  match s.instantiateProtocol c with
  | (false, s) => HandlerState.enterActivationError ⟨s, []⟩ .config .keyInvalid event.occurredAt
  | (true, s) =>
    match s.enterHandshaking event.peer.activationGeneration event.occurredAt with
    | (false, s) =>
      ⟨{ s with binding := s.binding.releaseSocket },
        [.closeUdpSocket s.pathRequestGeneration s.binding.socket]⟩
    | (true, s) => s.sendFirstInitiation c p event

/-- The first socket of an activation was opened; `none` is the abort of `AdoptOpenSocket`. -/
def completeActivationBind (event : UdpBindOpenedEvent) : Option HandlerState :=
  if s.isCurrentActivation event.peer.activationGeneration = false ∨
      s.lifecycle.state ≠ .resolvingEndpoint ∨ s.waitingForLocalPath ∨
      s.pathAvailability ≠ .available then
    some (s.rejectSocket event)
  else if event.error ≠ .none ∨ event.socket = invalidSocket then
    some ((s.rejectSocket event).enterActivationError .transport .transportOpenFailed
      event.occurredAt)
  else
    match s.binding.adoptOpenSocket event.endpoint event.endpointText event.socketGeneration
        event.socket with
    | none => none
    | some binding => some ({ s with binding }.beginHandshaking c p event)

/-- `HandleEvent(UdpBindOpenedEvent)`; `none` is the abort of `AdoptOpenSocket`. -/
def handleUdpBindOpened (event : UdpBindOpenedEvent) : Option HandlerState :=
  if event.socketGeneration = 0 ∨
      s.isCurrentPathRequest event.peer.activationGeneration event.pathGeneration = false ∨
      event.socketGeneration ≠ s.pendingSocketGeneration ∨
      event.purpose ≠ s.pendingBindPurpose then
    some (s.rejectSocket event)
  else
    let s := { s with pendingSocketGeneration := 0 }
    match event.purpose with
    | .rebind => s.completeRebind c p event
    | .activation => s.completeActivationBind c p event

end PeerRuntime

end WireguardNx.Runtime
