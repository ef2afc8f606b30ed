import WireguardNx.Runtime.Outbound

/-!
# Protocol timers of a peer

What packets and sessions do to the timers, what an expired timer does, and how the transport is
suspended and recovered (`peer_timers.cpp`).  Handlers add timer effects without tokens;
`finalizeTimerEffects` arms and cancels the timers of a finished batch and fills the tokens in.
-/

namespace WireguardNx.Runtime

open Wireguard

/-! ## Deadlines -/

def handshakeRetryDeadline (facts : TimerFacts) : TimerDeadline :=
  facts.now + getHandshakeRetryDelay facts.randomU32

def keepaliveDeadline (facts : TimerFacts) : TimerDeadline := facts.now + keepaliveTimeout

def newHandshakeDeadline (facts : TimerFacts) : TimerDeadline :=
  facts.now + keepaliveTimeout + getHandshakeRetryDelay facts.randomU32

def PeerRuntime.persistentKeepaliveDeadline (s : PeerRuntime) (facts : TimerFacts) :
    TimerDeadline :=
  facts.now + s.config.persistentKeepalive.toNat * 1000

def zeroKeyMaterialDeadline (facts : TimerFacts) : TimerDeadline :=
  facts.now + zeroKeyMaterialAfterTime

namespace HandlerState

/-! ## Packets and sessions -/

variable (c : Crypto) (p : Platform) (st : HandlerState) (identity : PeerIdentity)

/-- Ask for a timer to be armed; the token is filled in when the batch is finished. -/
def arm (hook : TimerHook) (deadline : TimerDeadline) : HandlerState :=
  st.add (.armProtocolTimer identity hook .empty deadline)

/-- Ask for a timer to be cancelled. -/
def cancel (hook : TimerHook) : HandlerState :=
  st.add (.cancelProtocolTimer identity hook .empty)

def onAuthenticatedPacketTraversal (facts : TimerFacts) : HandlerState :=
  if st.runtime.hasProtocolPeer ∧ 0 < st.runtime.device.peer.persistentKeepaliveInterval then
    st.arm identity .persistentKeepalive (st.runtime.persistentKeepaliveDeadline facts)
  else st

def onAuthenticatedPacketSent : HandlerState :=
  st.cancel identity .sendKeepalive

def onAuthenticatedPacketReceived : HandlerState :=
  st.cancel identity .newHandshake

def refreshKeyFreshness (now : Ktime) : HandlerState :=
  let peer := st.runtime.device.peer
  if st.runtime.hasProtocolPeer = false ∨
      peer.currentKeypair.needsRekeyAt (p.clock .refresh) = false ∨
      st.runtime.pendingDatagram.isSome ∨ peer.handshakeRetry.active then
    st
  else st.startHandshakeOrFail c p identity now

def onDataPacketSent (facts : TimerFacts) : HandlerState :=
  if st.runtime.hasProtocolPeer ∧
      (st.runtime.device.peer.timers.hooks .newHandshake).pending = false then
    st.arm identity .newHandshake (newHandshakeDeadline facts)
  else st

def onDataPacketReceived (facts : TimerFacts) : HandlerState :=
  let peer := st.runtime.device.peer
  if st.runtime.hasProtocolPeer = false then st
  else if (peer.timers.hooks .sendKeepalive).pending then
    { st with runtime := st.runtime.withPeer { peer with
      timers := { peer.timers with needAnotherKeepalive := true } } }
  else st.arm identity .sendKeepalive (keepaliveDeadline facts)

def onSessionDerived (facts : TimerFacts) : HandlerState :=
  st.arm identity .zeroKeyMaterial (zeroKeyMaterialDeadline facts)

def onHandshakeComplete : HandlerState :=
  st.cancel identity .retransmitHandshake

/-! ## Suspension and recovery -/

/-- `SuspendTransport`; the zeroing timer keeps running. -/
def suspendTransport : HandlerState :=
  let binding := st.runtime.binding
  if binding.suspended then st
  else
    let st := (((st.cancel identity .retransmitHandshake).cancel identity .sendKeepalive).cancel
      identity .newHandshake).cancel identity .persistentKeepalive
    let st := { st with runtime := { st.runtime with binding := binding.releaseAndSuspend } }
    if binding.socket ≠ invalidSocket then
      st.add (.closeUdpSocket st.runtime.pathRequestGeneration binding.socket)
    else st

/-- Send a keepalive, or enter the error state when it cannot be built. -/
def sendKeepaliveOrFail (now : Ktime) : HandlerState :=
  match st.runtime.prepareTransportDatagram c p [] .keepalive 0 with
  | (.error _, s) => { st with runtime := s }.enterActivationError .internal .internalFailure now
  | (.ok _, s) => { st with runtime := s }.addSendPending identity

def recoverTransport (now : Ktime) : HandlerState :=
  if st.runtime.pendingDatagram.isSome ∨ st.runtime.hasProtocolPeer = false then st
  else if st.runtime.lifecycle.state = .active ∧
      st.runtime.device.peer.currentKeypair.canSendAt (p.clock .recover) then
    let st :=
      if st.runtime.stagedInnerPacketCount ≠ 0 then st.processOutboundQueue c p identity now
      else st
    -- a queue that was drained without a send leaves the slot free for a keepalive
    if st.runtime.pendingDatagram.isSome then st
    else st.sendKeepaliveOrFail c p identity now
  else st.startHandshakeOrFail c p identity now

end HandlerState

namespace PeerRuntime

/-! ## Expiry -/

variable (c : Crypto) (p : Platform) (s : PeerRuntime) (st : HandlerState)

/-- The part of `HandleEvent(ProtocolTimerExpiredEvent)` for the retransmission timer. -/
def expireRetransmitHandshake (event : ProtocolTimerExpiredEvent) : HandlerState :=
  let (action, device) := handleHandshakeRetryTimer c p st.runtime.device
  let st := { st with runtime := { st.runtime with device } }
  match action with
  | .exhausted =>
    if (device.peer.timers.hooks .zeroKeyMaterial).pending = false then
      st.arm event.peer .zeroKeyMaterial (zeroKeyMaterialDeadline event.timerFacts)
    else st
  | .ignore => st
  | .sendInitiation =>
    match st.runtime.prepareHandshakeInitiation .handshakeInitiation with
    | (true, s) => { st with runtime := s }.addSendPending event.peer
    | (false, s) =>
      { st with runtime := s }.enterActivationError .handshake .handshakeInitFailed event.occurredAt
  | .fatal => st.enterActivationError .handshake .handshakeInitFailed event.occurredAt

/-- The part of `HandleEvent(ProtocolTimerExpiredEvent)` for the keepalive timer. -/
def expireSendKeepalive (event : ProtocolTimerExpiredEvent) : HandlerState :=
  if st.runtime.lifecycle.state ≠ .active then st
  else if st.runtime.device.peer.currentKeypair.canSendAt (p.clock .hook) = false then
    st.startHandshakeOrFail c p event.peer event.occurredAt
  else
    match st.runtime.prepareTransportDatagram c p [] .keepalive 0 with
    | (.error _, s) =>
      { st with runtime := s }.enterActivationError .internal .internalFailure event.occurredAt
    | (.ok _, s) =>
      let timers := s.device.peer.timers
      let st := { st with runtime := s.withPeer { s.device.peer with
        timers := { timers with needAnotherKeepalive := false } } }
      let st :=
        if timers.needAnotherKeepalive then
          st.arm event.peer event.hook (keepaliveDeadline event.timerFacts)
        else st
      st.addSendPending event.peer

/-- The part of `HandleEvent(ProtocolTimerExpiredEvent)` for the new-handshake timer. -/
def expireNewHandshake (event : ProtocolTimerExpiredEvent) : HandlerState :=
  if st.runtime.lifecycle.state = .active then
    st.startHandshakeOrFail c p event.peer event.occurredAt
  else st

/-- The part of `HandleEvent(ProtocolTimerExpiredEvent)` for the persistent-keepalive timer. -/
def expirePersistentKeepalive (event : ProtocolTimerExpiredEvent) : HandlerState :=
  let peer := st.runtime.device.peer
  if st.runtime.lifecycle.state ≠ .active ∨ peer.persistentKeepaliveInterval = 0 then st
  else if peer.currentKeypair.canSendAt (p.clock .hook) = false then
    st.startHandshakeOrFail c p event.peer event.occurredAt
  else st.sendKeepaliveOrFail c p event.peer event.occurredAt

/-- The part of `HandleEvent(ProtocolTimerExpiredEvent)` for the zeroing timer. -/
def expireZeroKeyMaterial : HandlerState :=
  { st with runtime := { st.runtime with
    device := WgDevice.clearIndexRegistry { st.runtime.device with
      peer := st.runtime.device.peer.zeroKeyMaterial } } }

/-- The owner a current token of a hook has. -/
def currentOwner (identity : PeerIdentity) (hook : TimerHook) : TimerOwner :=
  ⟨identity.peerIndex, identity.activationGeneration,
    if hook = .retransmitHandshake then s.device.peer.handshakeRetry.sequenceCount else 0⟩

/-- The checks an expiry has to pass before it is acted on. -/
def isCurrentExpiry (event : ProtocolTimerExpiredEvent) : Bool :=
  s.isCurrentActivation event.peer.activationGeneration && decide (event.token.hook = event.hook) &&
    decide (event.token.owner.peerIndex = event.peer.peerIndex) &&
    decide (event.token.owner.activationGeneration = event.peer.activationGeneration) &&
    s.hasProtocolPeer && s.timers.isCurrent event.token (s.currentOwner event.peer event.hook)

/-- `HandleEvent(ProtocolTimerExpiredEvent)`. -/
def handleProtocolTimerExpired (event : ProtocolTimerExpiredEvent) : HandlerState :=
  if s.isCurrentExpiry event = false then ⟨s, []⟩
  else
    let st := HandlerState.cancel ⟨s, []⟩ event.peer event.hook
    if s.binding.suspended ∧ event.hook ≠ .zeroKeyMaterial then st
    else if s.isInTransportState = false ∧ event.hook ≠ .zeroKeyMaterial then st
    else
      match event.hook with
      | .retransmitHandshake => expireRetransmitHandshake c p st event
      | .sendKeepalive => expireSendKeepalive c p st event
      | .newHandshake => expireNewHandshake c p st event
      | .persistentKeepalive => expirePersistentKeepalive c p st event
      | .zeroKeyMaterial => expireZeroKeyMaterial st

/-! ## Tokens -/

/-- `FinalizeTimerEffects` on one effect. -/
def finalizeTimerEffect : RuntimeEffect → RuntimeEffect × PeerRuntime
  | .armProtocolTimer identity hook token deadline =>
    if s.isCurrentActivation identity.activationGeneration = false ∨
        identity.peerIndex ≠ s.peerIndex ∨ s.hasProtocolPeer = false then
      (.armProtocolTimer identity hook token deadline, s)
    else
      let peer := s.device.peer
      let (token, timers) := s.timers.arm hook (s.currentOwner identity hook)
      (.armProtocolTimer identity hook token deadline,
        { s.withPeer { peer with timers := (peer.timers.cancel hook).schedule hook deadline } with
          timers })
  | .cancelProtocolTimer identity hook token =>
    if s.isCurrentActivation identity.activationGeneration = false ∨
        identity.peerIndex ≠ s.peerIndex then
      (.cancelProtocolTimer identity hook token, s)
    else
      let s' :=
        if s.hasProtocolPeer then
          s.withPeer { s.device.peer with timers := s.device.peer.timers.cancel hook }
        else s
      let (token, timers) := s'.timers.cancel hook
      (.cancelProtocolTimer identity hook token, { s' with timers })
  | effect => (effect, s)

def finalizeTimerEffects : List RuntimeEffect → PeerRuntime → List RuntimeEffect × PeerRuntime
  | [], s => ([], s)
  | effect :: effects, s =>
    let (effect, s) := s.finalizeTimerEffect effect
    let (effects, s) := finalizeTimerEffects effects s
    (effect :: effects, s)

end PeerRuntime

end WireguardNx.Runtime
