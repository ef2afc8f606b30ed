import WireguardNx.Laws.Moves

/-!
# What traffic does to a peer

Between the bind of an activation and its end, everything a handler does is one of a few kinds of
steps: it adds an effect, notes a time or a count, lets the protocol work on the device, fills or
frees the pending slot, starts the receive pump, zeroes the key material, derives a session, or
enters the error state.  None of them but the last touches what belongs to the activation: its
generation, its network path, its socket and its timer tokens.

`Traffic` says which operation the device went through and which effects were added, in order.  It
is `Work` without its conditions: what follows the entry of an event fills the slot of a current
peer only and takes nothing from the queue but what cannot be sent.  The moves of the coarser view
are read off that.
-/

namespace WireguardNx.Runtime

open Wireguard PeerRuntime HandlerState

variable {kind : PendingDatagramKind} {packetId : UInt64} {device : WgDevice} {live : Prop}
  {c : Crypto} {p : Platform} {identity : PeerIdentity} {st mid after : HandlerState}

/-! ## Steps -/

/-- What the protocol does to the device, other than deriving a session and erasing keys. -/
inductive DeviceOp (c : Crypto) (p : Platform) : WgDevice → WgDevice → Prop
  | start (device : WgDevice) : DeviceOp c p device (Wireguard.startHandshake c p device).2
  | retry (device : WgDevice) : DeviceOp c p device (handleHandshakeRetryTimer c p device).2
  | consume (device : WgDevice) (packet : List UInt8) :
      DeviceOp c p device (noiseHandshakeConsumeIncomingPacket c p packet device).2
  | judge (device : WgDevice) (packet : List UInt8) (source : Endpoint) (now : MonotonicTime) :
      DeviceOp c p device (noiseHandshakeAdmitResponderPacket c p device packet source now).2
  | respond (device : WgDevice) :
      DeviceOp c p device { device with peer := (noiseHandshakeCreateResponse c p device.peer).2 }
  | confirm (device : WgDevice) :
      DeviceOp c p device { device with peer := confirmResponderSession device.peer }
  | receive (device : WgDevice) (packet : List UInt8) :
      DeviceOp c p device (noiseConsumeIncomingTransportDataPacket c (p.clock .receive) packet
        device maxDecryptedPayloadSize).2
  | create (device : WgDevice) (site : ClockSite) (payload : List UInt8) (mtu : Nat) :
      DeviceOp c p device { device with peer := { device.peer with
        currentKeypair := (noiseCreateTransportDataPacket c (p.clock site) maxEncryptedDatagramSize
          device.peer.currentKeypair payload mtu).keypair } }
  | flag (device : WgDevice) (needAnotherKeepalive : Bool) :
      DeviceOp c p device { device with peer := { device.peer with
        timers := { device.peer.timers with needAnotherKeepalive } } }

/-- A session is derived, and the initiator's retry sequence ends with it. -/
inductive DeriveOp (c : Crypto) (p : Platform) : WgDevice → WgDevice → Prop
  | responder {device derived : WgDevice}
      (h : noiseHandshakeBeginSession c p device = (true, derived)) : DeriveOp c p device derived
  | initiator {device derived : WgDevice}
      (h : noiseHandshakeBeginSession c p device = (true, derived)) :
      DeriveOp c p device { derived with peer := derived.peer.completeHandshakeRetrySequence }

/-- What belongs to an activation. -/
structure Setup where
  config : PeerConfigEntry
  derived : PeerConfigDerivedInfo
  instantiated : Bool
  timers : TimerCoordinator
  activationGeneration : UInt32
  nextActivationGeneration : UInt32
  nextPathRequestGeneration : UInt32
  pathRequestGeneration : UInt32
  pathAvailability : NetworkPathAvailability
  rebindOnPathConfirmation : Bool
  waitingForLocalPath : Bool
  endpointResolutionStarted : Bool
  nextSocketGeneration : UInt32
  pendingSocketGeneration : UInt32
  pendingBindPurpose : UdpBindPurpose
  socket : SocketHandle
  socketGeneration : UInt32
  suspended : Bool
  peerIndex : UInt32

def PeerRuntime.setup (s : PeerRuntime) : Setup where
  config := s.config
  derived := s.derived
  instantiated := s.instantiated
  timers := s.timers
  activationGeneration := s.lifecycle.activationGeneration
  nextActivationGeneration := s.nextActivationGeneration
  nextPathRequestGeneration := s.nextPathRequestGeneration
  pathRequestGeneration := s.pathRequestGeneration
  pathAvailability := s.pathAvailability
  rebindOnPathConfirmation := s.rebindOnPathConfirmation
  waitingForLocalPath := s.waitingForLocalPath
  endpointResolutionStarted := s.endpointResolutionStarted
  nextSocketGeneration := s.nextSocketGeneration
  pendingSocketGeneration := s.pendingSocketGeneration
  pendingBindPurpose := s.pendingBindPurpose
  socket := s.binding.socket
  socketGeneration := s.binding.generation
  suspended := s.binding.suspended
  peerIndex := s.peerIndex

/-- What traffic works on. -/
def PeerRuntime.work (s : PeerRuntime) : WgDevice × Option PendingDatagram × UInt32 × Bool :=
  (s.device, s.pendingDatagram, s.nextDatagramGeneration, s.receiveStarted)

/-- The effects that traffic adds.  The zeroing timer is cancelled by its own expiry only. -/
def RuntimeEffect.IsTraffic (identity : PeerIdentity) : RuntimeEffect → Prop
  | .armProtocolTimer who _ token _ => who = identity ∧ token = .empty
  | .cancelProtocolTimer who hook token =>
    who = identity ∧ token = .empty ∧ hook ≠ .zeroKeyMaterial
  | .queueInnerPacketSubmission who => who = identity
  | .publishDecryptedPacket who _ => who = identity
  | .sendCookieReply who _ _ => who = identity
  | _ => False

def PeerRuntime.withQueue (s : PeerRuntime) (queue : InnerPacketQueue peerStagedPacketCapacity) :
    PeerRuntime :=
  s.withPeer { s.device.peer with stagedOutboundPackets := queue }

/-- Nothing is in flight, and the queue is the one without a head that cannot be sent. -/
def PeerRuntime.Drops (s : PeerRuntime) (queue : InnerPacketQueue peerStagedPacketCapacity) :
    Prop :=
  s.pendingDatagram = none ∧ ∃ disposition, (disposition = .stale ∨ disposition = .unavailable) ∧
    queue = (s.device.peer.stagedOutboundPackets.pop disposition).2

/-- One step of a handler that works for `identity`.  While it is `live`, it has made its entry:
the slot is not freed any more, nor is a packet staged or sent. -/
inductive WorkStep (c : Crypto) (p : Platform) (identity : PeerIdentity) (live : Prop) :
    HandlerState → HandlerState → Prop
  | emit (st : HandlerState) (effect : RuntimeEffect) (h : effect.IsTraffic identity) :
      WorkStep c p identity live st (st.add effect)
  /-- Times, counts, the endpoint and the decrypted packet. -/
  | note (st : HandlerState) (s : PeerRuntime) (hsetup : s.setup = st.runtime.setup)
      (hwork : s.work = st.runtime.work)
      (hstate : s.lifecycle.state = st.runtime.lifecycle.state ∨
        (st.runtime.lifecycle.state = .handshaking ∧ s.lifecycle.state = .active))
      (hendpoint : st.runtime.binding.hasEndpoint = true → s.binding.hasEndpoint = true) :
      WorkStep c p identity live st { st with runtime := s }
  | operate (st : HandlerState) (device : WgDevice) (h : DeviceOp c p st.runtime.device device) :
      WorkStep c p identity live st { st with runtime := { st.runtime with device } }
  | queue (st : HandlerState) (queue : InnerPacketQueue peerStagedPacketCapacity)
      (h : live → st.runtime.Drops queue) :
      WorkStep c p identity live st { st with runtime := st.runtime.withQueue queue }
  | fill (st : HandlerState) (bytes : List UInt8) (packetId : UInt64) (kind : PendingDatagramKind)
      (hcur : live → st.Current identity) (hpend : st.runtime.pendingDatagram = none)
      (hdata : st.runtime.Carries kind packetId) :
      WorkStep c p identity live st
        ⟨st.runtime.setPending bytes packetId kind,
          st.effects ++ [.sendPendingDatagram identity st.runtime.nextDatagramGeneration]⟩
  | free (st : HandlerState) (h : ¬ live) :
      WorkStep c p identity live st
        { st with runtime := { st.runtime with pendingDatagram := none } }
  | listen (st : HandlerState) :
      WorkStep c p identity live st
        ⟨{ st.runtime with receiveStarted := true }, st.effects ++ [.queueReceive identity]⟩
  | zero (st : HandlerState) (h : ¬ live) :
      WorkStep c p identity live st
        (PeerRuntime.expireZeroKeyMaterial (st.cancel identity .zeroKeyMaterial))
  | fail (st : HandlerState) (stage : PeerErrorStage) (code : PeerErrorCode) (now : Ktime) :
      WorkStep c p identity live st (st.enterActivationError stage code now)

/-- Steps of a handler.  A session that is derived has its erasure scheduled before the handler
ends. -/
inductive Work (c : Crypto) (p : Platform) (identity : PeerIdentity) (live : Prop) :
    HandlerState → HandlerState → Prop
  | refl (st : HandlerState) : Work c p identity live st st
  | step {st mid after : HandlerState} (h : Work c p identity live st mid)
      (hstep : WorkStep c p identity live mid after) : Work c p identity live st after
  | derive {st mid last : HandlerState} {device : WgDevice} (h : Work c p identity live st mid)
      (hderive : DeriveOp c p mid.runtime.device device)
      (hrest : Work c p identity live { mid with runtime := { mid.runtime with device } } last)
      (deadline : TimerDeadline) :
      Work c p identity live st (last.arm identity .zeroKeyMaterial deadline)

abbrev TrafficStep (c : Crypto) (p : Platform) (identity : PeerIdentity) :
    HandlerState → HandlerState → Prop :=
  WorkStep c p identity False

abbrev Traffic (c : Crypto) (p : Platform) (identity : PeerIdentity) :
    HandlerState → HandlerState → Prop :=
  Work c p identity False

namespace Work

theorem trans (h₁ : Work c p identity live st mid) (h₂ : Work c p identity live mid after) :
    Work c p identity live st after := by
  induction h₂ with
  | refl => exact h₁
  | step _ hstep ih => exact (ih h₁).step hstep
  | derive _ hderive hrest deadline ih _ => exact (ih h₁).derive hderive hrest deadline

theorem single (h : WorkStep c p identity live st after) : Work c p identity live st after :=
  (refl st).step h

/-- Work under more conditions is work under fewer. -/
theorem mono {live' : Prop} (h : Work c p identity live st after) (hlive : live' → live) :
    Work c p identity live' st after := by
  induction h with
  | refl => exact .refl _
  | step _ hstep ih =>
    refine ih.step ?_
    cases hstep with
    | emit effect h => exact .emit _ effect h
    | note s hsetup hwork hstate hendpoint => exact .note _ s hsetup hwork hstate hendpoint
    | operate device h => exact .operate _ device h
    | queue queue h => exact .queue _ queue (h ∘ hlive)
    | fill bytes packetId kind hcur hpend hdata =>
      exact .fill _ bytes packetId kind (hcur ∘ hlive) hpend hdata
    | free h => exact .free _ (h ∘ hlive)
    | listen => exact .listen _
    | zero h => exact .zero _ (h ∘ hlive)
    | fail stage code now => exact .fail _ stage code now
  | derive _ hderive _ deadline ih₁ ih₂ => exact ih₁.derive hderive ih₂ deadline

theorem traffic (h : Work c p identity live st after) : Traffic c p identity st after :=
  h.mono False.elim

end Work

/-! ## Traffic as moves -/

section AsMoves

theorem DeriveOp.keeps {derived : WgDevice} (h : DeriveOp c p device derived) :
    device.Keeps derived := by
  cases h with
  | responder h => exact beginSession_keeps h
  | initiator h => exact (beginSession_keeps h).trans ⟨rfl, ⟨⟨rfl, rfl, rfl, id⟩, rfl⟩⟩

/-- The protocol gives a handshake up, or changes nothing that a move is about. -/
theorem DeviceOp.moves (h : DeviceOp c p st.runtime.device device) :
    Moves c identity st { st with runtime := { st.runtime with device } } := by
  have hpeer {peer : WgPeer} (hkeeps : st.runtime.device.peer.Keeps peer) :
      Moves c identity st { st with runtime := st.runtime.withPeer peer } :=
    Moves.note (.ofPeer hkeeps)
  cases h with
  | start => exact Moves.note (.ofDevice (startHandshake_keeps Prod.mk.eta.symm).advances)
  | retry =>
    obtain hkeeps | ⟨-, hkeeps, hqueue⟩ := handleHandshakeRetryTimer_keeps
      (rfl : handleHandshakeRetryTimer c p st.runtime.device = (_, _))
    · exact Moves.note (.ofDevice hkeeps.advances)
    · exact .single (.giveUp st _ hkeeps hqueue)
  | consume packet => exact Moves.note (.ofDevice (consumeIncomingPacket_advances Prod.mk.eta.symm))
  | judge packet source now =>
    generalize hadmitted :
      noiseHandshakeAdmitResponderPacket c p st.runtime.device packet source now = admitted
    obtain ⟨admission, device⟩ := admitted
    obtain ⟨hhas, hsame⟩ := admitResponderPacket_keeps hadmitted
    have hkeeps : st.runtime.device.Keeps device := ⟨hhas, hsame ▸ .refl _⟩
    exact Moves.note (.ofDevice hkeeps.advances)
  | respond => exact hpeer (createResponse_keeps Prod.mk.eta.symm)
  | confirm => exact hpeer (confirmResponderSession_keeps _)
  | receive packet =>
    exact Moves.note
      (.ofDevice (consumeIncomingTransportDataPacket_keeps Prod.mk.eta.symm).advances)
  | create site payload mtu | flag flag => exact hpeer ⟨⟨rfl, rfl, rfl, id⟩, rfl⟩

theorem same_of_setup {s t : PeerRuntime} (hsetup : t.setup = s.setup) (hwork : t.work = s.work)
    (hstate : t.lifecycle.state = s.lifecycle.state ∨
      (s.lifecycle.state = .handshaking ∧ t.lifecycle.state = .active)) : s.Same c t := by
  simp only [work, Prod.mk.injEq] at hwork
  refine ⟨hstate, congrArg Setup.activationGeneration hsetup, congrArg Setup.peerIndex hsetup,
    congrArg Setup.instantiated hsetup, congrArg Setup.socket hsetup,
    congrArg Setup.suspended hsetup, hwork.2.1, hwork.2.2.1, ?_⟩
  rw [hwork.1]
  exact (WgDevice.Keeps.refl _).advances

theorem RuntimeEffect.IsTraffic.isSend {effect : RuntimeEffect} (h : effect.IsTraffic identity) :
    effect.isSend = false := by
  cases effect with
  | sendPendingDatagram => cases h
  | _ => rfl

theorem WorkStep.moves (h : WorkStep c p identity live st after) (hlive : live) :
    Moves c identity st after := by
  cases h with
  | emit effect heffect => exact Moves.emit effect heffect.isSend
  | note s hsetup hwork hstate _ => exact Moves.note (same_of_setup hsetup hwork hstate)
  | operate device hop => exact hop.moves
  | queue queue hdrops =>
    obtain ⟨hpend, disposition, hdisposition, rfl⟩ := hdrops hlive
    exact .single (.drop st disposition hdisposition hpend)
  | fill bytes packetId kind hcur hpend hdata =>
    exact .single (.fill st bytes packetId kind (hcur hlive).transport (hcur hlive).activation
      hpend hdata)
  | free h | zero h => exact absurd hlive h
  | listen =>
    have hnoted : Moves c identity st
        { st with runtime := { st.runtime with receiveStarted := true } } :=
      Moves.note (.of_core rfl)
    exact hnoted.tail (.emit _ (.queueReceive identity) rfl)
  | fail stage code now => exact Moves.fail stage code now

/-- Live work is a sequence of moves. -/
theorem Work.moves (h : Work c p identity live st after) (hlive : live) :
    Moves c identity st after := by
  induction h with
  | refl => exact .refl
  | step _ hstep ih => exact ih.trans (hstep.moves hlive)
  | derive _ hderive _ deadline ih₁ ih₂ =>
    exact ((ih₁.trans (Moves.note (.ofDevice hderive.keeps.advances))).trans ih₂).trans
      (Moves.emit _ rfl)

end AsMoves

/-! ## Work that keeps a peer current -/

/-- Work that leaves a current peer current. -/
structure Carried (c : Crypto) (p : Platform) (identity : PeerIdentity) (live : Prop)
    (st after : HandlerState) : Prop where
  work : Work c p identity live st after
  current : st.Current identity → after.Current identity

namespace Carried

theorem refl : Carried c p identity live st st := ⟨.refl _, id⟩

theorem trans (h₁ : Carried c p identity live st mid) (h₂ : Carried c p identity live mid after) :
    Carried c p identity live st after :=
  ⟨h₁.work.trans h₂.work, h₂.current ∘ h₁.current⟩

theorem emit (effect : RuntimeEffect) (h : effect.IsTraffic identity) :
    Carried c p identity live st (st.add effect) :=
  ⟨.single (.emit st effect h), fun h => ⟨h.transport, h.activation⟩⟩

theorem arm (hook : TimerHook) (deadline : TimerDeadline) :
    Carried c p identity live st (st.arm identity hook deadline) :=
  emit _ ⟨rfl, rfl⟩

theorem cancel {hook : TimerHook} (h : hook ≠ .zeroKeyMaterial) :
    Carried c p identity live st (st.cancel identity hook) :=
  emit _ ⟨rfl, rfl, h⟩

theorem operate (h : DeviceOp c p st.runtime.device device) :
    Carried c p identity live st { st with runtime := { st.runtime with device } } :=
  ⟨.single (.operate st device h), fun h => ⟨h.transport, h.activation⟩⟩

theorem ofNote {s : PeerRuntime} (hsetup : s.setup = st.runtime.setup)
    (hwork : s.work = st.runtime.work) (hstate : s.lifecycle.state = st.runtime.lifecycle.state ∨
      (st.runtime.lifecycle.state = .handshaking ∧ s.lifecycle.state = .active))
    (hendpoint : st.runtime.binding.hasEndpoint → s.binding.hasEndpoint) :
    Carried c p identity live st { st with runtime := s } :=
  ⟨.single (.note st s hsetup hwork hstate hendpoint),
    (same_of_setup (c := c) hsetup hwork hstate).current⟩

/-- A change of what no step but a note writes, in the same state. -/
theorem note {s : PeerRuntime} (hsetup : s.setup = st.runtime.setup)
    (hwork : s.work = st.runtime.work) (hstate : s.lifecycle.state = st.runtime.lifecycle.state)
    (hendpoint : s.binding.hasEndpoint = st.runtime.binding.hasEndpoint) :
    Carried c p identity live st { st with runtime := s } :=
  ofNote hsetup hwork (.inl hstate) fun h => hendpoint.trans h

theorem derive (h : Carried c p identity live st mid)
    (hderive : DeriveOp c p mid.runtime.device device)
    (hrest : Carried c p identity live { mid with runtime := { mid.runtime with device } } after)
    (deadline : TimerDeadline) :
    Carried c p identity live st (after.arm identity .zeroKeyMaterial deadline) := by
  refine ⟨h.work.derive hderive hrest.work deadline, fun hcur => ?_⟩
  have hmid := h.current hcur
  have hlast := hrest.current ⟨hmid.transport, hmid.activation⟩
  exact ⟨hlast.transport, hlast.activation⟩

/-- A slot that is filled at the end. -/
theorem fill (h : Carried c p identity live st mid) (hcur : live → st.Current identity)
    (bytes : List UInt8) (hpend : mid.runtime.pendingDatagram = none)
    (hdata : mid.runtime.Carries kind packetId) : Work c p identity live st
      (addSendPending ⟨mid.runtime.setPending bytes packetId kind, mid.effects⟩ identity) :=
  h.work.step (.fill mid bytes packetId kind (fun hlive => h.current (hcur hlive)) hpend hdata)

end Carried

/-! ## Sending -/

/-- One step of the functions that send something: they touch no timer unless they fail. -/
inductive SendStep (c : Crypto) (p : Platform) (identity : PeerIdentity) (live : Prop) :
    HandlerState → HandlerState → Prop
  | operate (st : HandlerState) (device : WgDevice) (h : DeviceOp c p st.runtime.device device) :
      SendStep c p identity live st { st with runtime := { st.runtime with device } }
  | drop (st : HandlerState) (queue : InnerPacketQueue peerStagedPacketCapacity)
      (h : st.runtime.Drops queue) :
      SendStep c p identity live st { st with runtime := st.runtime.withQueue queue }
  | fill (st : HandlerState) (bytes : List UInt8) (packetId : UInt64) (kind : PendingDatagramKind)
      (hcur : live → st.Current identity) (hpend : st.runtime.pendingDatagram = none)
      (hdata : st.runtime.Carries kind packetId) :
      SendStep c p identity live st
        ⟨st.runtime.setPending bytes packetId kind,
          st.effects ++ [.sendPendingDatagram identity st.runtime.nextDatagramGeneration]⟩
  | fail (st : HandlerState) (stage : PeerErrorStage) (code : PeerErrorCode) (now : Ktime) :
      SendStep c p identity live st (st.enterActivationError stage code now)

/-- What a function that sends something comes to. -/
abbrev Sending (c : Crypto) (p : Platform) (identity : PeerIdentity) (live : Prop) :
    HandlerState → HandlerState → Prop :=
  Relation.ReflTransGen (SendStep c p identity live)

/-- Sending that leaves a current peer current. -/
structure Sent (c : Crypto) (p : Platform) (identity : PeerIdentity) (live : Prop)
    (st after : HandlerState) : Prop where
  sending : Sending c p identity live st after
  current : live → after.Current identity

/-- How an attempt to send ends: with the peer still in its transport state, or in the error
state. -/
inductive Tried (c : Crypto) (p : Platform) (identity : PeerIdentity) (live : Prop)
    (st : HandlerState) : HandlerState → Prop
  | went (after : HandlerState) (h : Sent c p identity live st after) :
      Tried c p identity live st after
  | failed (last : HandlerState) (h : Sent c p identity live st last) (stage : PeerErrorStage)
      (code : PeerErrorCode) (now : Ktime) :
      Tried c p identity live st (last.enterActivationError stage code now)

section Sending

theorem Sending.work (h : Sending c p identity live st after) :
    Work c p identity live st after := by
  induction h with
  | refl => exact .refl st
  | tail _ hstep ih =>
    cases hstep with
    | operate device hop => exact ih.step (.operate _ device hop)
    | drop queue hdrops => exact ih.step (.queue _ queue fun _ => hdrops)
    | fill bytes packetId kind hcur hpend hdata =>
      exact ih.step (.fill _ bytes packetId kind hcur hpend hdata)
    | fail stage code now => exact ih.step (.fail _ stage code now)

namespace Sent

theorem refl (hcur : live → st.Current identity) : Sent c p identity live st st := ⟨.refl, hcur⟩

theorem operate (hcur : live → st.Current identity) (h : DeviceOp c p st.runtime.device device) :
    Sent c p identity live st { st with runtime := { st.runtime with device } } :=
  ⟨.single (.operate st device h), fun hlive => ⟨(hcur hlive).transport, (hcur hlive).activation⟩⟩

/-- A slot that is filled at the end. -/
theorem fill (h : Sent c p identity live st mid) (bytes : List UInt8)
    (hpend : mid.runtime.pendingDatagram = none) (hdata : mid.runtime.Carries kind packetId) :
    Sent c p identity live st
      (addSendPending ⟨mid.runtime.setPending bytes packetId kind, mid.effects⟩ identity) :=
  ⟨h.sending.tail (.fill mid bytes packetId kind h.current hpend hdata),
    fun hlive => ⟨(h.current hlive).transport, (h.current hlive).activation⟩⟩

end Sent

theorem Tried.sending (h : Tried c p identity live st after) :
    Sending c p identity live st after := by
  cases h with
  | went _ h => exact h.sending
  | failed _ h stage code now => exact h.sending.tail (.fail _ stage code now)

theorem Sent.tried (h₁ : Sent c p identity live st mid) (h₂ : Tried c p identity live mid after) :
    Tried c p identity live st after := by
  cases h₂ with
  | went _ h => exact .went _ ⟨h₁.sending.trans h.sending, h.current⟩
  | failed _ h stage code now =>
    exact .failed _ ⟨h₁.sending.trans h.sending, h.current⟩ stage code now

end Sending

/-! ## Handshakes and staged packets -/

section Outbound

variable {s : PeerRuntime} {payload : List UInt8}

theorem prepareHandshakeInitiation_cases {after : PeerRuntime} {ok : Bool}
    (h : s.prepareHandshakeInitiation kind = (ok, after)) : (ok = false ∧ after = s) ∨
      (ok ∧ s.pendingDatagram = none ∧ ∃ bytes, after = s.setPending bytes 0 kind) := by
  unfold prepareHandshakeInitiation at h
  split at h
  · cases h; exact .inl ⟨rfl, rfl⟩
  · rename_i hfree
    simp only [not_or, Bool.not_eq_true, Option.isSome_eq_false_iff,
      Option.isNone_iff_eq_none] at hfree
    split at h
    · cases h; exact .inl ⟨rfl, rfl⟩
    · cases h; exact .inr ⟨rfl, hfree.2.2, _, rfl⟩

/-- A transport datagram: the cipher runs, and the slot is filled if it succeeded. -/
theorem prepareTransportDatagram_spec {after : PeerRuntime}
    {result : Except TransportDataError Unit}
    (h : s.prepareTransportDatagram c p payload kind packetId = (result, after)) :
    (∃ error, result = .error error ∧ (after = s ∨ ∃ device, DeviceOp c p s.device device ∧
        after = { s with device })) ∨
      (result = .ok () ∧ s.pendingDatagram = none ∧ ∃ device bytes,
        DeviceOp c p s.device device ∧
          device.peer.stagedOutboundPackets = s.device.peer.stagedOutboundPackets ∧
          after = { s with device }.setPending bytes packetId kind) := by
  unfold prepareTransportDatagram at h
  split at h
  · cases h; exact .inl ⟨_, rfl, .inl rfl⟩
  rename_i hfree
  simp only [not_or, Bool.not_eq_true, Option.isSome_eq_false_iff, Option.isNone_iff_eq_none] at hfree
  simp only at h
  split at h
  · cases h
    exact .inl ⟨_, rfl, .inr ⟨_, .create s.device _ payload _, rfl⟩⟩
  · cases h
    exact .inr ⟨rfl, hfree.2, _, _, .create s.device _ payload _, rfl, rfl⟩

/-- A datagram that could not be built leaves a current peer current. -/
theorem prepareTransportDatagram_refused {error : TransportDataError}
    (hcur : live → st.Current identity)
    (h : st.runtime.prepareTransportDatagram c p payload kind packetId = (.error error, s)) :
    Sent c p identity live st { st with runtime := s } := by
  obtain ⟨_, -, rfl | ⟨device, hop, rfl⟩⟩ | ⟨hok, -⟩ := prepareTransportDatagram_spec h
  · exact .refl hcur
  · exact .operate hcur hop
  · cases hok

/-- A datagram that was built takes the slot; one with data is built from the head of the queue. -/
theorem prepareTransportDatagram_sent (hcur : live → st.Current identity)
    (h : st.runtime.prepareTransportDatagram c p payload kind packetId = (.ok (), s))
    (hdata : st.runtime.Carries kind packetId) :
    Sent c p identity live st (addSendPending { st with runtime := s } identity) := by
  obtain ⟨_, hok, -⟩ | ⟨-, hpend, device, bytes, hop, hqueue, rfl⟩ :=
    prepareTransportDatagram_spec h
  · cases hok
  · exact (Sent.operate hcur hop).fill bytes hpend fun hkind => hqueue ▸ hdata hkind

private theorem sendInitiation_sent {action : HandshakeTransitionAction} {ok : Bool}
    (hcur : live → st.Current identity) (h : st.sendInitiation identity action = (ok, after)) :
    Sent c p identity live st after := by
  unfold sendInitiation at h
  split at h
  · cases h; exact .refl hcur
  · split at h
    · rename_i hprep
      obtain ⟨-, rfl⟩ | ⟨hok, -⟩ := prepareHandshakeInitiation_cases hprep
      · cases h; exact .refl hcur
      · cases hok
    · rename_i hprep
      obtain ⟨hok, -⟩ | ⟨-, hpend, bytes, rfl⟩ := prepareHandshakeInitiation_cases hprep
      · cases hok
      · cases h; exact (Sent.refl hcur).fill bytes hpend nofun
  · cases h; exact .refl hcur
  · cases h; exact .refl hcur

theorem startHandshakeOrFail_tried (hcur : live → st.Current identity) (now : Ktime) :
    Tried c p identity live st (st.startHandshakeOrFail c p identity now) := by
  have hstart {ok : Bool} {after : HandlerState}
      (h : st.startHandshake c p identity = (ok, after)) : Sent c p identity live st after := by
    unfold HandlerState.startHandshake at h
    simp only at h
    split at h
    · cases h; exact .refl hcur
    · have hstarted := Sent.operate hcur (.start (c := c) (p := p) st.runtime.device)
      have hsent := sendInitiation_sent (c := c) (p := p) hstarted.current h
      exact ⟨hstarted.sending.trans hsent.sending, hsent.current⟩
  unfold startHandshakeOrFail
  split
  · rename_i h
    exact .went _ (hstart h)
  · rename_i h
    exact .failed _ (hstart h) _ _ _

theorem sendKeepaliveOrFail_tried (hcur : live → st.Current identity) (now : Ktime) :
    Tried c p identity live st (st.sendKeepaliveOrFail c p identity now) := by
  unfold sendKeepaliveOrFail
  split
  · rename_i hprep
    exact .failed _ (prepareTransportDatagram_refused hcur hprep) _ _ _
  · rename_i hprep
    exact .went _ (prepareTransportDatagram_sent hcur hprep nofun)

/-- A failed build leaves the queue to the answer of the controller, which pops nothing. -/
theorem applyStagedSendOutcome_buildFailed (peer : WgPeer) (error : TransportDataError) :
    applyStagedSendOutcome peer (.buildFailed error) =
      (if error = .invalidKeypair ∨ error = .keyExpired ∨ error = .counterExhausted then
        .initiateHandshake else .stopOnTerminalFailure, peer) := by
  unfold OutboundSendOutcomeKind.buildFailed
  split
  · rfl
  · rfl

private theorem sendStaged_tried {front : InnerPacketRecord} (hcur : live → st.Current identity)
    (hfront : st.runtime.device.peer.stagedOutboundPackets.front = some front) (now : Ktime) :
    Tried c p identity live st (st.sendStaged c p identity now front) := by
  unfold sendStaged
  split
  · exact startHandshakeOrFail_tried hcur now
  · exact .went _ (.refl hcur)
  split
  · rename_i hprep
    exact .went _ (prepareTransportDatagram_sent hcur hprep fun _ => ⟨front, hfront, rfl⟩)
  · rename_i error s hprep
    have hbuilt : Sent c p identity live st { st with runtime := s } :=
      prepareTransportDatagram_refused hcur hprep
    rw [applyStagedSendOutcome_buildFailed]
    by_cases hkey : error = .invalidKeypair ∨ error = .keyExpired ∨ error = .counterExhausted
    · rw [if_pos hkey]
      exact hbuilt.tried (startHandshakeOrFail_tried hbuilt.current now)
    · rw [if_neg hkey]
      exact .failed _ hbuilt _ _ _

/-- The loop drops packets of other activations and then tries to send one of its own. -/
theorem processOutboundLoop_sending {rounds : Nat} {now : Ktime} (hact : live →
      identity.activationGeneration = st.runtime.lifecycle.activationGeneration)
    (hpend : st.runtime.pendingDatagram = none) :
    let after := processOutboundLoop c p identity now rounds st
    Sending c p identity live st after ∧
      ((live → st.Current identity) → Tried c p identity live st after) := by
  induction rounds generalizing st with
  | zero => exact ⟨.refl, fun hcur => .went _ (.refl hcur)⟩
  | succ rounds ih =>
    -- a round that goes on has dropped the head and left the lifecycle alone
    have hdrop (disposition : QueueDisposition)
        (hdisposition : disposition = .stale ∨ disposition = .unavailable) :
        let after := processOutboundLoop c p identity now rounds
          (st.dropStaged disposition)
        Sending c p identity live st after ∧
          ((live → st.Current identity) → Tried c p identity live st after) := by
      have hstep : Sending c p identity live st (st.dropStaged disposition) :=
        .single (.drop st _ ⟨hpend, disposition, hdisposition, rfl⟩)
      have hact' : live → identity.activationGeneration =
          (st.dropStaged disposition).runtime.lifecycle.activationGeneration := hact
      obtain ⟨hsending, htried⟩ := ih hact' hpend
      refine ⟨hstep.trans hsending, fun hcur => ?_⟩
      have hcur' (hlive : live) : (st.dropStaged disposition).Current identity :=
        ⟨(hcur hlive).transport, (hcur hlive).activation⟩
      exact Sent.tried ⟨hstep, hcur'⟩ (htried hcur')
    unfold processOutboundLoop
    simp only
    split
    · exact ⟨.refl, fun hcur => .went _ (.refl hcur)⟩
    · rename_i front hfront
      split
      · exact hdrop .stale (.inl rfl)
      split
      · exact ⟨.refl, fun hcur => .went _ (.refl hcur)⟩
      split
      · exact ⟨.refl, fun hcur => .went _ (.refl hcur)⟩
      split
      · exact hdrop .unavailable (.inr rfl)
      · rename_i htrans
        have hcur (hlive : live) : st.Current identity :=
          ⟨by simpa using htrans, hact hlive⟩
        have htried := sendStaged_tried (c := c) (p := p) hcur hfront now
        exact ⟨htried.sending, fun _ => htried⟩

theorem processOutboundQueue_sending (now : Ktime) (hact : live →
      identity.activationGeneration = st.runtime.lifecycle.activationGeneration) :
    let after := st.processOutboundQueue c p identity now
    Sending c p identity live st after ∧
      ((live → st.Current identity) → Tried c p identity live st after) := by
  unfold processOutboundQueue
  split
  · exact ⟨.refl, fun hcur => .went _ (.refl hcur)⟩
  · rename_i hfree
    simp only [not_or, Bool.not_eq_true, Option.isSome_eq_false_iff, Option.isNone_iff_eq_none]
      at hfree
    exact processOutboundLoop_sending hact hfree.2

theorem refreshKeyFreshness_tried (hcur : live → st.Current identity) (now : Ktime) :
    Tried c p identity live st (st.refreshKeyFreshness c p identity now) := by
  unfold refreshKeyFreshness
  simp only
  split
  · exact .went _ (.refl hcur)
  · exact startHandshakeOrFail_tried hcur now

private theorem createTransportDataPacket_reset (now : MonotonicTime) (capacity : Nat)
    (payload : List UInt8) (mtu : Nat) :
    ∃ error, (noiseCreateTransportDataPacket c now capacity .reset payload mtu).result =
      .error error := by
  unfold noiseCreateTransportDataPacket
  simp only
  split
  · exact ⟨_, rfl⟩
  · exact ⟨_, rfl⟩

/-- After the error state was entered no keepalive can be built. -/
theorem sendKeepaliveOrFail_failed {stage : PeerErrorStage} {code : PeerErrorCode}
    {failedAt now : Ktime} :
    let failed := st.enterActivationError stage code failedAt
    Sending c p identity live failed (failed.sendKeepaliveOrFail c p identity now) := by
  intro failed
  unfold sendKeepaliveOrFail
  split
  · rename_i hprep
    obtain ⟨_, -, rfl | ⟨device, hop, rfl⟩⟩ | ⟨hok, -⟩ := prepareTransportDatagram_spec hprep
    · exact .single (.fail _ _ _ _)
    · exact (Relation.ReflTransGen.single (.operate _ _ hop)).tail (.fail _ _ _ _)
    · cases hok
  · rename_i hprep
    -- the scrubbed peer has no current keypair
    exfalso
    unfold prepareTransportDatagram at hprep
    split at hprep
    · cases hprep
    rename_i hfree
    have hpeer : st.runtime.hasProtocolPeer := by
      have hfailed : failed.runtime.hasProtocolPeer := by simpa using (not_or.mp hfree).1
      simp only [failed, enterActivationError_eq, hasProtocolPeer,
        scrubbedDevice_hasPeer] at hfailed
      exact hfailed
    have hkeypair : failed.runtime.device.peer.currentKeypair = .reset := by
      simp only [failed, enterActivationError_eq]
      exact scrubbedDevice_currentKeypair hpeer
    rw [hkeypair] at hprep
    obtain ⟨error, herror⟩ := createTransportDataPacket_reset (c := c)
      (p.clock (createSite .keepalive)) maxEncryptedDatagramSize []
      (resolveEffectiveInnerMtu failed.runtime.config.mtu).toNat
    simp only [herror] at hprep
    cases hprep

theorem recoverTransport_sending (hcur : live → st.Current identity) (now : Ktime) :
    Sending c p identity live st (st.recoverTransport c p identity now) := by
  unfold recoverTransport
  split
  · exact .refl
  split
  · -- the queue is drained if there is one, and a keepalive takes the slot it leaves free
    simp only
    have htried : Tried c p identity live st (if st.runtime.stagedInnerPacketCount ≠ 0 then
        st.processOutboundQueue c p identity now else st) := by
      split
      · exact (processOutboundQueue_sending now fun hlive => (hcur hlive).activation).2 hcur
      · exact .went _ (.refl hcur)
    revert htried
    generalize (if st.runtime.stagedInnerPacketCount ≠ 0 then
      st.processOutboundQueue c p identity now else st) = mid
    intro htried
    split
    · exact htried.sending
    · cases htried with
      | went _ h => exact h.sending.trans (sendKeepaliveOrFail_tried h.current now).sending
      | failed last h stage code failedAt =>
        exact (h.sending.tail (.fail _ stage code failedAt)).trans
          sendKeepaliveOrFail_failed
  · exact (startHandshakeOrFail_tried hcur now).sending

end Outbound

end WireguardNx.Runtime
