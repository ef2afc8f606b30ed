import WireguardNx.Laws.Switching

/-!
# Only the current activation acts

Sockets, resolved names, timers and datagrams reach a daemon at any time, also when the activation
they are for has ended and another peer is active.  Each names its activation, and an event for any
but the current one is refused: no peer changes, and a socket that comes with it is closed.

`Permits` leaves activations and deactivations to `SetActivePeer`; whatever else arrives may arrive
in any order.
-/

namespace WireguardNx.Runtime

open Wireguard PeerRuntime PeerRegistry

variable {c : Crypto} {s : PeerRuntime} {event : PeerEvent} {d : Daemon}

/-- The effects of an event that is refused. -/
def PeerEvent.Refused (event : PeerEvent) (effects : List RuntimeEffect) : Prop :=
  effects = [] ∨ ∃ opened path, event = .udpBindOpened opened ∧
    effects = [.closeUdpSocket path opened.socket]

private theorem handleEvent_of_stale (c : Crypto) (p : Platform)
    (hevent : ∀ request, event ≠ .activationRequested request)
    (hstale : s.isCurrentActivation event.identity.activationGeneration = false) :
    ∃ effects, s.handleEvent c p event = some ⟨s, effects⟩ ∧ event.Refused effects := by
  have hpath (path : UInt32) :
      s.isCurrentPathRequest event.identity.activationGeneration path = false := by
    simp [isCurrentPathRequest, hstale]
  cases event with
  | activationRequested request => exact absurd rfl (hevent request)
  | udpBindOpened event =>
    have hreject : s.handleEvent c p (.udpBindOpened event) = some (s.rejectSocket event) :=
      if_pos (.inr (.inl (hpath _)))
    unfold rejectSocket at hreject
    split at hreject
    · exact ⟨_, hreject, .inr ⟨event, _, rfl, rfl⟩⟩
    · exact ⟨_, hreject, .inl rfl⟩
  | pendingDatagramSent event =>
    refine ⟨[], ?_, .inl rfl⟩
    unfold handleEvent handlePendingDatagramSent
    cases s.pendingDatagram with
    | none => rfl
    | some pending => exact congrArg some (if_pos (.inl hstale))
  | _ event =>
    simp only [PeerEvent.identity] at hstale hpath
    refine ⟨[], ?_, .inl rfl⟩
    simp [handleEvent, hstale, hpath, handleDeactivationRequested,
      handleNetworkPathRequestStarted, handleNetworkPathAvailabilityChanged, handleTransportFailure,
      handleEndpointResolved, handleUdpRebindRequested, handleEncryptedDatagram,
      handleInnerPacketStaged, handleInnerPacketBatchStaged, handleProcessOutboundQueue,
      handleProtocolTimerExpired, isCurrentExpiry]

/-- A peer is left as it is by an event for another activation. -/
theorem handle_of_stale (c : Crypto) (p : Platform)
    (hevent : ∀ request, event ≠ .activationRequested request)
    (hstale : s.isCurrentActivation event.identity.activationGeneration = false) :
    ∃ batch, s.handle c p event = some (s, batch) ∧ event.Refused batch.effects := by
  obtain ⟨effects, hst, hrefused⟩ := handleEvent_of_stale c p hevent hstale
  unfold handle
  rw [hst]
  obtain rfl | ⟨opened, path, rfl, rfl⟩ := hrefused
  · exact ⟨_, rfl, .inl rfl⟩
  · exact ⟨_, rfl, .inr ⟨opened, path, rfl, rfl⟩⟩

/-- An event changes a daemon only if it is for the current activation of the active peer.  Any
other leaves every peer as it is, and asks at most for its own socket to be closed. -/
theorem only_current_activation_acts (h : (daemons c).Reachable d) (p : Platform)
    (event : PeerEvent) (hevent : Daemon.Permits (.dispatch event))
    (hstale : ∀ s, d.peers.peerAt event.peerIndex = some s →
      d.peers.activePeerIndex = event.peerIndex.toNat →
      s.isCurrentActivation event.identity.activationGeneration = false) :
    ∃ after batch, d.peers.dispatch c p event = some (after, batch) ∧
      (∀ index, after.peerAt index = d.peers.peerAt index) ∧ event.Refused batch.effects := by
  cases hs : d.peers.peerAt event.peerIndex with
  | none => exact ⟨d.peers, .empty, by unfold dispatch; rw [hs], fun _ => rfl, .inl rfl⟩
  | some s =>
    have hother : s.isCurrentActivation event.identity.activationGeneration = false := by
      by_cases hactive : d.peers.activePeerIndex = event.peerIndex.toNat
      · exact hstale s hs hactive
      · exact isCurrentActivation_of_zero ((daemons_sound h).idle _ s hs hactive).activation _
    obtain ⟨batch, hhandle, hrefused⟩ := handle_of_stale c p
      (fun request heq => by rw [heq] at hevent; exact hevent) hother
    refine ⟨_, batch, dispatch_of_handle hhandle hs, fun index => ?_, hrefused⟩
    by_cases heq : index = event.peerIndex
    · rw [heq, peerAt_setPeer_self hs, hs]
    · exact peerAt_setPeer_ne heq

/-- The first peer's path becomes available after the second one was selected. -/
theorem only_current_activation_acts_sample : ∃ d, (daemons .transparent).Reachable d ∧
    d.peers.activePeerIndex = 1 ∧ ∃ after batch, d.peers.dispatch .transparent (.constant 0 0)
      (.networkPathAvailabilityChanged ⟨sampleIdentity, 1, .available, 0⟩) = some (after, batch) ∧
      ∀ index, after.peerAt index = d.peers.peerAt index := by
  have hrun : (sampleDaemonRun (sampleSelection.take 1 ++
      [(.constant 0 0, .setActivePeer 1 0)])).map (·.peers.activePeerIndex) = some 1 := by
    decide +kernel
  obtain ⟨d, hd, hactive⟩ := Option.map_eq_some_iff.mp hrun
  have hreach := sampleDaemonRun_reachable hd
  obtain ⟨after, batch, hdispatch, hpeers, -⟩ := only_current_activation_acts hreach
    (.constant 0 0) (.networkPathAvailabilityChanged ⟨sampleIdentity, 1, .available, 0⟩) trivial
    fun s _ hother => absurd (hactive.symm.trans hother) (by decide)
  exact ⟨d, hreach, hactive, after, batch, hdispatch, hpeers⟩

end WireguardNx.Runtime
