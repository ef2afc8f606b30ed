import WireguardNx.Laws.Turns

/-!
# The peer as a machine

A peer that was configured and then handles events one after the other.  A handler that aborts
ends the process, so it is not a step.  `Sound` is what holds in every state a run reaches: a
socket is held exactly while the peer is in a transport state and not suspended, such a peer has
its protocol instantiated from usable keys, and only such a peer has a datagram pending.

An activation is requested only of a peer that has none (`Admissible`), as `DaemonRuntime` makes
sure.  Other events may come in any order, and primitives, clock and random numbers are arbitrary.
-/

namespace WireguardNx.Runtime

open Wireguard PeerRuntime HandlerState List

variable {effects : List RuntimeEffect} {binding : UdpBinding}

/-! ## Batches -/

/-- Effects that fit are all in the batch. -/
theorem foldlM_add_of_le {batch : EffectBatch}
    (h : batch.effects.length + effects.length ≤ effectBatchCapacity) :
    ∃ result, effects.foldlM EffectBatch.add batch = some result ∧
      result.effects = batch.effects ++ effects := by
  induction effects generalizing batch with
  | nil => exact ⟨batch, rfl, (append_nil _).symm⟩
  | cons effect effects ih =>
    rw [length_cons] at h
    have hroom : batch.effects.length < effectBatchCapacity := by omega
    have hlen : (batch.effects ++ [effect]).length ≤ effectBatchCapacity := by
      rw [length_append]; exact hroom
    have hrest : (batch.effects ++ [effect]).length + effects.length ≤ effectBatchCapacity := by
      rw [length_append, length_singleton]; omega
    obtain ⟨result, hresult, heff⟩ :=
      @ih ⟨batch.effects ++ [effect], hlen⟩ hrest
    refine ⟨result, ?_, by rw [heff, append_assoc, singleton_append]⟩
    rw [foldlM_cons, EffectBatch.add, dif_pos hroom]
    exact hresult

/-- Effects that do not fit abort. -/
theorem foldlM_add_of_lt {batch : EffectBatch}
    (h : effectBatchCapacity < batch.effects.length + effects.length) :
    effects.foldlM EffectBatch.add batch = none := by
  induction effects generalizing batch with
  | nil => exact absurd batch.size_le (Nat.not_le.mpr h)
  | cons effect effects ih =>
    rw [foldlM_cons, EffectBatch.add]
    split
    · refine ih ?_
      simp only [length_append, length_cons, length_nil] at h ⊢
      omega
    · rfl

theorem collect_of_le (h : effects.length ≤ effectBatchCapacity) :
    EffectBatch.collect effects = some ⟨effects, h⟩ := by
  have hempty : EffectBatch.empty.effects.length + effects.length ≤ effectBatchCapacity := by
    simpa [EffectBatch.empty] using h
  obtain ⟨⟨result, hsize⟩, hresult, rfl⟩ := foldlM_add_of_le hempty
  exact hresult

theorem collect_of_lt (h : effectBatchCapacity < effects.length) :
    EffectBatch.collect effects = none :=
  foldlM_add_of_lt (by simpa [EffectBatch.empty] using h)

/-! ## Timer tokens -/

/-- The peer with other timers, which is all that finishing a batch changes. -/
def PeerRuntime.withTimers (s : PeerRuntime) (timers : TimerCoordinator) (intent : WgTimers) :
    PeerRuntime :=
  { s.withPeer { s.device.peer with timers := intent } with timers }

def RuntimeEffect.isTimer : RuntimeEffect → Bool
  | .armProtocolTimer _ _ _ _ | .cancelProtocolTimer _ _ _ => true
  | _ => false

theorem finalizeTimerEffect_spec (s : PeerRuntime) (effect : RuntimeEffect) :
    (∃ timers intent, (s.finalizeTimerEffect effect).2 = s.withTimers timers intent) ∧
      (effect.isTimer = false → (s.finalizeTimerEffect effect).1 = effect) := by
  cases effect with
  | armProtocolTimer identity hook token deadline =>
    refine ⟨?_, nofun⟩
    unfold finalizeTimerEffect
    simp only
    split
    · exact ⟨s.timers, s.device.peer.timers, rfl⟩
    · exact ⟨_, _, rfl⟩
  | cancelProtocolTimer identity hook token =>
    refine ⟨?_, nofun⟩
    unfold finalizeTimerEffect
    simp only
    split
    · exact ⟨s.timers, s.device.peer.timers, rfl⟩
    split
    · exact ⟨_, _, rfl⟩
    · exact ⟨_, s.device.peer.timers, rfl⟩
  | _ => exact ⟨⟨s.timers, s.device.peer.timers, rfl⟩, fun _ => rfl⟩

/-- Finishing a batch changes timers only and leaves the other effects. -/
theorem finalizeTimerEffects_spec (effects : List RuntimeEffect) (s : PeerRuntime) :
    (∃ timers intent, (finalizeTimerEffects effects s).2 = s.withTimers timers intent) ∧
      ∀ effect ∈ effects, effect.isTimer = false →
        effect ∈ (finalizeTimerEffects effects s).1 := by
  induction effects generalizing s with
  | nil => exact ⟨⟨s.timers, s.device.peer.timers, rfl⟩, nofun⟩
  | cons effect effects ih =>
    obtain ⟨⟨timers, intent, hfirst⟩, hkept⟩ := finalizeTimerEffect_spec s effect
    obtain ⟨⟨timers', intent', hrest⟩, hrestKept⟩ := ih (s.finalizeTimerEffect effect).2
    have hunfold : finalizeTimerEffects (effect :: effects) s =
        ((s.finalizeTimerEffect effect).1 ::
          (finalizeTimerEffects effects (s.finalizeTimerEffect effect).2).1,
        (finalizeTimerEffects effects (s.finalizeTimerEffect effect).2).2) := rfl
    rw [hunfold]
    refine ⟨⟨timers', intent', ?_⟩, fun e he hother => ?_⟩
    · rw [hrest, hfirst]
      rfl
    · rcases mem_cons.mp he with rfl | he
      · rw [hkept hother]
        exact mem_cons_self
      · exact mem_cons_of_mem _ (hrestKept e he hother)

/-! ## One event -/

section Handle

variable {c : Crypto} {p : Platform} {s after : PeerRuntime} {event : PeerEvent}
  {batch : EffectBatch}

private theorem maxEffects_le {event : PeerEvent} : event.maxEffects ≤ effectBatchCapacity := by
  cases event <;> simp [PeerEvent.maxEffects, effectBatchCapacity]

/-- An event is handled without an abort exactly when its handler does not abort and keeps to the
budget of the event. -/
theorem handle_isSome_iff : (s.handle c p event).isSome ↔
      ∃ st, s.handleEvent c p event = some st ∧ st.effects.length ≤ event.maxEffects := by
  unfold handle
  cases hst : s.handleEvent c p event with
  | none => simp
  | some st =>
    simp only [Option.some.injEq, exists_eq_left']
    by_cases hfits : st.effects.length ≤ effectBatchCapacity
    · simp only [collect_of_le hfits, finalizeBatch, EffectBatch.size,
        finalizeTimerEffects_length]
      split
      · rename_i hover
        simp only [Option.isSome_none, Bool.false_eq_true, false_iff, Nat.not_le]
        exact hover
      · rename_i hunder
        simp only [Option.isSome_some, true_iff]
        exact Nat.not_lt.mp hunder
    · simp only [collect_of_lt (Nat.not_le.mp hfits), Option.isSome_none, Bool.false_eq_true,
        false_iff]
      exact fun hle => hfits (hle.trans maxEffects_le)

/-- An event that is handled has its requests for timers granted in order. -/
theorem handle_finalized (h : s.handle c p event = some (after, batch)) :
    ∃ st, s.handleEvent c p event = some st ∧ st.effects.length ≤ event.maxEffects ∧
      finalizeTimerEffects st.effects st.runtime = (batch.effects, after) := by
  unfold handle at h
  split at h
  · cases h
  rename_i st hst
  by_cases hfits : st.effects.length ≤ effectBatchCapacity
  · simp only [collect_of_le hfits, finalizeBatch, EffectBatch.size,
      finalizeTimerEffects_length] at h
    split at h
    · cases h
    · rename_i hunder
      cases h
      exact ⟨st, hst, Nat.not_lt.mp hunder, rfl⟩
  · simp only [collect_of_lt (Nat.not_le.mp hfits)] at h
    cases h

theorem handle_spec (h : s.handle c p event = some (after, batch)) :
    ∃ st timers intent, s.handleEvent c p event = some st ∧
      after = st.runtime.withTimers timers intent ∧
      ∀ effect ∈ st.effects, effect.isTimer = false → effect ∈ batch.effects := by
  obtain ⟨st, hst, -, hfinal⟩ := handle_finalized h
  obtain ⟨⟨timers, intent, htimers⟩, hkept⟩ := finalizeTimerEffects_spec st.effects st.runtime
  rw [hfinal] at htimers hkept
  exact ⟨st, timers, intent, hst, htimers, hkept⟩

end Handle

/-! ## Soundness -/

/-- A protocol peer was initialised from usable keys. -/
structure PeerRuntime.DeviceSound (c : Crypto) (s : PeerRuntime) : Prop where
  ready : s.hasProtocolPeer = true → s.device.peer.Ready c
  nextFresh : s.device.peer.NextFresh

/-- What holds of a peer between two events. -/
structure PeerRuntime.Sound (c : Crypto) (s : PeerRuntime) : Prop extends s.DeviceSound c where
  open_transport : s.binding.isOpen = true →
    s.isInTransportState = true ∧ s.binding.suspended = false
  transport_open : s.isInTransportState = true → s.binding.suspended = false →
    s.binding.isOpen = true
  transport_peer : s.isInTransportState = true → s.hasProtocolPeer = true
  pending_transport : s.pendingDatagram.isSome = true → s.isInTransportState = true

namespace PeerRuntime

variable {c : Crypto} {s t : PeerRuntime}

theorem Same.sound (h : s.Same c t) (hs : s.Sound c) : t.Sound c := by
  have hopen : t.binding.isOpen = s.binding.isOpen := by
    unfold UdpBinding.isOpen
    rw [h.socket]
  refine ⟨⟨fun hpeer => ?_, h.device.peer.carries.nextFresh hs.nextFresh⟩, ?_, ?_, ?_, ?_⟩
  · rw [h.hasProtocolPeer] at hpeer
    exact h.device.peer.carries.ready (hs.ready hpeer)
  · rw [hopen, h.transport, h.suspended]; exact hs.open_transport
  · rw [hopen, h.transport, h.suspended]; exact hs.transport_open
  · rw [h.transport, h.hasProtocolPeer]; exact hs.transport_peer
  · rw [h.pending, h.transport]; exact hs.pending_transport

theorem withTimers_same (s : PeerRuntime) (timers : TimerCoordinator) (intent : WgTimers) :
    s.Same c (s.withTimers timers intent) :=
  ⟨Or.inl rfl, rfl, rfl, rfl, rfl, rfl, rfl, rfl, rfl, Or.inl ⟨⟨rfl, rfl, rfl, id⟩, rfl⟩⟩

/-- The error state is sound whatever the transport looked like before it. -/
theorem DeviceSound.fail {st : HandlerState} (h : st.runtime.DeviceSound c) (stage : PeerErrorStage)
    (code : PeerErrorCode) (now : Ktime) :
    (st.enterActivationError stage code now).runtime.Sound c := by
  rw [enterActivationError_eq]
  have hkeeps := scrubbedDevice_keeps st.runtime
  have hclosed : (if st.runtime.binding.isOpen = true then st.runtime.binding.releaseSocket
      else st.runtime.binding).isOpen = false := by
    split
    · rfl
    · rename_i hopen
      exact Bool.eq_false_iff.mpr hopen
  refine ⟨⟨fun hpeer => ?_, hkeeps.nextFresh h.nextFresh⟩, fun hopen => ?_, ?_, ?_, ?_⟩
  · refine WgPeer.Ready.of_eq (h.ready ?_) hkeeps.identity hkeeps.precomputed
    simpa only [hasProtocolPeer, scrubbedDevice_hasPeer] using hpeer
  · simp only [hclosed] at hopen
    cases hopen
  · intro htrans; cases htrans
  · intro htrans; cases htrans
  · intro hpend; cases hpend

end PeerRuntime

theorem Move.sound {c : Crypto} {identity : PeerIdentity} {st after : HandlerState}
    (h : Move c identity st after) (hs : st.runtime.Sound c) : after.runtime.Sound c := by
  cases h with
  | emit effect _ => exact hs
  | note s hsame => exact hsame.sound hs
  | fill bytes packetId kind htrans _ _ _ =>
    exact ⟨⟨hs.ready, hs.nextFresh⟩, hs.open_transport, hs.transport_open, hs.transport_peer,
      fun _ => htrans⟩
  | drop disposition _ _ =>
    exact ⟨⟨fun hpeer => (hs.ready hpeer).of_eq rfl rfl, hs.nextFresh⟩, hs.open_transport,
      hs.transport_open, hs.transport_peer, hs.pending_transport⟩
  | giveUp device hkeeps _ =>
    have hpeer : hasProtocolPeer { st.runtime with device } =
        st.runtime.hasProtocolPeer := by
      unfold hasProtocolPeer
      rw [show device.hasPeer = st.runtime.device.hasPeer from hkeeps.hasPeer]
    refine ⟨⟨fun h => ?_, hkeeps.peer.nextFresh hs.nextFresh⟩, hs.open_transport,
      hs.transport_open, fun h => ?_, hs.pending_transport⟩
    · rw [hpeer] at h
      exact (hs.ready h).of_eq hkeeps.peer.identity hkeeps.peer.precomputed
    · rw [hpeer]
      exact hs.transport_peer h
  | suspend =>
    refine ⟨⟨hs.ready, hs.nextFresh⟩, fun h => ?_, fun _ h => ?_, hs.transport_peer,
      hs.pending_transport⟩
    · cases h
    · cases h
  | fail stage code now => exact hs.toDeviceSound.fail stage code now

theorem Moves.sound {c : Crypto} {identity : PeerIdentity} {st after : HandlerState}
    (h : Moves c identity st after) (hs : st.runtime.Sound c) : after.runtime.Sound c := by
  induction h with
  | refl => exact hs
  | tail _ hmove ih => exact hmove.sound ih

/-! ## Entries -/

section Entries

variable {c : Crypto} {s : PeerRuntime} {event : DeactivationRequestedEvent}

/-- An activation is requested only of a peer that has none, as `DaemonRuntime` makes sure. -/
def PeerEvent.Admissible (s : PeerRuntime) : PeerEvent → Prop
  | .activationRequested _ => s.lifecycle.state = .inactive ∨ s.lifecycle.state = .error
  | _ => True

/-- The datagram that an event completes. -/
def PeerRuntime.completing (s : PeerRuntime) : PeerEvent → Option PendingDatagram
  | .pendingDatagramSent event =>
    if s.isCurrentActivation event.peer.activationGeneration then
      s.pendingDatagram.filter fun pending => pending.generation = event.datagramGeneration
    else none
  | _ => none

/-- A peer after its deactivation. -/
structure PeerRuntime.Deactivated (before after : PeerRuntime) : Prop where
  state : after.lifecycle.state = .inactive
  activation : after.lifecycle.activationGeneration = 0
  peerIndex : after.peerIndex = before.peerIndex
  socket : after.binding.socket = invalidSocket
  pending : after.pendingDatagram = none
  device : after.device = .reset
  instantiated : after.instantiated = false

theorem socket_of_not_isOpen (h : ¬ binding.isOpen) : binding.socket = invalidSocket := by
  unfold UdpBinding.isOpen at h
  simpa using h

/-- Cancelling timers outright changes timers and adds one cancellation each. -/
theorem deactivateTimers_spec (hooks : List TimerHook) (identity : PeerIdentity)
    (st : HandlerState) : ∃ timers intent effects,
      hooks.foldl (fun st hook => deactivateTimer st identity hook) st =
        ⟨st.runtime.withTimers timers intent, st.effects ++ effects⟩ ∧
      effects.length = hooks.length ∧
      ∀ effect ∈ effects, ∃ hook token, effect = .cancelProtocolTimer identity hook token := by
  induction hooks generalizing st with
  | nil => exact ⟨st.runtime.timers, st.runtime.device.peer.timers, [], by simp; rfl, rfl, by simp⟩
  | cons hook hooks ih =>
    obtain ⟨timers, intent, effects, hfold, hlength, hcancels⟩ :=
      ih (deactivateTimer st identity hook)
    refine ⟨timers, intent,
      .cancelProtocolTimer identity hook (st.runtime.timers.cancel hook).1 :: effects, ?_, ?_, ?_⟩
    · rw [foldl_cons, hfold, append_cons]
      rfl
    · rw [length_cons, length_cons, hlength]
    · intro effect hmem
      rcases mem_cons.mp hmem with rfl | hmem
      · exact ⟨hook, _, rfl⟩
      · exact hcancels effect hmem

/-- The peer once a deactivation has given up its path and its socket. -/
def PeerRuntime.givenUp (s : PeerRuntime) (identity : PeerIdentity) : HandlerState where
  runtime := { s with
    binding := if s.binding.isOpen then s.binding.releaseSocket else s.binding }
  effects :=
    (if s.pathRequestGeneration ≠ 0 then
      [.stopNetworkPathRequest identity s.pathRequestGeneration] else []) ++
    if s.binding.isOpen then [.closeUdpSocket s.pathRequestGeneration s.binding.socket] else []

/-- A deactivation gives up the path and the socket, cancels every timer of a protocol peer and
resets the peer. -/
theorem handleDeactivationRequested_eq (h : s.isCurrentActivation event.peer.activationGeneration) :
    s.handleDeactivationRequested event =
      let last := if s.hasProtocolPeer then
          timerHooks.foldl (fun st hook => deactivateTimer st event.peer hook)
          (s.givenUp event.peer)
        else s.givenUp event.peer
      { last with runtime := last.runtime.deactivate event.occurredAt } := by
  have hgiven : (if s.binding.isOpen then
        ⟨{ s with binding := s.binding.releaseSocket }, (if s.pathRequestGeneration ≠ 0 then
          add ⟨s, []⟩ (.stopNetworkPathRequest event.peer s.pathRequestGeneration)
          else ⟨s, []⟩).effects ++ [.closeUdpSocket s.pathRequestGeneration s.binding.socket]⟩
      else if s.pathRequestGeneration ≠ 0 then
        add ⟨s, []⟩ (.stopNetworkPathRequest event.peer s.pathRequestGeneration)
      else ⟨s, []⟩) = s.givenUp event.peer := by
    unfold givenUp
    by_cases hpath : s.pathRequestGeneration ≠ 0
    · simp only [if_pos hpath]
      split <;> rfl
    · simp only [if_neg hpath]
      split <;> rfl
  have hpeer : (s.givenUp event.peer).runtime.hasProtocolPeer = s.hasProtocolPeer := rfl
  unfold handleDeactivationRequested
  rw [if_neg (by simp [h])]
  simp only [hgiven, hpeer]

/-- What a deactivation comes to. -/
theorem handleDeactivationRequested_writes
    (h : s.isCurrentActivation event.peer.activationGeneration) :
    ∃ timers intent cancels, s.handleDeactivationRequested event =
        ⟨((s.givenUp event.peer).runtime.withTimers timers intent).deactivate event.occurredAt,
          (s.givenUp event.peer).effects ++ cancels⟩ ∧
      cancels.length = (if s.hasProtocolPeer then 5 else 0) ∧
      ∀ effect ∈ cancels, ∃ hook token, effect = .cancelProtocolTimer event.peer hook token := by
  rw [handleDeactivationRequested_eq h]
  by_cases hpeer : s.hasProtocolPeer
  · obtain ⟨timers, intent, cancels, hfold, hlength, hcancels⟩ :=
      deactivateTimers_spec timerHooks event.peer (s.givenUp event.peer)
    simp only [if_pos hpeer, hfold]
    exact ⟨timers, intent, cancels, rfl, hlength, hcancels⟩
  · simp only [if_neg hpeer]
    exact ⟨s.timers, s.device.peer.timers, [], by rw [append_nil]; rfl, rfl, nofun⟩

/-- A deactivation releases the socket and resets the peer.  It adds the end of the path request,
the close of the socket and the cancellation of five timers, each where there is one. -/
theorem handleDeactivationRequested_spec (h : s.isCurrentActivation event.peer.activationGeneration) :
    s.Deactivated (s.handleDeactivationRequested event).runtime ∧
      (s.handleDeactivationRequested event).effects.length =
        (if s.pathRequestGeneration ≠ 0 then 1 else 0) + (if s.binding.isOpen then 1 else 0) +
          (if s.hasProtocolPeer then 5 else 0) ∧
      ∀ effect ∈ (s.handleDeactivationRequested event).effects, effect.isSend = false := by
  obtain ⟨timers, intent, cancels, heq, hlength, hcancels⟩ := handleDeactivationRequested_writes h
  rw [heq]
  refine ⟨⟨rfl, rfl, rfl, ?_, rfl, rfl, rfl⟩, ?_, fun effect hmem => ?_⟩
  · show (if s.binding.isOpen then s.binding.releaseSocket else s.binding).socket = _
    split
    · rfl
    · exact socket_of_not_isOpen ‹_›
  · simp only [givenUp, length_append, hlength, apply_ite length, length_singleton,
      length_nil]
  · rcases mem_append.mp hmem with hmem | hmem
    · simp only [givenUp, mem_append, mem_ite_nil_right, mem_singleton] at hmem
      rcases hmem with ⟨-, rfl⟩ | ⟨-, rfl⟩
      · rfl
      · rfl
    · obtain ⟨hook, token, rfl⟩ := hcancels effect hmem
      rfl

theorem reset_nextFresh : WgDevice.reset.peer.NextFresh := ⟨rfl, rfl⟩

/-- A peer without a transport, a protocol peer or a pending datagram. -/
theorem sound_of_idle (hstate : s.isInTransportState = false) (hopen : s.binding.isOpen = false)
    (hdev : s.device = .reset) (hpend : s.pendingDatagram = none) : s.Sound c := by
  refine ⟨⟨fun h => ?_, hdev ▸ reset_nextFresh⟩, fun h => ?_, fun h => ?_, fun h => ?_,
    fun h => ?_⟩
  · unfold hasProtocolPeer at h
    rw [hdev, show WgDevice.reset.hasPeer = false from rfl, Bool.and_false] at h
    cases h
  · rw [hopen] at h; cases h
  · rw [hstate] at h; cases h
  · rw [hstate] at h; cases h
  · rw [hpend] at h; cases h

theorem PeerRuntime.Deactivated.sound {after : PeerRuntime} (h : s.Deactivated after) :
    after.Sound c := by
  refine sound_of_idle ?_ ?_ h.device h.pending
  · unfold isInTransportState
    rw [h.state]; rfl
  · unfold UdpBinding.isOpen
    rw [h.socket]; rfl

/-- Zeroing keeps all but the queue and the record of accepted initiations. -/
theorem zeroed_sound (hs : s.Sound c) : s.zeroed.Sound c :=
  ⟨⟨fun hpeer => (hs.ready hpeer).of_eq rfl rfl, rfl, rfl⟩, hs.open_transport, hs.transport_open,
    hs.transport_peer, hs.pending_transport⟩

private theorem completed_sound (hs : s.Sound c) {kind : PendingDatagramKind}
    {disposition : QueueDisposition} : (s.completed kind disposition).Sound c := by
  unfold completed
  split
  · exact ⟨⟨fun hpeer => (hs.ready hpeer).of_eq rfl rfl, hs.nextFresh⟩, hs.open_transport,
      hs.transport_open, hs.transport_peer, nofun⟩
  · exact ⟨⟨hs.ready, hs.nextFresh⟩, hs.open_transport, hs.transport_open, hs.transport_peer,
      nofun⟩

theorem withQueue_sound (hs : s.Sound c) (queue : InnerPacketQueue peerStagedPacketCapacity) :
    (s.withPeer { s.device.peer with stagedOutboundPackets := queue }).Sound c :=
  ⟨⟨fun hpeer => (hs.ready hpeer).of_eq rfl rfl, hs.nextFresh⟩, hs.open_transport,
    hs.transport_open, hs.transport_peer, hs.pending_transport⟩

private theorem activated_sound (hs : s.Sound c) {now : Ktime}
    (hstate : s.lifecycle.state = .inactive ∨ s.lifecycle.state = .error) :
    (s.activated now).Sound c := by
  refine sound_of_idle rfl ?_ rfl rfl
  refine Bool.eq_false_iff.mpr fun hopen => ?_
  have htrans := (hs.open_transport hopen).1
  unfold isInTransportState at htrans
  rcases hstate with hstate | hstate
  · rw [hstate] at htrans; cases htrans
  · rw [hstate] at htrans; cases htrans

private theorem bound_sound {peer : WgPeer} {now : Ktime} (hopen : binding.isOpen)
    (hsusp : binding.suspended = false)
    (hpeer : ∃ key text psk interval, WgPeer.initializePeer c key text psk interval = some peer) :
    (s.bound binding peer now).Sound c := by
  obtain ⟨key, text, psk, interval, hinit⟩ := hpeer
  obtain ⟨remote, -, hid⟩ := initializePeer_hasIdentity hinit
  refine ⟨⟨fun _ => ⟨_, remote, _, hid⟩, ?_⟩, fun _ => ⟨rfl, hsusp⟩, fun _ _ => hopen,
    fun _ => rfl, fun _ => rfl⟩
  exact (initializePeer_fresh hinit).1

private theorem rebound_sound (hs : s.Sound c) (htrans : s.isInTransportState)
    (hopen : binding.isOpen) (hsusp : binding.suspended = false) :
    (s.rebound binding).Sound c :=
  ⟨⟨hs.ready, hs.nextFresh⟩, fun _ => ⟨htrans, hsusp⟩, fun _ _ => hopen,
    hs.transport_peer, hs.pending_transport⟩

theorem Entry.sound {event : PeerEvent} {entry : HandlerState} (h : Entry c s event entry)
    (hevent : event.Admissible s) (hs : s.Sound c) : entry.runtime.Sound c := by
  cases h with
  | stay => exact hs
  | staged _ after _ _ _ hpush =>
    obtain ⟨queue, rfl, -⟩ := pushBatch_spec hpush
    exact withQueue_sound hs queue
  | refused event record _ => exact withQueue_sound hs _
  | completed event pending _ _ _ => exact completed_sound hs
  | zeroed event _ _ => exact zeroed_sound hs
  | activated event _ => exact activated_sound hs hevent
  | deactivated event hact => exact (handleDeactivationRequested_spec hact).1.sound
  | rebound event binding htrans hopen hsusp =>
    exact rebound_sound hs htrans hopen hsusp
  | bound event binding peer _ hopen hsusp hpeer => exact bound_sound hopen hsusp hpeer
  | unbound event binding _ =>
    refine DeviceSound.fail ⟨fun hpeer => ?_, reset_nextFresh⟩ _ _ _
    cases hpeer

end Entries

/-! ## The machine -/

/-- The states a configured peer starts in. -/
def PeerRuntime.Configured (s : PeerRuntime) : Prop :=
  ∃ peerIndex config derived now,
    empty.configure peerIndex config derived now = some s

def PeerRuntime.after (c : Crypto) (s : PeerRuntime) (step : Platform × PeerEvent) :
    Option PeerRuntime :=
  (s.handle c step.1 step.2).map Prod.fst

/-- A peer that was configured and then handles events, as far as `allowed` lets it. -/
def peersWhere (c : Crypto) (allowed : PeerRuntime → PeerEvent → Prop) : Machine PeerRuntime :=
  .ofActions PeerRuntime.Configured (fun s step => step.2.Admissible s ∧ allowed s step.2)
    (after c)

/-- A peer that was configured and then handles any events. -/
def peers (c : Crypto) : Machine PeerRuntime := peersWhere c fun _ _ => True

section Reachable

variable {c : Crypto} {s after : PeerRuntime}

theorem configure_sound {peerIndex : UInt32} {config : PeerConfigEntry}
    {derived : PeerConfigDerivedInfo} {now : Ktime}
    (h : s.configure peerIndex config derived now = some after) : after.Sound c := by
  unfold configure at h
  split at h
  · cases h
  · rename_i hsocket
    cases h
    refine sound_of_idle rfl ?_ rfl rfl
    unfold UdpBinding.isOpen
    exact decide_eq_false hsocket

/-- A configured peer starts with nothing. -/
theorem configure_spec {peerIndex : UInt32} {config : PeerConfigEntry}
    {derived : PeerConfigDerivedInfo} {now : Ktime}
    (h : s.configure peerIndex config derived now = some after) :
    after.device = .reset ∧ after.pendingDatagram = none := by
  unfold configure at h
  split at h
  · cases h
  · cases h; exact ⟨rfl, rfl⟩

theorem handleEvent_sound {p : Platform} {event : PeerEvent} {st : HandlerState}
    (h : s.handleEvent c p event = some st) (hevent : event.Admissible s) (hs : s.Sound c) :
    st.runtime.Sound c := by
  obtain ⟨entry, hentry, hmoves⟩ := handleEvent_enters hs.pending_transport h
  exact hmoves.sound (hentry.sound hevent hs)

/-- One event keeps a peer sound. -/
theorem handle_sound {p : Platform} {event : PeerEvent} {batch : EffectBatch}
    (h : s.handle c p event = some (after, batch)) (hevent : event.Admissible s) (hs : s.Sound c) :
    after.Sound c := by
  obtain ⟨st, timers, intent, hst, rfl, -⟩ := handle_spec h
  exact (withTimers_same _ timers intent).sound (handleEvent_sound hst hevent hs)

/-- Every reachable peer is sound. -/
theorem peersWhere_sound {allowed : PeerRuntime → PeerEvent → Prop}
    (h : (peersWhere c allowed).Reachable s) : s.Sound c := by
  refine h.invariant ?_ ?_
  · rintro s ⟨peerIndex, config, derived, now, hconf⟩
    exact configure_sound hconf
  · rintro s t - hs ⟨⟨p, event⟩, ⟨hevent, -⟩, hstep⟩
    obtain ⟨⟨after, batch⟩, hhandle, rfl⟩ := Option.map_eq_some_iff.mp hstep
    exact handle_sound hhandle hevent hs

/-- A predicate that a configured peer has, and that entries and moves keep, holds of every
reachable peer. -/
theorem peersWhere_invariant {allowed : PeerRuntime → PeerEvent → Prop} {P : PeerRuntime → Prop}
    (hstart : ∀ s, s.device = .reset → s.pendingDatagram = none → P s)
    (hsame : ∀ s t, s.Same c t → P s → P t)
    (hentry : ∀ s event entry, s.Sound c → allowed s event → Entry c s event entry → P s →
      P entry.runtime)
    (hmove : ∀ identity st after, Move c identity st after → P st.runtime → P after.runtime)
    (h : (peersWhere c allowed).Reachable s) : P s := by
  refine h.invariant ?_ ?_
  · rintro s ⟨peerIndex, config, derived, now, hconf⟩
    exact hstart s (configure_spec hconf).1 (configure_spec hconf).2
  · rintro s t hr hs ⟨⟨p, event⟩, ⟨hevent, hallowed⟩, hstep⟩
    obtain ⟨⟨after, batch⟩, hhandle, rfl⟩ := Option.map_eq_some_iff.mp hstep
    have hsound := peersWhere_sound hr
    obtain ⟨st, timers, intent, hst, rfl, -⟩ := handle_spec hhandle
    refine hsame _ _ (withTimers_same _ timers intent) ?_
    obtain ⟨entry, hentered, hmoves⟩ := handleEvent_enters hsound.pending_transport hst
    have hP := hentry s event entry hsound hallowed hentered hs
    clear hst hhandle hstep
    induction hmoves with
    | refl => exact hP
    | tail _ hlast ih => exact hmove _ _ _ hlast ih

end Reachable

/-! ## Runs on given events -/

section Runs

variable {c : Crypto}

instance (s : PeerRuntime) (event : PeerEvent) : Decidable (event.Admissible s) :=
  match event with
  | .activationRequested _ =>
    inferInstanceAs (Decidable (s.lifecycle.state = .inactive ∨ s.lifecycle.state = .error))
  | .deactivationRequested _ | .networkPathRequestStarted _ | .networkPathAvailabilityChanged _
  | .transportFailure _ | .endpointResolved _ | .udpBindOpened _ | .udpRebindRequested _
  | .encryptedDatagramReceived _ | .pendingDatagramSent _ | .innerPacketStaged _
  | .innerPacketBatchStaged _ | .processOutboundQueue _ | .protocolTimerExpired _ =>
    inferInstanceAs (Decidable True)

variable {allowed : PeerRuntime → PeerEvent → Prop} [∀ s event, Decidable (allowed s event)]

/-- The sample peer, of index 0 with the private key of 32 ones, whose remote peer has that of 32
twos. -/
def samplePeer (mtu : UInt16) : Option PeerRuntime :=
  empty.configure 0 ⟨"host:1".toList, encodedTwos, "0.0.0.0/0".toList, 0, mtu⟩
    ⟨.of (List.Vector.replicate 32 1), .clear, false, true⟩ 0

theorem samplePeer_configured {mtu : UInt16} {s : PeerRuntime} (h : samplePeer mtu = some s) :
    s.Configured :=
  ⟨_, _, _, _, h⟩

/-- A run of the sample peer. -/
def sampleRun (c : Crypto) (allowed : PeerRuntime → PeerEvent → Prop)
    [∀ s event, Decidable (allowed s event)] (mtu : UInt16)
    (events : List (Platform × PeerEvent)) : Option PeerRuntime :=
  (samplePeer mtu).bind (Machine.runActions
    (fun s step => step.2.Admissible s ∧ allowed s step.2)
    (after c) events)

theorem sampleRun_reachable {mtu : UInt16} {events : List (Platform × PeerEvent)} {s : PeerRuntime}
    (h : sampleRun c allowed mtu events = some s) : (peersWhere c allowed).Reachable s := by
  obtain ⟨first, hfirst, hrun⟩ := Option.bind_eq_some_iff.mp h
  exact .of_runActions (.start (samplePeer_configured hfirst)) hrun

def sampleIdentity : PeerIdentity := ⟨0, 1⟩

def sampleEndpoint : Endpoint := ⟨.inet, 1, Bytes.zero 16⟩

/-- The events that take the sample peer to its first initiation. -/
def sampleActivation (now : MonotonicTime) : List (Platform × PeerEvent) :=
  [.activationRequested ⟨0, now⟩,
    .networkPathAvailabilityChanged ⟨sampleIdentity, 1, .available, now⟩,
    .endpointResolved ⟨sampleIdentity, 1, ⟨true, .none, .none, sampleEndpoint, []⟩, now⟩,
    .udpBindOpened ⟨sampleIdentity, 1, sampleEndpoint, [], 3, .none, 1, .activation, ⟨now, 0⟩,
      now⟩].map (Platform.constant now 7, ·)

/-- The completion of a pending datagram of the sample peer. -/
def sampleSent (now : MonotonicTime) (generation : UInt32) (error : SocketError) :
    Platform × PeerEvent :=
  (.constant now 7,
    .pendingDatagramSent ⟨sampleIdentity, generation, 148, error, ⟨now, 0⟩, now⟩)

def sampleReceived (now : MonotonicTime) (packet : List UInt8) : Platform × PeerEvent :=
  (.constant now 8, .encryptedDatagramReceived
    ⟨sampleIdentity, packet, sampleEndpoint, [], ⟨now, 0⟩, now⟩)

/-- The expiry of a timer that the sample peer armed. -/
def sampleExpired (now : MonotonicTime) (hook : TimerHook) (generation : UInt32) :
    Platform × PeerEvent :=
  (.constant now 8,
    .protocolTimerExpired ⟨sampleIdentity, hook, ⟨hook, ⟨0, 1, 0⟩, generation⟩, ⟨now, 0⟩, now⟩)

def samplePacket : List UInt8 := 0x60 :: List.replicate 39 0

def sampleStaged (now : MonotonicTime) (packet : List UInt8) (packetId : UInt64) :
    Platform × PeerEvent :=
  (.constant now 8, .innerPacketStaged ⟨sampleIdentity, packet, packetId, ⟨now, 0⟩, now⟩)

/-- The answer of the remote peer to the first initiation of the sample peer. -/
def sampleResponse : List UInt8 :=
  let remote := { Platform.constant (seconds 10) 9 with nextIndex := 6 }
  match sampleRun .transparent (fun _ _ => True) 0 (sampleActivation (seconds 10)) with
  | none => []
  | some s =>
    let packet := (s.pendingDatagram.map (·.bytes)).getD []
    let device := (noiseHandshakeConsumeIncomingPacket .transparent remote packet
      (sampleDevice 2 encodedOnes 5)).2
    match (noiseHandshakeCreateResponse .transparent remote device.peer).1 with
    | none => []
    | some response => (serializeHandshakeResponse response).toOption.getD []

/-- The events that take the sample peer to an established session and its first keepalive. -/
def sampleEstablished : List (Platform × PeerEvent) :=
  sampleActivation (seconds 10) ++
    [sampleSent (seconds 10) 1 .none, sampleReceived (seconds 11) sampleResponse]

end Runs

end WireguardNx.Runtime
