import WireguardNx.Runtime.Daemon
import WireguardNx.Laws.Aborts

/-!
# The peers of a daemon

Every peer of a reachable daemon is sound, and every peer but the active one is out of any
activation: it was never activated, was deactivated, or refused its configuration.  An event for
such a peer finds a stale identity, and changes nothing.
-/

namespace WireguardNx.Runtime

open Wireguard List

variable {batch : EffectBatch} {event : PeerEvent}

section Idle

variable {c : Crypto} {p : Platform} {s : PeerRuntime} {st : HandlerState}

/-- A peer out of any activation takes up activation requests only. -/
theorem Turn.runtime_of_zero (h : Turn c p s event st)
    (hzero : s.lifecycle.activationGeneration = 0)
    (hevent : ∀ request, event ≠ .activationRequested request) : st.runtime = s := by
  have hstale {generation : UInt32} (hcur : s.isCurrentActivation generation) : False :=
    Bool.noConfusion ((isCurrentActivation_of_zero hzero generation).symm.trans hcur)
  have hpath {activation path : UInt32} (hcur : s.isCurrentPathRequest activation path) :
      False := hstale (isCurrentActivation_of_isCurrentPathRequest hcur)
  cases h with
  | idle | ignore => rfl
  | traffic _ _ _ hcur _ | deactivate _ hcur | rebind _ _ _ hcur =>
    exact (hstale hcur).elim
  | refuse request | activate request => exact absurd rfl (hevent request)
  | doubt _ _ hcur | lose _ hcur | regain _ hcur | resolve _ hcur
  | unresolved _ _ _ hcur | bind _ hcur => exact (hpath hcur).elim
  | stale event _ => exact rejectSocket_runtime s event
  | drop _ hawaits | unopened _ hawaits | rebound _ _ _ hawaits | bound _ _ _ _ hawaits
  | unkeyed _ _ hawaits => exact (hstale (awaits_current hawaits)).elim

/-- A peer out of any activation, which has no transport. -/
structure PeerRuntime.Idle (s : PeerRuntime) : Prop where
  activation : s.lifecycle.activationGeneration = 0
  state : s.lifecycle.state = .inactive ∨ s.lifecycle.state = .error

/-- Without an activation generation a peer is idle. -/
theorem PeerRuntime.Activated.idle (hs : s.Activated) (h : s.lifecycle.activationGeneration = 0) :
    s.Idle := by
  refine ⟨h, ?_⟩
  have htrans : ¬ s.isInTransportState := fun ht => (hs.transport ht).1 h
  rw [isInTransportState_iff, not_or] at htrans
  cases hstate : s.lifecycle.state with
  | inactive => exact .inl rfl
  | resolvingEndpoint => exact absurd h (hs.resolving hstate).1
  | handshaking => exact absurd hstate htrans.1
  | active => exact absurd hstate htrans.2
  | error => exact .inr rfl

private theorem handle_idle {after : PeerRuntime} (h : s.handle c p event = some (after, batch))
    (hs : s.Idle) (hevent : ∀ request, event ≠ .activationRequested request) : after.Idle := by
  obtain ⟨st, timers, intent, hst, rfl, -⟩ := handle_filter h
  have hruntime := (handleEvent_turn hst).runtime_of_zero hs.activation hevent
  exact ⟨hruntime ▸ hs.activation, hruntime ▸ hs.state⟩

end Idle

/-! ## Slots -/

namespace PeerRegistry

variable {c : Crypto} {p : Platform} {r after : PeerRegistry} {s t : PeerRuntime}
  {index other : UInt32}

theorem peerAt_lt (h : r.peerAt index = some s) : index.toNat < r.count := by
  unfold peerAt at h
  split at h
  · assumption
  · cases h

theorem exists_peerAt (h : index.toNat < r.count) : ∃ s, r.peerAt index = some s := by
  have hlt : index.toNat < r.slots.length := r.slots_length ▸ h.trans_le r.count_le
  unfold peerAt
  rw [if_pos h]
  exact ⟨_, getElem?_eq_getElem hlt⟩

theorem peerAt_setPeer_self (h : r.peerAt index = some s) :
    (r.setPeer index t).peerAt index = some t := by
  have hlt := peerAt_lt h
  unfold peerAt setPeer
  rw [if_pos hlt]
  exact getElem?_set_self (r.slots_length ▸ hlt.trans_le r.count_le)

theorem peerAt_setPeer_ne (h : other ≠ index) :
    (r.setPeer index t).peerAt other = r.peerAt other := by
  have hne : index.toNat ≠ other.toNat := fun heq => h (UInt32.toNat_inj.mp heq).symm
  unfold peerAt setPeer
  simp only
  rw [getElem?_set_ne hne]

/-- An event goes to the peer it names, if there is one. -/
theorem dispatch_cases (h : r.dispatch c p event = some (after, batch)) :
    (r.peerAt event.peerIndex = none ∧ after = r ∧ batch = .empty) ∨
      ∃ s t, r.peerAt event.peerIndex = some s ∧ s.handle c p event = some (t, batch) ∧
        after = r.setPeer event.peerIndex t := by
  unfold dispatch at h
  split at h
  · rename_i hnone
    cases h
    exact .inl ⟨hnone, rfl, rfl⟩
  · rename_i s hs
    obtain ⟨⟨t, handled⟩, hhandle, heq⟩ := Option.map_eq_some_iff.mp h
    cases heq
    exact .inr ⟨s, t, hs, hhandle, rfl⟩

theorem dispatch_of_handle (h : s.handle c p event = some (t, batch))
    (hs : r.peerAt event.peerIndex = some s) :
    r.dispatch c p event = some (r.setPeer event.peerIndex t, batch) := by
  unfold dispatch
  rw [hs]
  exact congrArg (Option.map _) h

/-- Every peer is sound, and all but the active one are idle. -/
structure Sound (c : Crypto) (r : PeerRegistry) : Prop where
  sound : ∀ index s, r.peerAt index = some s → s.Sound c
  activated : ∀ index s, r.peerAt index = some s → s.Activated
  idle : ∀ index s, r.peerAt index = some s → r.activePeerIndex ≠ index.toNat → s.Idle

theorem Sound.setPeer (hr : r.Sound c) (hs : t.Sound c) (hactivated : t.Activated)
    (hidle : r.activePeerIndex ≠ index.toNat → t.Idle) (h : r.peerAt index = some s) :
    (r.setPeer index t).Sound c := by
  have hpeer {other : UInt32} {u : PeerRuntime} (hu : (r.setPeer index t).peerAt other = some u) :
      (other = index ∧ u = t) ∨ r.peerAt other = some u := by
    by_cases heq : other = index
    · rw [heq, peerAt_setPeer_self h] at hu
      cases hu
      exact .inl ⟨heq, rfl⟩
    · rw [peerAt_setPeer_ne heq] at hu
      exact .inr hu
  refine ⟨fun other u hu => ?_, fun other u hu => ?_, fun other u hu hother => ?_⟩
  · obtain ⟨-, rfl⟩ | hu := hpeer hu
    · exact hs
    · exact hr.sound other u hu
  · obtain ⟨-, rfl⟩ | hu := hpeer hu
    · exact hactivated
    · exact hr.activated other u hu
  · obtain ⟨rfl, rfl⟩ | hu := hpeer hu
    · exact hidle hother
    · exact hr.idle other u hu hother

/-- An event that is no activation request keeps the registry sound. -/
theorem Sound.dispatch (hr : r.Sound c) (h : r.dispatch c p event = some (after, batch))
    (hevent : ∀ request, event ≠ .activationRequested request) : after.Sound c := by
  obtain ⟨-, rfl, -⟩ | ⟨s, t, hs, hhandle, rfl⟩ := dispatch_cases h
  · exact hr
  · have hadmissible : event.Admissible s := by
      cases event with
      | activationRequested request => exact absurd rfl (hevent request)
      | _ => trivial
    refine hr.setPeer (handle_sound hhandle hadmissible (hr.sound _ s hs))
      (handle_activated hhandle (hr.activated _ s hs)) (fun hother => ?_) hs
    exact handle_idle hhandle (hr.idle _ s hs hother) hevent

/-- The active peer may be activated when it is idle. -/
theorem Sound.activate {request : ActivationRequestedEvent} (hr : r.Sound c)
    (hactive : r.activePeerIndex = request.peerIndex.toNat)
    (hidle : ∀ s, r.peerAt request.peerIndex = some s → s.Idle)
    (h : r.dispatch c p (.activationRequested request) = some (after, batch)) : after.Sound c := by
  obtain ⟨-, rfl, -⟩ | ⟨s, t, hs, hhandle, rfl⟩ := dispatch_cases h
  · exact hr
  · exact hr.setPeer (handle_sound hhandle (hidle s hs).state (hr.sound _ s hs))
      (handle_activated hhandle (hr.activated _ s hs)) (fun hother => absurd hactive hother) hs

/-! ## Staged packets -/

theorem clearStagedInnerPackets_cases (s : PeerRuntime) : ∃ queue, s.clearStagedInnerPackets =
      s.withPeer { s.device.peer with stagedOutboundPackets := queue } := by
  unfold PeerRuntime.clearStagedInnerPackets
  split
  · exact ⟨_, rfl⟩
  · exact ⟨s.device.peer.stagedOutboundPackets, rfl⟩

theorem cleared_sound (hs : s.Sound c) : s.clearStagedInnerPackets.Sound c := by
  obtain ⟨queue, hqueue⟩ := clearStagedInnerPackets_cases s
  rw [hqueue]
  exact withQueue_sound hs queue

theorem cleared_activated (hs : s.Activated) : s.clearStagedInnerPackets.Activated := by
  obtain ⟨queue, hqueue⟩ := clearStagedInnerPackets_cases s
  rw [hqueue]
  exact ⟨hs.nextActivation, hs.nextPath, hs.nextSocket, hs.inactive, hs.path, hs.resolving,
    hs.transport⟩

theorem cleared_idle (hs : s.Idle) : s.clearStagedInnerPackets.Idle := by
  obtain ⟨queue, hqueue⟩ := clearStagedInnerPackets_cases s
  rw [hqueue]
  exact ⟨hs.activation, hs.state⟩

theorem Sound.clearStaged (hr : r.Sound c) (index : UInt32) :
    (r.clearStagedInnerPackets index).Sound c := by
  unfold PeerRegistry.clearStagedInnerPackets
  split
  · exact hr
  · rename_i s hs
    exact hr.setPeer (cleared_sound (hr.sound _ s hs)) (cleared_activated (hr.activated _ s hs))
      (fun hother => cleared_idle (hr.idle _ s hs hother)) hs

theorem peerAt_clearAll (r : PeerRegistry) (index : UInt32) :
    r.clearAllStagedInnerPackets.peerAt index =
      (r.peerAt index).map PeerRuntime.clearStagedInnerPackets := by
  unfold peerAt clearAllStagedInnerPackets
  simp only
  split
  · rename_i hlt
    have htake : index.toNat < ((r.slots.take r.count).map
        PeerRuntime.clearStagedInnerPackets).length := by
      rw [length_map, length_take, r.slots_length]
      exact lt_min hlt (hlt.trans_le r.count_le)
    rw [getElem?_append_left htake, getElem?_map, getElem?_take_of_lt hlt]
  · rfl

theorem Sound.clearAllStaged (hr : r.Sound c) : r.clearAllStagedInnerPackets.Sound c := by
  refine ⟨fun index s hs => ?_, fun index s hs => ?_, fun index s hs hother => ?_⟩
  all_goals
    rw [peerAt_clearAll] at hs
    obtain ⟨before, hbefore, rfl⟩ := Option.map_eq_some_iff.mp hs
  · exact cleared_sound (hr.sound _ before hbefore)
  · exact cleared_activated (hr.activated _ before hbefore)
  · exact cleared_idle (hr.idle _ before hbefore hother)

end PeerRegistry

end WireguardNx.Runtime
