import WireguardNx.Laws.Registry

/-!
# Switching peers

`SetActivePeer` puts the deactivation of the old peer, the cancellation of its debug probe and the
activation of the new peer into one batch.  A peer that holds an open socket also has a path request
and a protocol peer, so its deactivation fills seven of the eight places and the cancellation the
last; the path request of the new peer does not fit.

`overflows` is that case.  No primitive is assumed to succeed.
-/

namespace WireguardNx.Runtime

open Wireguard PeerRegistry Bool

variable {index : Int} {r : PeerRegistry} {s : PeerRuntime}

/-! ## Reachable daemons -/

/-- What happens to a daemon under the state mutex. -/
inductive DaemonAction where
  | setActivePeer (peerIndex : Int) (now : Ktime)
  | setAutoStartPeer (peerIndex : Int)
  | dispatch (event : PeerEvent)
  | clearStagedInnerPackets (peerIndex : UInt32)

namespace Daemon

/-- The daemon after an action; `none` is an abort. -/
def apply (c : Crypto) (d : Daemon) : Platform × DaemonAction → Option Daemon
  | (p, .setActivePeer peerIndex now) => (d.setActivePeer c p peerIndex now).map (·.2.1)
  | (_, .setAutoStartPeer peerIndex) =>
    some { d with peers := (d.peers.setAutoStartPeerIndex peerIndex).getD d.peers }
  | (p, .dispatch event) => (d.peers.dispatch c p event).map fun peers => { d with peers := peers.1 }
  | (_, .clearStagedInnerPackets peerIndex) =>
    some { d with peers := d.peers.clearStagedInnerPackets peerIndex }

/-- A daemon that was initialised with some configuration. -/
def Initialized (d : Daemon) : Prop :=
  ∃ configs deriveds autoStart now,
    empty.initializeState configs deriveds autoStart now = some d

/-- Only `SetActivePeer` activates and deactivates peers. -/
def Permits : DaemonAction → Prop
  | .dispatch (.activationRequested _) | .dispatch (.deactivationRequested _) => False
  | _ => True

instance (action : DaemonAction) : Decidable (Permits action) :=
  match action with
  | .dispatch event =>
    match event with
    | .activationRequested _ | .deactivationRequested _ => inferInstanceAs (Decidable False)
    | .networkPathAvailabilityChanged _ | .networkPathRequestStarted _
    | .transportFailure _ | .endpointResolved _ | .udpBindOpened _ | .udpRebindRequested _
    | .encryptedDatagramReceived _ | .pendingDatagramSent _ | .innerPacketStaged _
    | .innerPacketBatchStaged _ | .processOutboundQueue _ | .protocolTimerExpired _ =>
      inferInstanceAs (Decidable True)
  | .setActivePeer _ _ | .setAutoStartPeer _ | .clearStagedInnerPackets _ =>
    inferInstanceAs (Decidable True)

end Daemon

/-- The daemon as its commands and workers drive it. -/
def daemons (c : Crypto) : Machine Daemon :=
  .ofActions Daemon.Initialized (fun _ step => Daemon.Permits step.2) (Daemon.apply c)

section Reachable

variable {c : Crypto} {p : Platform} {d after : Daemon}

/-- The peers that `Configure` puts into empty slots. -/
theorem configureSlots_configured {now : Ktime} {configs : List PeerConfigEntry}
    {deriveds : List PeerConfigDerivedInfo} {slots after : List PeerRuntime} {index : Nat}
    (h : configureSlots now index configs deriveds slots = some after)
    (hempty : ∀ s ∈ slots, s = .empty) (hlen : deriveds.length = configs.length) (place : Nat)
    (hplace : place < configs.length) (s : PeerRuntime) (hs : after[place]? = some s) :
    s.Configured := by
  fun_induction configureSlots now index configs deriveds slots
    generalizing after place with
  | case1 index config configs derived deriveds first slots configured rest hslots hconf ih =>
    cases h
    cases place with
    | zero =>
      cases hs
      rw [hempty first List.mem_cons_self] at hconf
      exact ⟨_, _, _, _, hconf⟩
    | succ place =>
      refine ih hslots (fun t ht => hempty t (List.mem_cons_of_mem _ ht)) ?_ place ?_ hs
      · exact Nat.succ.inj hlen
      · exact Nat.lt_of_succ_lt_succ hplace
  | case2 => cases h
  | case3 configs index deriveds slots hother =>
    cases h
    cases configs with
    | nil => exact absurd hplace (Nat.not_lt_zero _)
    | cons config configs =>
      cases deriveds with
      | nil => cases hlen
      | cons derived deriveds =>
        cases slots with
        | nil => cases hs
        | cons first slots => exact absurd rfl (hother _ _ _ _ _ _ rfl rfl)

theorem clearConfiguration_empty {now : Ktime} {effects : EffectBatch}
    (h : empty.clearConfiguration now = some (r, effects)) :
    r.slots = List.replicate peerSlots .empty ∧ r.count = 0 ∧ r.activePeerIndex = -1 := by
  unfold clearConfiguration at h
  obtain ⟨batch, -, heq⟩ := Option.map_eq_some_iff.mp h
  cases heq
  exact ⟨rfl, rfl, rfl⟩

/-- Every peer of an initialised daemon was configured, and none is active. -/
theorem initialized_spec (h : d.Initialized) : d.peers.activePeerIndex = -1 ∧
    ∀ index s, d.peers.peerAt index = some s → s.Configured := by
  obtain ⟨configs, deriveds, autoStart, now, h⟩ := h
  unfold Daemon.initializeState at h
  simp only [Daemon.empty, false_eq_true, if_false] at h
  split at h
  · split at h
    · rename_i peers hconf
      cases h
      unfold configure at hconf
      split at hconf
      · rename_i hvalid
        split at hconf
        · cases hconf
        rename_i cleared effects hcleared
        split at hconf
        · cases hconf
        split at hconf
        · cases hconf
        rename_i slots hslots
        cases hconf
        refine ⟨rfl, fun index s hs => ?_⟩
        have hempty := (clearConfiguration_empty hcleared).1
        have hlt := peerAt_lt hs
        unfold peerAt at hs
        rw [if_pos hlt] at hs
        refine configureSlots_configured hslots (fun t ht => ?_) hvalid.2.1 index.toNat hlt s hs
        rw [hempty] at ht
        exact List.eq_of_mem_replicate ht
      · cases hconf
    · cases h
  · split at h
    · rename_i peers effects hcleared
      split at h
      · cases h
      · cases h
        obtain ⟨-, hcount, hactive⟩ := clearConfiguration_empty hcleared
        refine ⟨hactive, fun index s hs => ?_⟩
        have hlt : index.toNat < peers.count := peerAt_lt hs
        rw [hcount] at hlt
        exact absurd hlt (Nat.not_lt_zero _)
    · cases h

private theorem configured_idle (h : s.Configured) : s.Idle := by
  obtain ⟨peerIndex, config, derived, now, hconf⟩ := h
  have hactivated := configure_activated hconf
  have hstate := configure_state hconf
  exact ⟨hactivated.inactive hstate, .inl hstate⟩

private theorem initialized_sound (h : d.Initialized) : d.peers.Sound c := by
  obtain ⟨-, hconfigured⟩ := initialized_spec h
  refine ⟨fun index s hs => ?_, fun index s hs => ?_, fun index s hs _ => ?_⟩
  · obtain ⟨peerIndex, config, derived, now, hconf⟩ := hconfigured index s hs
    exact configure_sound hconf
  · obtain ⟨peerIndex, config, derived, now, hconf⟩ := hconfigured index s hs
    exact configure_activated hconf
  · exact configured_idle (hconfigured index s hs)

/-! ## The two halves of a switch -/

def PeerRuntime.deactivationSize (s : PeerRuntime) : Nat :=
  if s.lifecycle.activationGeneration = 0 then 0
  else (if s.pathRequestGeneration ≠ 0 then 1 else 0) + (if s.binding.isOpen then 1 else 0) +
    (if s.hasProtocolPeer then 5 else 0)

/-- A deactivation under the peer's own generation is handled, and leaves the peer idle. -/
theorem handle_deactivation (hs : s.Activated) (index : UInt32) (now : Ktime) :
    ∃ t batch, s.handle c p (.deactivationRequested ⟨⟨index, s.lifecycle.activationGeneration⟩,
        now⟩) = some (t, batch) ∧ t.Idle ∧ batch.effects.length = s.deactivationSize := by
  set event : DeactivationRequestedEvent :=
    ⟨⟨index, s.lifecycle.activationGeneration⟩, now⟩ with hevent
  have hsome : (s.handle c p (.deactivationRequested event)).isSome :=
    handle_isSome_iff.mpr ⟨_, rfl, (handleDeactivationRequested_adds event).length_le⟩
  obtain ⟨⟨t, batch⟩, hhandle⟩ := Option.isSome_iff_exists.mp hsome
  refine ⟨t, batch, hhandle, ?_⟩
  obtain ⟨st, timers, intent, hst, rfl, hlen, -⟩ := handle_filter hhandle
  cases hst
  unfold PeerRuntime.deactivationSize
  by_cases hzero : s.lifecycle.activationGeneration = 0
  · have hstale : s.handleDeactivationRequested event = ⟨s, []⟩ := by
      unfold PeerRuntime.handleDeactivationRequested
      rw [if_pos (isCurrentActivation_of_zero hzero _)]
    rw [hstale] at hlen ⊢
    rw [if_pos hzero]
    exact ⟨⟨(hs.idle hzero).activation, (hs.idle hzero).state⟩, hlen⟩
  · obtain ⟨hreset, hcount, -⟩ :=
      handleDeactivationRequested_spec (show s.isCurrentActivation event.peer.activationGeneration =
        true from isCurrentActivation_self hzero)
    rw [if_neg hzero, hlen, hcount]
    exact ⟨⟨hreset.activation, .inl hreset.state⟩, rfl⟩

/-- The activation of an idle peer is handled, and asks for a path if the configuration is
usable. -/
theorem handle_activation (hs : s.Sound c) (hidle : s.Idle) (index : UInt32) (now : Ktime) :
    ∃ t batch, s.handle c p (.activationRequested ⟨index, now⟩) = some (t, batch) ∧
      batch.effects.length = if s.validateConfiguration = .none then 1 else 0 := by
  have hsome : (s.handle c p (.activationRequested ⟨index, now⟩)).isSome :=
    handle_isSome_iff.mpr
      ⟨_, rfl, (handleActivationRequested_adds hs ⟨index, now⟩ hidle.state).length_le⟩
  obtain ⟨⟨t, batch⟩, hhandle⟩ := Option.isSome_iff_exists.mp hsome
  refine ⟨t, batch, hhandle, ?_⟩
  obtain ⟨st, timers, intent, hst, rfl, hlen, -⟩ := handle_filter hhandle
  cases hst
  rw [hlen]
  unfold PeerRuntime.handleActivationRequested
  simp only
  split
  · rw [enterActivationError_effects]
    have hclosed : s.binding.isOpen = false :=
      hs.closed (isInTransportState_of_state (hidle.state.imp_right .inl))
    simp [PeerRuntime.errorEffects, hclosed, hidle.activation]
  · rename_i hconfig
    rw [if_pos (not_not.mp hconfig)]
    rfl

/-! ## The switch -/

/-- The effects of `SetPeerInactive` always fit, and leave the peer idle. -/
theorem setPeerInactive_spec {index : UInt32} (hd : d.peers.Sound c)
    (hs : d.peers.peerAt index = some s) (now : Ktime) :
    ∃ after effects, d.setPeerInactive c p index now = some (after, effects) ∧
      after.peers.Sound c ∧ after.peers.count = d.peers.count ∧
      after.peers.activePeerIndex = d.peers.activePeerIndex ∧
      (∃ t, after.peers.peerAt index = some t ∧ t.Idle) ∧
      (∀ other, other ≠ index → after.peers.peerAt other =
        (d.peers.peerAt other).map PeerRuntime.clearStagedInnerPackets) ∧
      effects.effects.length = s.deactivationSize + 1 := by
  have hcleared := peerAt_clearAll d.peers index
  rw [hs, Option.map_some] at hcleared
  obtain ⟨queue, hqueue⟩ := clearStagedInnerPackets_cases s
  have hgen : s.clearStagedInnerPackets.lifecycle.activationGeneration =
      s.lifecycle.activationGeneration := by rw [hqueue]; rfl
  have hsize : s.clearStagedInnerPackets.deactivationSize = s.deactivationSize := by
    rw [hqueue]; rfl
  obtain ⟨t, batch, hhandle, hidle, hlen⟩ := handle_deactivation (c := c) (p := p)
    (cleared_activated (hd.activated _ s hs)) index now
  rw [hgen] at hhandle
  rw [hsize] at hlen
  have hdispatch := dispatch_of_handle (r := d.peers.clearAllStagedInnerPackets)
    hhandle hcleared
  have hle : s.deactivationSize < effectBatchCapacity := by
    unfold PeerRuntime.deactivationSize
    split
    · decide
    · split <;> split <;> split <;> decide
  obtain ⟨composed, hadd, hcomposed⟩ : ∃ composed,
      batch.add .cancelDebugProbeTimeout = some composed ∧
        composed.effects.length = s.deactivationSize + 1 := by
    unfold EffectBatch.add
    rw [dif_pos (hlen ▸ hle)]
    refine ⟨_, rfl, ?_⟩
    rw [List.length_append, hlen]
    rfl
  have hsound : (d.peers.clearAllStagedInnerPackets.setPeer index t).Sound c :=
    hd.clearAllStaged.dispatch hdispatch fun _ h => by cases h
  refine ⟨{ d with peers := d.peers.clearAllStagedInnerPackets.setPeer index t }, composed, ?_,
    hsound, rfl, rfl, ⟨t, peerAt_setPeer_self hcleared, hidle⟩,
    fun other hother => ?_, hcomposed⟩
  · unfold Daemon.setPeerInactive
    rw [hs]
    simp only
    rw [hdispatch]
    simp only
    rw [hadd]
    rfl
  · rw [peerAt_setPeer_ne hother, peerAt_clearAll]

def PeerRegistry.selected (r : PeerRegistry) (peerIndex : Int) : Option PeerRuntime :=
  if peerIndex < 0 then none else r.peerAt (UInt32.ofNat peerIndex.toNat)

/-- The index of a slot as the source casts it. -/
theorem toNat_ofNat_of_valid (h : r.isValidSelection index) (hindex : 0 ≤ index) :
    (UInt32.ofNat index.toNat).toNat = index.toNat ∧
      index.toNat < r.count := by
  have hcount : r.count ≤ 8 := r.count_le
  unfold isValidSelection isValidPeerSelection at h
  simp only [and_eq_true, decide_eq_true_eq] at h
  have hlt : index.toNat < r.count := by omega
  refine ⟨UInt32.toNat_ofNat_of_lt' ?_, hlt⟩
  show index.toNat < 2 ^ 32
  omega

/-- A valid selection of a peer finds it. -/
theorem selected_of_valid (h : r.isValidSelection index) (hindex : 0 ≤ index) :
    ∃ s, r.selected index = some s ∧
      r.peerAt (UInt32.ofNat index.toNat) = some s := by
  obtain ⟨hcast, hlt⟩ := toNat_ofNat_of_valid h hindex
  obtain ⟨s, hs⟩ := exists_peerAt (r := r) (hcast.trans_lt hlt)
  refine ⟨s, ?_, hs⟩
  unfold selected
  rw [if_neg (not_lt.mpr hindex), hs]

/-- Whether the activation of a selected peer asks for a path. -/
def PeerRegistry.asksForPath (r : PeerRegistry) (peerIndex : Int) : Bool :=
  (r.selected peerIndex).any fun s => decide (s.validateConfiguration = .none)

/-- The activation of the new peer is the last part of the batch, and fits if it asks for nothing or
a place is left. -/
theorem activate_spec (effects : EffectBatch) (hd : d.peers.Sound c)
    (hindex : d.peers.isValidSelection index)
    (hidle : ∀ other s, d.peers.peerAt other = some s → s.Idle) (now : Ktime) :
    ((d.activate c p effects index now).isSome ↔
      effects.effects.length + (if d.peers.asksForPath index then 1 else 0) ≤ effectBatchCapacity) ∧
      ∀ after batch, d.activate c p effects index now = some (after, batch) →
        after.peers.Sound c := by
  set selected : PeerRegistry := { d.peers with activePeerIndex := index, active_valid := hindex }
    with hselected
  have hsound : selected.Sound c :=
    ⟨hd.sound, hd.activated, fun other s hs _ => hidle other s hs⟩
  have hset : d.peers.setActivePeerIndex index = some selected := dif_pos hindex
  unfold Daemon.activate
  rw [hset]
  simp only
  by_cases hnegative : index < 0
  · have hnone : d.peers.asksForPath index = false := by
      unfold PeerRegistry.asksForPath PeerRegistry.selected
      rw [if_pos hnegative]
      rfl
    simp only [if_pos hnegative, hnone]
    refine ⟨iff_of_true rfl effects.size_le, fun after batch h => ?_⟩
    cases h
    exact hsound
  · have hpositive := not_lt.mp hnegative
    obtain ⟨s, hs, hat⟩ := selected_of_valid hindex hpositive
    obtain ⟨t, batch, hhandle, hlen⟩ := handle_activation (p := p) (hd.sound _ s hat)
      (hidle _ s hat) (UInt32.ofNat index.toNat) now
    have hdispatch := dispatch_of_handle (r := selected) hhandle hat
    have hasks : (if d.peers.asksForPath index = true then 1 else 0) = batch.effects.length := by
      unfold asksForPath
      rw [hs, hlen]
      simp only [Option.any_some, decide_eq_true_eq]
    simp only [if_neg hnegative, hdispatch, hasks]
    refine ⟨?_, fun after last h => ?_⟩
    · rw [Option.isSome_map]
      unfold EffectBatch.append
      split
      · rename_i hfits
        exact iff_of_true rfl hfits
      · rename_i hfits
        exact iff_of_false false_ne_true hfits
    · obtain ⟨composed, -, heq⟩ := Option.map_eq_some_iff.mp h
      cases heq
      refine hsound.activate ?_ (fun s hs => hidle _ s hs) hdispatch
      show index = ((UInt32.ofNat index.toNat).toNat : Int)
      rw [(toNat_ofNat_of_valid hindex hpositive).1]
      omega

/-- The deactivation of a peer fills seven places exactly when it holds an open socket. -/
theorem deactivationSize_le (hs : s.Sound c) (hactivated : s.Activated) :
    s.deactivationSize ≤ 7 ∧ (s.deactivationSize = 7 ↔ s.binding.isOpen) := by
  unfold PeerRuntime.deactivationSize
  by_cases hopen : s.binding.isOpen
  · have htrans := (hs.open_transport hopen).1
    have hact := (hactivated.transport htrans).1
    rw [if_neg hact, if_pos (hactivated.path hact), if_pos hopen,
      if_pos (hs.transport_peer htrans)]
    exact ⟨Nat.le_refl 7, iff_of_true rfl hopen⟩
  · split
    · exact ⟨Nat.zero_le 7, iff_of_false (by decide) hopen⟩
    · have hle : (if s.pathRequestGeneration ≠ 0 then 1 else 0) + 0 +
          (if s.hasProtocolPeer = true then 5 else 0) ≤ 6 := by
        split <;> split <;> decide
      exact ⟨hle.trans (by decide), iff_of_false (by omega) hopen⟩

namespace Daemon

/-- The old peer holds an open socket, and the activation of another one asks for a path. -/
def overflows (d : Daemon) (peerIndex : Int) : Bool :=
  decide (peerIndex ≠ d.peers.activePeerIndex) &&
    (d.peers.selected d.peers.activePeerIndex).any (·.binding.isOpen) &&
    d.peers.asksForPath peerIndex

end Daemon

/-- Clearing the staged packets leaves what a peer asks for. -/
theorem asksForPath_of_cleared {r after : PeerRegistry}
    (h : r.selected index = none ∧ after.selected index = none ∨
      after.peerAt (UInt32.ofNat index.toNat) =
        (r.peerAt (UInt32.ofNat index.toNat)).map PeerRuntime.clearStagedInnerPackets) :
    after.asksForPath index = r.asksForPath index := by
  unfold asksForPath
  obtain ⟨hbefore, hafter⟩ | h := h
  · rw [hbefore, hafter]
  · unfold selected
    split
    · rfl
    · rw [h, Option.any_map]
      refine congrArg (fun f => Option.any f _) (funext fun s => ?_)
      obtain ⟨queue, hqueue⟩ := clearStagedInnerPackets_cases s
      rw [hqueue]
      rfl

private theorem switch_fits_iff {size : Nat} {held asks : Bool} (hle : size ≤ 7)
    (hseven : size = 7 ↔ held) :
    size + 1 + (if asks = true then 1 else 0) ≤ effectBatchCapacity ↔ (held && asks) = false := by
  cases asks with
  | false =>
    rw [Bool.and_false]
    exact iff_of_true (Nat.succ_le_succ hle) rfl
  | true =>
    rw [Bool.and_true, ← not_eq_true, ← hseven]
    show size + 1 + 1 ≤ 8 ↔ ¬ size = 7
    omega

/-- A switch is composed unless the old peer holds an open socket and the activation of the new one
asks for a path; and it leaves the peers sound. -/
theorem setActivePeer_spec (hd : d.peers.Sound c) (hindex : d.peers.isValidSelection index)
    {now : Ktime} : ((d.setActivePeer c p index now).isSome ↔ d.overflows index = false) ∧
      ∀ result after batch, d.setActivePeer c p index now = some (result, after, batch) →
        after.peers.Sound c := by
  unfold Daemon.setActivePeer
  rw [if_neg fun hrefused => Bool.noConfusion (hrefused.symm.trans hindex)]
  by_cases hsame : index = d.peers.activePeerIndex
  · rw [if_pos hsame]
    refine ⟨iff_of_true rfl ?_, fun result after batch h => ?_⟩
    · simp [Daemon.overflows, hsame]
    · cases h
      exact hd
  rw [if_neg hsame]
  by_cases hold : 0 ≤ d.peers.activePeerIndex
  · rw [if_pos hold]
    obtain ⟨s, hs, hat⟩ := selected_of_valid d.peers.active_valid hold
    obtain ⟨mid, effects, hinactive, hsound, hcount, hactive, ⟨t, ht, hidle⟩, hothers, hlen⟩ :=
      setPeerInactive_spec (p := p) hd hat now
    have hcast := (toNat_ofNat_of_valid d.peers.active_valid hold).1
    have hvalid : mid.peers.isValidSelection index := by
      unfold isValidSelection
      rw [hcount]
      exact hindex
    have hallIdle : ∀ other u, mid.peers.peerAt other = some u → u.Idle := by
      intro other u hu
      by_cases hother : other = UInt32.ofNat d.peers.activePeerIndex.toNat
      · rw [hother, ht] at hu
        cases hu
        exact hidle
      · refine hsound.idle other u hu fun heq => hother (UInt32.toNat_inj.mp ?_)
        rw [hcast]
        omega
    have hasks : mid.peers.asksForPath index = d.peers.asksForPath index := by
      refine asksForPath_of_cleared ?_
      by_cases hnegative : index < 0
      · refine .inl ⟨if_pos hnegative, if_pos hnegative⟩
      · refine .inr (hothers _ fun heq => hsame ?_)
        have hnew := (toNat_ofNat_of_valid hindex (not_lt.mp hnegative)).1
        rw [heq, hcast] at hnew
        omega
    obtain ⟨hfits, hafter⟩ := activate_spec (p := p) effects hsound hvalid hallIdle now
    rw [hinactive]
    simp only
    refine ⟨?_, fun result after batch h => ?_⟩
    · obtain ⟨hle, hseven⟩ := deactivationSize_le (hd.sound _ s hat) (hd.activated _ s hat)
      rw [Option.isSome_map, hfits, hlen, hasks]
      unfold Daemon.overflows
      rw [hs, decide_eq_true hsame, Bool.true_and]
      exact switch_fits_iff hle hseven
    · obtain ⟨⟨last, composed⟩, hactivate, heq⟩ := Option.map_eq_some_iff.mp h
      cases heq
      exact hafter _ _ hactivate
  · rw [if_neg hold]
    have hallIdle : ∀ other u, d.peers.peerAt other = some u → u.Idle :=
      fun other u hu => hd.idle other u hu (by omega)
    obtain ⟨hfits, hafter⟩ := activate_spec (p := p) .empty hd hindex hallIdle now
    refine ⟨?_, fun result after batch h => ?_⟩
    · have hnone : d.peers.selected d.peers.activePeerIndex = none := if_pos (not_le.mp hold)
      rw [Option.isSome_map, hfits]
      refine iff_of_true ?_ ?_
      · split
        · decide
        · decide
      · simp [Daemon.overflows, hnone]
    · obtain ⟨⟨last, composed⟩, hactivate, heq⟩ := Option.map_eq_some_iff.mp h
      cases heq
      exact hafter _ _ hactivate

/-- The peers of every reachable daemon are sound. -/
theorem daemons_sound (h : (daemons c).Reachable d) : d.peers.Sound c := by
  refine h.invariant (P := fun d => d.peers.Sound c) (fun d => initialized_sound) ?_
  rintro d after - hd ⟨⟨p, action⟩, hpermits, hstep⟩
  cases action with
  | setActivePeer peerIndex now =>
    obtain ⟨⟨result, next, batch⟩, hset, rfl⟩ := Option.map_eq_some_iff.mp hstep
    by_cases hindex : d.peers.isValidSelection peerIndex
    · exact (setActivePeer_spec hd hindex).2 _ _ _ hset
    · unfold Daemon.setActivePeer at hset
      rw [if_pos (eq_false_iff.mpr hindex)] at hset
      cases hset
      exact hd
  | setAutoStartPeer peerIndex =>
    cases hstep
    unfold setAutoStartPeerIndex
    split
    · exact ⟨hd.sound, hd.activated, hd.idle⟩
    · exact hd
  | dispatch event =>
    obtain ⟨⟨peers, batch⟩, hdispatch, rfl⟩ := Option.map_eq_some_iff.mp hstep
    refine hd.dispatch hdispatch fun request hevent => ?_
    rw [hevent] at hpermits
    exact hpermits
  | clearStagedInnerPackets peerIndex =>
    cases hstep
    exact hd.clearStaged peerIndex

/-- `SetActivePeer` composes its batch unless it leaves a peer with an open socket for one with a
usable configuration. -/
theorem setActivePeer_composes_iff (h : (daemons c).Reachable d) {index : Int}
    (hindex : d.peers.isValidSelection index = true) (p : Platform) (now : Ktime) :
    (d.setActivePeer c p index now).isSome = true ↔ d.overflows index = false :=
  (setActivePeer_spec (daemons_sound h) hindex).1

/-- A daemon with two peers that are configured as the sample peer is. -/
def sampleDaemon : Option Daemon :=
  let config : PeerConfigEntry := ⟨"host:1".toList, encodedTwos, "0.0.0.0/0".toList, 0, 0⟩
  let derived : PeerConfigDerivedInfo := ⟨.of (List.Vector.replicate 32 1), .clear, false, true⟩
  Daemon.empty.initializeState [config, config] [derived, derived] (-1) 0

def sampleDaemonRun (actions : List (Platform × DaemonAction)) : Option Daemon :=
  sampleDaemon.bind (Machine.runActions (fun _ step => Daemon.Permits step.2)
    (Daemon.apply .transparent) actions)

theorem sampleDaemonRun_reachable {actions : List (Platform × DaemonAction)}
    (h : sampleDaemonRun actions = some d) : (daemons .transparent).Reachable d := by
  obtain ⟨first, hfirst, hrun⟩ := Option.bind_eq_some_iff.mp h
  unfold sampleDaemon at hfirst
  exact .of_runActions (.start ⟨_, _, _, _, hfirst⟩) hrun

/-- The commands and events that give the first peer of the sample daemon its socket. -/
def sampleSelection : List (Platform × DaemonAction) :=
  (.constant (seconds 10) 7, .setActivePeer 0 (seconds 10)) ::
    (sampleActivation (seconds 10)).tail.map fun step => (step.1, .dispatch step.2)

/-- A switch from a peer that still resolves its endpoint. -/
theorem setActivePeer_composes_iff_sample :
    ∃ d, (daemons .transparent).Reachable d ∧ d.peers.activePeerIndex = 0 ∧
      d.overflows 1 = false ∧
      (d.setActivePeer .transparent (.constant (seconds 12) 8) 1 (seconds 12)).isSome = true := by
  have hrun : (sampleDaemonRun (sampleSelection.take 3)).map (fun d => (d.peers.activePeerIndex,
      d.peers.isValidSelection 1, d.overflows 1)) = some (0, true, false) := by
    decide +kernel
  obtain ⟨d, hd, hfacts⟩ := Option.map_eq_some_iff.mp hrun
  simp only [Prod.mk.injEq] at hfacts
  have hreach := sampleDaemonRun_reachable hd
  exact ⟨d, hreach, hfacts.1, hfacts.2.2, (setActivePeer_composes_iff hreach hfacts.2.1
    (.constant (seconds 12) 8) (seconds 12)).mpr hfacts.2.2⟩

/-- The first peer holds its socket, and the second one is selected: nine effects for eight
places. -/
theorem setActivePeer_aborts :
    ∃ d, (daemons .transparent).Reachable d ∧ d.peers.isValidSelection 1 = true ∧
      d.setActivePeer .transparent (.constant (seconds 12) 8) 1 (seconds 12) = none := by
  have hrun : (sampleDaemonRun sampleSelection).map (fun d => (d.peers.isValidSelection 1,
      (d.setActivePeer .transparent (.constant (seconds 12) 8) 1 (seconds 12)).isNone)) =
      some (true, true) := by
    decide +kernel
  obtain ⟨d, hd, hfacts⟩ := Option.map_eq_some_iff.mp hrun
  simp only [Prod.mk.injEq, Option.isNone_iff_eq_none] at hfacts
  exact ⟨d, sampleDaemonRun_reachable hd, hfacts⟩

end Reachable

end WireguardNx.Runtime
