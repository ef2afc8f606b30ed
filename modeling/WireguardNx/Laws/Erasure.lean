import WireguardNx.Laws.TimerTokens

/-!
# The erasure of keys

A session that is derived has the erasure of its keys scheduled by the handler that derives it, and
nothing but the erasure itself, a failure or the end of the activation cancels that timer.  A peer
that holds a valid keypair therefore has the timer armed, by a token granted since the latest
derivation; and a peer without the timer holds no keys.

No primitive is assumed to succeed.  Erased means the cleared device of the model; what a compiler or
a register keeps of a key is outside of it.
-/

namespace WireguardNx.Wireguard

def keypairSlots : List WgIndexSlot := [.currentKeypair, .nextKeypair, .previousKeypair]

theorem mem_keypairSlots {slot : WgIndexSlot} : slot ∈ keypairSlots ↔ slot ≠ .handshake := by
  cases slot <;> decide

/-- The peer holds a valid keypair under an index that is not one of `old`. -/
def WgPeer.Holds (peer : WgPeer) (old : UInt32 → Prop) : Prop :=
  ∃ slot ∈ keypairSlots, peer.slotIndex slot ≠ 0 ∧ ¬ old (peer.slotIndex slot)

/-- The index of one of the valid keypairs. -/
def WgPeer.Held (peer : WgPeer) (index : UInt32) : Prop :=
  ∃ slot ∈ keypairSlots, peer.slotIndex slot = index

instance (peer : WgPeer) (index : UInt32) : Decidable (peer.Held index) :=
  inferInstanceAs (Decidable (∃ slot ∈ keypairSlots, peer.slotIndex slot = index))

/-- A session was derived: there is a valid keypair under an index that none had before. -/
def WgPeer.Derived (before after : WgPeer) : Prop := after.Holds before.Held

instance (before after : WgPeer) : Decidable (before.Derived after) :=
  inferInstanceAs (Decidable (∃ slot ∈ keypairSlots, after.slotIndex slot ≠ 0 ∧
    ¬ before.Held (after.slotIndex slot)))

/-- No keypair is valid, and the registry has no entry for one. -/
structure WgDevice.Erased (device : WgDevice) : Prop where
  keypairs : ∀ slot keypair, device.keypairForSlot slot = some keypair → keypair.isValid = false
  registry : ∀ slot ∈ keypairSlots, (device.indexRegistry slot).active = false

section Holds

variable {old : UInt32 → Prop} {device after : WgDevice}

theorem holds_of_keypair {slot : WgIndexSlot} {keypair : NoiseKeypair}
    (hslot : device.keypairForSlot slot = some keypair) (hvalid : keypair.isValid) :
    device.peer.Holds fun _ => False := by
  obtain ⟨hne, hindex⟩ := WgDevice.Indexed.slotIndex_keypair hslot
  refine ⟨slot, mem_keypairSlots.mpr hne, ?_, id⟩
  rw [hindex]
  exact WgDevice.Indexed.registeredIndex_ne_zero_iff.mpr hvalid

theorem erased_of_not_holds (hindexed : device.Indexed)
    (h : ¬ device.peer.Holds fun _ => False) : device.Erased := by
  refine ⟨fun slot keypair hslot => ?_, fun slot hslot => ?_⟩
  · exact Bool.eq_false_iff.mpr fun hvalid => h (holds_of_keypair hslot hvalid)
  · rw [hindexed.entries slot (mem_keypairSlots.mp hslot), decide_eq_false_iff_not]
    exact fun hindex => h ⟨slot, hslot, hindex, id⟩

/-- Without a derivation, no keypair becomes valid. -/
theorem IndexStep.holds (h : IndexStep device after) (hafter : after.peer.Holds old) :
    device.peer.Holds old := by
  obtain ⟨slot, hslot, hindex, hold⟩ := hafter
  cases h with
  | keep hslots _ =>
    rw [hslots] at hindex hold
    exact ⟨slot, hslot, hindex, hold⟩
  | register index _ _ hslots _ =>
    rw [hslots, Function.update_of_ne (mem_keypairSlots.mp hslot)] at hindex hold
    exact ⟨slot, hslot, hindex, hold⟩
  | move source _ hkeypair hslots _ =>
    have hmoved := hslots slot hindex
    rw [hmoved] at hindex hold
    exact ⟨source slot, mem_keypairSlots.mpr (hkeypair slot (mem_keypairSlots.mp hslot)), hindex,
      hold⟩

variable {peer : WgPeer}

theorem not_holds_of_zero (hcur : peer.slotIndex .currentKeypair = 0)
    (hnext : peer.slotIndex .nextKeypair = 0) (hprevious : peer.slotIndex .previousKeypair = 0) :
    ¬ peer.Holds old := by
  rintro ⟨slot, hslot, hindex, -⟩
  cases slot with
  | handshake => exact mem_keypairSlots.mp hslot rfl
  | currentKeypair => exact hindex hcur
  | nextKeypair => exact hindex hnext
  | previousKeypair => exact hindex hprevious

private theorem not_holds_initializePeer {c : Crypto} {key : NoiseKey} {text : List Char}
    {psk : Option NoiseKey} {interval : UInt16}
    (h : WgPeer.initializePeer c key text psk interval = some peer) : ¬ peer.Holds old := by
  unfold WgPeer.initializePeer at h
  split at h
  · cases h
  split at h
  · cases h
  · cases h
    exact not_holds_of_zero rfl rfl rfl

/-- The keypair of a new session is one of those the peer then has. -/
theorem exists_slot_installKeypair {new : NoiseKeypair} : ∃ slot ∈ keypairSlots,
      (peer.installKeypair new).slotIndex slot = WgDevice.registeredIndex new := by
  unfold WgPeer.installKeypair
  split
  · split
    · exact ⟨.currentKeypair, by decide, rfl⟩
    · exact ⟨.currentKeypair, by decide, rfl⟩
  · exact ⟨.nextKeypair, by decide, rfl⟩

/-- A session that is derived is seen as one: its index was the handshake's, and no keypair's. -/
theorem beginSession_derived {c : Crypto} {p : Platform} (hindexed : device.Indexed)
    (h : noiseHandshakeBeginSession c p device = (true, after)) :
    device.peer.Derived after.peer := by
  obtain ⟨hvalid, -, hslots, -⟩ := beginSession_slots h
  obtain ⟨slot, hslot, hindex⟩ :=
    exists_slot_installKeypair
  have hnew := hslots slot (mem_keypairSlots.mp hslot)
  rw [hindex] at hnew
  have hne : after.peer.slotIndex slot ≠ 0 :=
    hnew ▸ WgDevice.Indexed.registeredIndex_ne_zero_iff.mpr hvalid
  refine ⟨slot, hslot, hne, ?_⟩
  rintro ⟨other, hother, hsame⟩
  rw [hnew, registeredIndex_deriveKeypair device.peer hvalid] at hne hsame
  exact mem_keypairSlots.mp hother (hindexed.apart other .handshake (hsame ▸ hne) hsame)

end Holds

end WireguardNx.Wireguard

namespace WireguardNx.Runtime

open Wireguard PeerRuntime HandlerState List

variable {c : Crypto} {p : Platform} {s : PeerRuntime} {event : PeerEvent}

section Handlers

variable {identity : PeerIdentity} {st after : HandlerState} {old : UInt32 → Prop} {armed : Bool}

theorem not_holds_scrubbedDevice (h : s.hasProtocolPeer) : ¬ s.scrubbedDevice.peer.Holds old := by
  unfold scrubbedDevice
  rw [if_pos h]
  exact not_holds_of_zero rfl rfl rfl

private theorem holds_of_scrubbedDevice (h : s.scrubbedDevice.peer.Holds old) :
    s.device.peer.Holds old := by
  by_cases hpeer : s.hasProtocolPeer
  · exact absurd h (not_holds_scrubbedDevice hpeer)
  · unfold scrubbedDevice at h
    rwa [if_neg hpeer] at h

theorem holds_of_fail {stage : PeerErrorStage} {code : PeerErrorCode} {now : Ktime}
    (h : (st.enterActivationError stage code now).runtime.device.peer.Holds old) :
    st.runtime.device.peer.Holds old := by
  rw [enterActivationError_eq] at h
  exact holds_of_scrubbedDevice h

/-- A handler that asks for no timer derives no session. -/
theorem Work.holds_of_armless (h : Traffic c p identity st after) (harmless : after.Armless)
    (hafter : after.runtime.device.peer.Holds old) : st.runtime.device.peer.Holds old := by
  induction h with
  | refl _ => exact hafter
  | @step _ mid _ _ hstep ih =>
    refine ih (fun effect hmem => harmless effect (hstep.subset hmem)) ?_
    cases hstep with
    | emit | queue | fill | free | listen => exact hafter
    | note runtime _ hwork _ _ =>
      have hdev : runtime.device = mid.runtime.device := congrArg Prod.fst hwork
      exact hdev ▸ hafter
    | operate device hop => exact hop.indexStep.holds hafter
    | zero => exact absurd hafter (not_holds_of_zero rfl rfl rfl)
    | fail => exact holds_of_fail hafter
  | derive =>
    exact absurd (harmless _ (mem_append_right _ mem_cons_self))
      (by simp [RuntimeEffect.isArm])

theorem fateAfter_concat (hook : TimerHook) (effects : List RuntimeEffect) (effect : RuntimeEffect)
    (armed : Bool) : fateAfter hook (effects ++ [effect]) armed =
      effect.fate hook (fateAfter hook effects armed) :=
  foldl_append

theorem fate_arm (hook : TimerHook) (who : PeerIdentity) (token : TimerToken)
    (deadline : TimerDeadline) (armed : Bool) :
    RuntimeEffect.fate hook armed (.armProtocolTimer who hook token deadline) := if_pos rfl

/-- Traffic never cancels the erasure, but by the erasure itself or a failure. -/
theorem RuntimeEffect.IsTraffic.fate_zero {effect : RuntimeEffect} (h : effect.IsTraffic identity) :
    effect.fate .zeroKeyMaterial true := by
  cases effect with
  | armProtocolTimer => exact ite_self true
  | cancelProtocolTimer who hook token => exact if_neg h.2.2.symm
  | _ => rfl

/-- A keypair that is not one of `old` has its erasure scheduled by the handler. -/
theorem Work.schedules (h : Traffic c p identity st after) (hpeer : st.runtime.hasProtocolPeer)
    (hst : st.runtime.device.peer.Holds old →
      fateAfter .zeroKeyMaterial st.effects armed) (hafter : after.runtime.device.peer.Holds old) :
    fateAfter .zeroKeyMaterial after.effects armed := by
  induction h with
  | refl _ => exact hst hafter
  | @step _ mid _ hbefore hstep ih =>
    cases hstep with
    | emit effect htraffic =>
      exact (fateAfter_concat _ _ _ _).trans (by rw [ih hpeer hst hafter]; exact htraffic.fate_zero)
    | note runtime _ hwork _ _ =>
      have hdev : runtime.device = mid.runtime.device := congrArg Prod.fst hwork
      exact ih hpeer hst (hdev ▸ hafter)
    | operate device hop => exact ih hpeer hst (hop.indexStep.holds hafter)
    | queue | free => exact ih hpeer hst hafter
    | fill | listen => exact (fateAfter_concat _ _ _ _).trans (ih hpeer hst hafter)
    | zero => exact absurd hafter (not_holds_of_zero rfl rfl rfl)
    | fail stage code now =>
      rw [enterActivationError_eq] at hafter
      exact absurd hafter (not_holds_scrubbedDevice (hbefore.activation.2.2.2.trans hpeer))
  | derive => exact (fateAfter_concat _ _ _ _).trans (fate_arm _ _ _ _ _)

private theorem rejectSocket_fate (event : UdpBindOpenedEvent) (hook : TimerHook) (armed : Bool) :
    fateAfter hook (s.rejectSocket event).effects armed = armed := by
  unfold rejectSocket
  split
  · rfl
  · rfl

private theorem losePath_fate_zero (identity : PeerIdentity) (armed : Bool) :
    fateAfter .zeroKeyMaterial (s.losePath identity).effects armed = armed := by
  rcases losePath_cases s identity with ⟨-, heq⟩ | ⟨-, -, heq⟩
  · rw [heq]
    rfl
  · rw [heq]
    rfl

/-- After a turn that is not a deactivation, a keypair that is not one of `old` belongs to a
protocol peer, and has its erasure scheduled.  Outside the transport states there is none. -/
theorem Turn.schedules (old : UInt32 → Prop) (armed : Bool) {budget : Nat}
    (h : Turn c p s event st) (hsound : s.Sound c) (harms : Arms s budget st)
    (hevent : event.Admissible s)
    (hstays : event.Stays s)
    (hs : s.device.peer.Holds old → s.isInTransportState ∧ armed)
    (hst : st.runtime.device.peer.Holds old) :
    st.runtime.hasProtocolPeer ∧ fateAfter .zeroKeyMaterial st.effects armed := by
  have hkept (hholds : s.device.peer.Holds old) : s.hasProtocolPeer ∧ armed :=
    ⟨hsound.transport_peer (hs hholds).1, (hs hholds).2⟩
  have hresolving (hstate : s.lifecycle.state = .resolvingEndpoint)
      (hholds : s.device.peer.Holds old) : False :=
    not_transport_of_resolving hstate (hs hholds).1
  have harmless (hnot : ¬ s.isInTransportState) : st.Armless :=
    harms.resolve_right fun htrans => hnot htrans.1
  cases h with
  | idle | doubt | regain | resolve | rebind | ignore | bind => exact hkept hst
  | traffic _ _ _ _ htraffic =>
    by_cases htrans : s.isInTransportState
    · have hpeer := hsound.transport_peer htrans
      exact ⟨htraffic.activation.2.2.2.trans hpeer,
        htraffic.schedules hpeer (fun hholds => (hs hholds).2) hst⟩
    · exact absurd (hs (htraffic.holds_of_armless (harmless htrans) hst)).1 htrans
  | refuse =>
    exact Bool.noConfusion ((not_transport_of_admissible hevent).symm.trans
      (hs (holds_of_fail hst)).1)
  | activate => exact absurd hst (not_holds_of_zero rfl rfl rfl)
  | deactivate request hcur =>
    exact Bool.noConfusion ((hstays request rfl).symm.trans hcur)
  | lose event _ =>
    rw [losePath_runtime] at hst ⊢
    rw [losePath_fate_zero]
    exact hkept hst
  | unresolved _ _ _ _ hstate => exact (hresolving hstate (holds_of_fail hst)).elim
  | stale event _ | drop event _ _ _ =>
    rw [rejectSocket_fate]
    rw [rejectSocket_runtime] at hst ⊢
    exact hkept hst
  | unopened event _ hstate =>
    have hholds := holds_of_fail hst
    rw [rejectSocket_runtime] at hholds
    exact (hresolving hstate hholds).elim
  | rebound event binding last _ _ htrans _ _ _ _ _ _ _ _ htraffic =>
    have hpeer := hsound.transport_peer htrans
    have hclosing : fateAfter .zeroKeyMaterial s.closing armed = armed := by
      unfold closing
      split
      · rfl
      · rfl
    refine ⟨htraffic.activation.2.2.2.trans hpeer, (fateAfter_concat _ _ _ _).trans ?_⟩
    exact htraffic.schedules hpeer (fun hholds => hclosing.trans (hs hholds).2) hst
  | bound event binding peer _ _ _ hstate _ _ _ _ _ _ _ _ hpeer _ htraffic =>
    obtain ⟨key, text, psk, hpeer⟩ := hpeer
    have hnone := htraffic.holds_of_armless (harmless (not_transport_of_resolving hstate)) hst
    exact absurd hnone (not_holds_initializePeer hpeer)
  | unkeyed => exact absurd (holds_of_fail hst) (not_holds_of_zero rfl rfl rfl)

end Handlers

/-! ## Granted tokens -/

section Granted

variable {hook : TimerHook} {token : TimerToken}

/-- The token of a hook after an effect was granted by it, unless the effect left the hook alone. -/
theorem finalizeTimerEffect_live {effect : RuntimeEffect} (hown : effect.IsOwn s)
    (hpeer : s.hasProtocolPeer)
    (hlive : (s.finalizeTimerEffect effect).2.timers.live hook = some token) :
    (s.finalizeTimerEffect effect).1.timerOp = some (.arm token) ∨
      (s.timers.live hook = some token ∧ effect.fate hook false = false) := by
  obtain ⟨who, which, deadline, rfl, -, -, ⟨hnone, -⟩ | ⟨-, hfinal⟩⟩ |
    ⟨who, which, old, rfl, hfinal⟩ | ⟨hother, hfinal⟩ := finalizeTimerEffect_cases hown
  · exact Bool.noConfusion (hpeer.symm.trans hnone)
  · rw [hfinal] at hlive ⊢
    change (s.timers.arm which (s.currentOwner who which)).2.live hook = some token at hlive
    rw [TimerCoordinator.live_arm] at hlive
    by_cases hsame : hook = which
    · rw [if_pos hsame] at hlive
      rw [← Option.some.inj hlive]
      exact .inl (if_neg (takeGeneration_ne_zero _))
    · rw [if_neg hsame] at hlive
      exact .inr ⟨hlive, if_neg hsame⟩
  · rw [hfinal] at hlive
    change (s.timers.cancel which).2.live hook = some token at hlive
    rw [TimerCoordinator.live_cancel] at hlive
    by_cases hsame : hook = which
    · rw [if_pos hsame] at hlive
      cases hlive
    · rw [if_neg hsame] at hlive
      exact .inr ⟨hlive, if_neg hsame⟩
  · rw [hfinal] at hlive
    refine .inr ⟨hlive, ?_⟩
    cases effect with
    | armProtocolTimer | cancelProtocolTimer => cases hother
    | _ => rfl

/-- The same of a batch. -/
theorem finalizeTimerEffects_live {effects : List RuntimeEffect}
    (hown : ∀ effect ∈ effects, effect.IsOwn s) (hpeer : s.hasProtocolPeer)
    (hlive : (finalizeTimerEffects effects s).2.timers.live hook = some token) :
    .arm token ∈ (finalizeTimerEffects effects s).1.filterMap RuntimeEffect.timerOp ∨
      (s.timers.live hook = some token ∧ fateAfter hook effects false = false) := by
  induction effects generalizing s with
  | nil => exact .inr ⟨hlive, rfl⟩
  | cons effect effects ih =>
    rw [finalizeTimerEffects_cons] at hlive ⊢
    have hlater (hown' : ∀ other ∈ effects, other.IsOwn (s.finalizeTimerEffect effect).2) :=
      ih hown' ((finalizeTimerEffect_keeps s effect).2.2.trans hpeer) hlive
    obtain hgranted | ⟨hkept, hfate⟩ := hlater fun other hmem =>
      RuntimeEffect.IsOwn.finalized (hown other (mem_cons_of_mem _ hmem))
    · left
      rw [← singleton_append, filterMap_append]
      exact mem_append_right _ hgranted
    · obtain hgranted | ⟨hfirst, hleft⟩ :=
        finalizeTimerEffect_live (hown effect mem_cons_self) hpeer hkept
      · left
        rw [filterMap_cons_some hgranted]
        exact mem_cons_self
      · refine .inr ⟨hfirst, ?_⟩
        unfold fateAfter
        rw [foldl_cons, hleft]
        exact hfate

end Granted

/-! ## Runs -/

/-- The run after an event.  The history is what happened to the timers since the latest session
was derived, the requests of the handler that derived it included. -/
def Watched.sinceDerived (c : Crypto) (run : Watched (List TimerOp)) (step : Platform × PeerEvent) :
    Option (Watched (List TimerOp)) :=
  (run.peer.handle c step.1 step.2).map fun handled =>
    ⟨handled.1, (if run.peer.device.peer.Derived handled.1.device.peer then [] else run.seen) ++
      handled.2.effects.filterMap RuntimeEffect.timerOp⟩

/-- Peers that handle the events addressed to them, with what happened to their timers since the
latest derivation. -/
def derivingPeers (c : Crypto) : Machine (Watched (List TimerOp)) :=
  .ofActions (fun run => run.peer.Configured ∧ run.seen = [])
    (fun run step => step.2.Admissible run.peer ∧ step.2.peerIndex = run.peer.peerIndex)
    (Watched.sinceDerived c)

section Runs

variable {after : PeerRuntime} {batch : EffectBatch} {seen : List TimerOp}
  {run : Watched (List TimerOp)}

/-- A valid keypair has its erasure scheduled since the latest derivation. -/
def PeerRuntime.Scheduled (s : PeerRuntime) (seen : List TimerOp) : Prop :=
  (s.device.peer.Holds fun _ => False) →
    ∃ token, .arm token ∈ seen ∧ s.timers.live .zeroKeyMaterial = some token

theorem PeerRuntime.Clocked.transport_of_live (hs : s.Clocked) {hook : TimerHook}
    {token : TimerToken} (hlive : s.timers.live hook = some token) :
    s.isInTransportState ∧ s.timers.isArmed hook := by
  have harmed : s.timers.isArmed hook := by
    rw [← TimerCoordinator.live_isSome, hlive]
    rfl
  refine ⟨?_, harmed⟩
  by_contra hnot
  exact Bool.noConfusion ((hs.stopped (Bool.eq_false_iff.mpr hnot) hook).symm.trans harmed)

private theorem handle_scheduled (hsound : s.Sound c) (hclocked : s.Clocked)
    (hevent : event.Admissible s)
    (hindex : event.peerIndex = s.peerIndex) (h : s.handle c p event = some (after, batch))
    (hs : s.Scheduled seen) :
    after.Scheduled ((if s.device.peer.Derived after.device.peer then [] else seen) ++
      batch.effects.filterMap RuntimeEffect.timerOp) := by
  intro hafter
  obtain ⟨st, hst, -, hfinal⟩ := handle_finalized h
  have hturn := handleEvent_turn hst
  obtain ⟨⟨timers, intent, hruntime⟩, -⟩ := finalizeTimerEffects_spec st.effects st.runtime
  by_cases hstays : event.Stays s
  · have hschedules (old : UInt32 → Prop) (armed : Bool) :=
      hturn.schedules old armed hsound (handleEvent_arms hsound hst) hevent hstays
    have hown := hturn.own hindex hstays
    have htimers := hturn.timers hstays
    obtain rfl : st.runtime.withTimers timers intent = after :=
      hruntime.symm.trans (congrArg Prod.snd hfinal)
    obtain ⟨hpeer, hfate⟩ := hschedules (fun _ => False) (s.timers.isArmed .zeroKeyMaterial)
      (fun hholds => by
        obtain ⟨token, -, hlive⟩ := hs hholds
        exact hclocked.transport_of_live hlive) hafter
    have harmed := finalizeTimerEffects_fate hown hpeer .zeroKeyMaterial
    rw [hfinal, htimers, hfate, ← TimerCoordinator.live_isSome] at harmed
    obtain ⟨token, hlive⟩ := Option.isSome_iff_exists.mp harmed
    refine ⟨token, ?_, hlive⟩
    have hgranted := finalizeTimerEffects_live hown hpeer (by rw [hfinal]; exact hlive)
    rw [hfinal] at hgranted
    obtain hgranted | ⟨hkept, hleft⟩ := hgranted
    · exact mem_append_right _ hgranted
    -- the batch left the hook alone, so that no session was derived and one was held before
    have hnew : ¬ s.device.peer.Derived (st.runtime.withTimers timers intent).device.peer := by
      intro hderived
      have hfate' := (hschedules s.device.peer.Held false
        (fun ⟨slot, hslot, _, hnot⟩ => absurd ⟨slot, hslot, rfl⟩ hnot) hderived).2
      exact Bool.noConfusion (hleft.symm.trans hfate')
    have hheld : s.device.peer.Holds fun _ => False := by
      by_contra hnone
      have hfate' := (hschedules (fun _ => False) false (fun hholds => absurd hholds hnone)
        hafter).2
      exact Bool.noConfusion (hleft.symm.trans hfate')
    obtain ⟨other, hmem, hother⟩ := hs hheld
    rw [htimers, hother] at hkept
    rw [if_neg hnew, ← Option.some.inj hkept]
    exact mem_append_left _ hmem
  · obtain ⟨request, rfl, hcur⟩ := PeerEvent.not_stays hstays
    cases hst
    have hreset := (handleDeactivationRequested_spec hcur).1
    rw [finalizeTimerEffects_stale hreset.activation] at hfinal
    obtain rfl : (s.handleDeactivationRequested request).runtime = after := congrArg Prod.snd hfinal
    rw [hreset.device] at hafter
    exact absurd hafter (not_holds_of_zero rfl rfl rfl)

private theorem configured_device (h : s.Configured) : s.device = .reset := by
  obtain ⟨peerIndex, config, derived, now, hconf⟩ := h
  unfold configure at hconf
  rw [if_neg (by decide)] at hconf
  cases hconf
  rfl

/-- What holds of every peer in such a run. -/
theorem derivingPeers_invariant (h : (derivingPeers c).Reachable run) :
    run.peer.Sound c ∧ run.peer.Clocked ∧ run.peer.device.Indexed ∧
      run.peer.Scheduled run.seen := by
  refine h.invariant (P := fun run => run.peer.Sound c ∧ run.peer.Clocked ∧
    run.peer.device.Indexed ∧ run.peer.Scheduled run.seen) ?_ ?_
  · rintro run ⟨hconfigured, -⟩
    refine ⟨?_, configured_clocked hconfigured, ?_, ?_⟩
    · obtain ⟨peerIndex, config, derived, now, hconf⟩ := hconfigured
      exact configure_sound hconf
    · exact (indexed_invariant c).reachable (.start hconfigured)
    · intro hholds
      rw [configured_device hconfigured] at hholds
      exact absurd hholds (not_holds_of_zero rfl rfl rfl)
  · rintro run next - ⟨hsound, hclocked, hindexed, hsched⟩ ⟨⟨p, event⟩, ⟨hevent, hindex⟩, hstep⟩
    obtain ⟨⟨after, batch⟩, hhandle, rfl⟩ := Option.map_eq_some_iff.mp hstep
    exact ⟨handle_sound hhandle hevent hsound,
      handle_clocked hsound hclocked hevent hindex hhandle,
      (indexed_invariant c).handle hhandle hindexed,
      handle_scheduled hsound hclocked hevent hindex hhandle hsched⟩

/-- The erasure leaves no key. -/
theorem handle_zeroKeyMaterial_erased {expiry : ProtocolTimerExpiredEvent}
    (hindexed : s.device.Indexed) (hhook : expiry.hook = .zeroKeyMaterial)
    (hcur : s.isCurrentExpiry expiry)
    (h : s.handle c p (.protocolTimerExpired expiry) = some (after, batch)) :
    after.device.Erased := by
  have hafter := (indexed_invariant c).handle h hindexed
  obtain ⟨st, timers, intent, hst, rfl, -⟩ := handle_spec h
  cases hst
  refine erased_of_not_holds hafter ?_
  unfold handleProtocolTimerExpired
  rw [if_neg (by simp [hcur])]
  simp only [hhook, ne_eq, not_true_eq_false, and_false, if_false]
  exact not_holds_of_zero rfl rfl rfl

/-- While a keypair is valid its erasure is scheduled, by a token granted since the latest session
was derived.  After the erasure, in the error state and after a deactivation there are no keys. -/
theorem erasure_scheduled (h : (derivingPeers c).Reachable run) :
    (∀ slot keypair, run.peer.device.keypairForSlot slot = some keypair →
      keypair.isValid = true →
      ∃ token, .arm token ∈ run.seen ∧ run.peer.timers.live .zeroKeyMaterial = some token) ∧
    (run.peer.lifecycle.state = .error ∨ run.peer.lifecycle.state = .inactive →
      run.peer.device.Erased) ∧
    (∀ (p : Platform) (expiry : ProtocolTimerExpiredEvent) (after : PeerRuntime)
      (batch : EffectBatch), expiry.hook = .zeroKeyMaterial →
      run.peer.isCurrentExpiry expiry = true →
      run.peer.handle c p (.protocolTimerExpired expiry) = some (after, batch) →
      after.device.Erased) ∧
    ∀ (p : Platform) (derived : WgDevice),
      noiseHandshakeBeginSession c p run.peer.device = (true, derived) →
      run.peer.device.peer.Derived derived.peer := by
  obtain ⟨-, hclocked, hindexed, hsched⟩ := derivingPeers_invariant h
  refine ⟨fun slot keypair hslot hvalid => hsched (holds_of_keypair hslot hvalid),
    fun hstate => erased_of_not_holds hindexed fun hholds => ?_,
    fun p expiry after batch hhook hcur hhandle =>
      handle_zeroKeyMaterial_erased hindexed hhook hcur hhandle,
    fun p derived hbegin => beginSession_derived hindexed hbegin⟩
  obtain ⟨token, -, hlive⟩ := hsched hholds
  have htrans := (hclocked.transport_of_live hlive).1
  rw [isInTransportState_iff] at htrans
  rcases hstate with hstate | hstate
  · rw [hstate] at htrans
    rcases htrans with h | h
    · cases h
    · cases h
  · rw [hstate] at htrans
    rcases htrans with h | h
    · cases h
    · cases h

/-- The first session of the sample peer: its current keypair is valid, and the erasure armed. -/
theorem erasure_scheduled_sample : ∃ run, (derivingPeers .transparent).Reachable run ∧
    run.peer.device.peer.currentKeypair.isValid = true ∧
    ∃ token, .arm token ∈ run.seen ∧
      run.peer.timers.live .zeroKeyMaterial = some token := by
  have hrun : ((samplePeer 0).bind fun s => Machine.runActions
      (fun run step => step.2.Admissible run.peer ∧ step.2.peerIndex = run.peer.peerIndex)
      (Watched.sinceDerived .transparent) sampleEstablished ⟨s, []⟩).map
      (fun run => run.peer.device.peer.currentKeypair.isValid) = some true := by
    decide +kernel
  obtain ⟨run, hrun, hvalid⟩ := Option.map_eq_some_iff.mp hrun
  obtain ⟨s, hs, hrun⟩ := Option.bind_eq_some_iff.mp hrun
  have hreach : (derivingPeers .transparent).Reachable run :=
    .of_runActions (.start ⟨samplePeer_configured hs, rfl⟩) hrun
  exact ⟨run, hreach, hvalid,
    (erasure_scheduled hreach).1 .currentKeypair _ rfl hvalid⟩

end Runs

end WireguardNx.Runtime
