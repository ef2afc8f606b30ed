import WireguardNx.Laws.TimerRequests
import WireguardNx.Laws.TimerLog

/-!
# Timer tokens

An expired timer is acted on only if its token is still the one its hook is armed with.  Over every
run, the protocol's own record of its timers and the tokens agree, no timer is armed outside the
transport states, and the log of what happened to the timers explains the tokens.

An expiry is assumed to carry the owner and the hook of its token, as the coordinator makes it.  A
generation tells requests apart before 2^32 - 2 of them have been granted.
-/

namespace WireguardNx.Runtime

open Wireguard PeerRuntime HandlerState TimerCoordinator RuntimeEffect List Bool

variable {c : Crypto} {p : Platform} {s t : PeerRuntime} {identity : PeerIdentity}
  {st : HandlerState}

/-! ## Whose timers a handler asks for -/

/-- Every timer a handler asks for is the current activation's. -/
def HandlerState.Own (s : PeerRuntime) (st : HandlerState) : Prop :=
  ∀ effect ∈ st.effects, effect.IsOwn s

section Own

variable {after : HandlerState}

theorem own_nil {s t : PeerRuntime} : Own s ⟨t, []⟩ := nofun

theorem HandlerState.Own.add (h : st.Own s) {effect : RuntimeEffect} (heffect : effect.IsOwn s) :
    (st.add effect).Own s := by
  intro other hmem
  rcases mem_append.mp hmem with hmem | hmem
  · exact h other hmem
  · rwa [mem_singleton.mp hmem]

theorem HandlerState.Own.fail (h : st.Own s)
    (hact : st.runtime.lifecycle.activationGeneration = s.lifecycle.activationGeneration)
    (hindex : st.runtime.peerIndex = s.peerIndex) (stage : PeerErrorStage) (code : PeerErrorCode)
    (now : Ktime) : (st.enterActivationError stage code now).Own s := by
  rw [enterActivationError_eq]
  intro effect hmem
  rcases mem_append.mp hmem with hmem | hmem
  · exact h effect hmem
  unfold errorEffects at hmem
  rcases mem_append.mp hmem with hmem | hmem
  · split at hmem
    · rw [mem_singleton.mp hmem]
      exact trivial
    · cases hmem
  · split at hmem
    · cases hmem
    · rename_i hactive
      obtain ⟨hook, -, rfl⟩ := mem_map.mp hmem
      refine ⟨?_, hindex⟩
      rw [hact] at hactive ⊢
      exact isCurrentActivation_self hactive

theorem HandlerState.Own.congr (h : st.Own s)
    (hact : t.lifecycle.activationGeneration = s.lifecycle.activationGeneration)
    (hindex : t.peerIndex = s.peerIndex) : st.Own t :=
  fun effect hmem => (h effect hmem).congr hact hindex

theorem HandlerState.Own.failed (h : st.Own st.runtime) (stage : PeerErrorStage)
    (code : PeerErrorCode) (now : Ktime) : (st.enterActivationError stage code now).Own
      (st.enterActivationError stage code now).runtime := by
  refine (h.fail rfl rfl stage code now).congr ?_ ?_
  · rw [enterActivationError_eq]
  · rw [enterActivationError_eq]

theorem RuntimeEffect.IsTraffic.own {effect : RuntimeEffect} (h : effect.IsTraffic identity)
    (hcur : s.isCurrentActivation identity.activationGeneration)
    (hindex : identity.peerIndex = s.peerIndex) : effect.IsOwn s := by
  cases effect with
  | armProtocolTimer who hook token deadline =>
    obtain ⟨rfl, htoken⟩ := h
    exact ⟨hcur, hindex, htoken⟩
  | cancelProtocolTimer who hook token =>
    obtain ⟨rfl, -⟩ := h
    exact ⟨hcur, hindex⟩
  | _ => exact trivial

/-- A handler that works for the current activation asks for its timers only. -/
theorem Work.own (h : Traffic c p identity st after)
    (hcur : s.isCurrentActivation identity.activationGeneration)
    (hindex : identity.peerIndex = s.peerIndex)
    (hact : st.runtime.lifecycle.activationGeneration = s.lifecycle.activationGeneration)
    (hpeer : st.runtime.peerIndex = s.peerIndex) (hst : st.Own s) : after.Own s := by
  induction h with
  | refl _ => exact hst
  | step hbefore hstep ih =>
    have hmid := ih hact hpeer hst
    cases hstep with
    | emit effect htraffic => exact hmid.add (htraffic.own hcur hindex)
    | note | operate | queue | free => exact hmid
    | fill | listen => exact hmid.add trivial
    | zero => exact hmid.add ⟨hcur, hindex⟩
    | fail stage code now =>
      exact hmid.fail (hbefore.activation.1.trans hact)
        (hbefore.activation.2.1.trans hpeer) stage code now
  | derive hbefore _ _ _ ih ihRest =>
    exact (ihRest (hbefore.activation.1.trans hact)
      (hbefore.activation.2.1.trans hpeer) (ih hact hpeer hst)).add ⟨hcur, hindex, rfl⟩

/-- What a handler asks for is the activation's it leaves behind. -/
theorem Work.own_after (h : Traffic c p identity st after)
    (hcur : st.runtime.isCurrentActivation identity.activationGeneration)
    (hindex : identity.peerIndex = st.runtime.peerIndex) (hst : st.Own st.runtime) :
    after.Own after.runtime :=
  (h.own hcur hindex rfl rfl hst).congr h.activation.1 h.activation.2.1

end Own

/-! ## The timers of a peer between two events -/

/-- The tokens agree with the protocol's record, and outside the transport states none is armed. -/
structure PeerRuntime.Clocked (s : PeerRuntime) : Prop extends s.Timed where
  stopped : s.isInTransportState = false → ∀ hook, s.timers.isArmed hook = false

section Turns

variable {event : PeerEvent}

private theorem identity_peerIndex (event : PeerEvent) :
    event.identity.peerIndex = event.peerIndex := by
  cases event <;> rfl

theorem rejectSocket_own {s t : PeerRuntime} {event : UdpBindOpenedEvent} :
    (s.rejectSocket event).Own t := by
  unfold rejectSocket
  split
  · exact own_nil.add trivial
  · exact own_nil

private theorem losePath_own (hcur : s.isCurrentActivation identity.activationGeneration)
    (hindex : identity.peerIndex = s.peerIndex) : (s.losePath identity).Own s := by
  have hown (hook : TimerHook) (token : TimerToken) :
      (cancelProtocolTimer identity hook token).IsOwn s := ⟨hcur, hindex⟩
  rcases losePath_cases s identity with ⟨-, heq⟩ | ⟨-, -, heq⟩
  · rw [heq]
    exact own_nil
  · rw [heq]
    exact ((((own_nil.add (hown _ _)).add (hown _ _)).add (hown _ _)).add (hown _ _)).add trivial

/-- The event does not end the activation. -/
def PeerEvent.Stays (s : PeerRuntime) (event : PeerEvent) : Prop :=
  ∀ request, event = .deactivationRequested request →
    s.isCurrentActivation request.peer.activationGeneration = false

theorem PeerEvent.not_stays (h : ¬ event.Stays s) :
    ∃ request, event = .deactivationRequested request ∧
      s.isCurrentActivation request.peer.activationGeneration := by
  unfold Stays at h
  push Not at h
  simpa using h

/-- A turn that is not a deactivation asks for timers of the activation it leaves behind. -/
theorem Turn.own (h : Turn c p s event st) (hindex : event.peerIndex = s.peerIndex)
    (hstays : event.Stays s) : st.Own st.runtime := by
  rw [← identity_peerIndex] at hindex
  cases h with
  | idle | doubt | regain | ignore => exact own_nil
  | traffic _ _ _ hcur htraffic => exact htraffic.own_after hcur hindex own_nil
  | refuse | unresolved | unkeyed => exact own_nil.failed _ _ _
  | activate | resolve | rebind | bind => exact own_nil.add trivial
  | deactivate request hcur =>
    exact Bool.noConfusion ((hstays request rfl).symm.trans hcur)
  | lose event hcur =>
    have hlost := losePath_own (s := { s with pathAvailability := .unavailable })
      (isCurrentActivation_of_isCurrentPathRequest hcur) hindex
    rw [losePath_runtime]
    exact hlost.congr rfl rfl
  | stale | drop => exact rejectSocket_own
  | unopened => exact rejectSocket_own.failed _ _ _
  | rebound event binding last h _ _ _ _ _ _ _ _ _ _ htraffic =>
    have hclosing : Own (s.rebound binding) ⟨s.rebound binding, s.closing⟩ := by
      unfold closing
      split
      · exact own_nil.add trivial
      · exact own_nil
    have hcur := awaits_current h
    exact (htraffic.own_after hcur hindex hclosing).add trivial
  | bound event binding peer _ h _ _ _ _ _ _ _ _ _ _ _ _ htraffic =>
    have hcur := awaits_current h
    exact htraffic.own_after hcur hindex own_nil

theorem PeerRuntime.Timed.congr (h : s.Timed)
    (hhooks : t.device.peer.timers.hooks = s.device.peer.timers.hooks)
    (hpeer : t.hasProtocolPeer = s.hasProtocolPeer) (htimers : t.timers = s.timers)
    (hact : t.lifecycle.activationGeneration = s.lifecycle.activationGeneration)
    (hindex : t.peerIndex = s.peerIndex) : t.Timed := by
  refine ⟨fun hsome hook => ?_, fun hnone hook => ?_, fun hook token hlive => ?_⟩
  · rw [hhooks, htimers]
    exact h.mirror (hpeer.symm.trans hsome) hook
  · rw [htimers]
    exact h.peerless (hpeer.symm.trans hnone) hook
  · rw [hact, hindex]
    exact h.owned hook token (htimers ▸ hlive)

/-- Where no timer is armed, only the protocol's record is left to check. -/
theorem timed_of_unarmed (hunarmed : ∀ hook, s.timers.isArmed hook = false)
    (hrecord : s.hasProtocolPeer →
      ∀ hook, (s.device.peer.timers.hooks hook).pending = false) : s.Timed := by
  refine ⟨fun hsome hook => ?_, fun _ => hunarmed, fun hook token hlive => ?_⟩
  · rw [hunarmed hook]
    exact hrecord hsome hook
  · rw [live_eq_none_iff.mpr (hunarmed hook)] at hlive
    cases hlive

theorem Work.timed {after : HandlerState} (h : Traffic c p identity st after)
    (hst : st.runtime.Timed) : after.runtime.Timed := by
  obtain ⟨hact, hindex, htimers, hpeer⟩ := h.activation
  exact hst.congr h.sameRecord.hooks hpeer htimers hact hindex

theorem PeerRuntime.Timed.fail (h : st.runtime.Timed) (stage : PeerErrorStage)
    (code : PeerErrorCode) (now : Ktime) :
    (st.enterActivationError stage code now).runtime.Timed := by
  have hrecord := enterActivationError_sameRecord st stage code now
  rw [enterActivationError_eq] at hrecord ⊢
  exact h.congr hrecord.hooks (congrArg (st.runtime.instantiated && ·) hrecord.hasPeer) rfl rfl rfl

private theorem initializePeer_pending {key : NoiseKey} {text : List Char} {psk : Option NoiseKey}
    {interval : UInt16} {peer : WgPeer}
    (h : WgPeer.initializePeer c key text psk interval = some peer) (hook : TimerHook) :
    (peer.timers.hooks hook).pending = false := by
  unfold WgPeer.initializePeer at h
  split at h
  · cases h
  split at h
  · cases h
  · cases h
    rfl

theorem not_transport_of_admissible {request : ActivationRequestedEvent}
    (h : (PeerEvent.activationRequested request).Admissible s) : s.isInTransportState = false := by
  rw [eq_false_iff, Ne, isInTransportState_iff]
  rcases h with h | h
  · rw [h]
    rintro (h | h)
    · cases h
    · cases h
  · rw [h]
    rintro (h | h)
    · cases h
    · cases h

/-- A deactivation leaves no timer armed. -/
theorem handleDeactivationRequested_unarmed {request : DeactivationRequestedEvent}
    (h : s.isCurrentActivation request.peer.activationGeneration) (hook : TimerHook) :
    (s.handleDeactivationRequested request).runtime.timers.isArmed hook = false := by
  obtain ⟨timers, intent, cancels, heq, -⟩ := handleDeactivationRequested_writes h
  rw [heq]
  rfl

/-- A handler leaves the two records in agreement before its requests are granted. -/
theorem Turn.timed (h : Turn c p s event st) (hs : s.Clocked) (hevent : event.Admissible s) :
    st.runtime.Timed := by
  cases h with
  | idle | ignore => exact hs.toTimed
  | traffic _ _ _ _ htraffic => exact htraffic.timed hs.toTimed
  | refuse | unresolved => exact hs.toTimed.fail _ _ _
  | activate =>
    have hunarmed := hs.stopped (not_transport_of_admissible hevent)
    exact timed_of_unarmed hunarmed nofun
  | deactivate request hcur =>
    refine timed_of_unarmed (handleDeactivationRequested_unarmed hcur) fun hpeer => ?_
    unfold hasProtocolPeer at hpeer
    rw [(handleDeactivationRequested_spec hcur).1.instantiated] at hpeer
    cases hpeer
  | doubt | regain | resolve | rebind | bind => exact hs.toTimed.congr rfl rfl rfl rfl rfl
  | lose =>
    rw [losePath_runtime]
    exact hs.toTimed.congr rfl rfl rfl rfl rfl
  | stale =>
    rw [rejectSocket_runtime]
    exact hs.toTimed
  | drop =>
    rw [rejectSocket_runtime]
    exact hs.toTimed.congr rfl rfl rfl rfl rfl
  | unopened =>
    refine Timed.fail ?_ _ _ _
    rw [rejectSocket_runtime]
    exact hs.toTimed.congr rfl rfl rfl rfl rfl
  | rebound event binding _ _ _ _ _ _ _ _ _ _ _ _ htraffic =>
    have hrebound : (s.rebound binding).Timed := hs.toTimed.congr rfl rfl rfl rfl rfl
    exact htraffic.timed hrebound
  | bound event binding peer _ _ _ hstate _ _ _ _ _ _ _ _ hpeer _ htraffic =>
    obtain ⟨key, text, psk, hpeer⟩ := hpeer
    refine htraffic.timed (timed_of_unarmed ?_ fun _ => initializePeer_pending hpeer)
    exact hs.stopped (eq_false_iff.mpr (not_transport_of_resolving hstate))
  | unkeyed event binding _ _ hstate _ _ _ =>
    refine Timed.fail (timed_of_unarmed ?_ fun hpeer => ?_) _ _ _
    · exact hs.stopped (eq_false_iff.mpr (not_transport_of_resolving hstate))
    · cases hpeer

/-- Traffic leaves the transport states only by a failure, which cancels every timer. -/
theorem Work.stops {after : HandlerState} (h : Traffic c p identity st after)
    (htrans : st.runtime.isInTransportState)
    (hcur : st.runtime.isCurrentActivation identity.activationGeneration)
    (hnot : after.runtime.isInTransportState = false) : after.runtime.lifecycle.state = .error ∧
      ∀ hook, ∃ who token, .cancelProtocolTimer who hook token ∈ after.effects := by
  have herror : after.runtime.lifecycle.state = .error := by
    obtain hkept | hfailed := h.outcome
    · refine absurd ?_ (eq_false_iff.mp hnot)
      rw [isInTransportState_iff] at htrans ⊢
      obtain hsame | ⟨-, hactive⟩ := hkept.state
      · rw [hsame]
        exact htrans
      · exact .inr hactive
    · exact hfailed.state
  exact ⟨herror, (h.fails (state_ne_error htrans) (activation_ne_zero hcur) herror).2⟩

/-- Only a deactivation writes the tokens itself. -/
theorem Turn.timers (h : Turn c p s event st)
    (hstays : event.Stays s) :
    st.runtime.timers = s.timers := by
  cases h with
  | traffic _ _ _ _ htraffic | rebound event binding _ _ _ _ _ _ _ _ _ _ _ _ htraffic
  | bound event binding peer _ _ _ _ _ _ _ _ _ _ _ _ _ _ htraffic => exact htraffic.activation.2.2.1
  | refuse | unresolved => rw [enterActivationError_eq]
  | deactivate request hcur =>
    exact Bool.noConfusion ((hstays request rfl).symm.trans hcur)
  | lose => rw [losePath_runtime]
  | stale | drop => rw [rejectSocket_runtime]
  | unopened => rw [enterActivationError_eq, rejectSocket_runtime]
  | unkeyed =>
    rw [enterActivationError_eq]
    rfl
  | _ => rfl

/-- A handler that leaves the transport states has cancelled every timer.  Outside of them, none
was armed. -/
theorem Turn.stops (h : Turn c p s event st) (hs : s.Clocked) (hevent : event.Admissible s)
    (hstays : event.Stays s)
    (hnot : st.runtime.isInTransportState = false) :
    (s.isInTransportState = false ∧ ∀ hook, st.runtime.timers.isArmed hook = false) ∨
      (st.runtime.lifecycle.state = .error ∧
        ∀ hook, ∃ who token, .cancelProtocolTimer who hook token ∈ st.effects) := by
  have hoff (hbefore : s.isInTransportState = false) :
      s.isInTransportState = false ∧ ∀ hook, st.runtime.timers.isArmed hook = false :=
    ⟨hbefore, fun hook => h.timers hstays ▸ hs.stopped hbefore hook⟩
  have hkept (hsame : st.runtime.lifecycle.state = s.lifecycle.state) :
      s.isInTransportState = false ∧ ∀ hook, st.runtime.timers.isArmed hook = false := by
    refine hoff ?_
    unfold isInTransportState at hnot ⊢
    rwa [hsame] at hnot
  have hresolving (hstate : s.lifecycle.state = .resolvingEndpoint) :
      s.isInTransportState = false := eq_false_iff.mpr (not_transport_of_resolving hstate)
  cases h with
  | traffic _ _ _ hcur htraffic =>
    by_cases htrans : s.isInTransportState
    · exact .inr (htraffic.stops htrans hcur hnot)
    · exact .inl (hoff (eq_false_iff.mpr htrans))
  | refuse | activate => exact .inl (hoff (not_transport_of_admissible hevent))
  | deactivate request hcur =>
    exact Bool.noConfusion ((hstays request rfl).symm.trans hcur)
  | lose => exact .inl (hkept (by rw [losePath_runtime]))
  | unresolved event stage code _ hstate | unopened _ _ hstate
  | bound event binding peer _ _ _ hstate | unkeyed event binding _ _ hstate =>
    exact .inl (hoff (hresolving hstate))
  | stale | drop => exact .inl (hkept (by rw [rejectSocket_runtime]))
  | rebound event binding last h _ htrans _ _ _ _ _ _ _ _ htraffic =>
    have hcur := awaits_current h
    obtain ⟨herror, hcancels⟩ := htraffic.stops htrans hcur hnot
    refine .inr ⟨herror, fun hook => ?_⟩
    obtain ⟨who, token, hmem⟩ := hcancels hook
    exact ⟨who, token, mem_append_left _ hmem⟩
  | _ => exact .inl (hkept rfl)

/-- Effects that are not for the current activation are left as they are. -/
theorem finalizeTimerEffects_stale (h : s.lifecycle.activationGeneration = 0)
    (effects : List RuntimeEffect) : finalizeTimerEffects effects s = (effects, s) := by
  have hstale (generation : UInt32) := isCurrentActivation_of_zero h generation
  induction effects with
  | nil => rfl
  | cons effect effects ih =>
    have hfirst : s.finalizeTimerEffect effect = (effect, s) := by
      cases effect with
      | armProtocolTimer | cancelProtocolTimer => exact if_pos (.inl (hstale _))
      | _ => rfl
    rw [finalizeTimerEffects_cons, hfirst, ih]

private theorem finalizeTimerEffects_keeps {effects : List RuntimeEffect} {s : PeerRuntime} :
    (finalizeTimerEffects effects s).2.lifecycle = s.lifecycle ∧
      (finalizeTimerEffects effects s).2.hasProtocolPeer = s.hasProtocolPeer := by
  obtain ⟨⟨timers, intent, hfinal⟩, -⟩ := finalizeTimerEffects_spec effects s
  rw [hfinal]
  exact ⟨rfl, rfl⟩

/-- Handling an event keeps the records in agreement, and no timer armed outside the transport
states. -/
theorem handle_clocked {after : PeerRuntime} {batch : EffectBatch} (hsound : s.Sound c)
    (hs : s.Clocked) (hevent : event.Admissible s) (hindex : event.peerIndex = s.peerIndex)
    (h : s.handle c p event = some (after, batch)) : after.Clocked := by
  obtain ⟨st, hst, hbudget, hfinal⟩ := handle_finalized h
  have hturn := handleEvent_turn hst
  obtain rfl : (finalizeTimerEffects st.effects st.runtime).2 = after :=
    congrArg Prod.snd hfinal
  by_cases hstays : event.Stays s
  · have hown := hturn.own hindex hstays
    have htimed := finalizeTimerEffects_timed hown (hturn.timed hs hevent)
    obtain ⟨hlifecycle, hpeer⟩ := finalizeTimerEffects_keeps
    refine ⟨htimed, fun hnot hook => ?_⟩
    by_cases hsome : st.runtime.hasProtocolPeer
    · rw [finalizeTimerEffects_fate hown hsome]
      have hnot' : st.runtime.isInTransportState = false := by
        unfold isInTransportState at hnot ⊢
        rwa [hlifecycle] at hnot
      have harms := handleEvent_arms hsound hst
      obtain ⟨hoff, hunarmed⟩ | ⟨herror, hcancels⟩ := hturn.stops hs hevent hstays hnot'
      · obtain harmless | ⟨htrans, -⟩ := harms
        · rw [hunarmed hook]
          exact fateAfter_of_armless harmless
        · exact Bool.noConfusion (hoff.symm.trans htrans)
      · obtain harmless | ⟨-, hover⟩ := harms
        · obtain ⟨who, token, hmem⟩ := hcancels hook
          exact fateAfter_of_cancel harmless hmem _
        · exact absurd hbudget (Nat.not_le.mpr (hover herror))
    · exact htimed.peerless (hpeer.trans (eq_false_iff.mpr hsome)) hook
  · obtain ⟨request, rfl, hcur⟩ := PeerEvent.not_stays hstays
    cases hst
    have hreset := (handleDeactivationRequested_spec hcur).1
    rw [finalizeTimerEffects_stale hreset.activation]
    exact ⟨hturn.timed hs hevent, fun _ => handleDeactivationRequested_unarmed hcur⟩

end Turns

/-! ## The log of a run -/

/-- What an effect of a finished batch says about the timers.  A request to arm one that was not
granted has no generation. -/
def RuntimeEffect.timerOp : RuntimeEffect → Option TimerOp
  | .armProtocolTimer _ _ token _ => if token.generation = 0 then none else some (.arm token)
  | .cancelProtocolTimer _ hook _ => some (.cancel hook)
  | _ => none

/-- An activation begins before the effects of its request. -/
def PeerEvent.begins (s : PeerRuntime) : PeerEvent → List TimerOp
  | .activationRequested _ => if s.validateConfiguration = .none then [.activate] else []
  | _ => []

/-- A deactivation cancels all timers once more after the effects of its request. -/
def PeerEvent.ends (s : PeerRuntime) : PeerEvent → List TimerOp
  | .deactivationRequested event =>
    if s.isCurrentActivation event.peer.activationGeneration then [.deactivate] else []
  | _ => []

def PeerRuntime.retrySequence (s : PeerRuntime) : UInt32 :=
  s.device.peer.handshakeRetry.sequenceCount

/-- A handler begins a retry sequence before its effects are granted. -/
def PeerRuntime.sequenced (s after : PeerRuntime) : List TimerOp :=
  if after.retrySequence = s.retrySequence then [] else [.sequence after.retrySequence]

def logTimers (run : Watched (List TimerOp)) (event : PeerEvent)
    (handled : PeerRuntime × EffectBatch) : List TimerOp :=
  run.seen ++ event.begins run.peer ++ run.peer.sequenced handled.1 ++
    handled.2.effects.filterMap timerOp ++ event.ends run.peer

/-- Peers that handle the events addressed to them, as `PeerRegistry::Dispatch` ensures, with the
log of their timers. -/
def loggedPeers (c : Crypto) : Machine (Watched (List TimerOp)) :=
  watchedWhere c [] logTimers fun run event => event.peerIndex = run.peer.peerIndex

section Logs

variable {event : PeerEvent} {log : List TimerOp} {after : PeerRuntime}

theorem explained_sequenced (h : s.timers.Explained log) :
    s.timers.Explained (log ++ s.sequenced after) := by
  unfold sequenced
  split
  · rwa [append_nil]
  · exact h.pass rfl fun _ => rfl

theorem sequenceAfter_sequenced (h : sequenceAfter log = s.retrySequence) :
    sequenceAfter (log ++ s.sequenced after) = after.retrySequence := by
  unfold sequenced
  split
  · rename_i hsame
    rw [append_nil, h, hsame]
  · exact sequenceAfter_concat ..

/-- What a batch does to the timers is no retry sequence. -/
theorem sequenceAfter_timerOps (log : List TimerOp) (effects : List RuntimeEffect) :
    sequenceAfter (log ++ effects.filterMap timerOp) = sequenceAfter log := by
  induction effects generalizing log with
  | nil => rw [filterMap_nil, append_nil]
  | cons effect effects ih =>
    cases hop : effect.timerOp with
    | none => rw [filterMap_cons_none hop, ih]
    | some op =>
      rw [filterMap_cons_some hop, append_cons, ih, sequenceAfter_concat]
      cases op with
      | sequence count =>
        unfold timerOp at hop
        split at hop
        · split at hop <;> cases hop
        · cases hop
        · cases hop
      | _ => rfl

/-- What a finished effect says happened is what happened to the tokens. -/
theorem finalizeTimerEffect_timerOp {effect : RuntimeEffect} (hown : effect.IsOwn s) :
    (∃ hook owner, (hook = .retransmitHandshake → owner.protocolSequence = s.retrySequence) ∧
      (s.finalizeTimerEffect effect).1.timerOp = some (.arm (s.timers.arm hook owner).1) ∧
        (s.finalizeTimerEffect effect).2.timers = (s.timers.arm hook owner).2) ∨
      (∃ hook, (s.finalizeTimerEffect effect).1.timerOp = some (.cancel hook) ∧
        (s.finalizeTimerEffect effect).2.timers = (s.timers.cancel hook).2) ∨
      ((s.finalizeTimerEffect effect).1.timerOp = none ∧
        (s.finalizeTimerEffect effect).2.timers = s.timers) := by
  obtain ⟨who, hook, deadline, rfl, -, -, ⟨-, hfinal⟩ | ⟨-, hfinal⟩⟩ |
    ⟨who, hook, token, -, hfinal⟩ | ⟨hother, hfinal⟩ := finalizeTimerEffect_cases hown
  · rw [hfinal]
    exact .inr (.inr ⟨rfl, rfl⟩)
  · rw [hfinal]
    exact .inl ⟨hook, s.currentOwner who hook, fun hretransmit => if_pos hretransmit,
      if_neg (takeGeneration_ne_zero _), rfl⟩
  · rw [hfinal]
    exact .inr (.inl ⟨hook, rfl, rfl⟩)
  · rw [hfinal]
    refine .inr (.inr ⟨?_, rfl⟩)
    cases effect with
    | armProtocolTimer | cancelProtocolTimer => cases hother
    | _ => rfl

/-- A batch is logged as it was granted. -/
theorem finalizeTimerEffects_explained {effects : List RuntimeEffect}
    (hown : ∀ effect ∈ effects, effect.IsOwn s) (h : s.timers.Explained log)
    (hsequence : sequenceAfter log = s.retrySequence) :
    (finalizeTimerEffects effects s).2.timers.Explained
      (log ++ (finalizeTimerEffects effects s).1.filterMap timerOp) := by
  induction effects generalizing s log with
  | nil =>
    rw [show finalizeTimerEffects [] s = ([], s) from rfl, filterMap_nil,
      append_nil]
    exact h
  | cons effect effects ih =>
    obtain ⟨timers, intent, hfinal⟩ := (finalizeTimerEffect_spec s effect).1
    have hkept : (s.finalizeTimerEffect effect).2.retrySequence = s.retrySequence := by
      rw [hfinal]
      rfl
    have hrest {log : List TimerOp} (hsame : sequenceAfter log = s.retrySequence)
        (hfirst : (s.finalizeTimerEffect effect).2.timers.Explained log) :=
      ih (fun other hmem => IsOwn.finalized
        (hown other (mem_cons_of_mem _ hmem))) hfirst (hsame.trans hkept.symm)
    rw [finalizeTimerEffects_cons]
    obtain ⟨hook, owner, howner, hop, htimers⟩ | ⟨hook, hop, htimers⟩ | ⟨hop, htimers⟩ :=
      finalizeTimerEffect_timerOp (hown effect mem_cons_self)
    · rw [filterMap_cons_some hop, append_cons]
      refine hrest ((sequenceAfter_concat ..).trans hsequence) (htimers ▸ h.arm hook owner ?_)
      exact fun hretransmit => (howner hretransmit).trans hsequence.symm
    · rw [filterMap_cons_some hop, append_cons]
      exact hrest ((sequenceAfter_concat ..).trans hsequence) (htimers ▸ h.cancel hook)
    · rw [filterMap_cons_none hop]
      exact hrest hsequence (htimers ▸ h)

/-- The timers a deactivation cancels are logged by its effects. -/
theorem deactivateTimers_explained {identity : PeerIdentity} (hooks : List TimerHook)
    (st : HandlerState) (h : st.runtime.timers.Explained (log ++ st.effects.filterMap timerOp)) :
    let last := hooks.foldl (fun st hook => deactivateTimer st identity hook) st
    last.runtime.timers.Explained (log ++ last.effects.filterMap timerOp) := by
  induction hooks generalizing st with
  | nil => exact h
  | cons hook hooks ih =>
    refine ih _ ?_
    have hcancelled := h.cancel hook
    rw [append_assoc] at hcancelled
    show (st.runtime.timers.cancel hook).2.Explained (log ++
      (st.effects ++ [cancelProtocolTimer identity hook
        (st.runtime.timers.cancel hook).1]).filterMap timerOp)
    rw [filterMap_append]
    exact hcancelled

private theorem filterMap_timerOp_of_others {effects : List RuntimeEffect}
    (h : ∀ effect ∈ effects, effect.isTimer = false) : effects.filterMap timerOp = [] := by
  refine filterMap_eq_nil_iff.mpr fun effect hmem => ?_
  have hother := h effect hmem
  cases effect with
  | armProtocolTimer | cancelProtocolTimer => cases hother
  | _ => rfl

theorem sequenceAfter_begins (event : PeerEvent) (s : PeerRuntime) (log : List TimerOp) :
    sequenceAfter (log ++ event.begins s) = sequenceAfter log := by
  unfold PeerEvent.begins
  split
  · split
    · exact sequenceAfter_concat ..
    · rw [append_nil]
  · rw [append_nil]

private theorem sequenceAfter_ends (event : PeerEvent) (s : PeerRuntime) (log : List TimerOp) :
    sequenceAfter (log ++ event.ends s) = sequenceAfter log := by
  unfold PeerEvent.ends
  split
  · split
    · exact sequenceAfter_concat ..
    · rw [append_nil]
  · rw [append_nil]

/-- The log explains the tokens after every event. -/
theorem handle_explained {batch : EffectBatch} (hs : s.Clocked)
    (hevent : event.Admissible s) (hindex : event.peerIndex = s.peerIndex)
    (h : s.handle c p event = some (after, batch)) (hlog : s.timers.Explained log)
    (hsequence : sequenceAfter log = s.retrySequence) :
    after.timers.Explained (log ++ event.begins s ++ s.sequenced after ++
      batch.effects.filterMap timerOp ++ event.ends s) := by
  obtain ⟨st, hst, -, hfinal⟩ := handle_finalized h
  have hturn := handleEvent_turn hst
  by_cases hstays : event.Stays s
  · have hends : event.ends s = [] := by
      cases event with
      | deactivationRequested request => exact if_neg (by rw [hstays request rfl]; decide)
      | _ => rfl
    have hbegins : s.timers.Explained (log ++ event.begins s) := by
      cases event with
      | activationRequested request =>
        unfold PeerEvent.begins
        simp only
        split
        · exact hlog.activate (hs.stopped (not_transport_of_admissible hevent))
        · exact (append_nil log).symm ▸ hlog
      | _ => exact (append_nil log).symm ▸ hlog
    have hafter : after.retrySequence = st.runtime.retrySequence := by
      obtain ⟨timers, intent, hkept⟩ := (finalizeTimerEffects_spec st.effects st.runtime).1
      rw [hfinal] at hkept
      exact (congrArg retrySequence hkept).trans rfl
    have hgranted := finalizeTimerEffects_explained (hturn.own hindex hstays)
      (hturn.timers hstays ▸ explained_sequenced hbegins)
      ((sequenceAfter_sequenced ((sequenceAfter_begins ..).trans hsequence)).trans hafter)
    rw [hfinal] at hgranted
    rw [hends, append_nil]
    exact hgranted
  · obtain ⟨request, rfl, hcur⟩ := PeerEvent.not_stays hstays
    cases hst
    have hreset := (handleDeactivationRequested_spec hcur).1
    rw [finalizeTimerEffects_stale hreset.activation] at hfinal
    obtain ⟨rfl, heff⟩ : (s.handleDeactivationRequested request).runtime = after ∧
        (s.handleDeactivationRequested request).effects = batch.effects :=
      ⟨congrArg Prod.snd hfinal, congrArg Prod.fst hfinal⟩
    have hends : (PeerEvent.deactivationRequested request).ends s = [.deactivate] := if_pos hcur
    have hbegins : (PeerEvent.deactivationRequested request).begins s = [] := rfl
    rw [hends, hbegins, append_nil, ← heff]
    have hstart : Explained s.timers (log ++
        s.sequenced (s.handleDeactivationRequested request).runtime ++
          (s.givenUp request.peer).effects.filterMap timerOp) := by
      rw [filterMap_timerOp_of_others givenUp_isTimer, append_nil]
      exact explained_sequenced hlog
    generalize log ++ s.sequenced _ = log at hstart ⊢
    rw [handleDeactivationRequested_eq hcur]
    simp only
    split
    · exact (deactivateTimers_explained timerHooks (s.givenUp request.peer) hstart).cancelAll
    · exact hstart.cancelAll

end Logs

/-! ## Expiries -/

section Expiries

variable {event : ProtocolTimerExpiredEvent}

/-- An expiry that passes the checks cancels its hook, whatever else it does. -/
theorem handleProtocolTimerExpired_ne_iff :
    s.handleProtocolTimerExpired c p event ≠ ⟨s, []⟩ ↔ s.isCurrentExpiry event := by
  unfold handleProtocolTimerExpired
  by_cases hcur : s.isCurrentExpiry event
  · rw [if_neg (by simp [hcur])]
    refine iff_of_true (fun heq => ?_) hcur
    have hcancelled {st : HandlerState}
        (h : (cancel ⟨s, []⟩ event.peer event.hook).effects ⊆ st.effects) :
        st ≠ ⟨s, []⟩ := by
      rintro rfl
      exact not_mem_nil (h mem_cons_self)
    revert heq
    simp only
    refine hcancelled ?_
    split
    · exact Subset.refl _
    split
    · exact Subset.refl _
    split
    · exact (expireRetransmitHandshake_work (c := c) (p := p) False.elim).subset
    · exact (expireSendKeepalive_work (c := c) (p := p) False.elim).subset
    · exact (expireNewHandshake_work (c := c) (p := p) False.elim).subset
    · exact (expirePersistentKeepalive_work (c := c) (p := p) False.elim).subset
    · exact Subset.refl _
  · rw [if_pos (eq_false_iff.mpr hcur)]
    exact iff_of_false (fun hne => hne rfl) hcur

/-- The expiry of a token passes the checks exactly if the token is live and, for a handshake's
retransmission, belongs to the current retry sequence. -/
theorem isCurrentExpiry_iff (hs : s.Clocked) (hactivated : s.Activated) (hpeer : event.peer =
      ⟨event.token.owner.peerIndex, event.token.owner.activationGeneration⟩)
    (hhook : event.hook = event.token.hook) :
    s.isCurrentExpiry event ↔ s.timers.live event.token.hook = some event.token ∧
      (event.hook = .retransmitHandshake →
        event.token.owner.protocolSequence = s.retrySequence) := by
  unfold isCurrentExpiry isCurrent
  simp only [and_eq_true, decide_eq_true_eq]
  constructor
  · rintro ⟨-, ⟨⟨-, howner⟩, harmed⟩, htoken⟩
    refine ⟨?_, fun hretransmit => ?_⟩
    · unfold live isArmed
      rw [if_pos harmed, htoken]
    · rw [howner]
      exact if_pos hretransmit
  · rintro ⟨hlive, hsequence⟩
    have harmed : s.timers.isArmed event.token.hook := by
      rw [← live_isSome, hlive]
      rfl
    have htrans : s.isInTransportState := by
      by_contra hnot
      exact Bool.noConfusion ((hs.stopped (Bool.eq_false_iff.mpr hnot) _).symm.trans harmed)
    have hsome : s.hasProtocolPeer := by
      by_contra hnone
      exact Bool.noConfusion ((hs.peerless (Bool.eq_false_iff.mpr hnone) _).symm.trans harmed)
    obtain ⟨-, hgen, -, hact, hzero⟩ := hs.owned _ _ hlive
    have htoken : (s.timers.hooks event.token.hook).token = event.token := by
      unfold live at hlive
      rw [if_pos harmed] at hlive
      exact Option.some.inj hlive
    have hcur : s.isCurrentActivation event.peer.activationGeneration := by
      rw [hpeer]
      show s.isCurrentActivation event.token.owner.activationGeneration
      rw [hact]
      exact isCurrentActivation_self (hactivated.transport htrans).1
    have howner : event.token.owner.protocolSequence = if event.hook = .retransmitHandshake then
        s.device.peer.handshakeRetry.sequenceCount else 0 := by
      by_cases hretransmit : event.hook = .retransmitHandshake
      · rw [if_pos hretransmit]
        exact hsequence hretransmit
      · rw [if_neg hretransmit]
        exact hzero (hhook ▸ hretransmit)
    refine ⟨⟨⟨⟨⟨hcur, hhook.symm⟩, by rw [hpeer]⟩, by rw [hpeer]⟩, hsome⟩,
      ⟨⟨hgen, ?_⟩, harmed⟩, htoken⟩
    unfold currentOwner
    rw [hpeer, ← howner]

end Expiries

/-! ## Every run -/

section Runs

variable {run : Watched (List TimerOp)}

theorem configured_clocked {s : PeerRuntime} (h : s.Configured) : s.Clocked := by
  obtain ⟨peerIndex, config, derived, now, hconf⟩ := h
  unfold configure at hconf
  rw [if_neg (by decide)] at hconf
  cases hconf
  exact ⟨timed_of_unarmed (fun _ => rfl) (nofun), fun _ _ => rfl⟩

private theorem configured_explained {s : PeerRuntime} (h : s.Configured) :
    s.timers.Explained [] ∧ sequenceAfter [] = s.retrySequence := by
  obtain ⟨peerIndex, config, derived, now, hconf⟩ := h
  unfold configure at hconf
  rw [if_neg (by decide)] at hconf
  cases hconf
  exact ⟨explained_nil (fun _ => rfl) rfl, rfl⟩

private theorem loggedPeers_clocked (h : (loggedPeers c).Reachable run) :
    run.peer.Clocked ∧ run.peer.timers.Explained run.seen ∧
      sequenceAfter run.seen = run.peer.retrySequence := by
  refine watchedWhere_invariant (P := fun run => run.peer.Clocked ∧
    run.peer.timers.Explained run.seen ∧ sequenceAfter run.seen = run.peer.retrySequence) ?_ ?_ h
  · intro s hconfigured
    exact ⟨configured_clocked hconfigured, configured_explained hconfigured⟩
  · rintro run p event after batch hsound - hevent hindex ⟨hs, hlog, hsequence⟩ hhandle
    refine ⟨handle_clocked hsound hs hevent hindex hhandle,
      handle_explained hs hevent hindex hhandle hlog hsequence, ?_⟩
    unfold logTimers
    rw [sequenceAfter_ends, sequenceAfter_timerOps]
    exact sequenceAfter_sequenced ((sequenceAfter_begins ..).trans hsequence)

/-- The protocol's record of the timers and the tokens agree in every run.  The expiry of a token
is acted on exactly if nothing cancelled its hook, armed it again or ended the activation after the
request that was granted it and, for a handshake's retransmission, the retry sequence is still the
one of that request. -/
theorem timers_mirror_tokens (h : (loggedPeers c).Reachable run) :
    (run.peer.hasProtocolPeer = true → ∀ hook,
      (run.peer.device.peer.timers.hooks hook).pending = true ↔
        run.peer.timers.isArmed hook = true) ∧
    ∀ (p : Platform) (event : ProtocolTimerExpiredEvent),
      event.peer = ⟨event.token.owner.peerIndex, event.token.owner.activationGeneration⟩ →
      event.hook = event.token.hook →
      (.arm event.token ∉ run.seen →
        run.peer.handleProtocolTimerExpired c p event = ⟨run.peer, []⟩) ∧
      ∀ before after, run.seen = before ++ .arm event.token :: after →
        1 + issued run.seen < 2 ^ 32 - 1 →
        (run.peer.handleProtocolTimerExpired c p event ≠ ⟨run.peer, []⟩ ↔
          (∀ op ∈ after, op.concerns event.hook = false) ∧
          (event.hook = .retransmitHandshake →
            sequenceAfter run.seen = sequenceAfter before)) := by
  obtain ⟨hs, hlog, hsequence⟩ := loggedPeers_clocked h
  have hactivated := watchedWhere_activated h
  refine ⟨fun hpeer hook => by rw [hs.mirror hpeer hook], fun p event hpeer hhook => ⟨?_, ?_⟩⟩
  · intro hunknown
    by_contra hacts
    rw [← Ne, handleProtocolTimerExpired_ne_iff, isCurrentExpiry_iff hs hactivated hpeer hhook]
      at hacts
    exact hlog.not_live hunknown _ hacts.1
  · intro before after hseen hfew
    rw [handleProtocolTimerExpired_ne_iff, isCurrentExpiry_iff hs hactivated hpeer hhook,
      hlog.live_iff hseen hfew, hhook, hsequence]
    refine and_congr_right fun _ => forall_congr' fun hretransmit => ?_
    rw [(hlog.dated before event.token after hseen).2 hretransmit]
    exact eq_comm

/-- What happened to the timers of the sample peer until its first session. -/
def sampleTimerLog : List TimerOp :=
  [.activate, .sequence 1, .cancel .sendKeepalive, .arm ⟨.retransmitHandshake, ⟨0, 1, 1⟩, 3⟩,
    .cancel .newHandshake, .arm ⟨.zeroKeyMaterial, ⟨0, 1, 0⟩, 5⟩, .cancel .retransmitHandshake]

/-- In the sample run the expiry of the first session's keys is acted on, and that of the
handshake's retransmission, which the session cancelled, is not. -/
theorem timers_mirror_tokens_sample : ∃ run, (loggedPeers .transparent).Reachable run ∧
    run.seen = sampleTimerLog ∧
    run.peer.handleProtocolTimerExpired .transparent (.constant 0 0)
      ⟨⟨0, 1⟩, .zeroKeyMaterial, ⟨.zeroKeyMaterial, ⟨0, 1, 0⟩, 5⟩, ⟨0, 0⟩, 0⟩ ≠ ⟨run.peer, []⟩ ∧
    run.peer.handleProtocolTimerExpired .transparent (.constant 0 0)
      ⟨⟨0, 1⟩, .retransmitHandshake, ⟨.retransmitHandshake, ⟨0, 1, 1⟩, 3⟩, ⟨0, 0⟩, 0⟩ =
        ⟨run.peer, []⟩ := by
  have hrun : (sampleWatched [] logTimers (fun run event => event.peerIndex = run.peer.peerIndex)
      sampleEstablished).map Watched.seen = some sampleTimerLog := by
    decide +kernel
  obtain ⟨run, hrun, hseen⟩ := Option.map_eq_some_iff.mp hrun
  have hreach : (loggedPeers .transparent).Reachable run := sampleWatched_reachable hrun
  have hfew : 1 + issued run.seen < 2 ^ 32 - 1 := by
    rw [hseen]
    decide
  refine ⟨run, hreach, hseen, ?_, ?_⟩
  · refine (((timers_mirror_tokens hreach).2 (.constant 0 0)
      ⟨⟨0, 1⟩, .zeroKeyMaterial, ⟨.zeroKeyMaterial, ⟨0, 1, 0⟩, 5⟩, ⟨0, 0⟩, 0⟩ rfl rfl).2
      (sampleTimerLog.take 5) (sampleTimerLog.drop 6) hseen hfew).mpr ⟨by decide, nofun⟩
  · have hacts := ((timers_mirror_tokens hreach).2 (.constant 0 0)
      ⟨⟨0, 1⟩, .retransmitHandshake, ⟨.retransmitHandshake, ⟨0, 1, 1⟩, 3⟩, ⟨0, 0⟩, 0⟩ rfl rfl).2
      (sampleTimerLog.take 3) (sampleTimerLog.drop 4) hseen hfew
    by_contra hne
    exact absurd ((hacts.mp hne).1 (.cancel .retransmitHandshake) (by decide)) (by decide)

end Runs

end WireguardNx.Runtime
