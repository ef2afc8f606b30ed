import WireguardNx.Laws.Indices

/-!
# What a batch does to the timers

Handlers only ask for timers: the requests are effects, and they are granted in order when the batch
is finished.  `live` is the token of a hook that is armed.  This module says what a finished batch
does to it, that the protocol's own record of its timers follows, and that no handler writes either
of them directly.
-/

namespace WireguardNx.Wireguard

/-- The token of an armed hook. -/
def TimerCoordinator.live (timers : TimerCoordinator) (hook : TimerHook) : Option TimerToken :=
  if timers.isArmed hook then some (timers.hooks hook).token else none

theorem TimerCoordinator.live_isSome (timers : TimerCoordinator) (hook : TimerHook) :
    (timers.live hook).isSome = timers.isArmed hook := by
  unfold live
  by_cases h : timers.isArmed hook
  · rw [if_pos h, h]; rfl
  · rw [if_neg h, Bool.eq_false_iff.mpr h]; rfl

theorem TimerCoordinator.live_eq_none_iff {timers : TimerCoordinator} {hook : TimerHook} :
    timers.live hook = none ↔ timers.isArmed hook = false := by
  rw [← timers.live_isSome, Option.isSome_eq_false_iff, Option.isNone_iff_eq_none]

theorem TimerCoordinator.live_arm (timers : TimerCoordinator) (armed hook : TimerHook)
    (owner : TimerOwner) : (timers.arm armed owner).2.live hook =
      if hook = armed then some (timers.arm armed owner).1 else timers.live hook := by
  unfold live isArmed arm
  by_cases h : hook = armed
  · rw [h]; simp
  · simp [h]

theorem TimerCoordinator.live_cancel (timers : TimerCoordinator) (cancelled hook : TimerHook) :
    (timers.cancel cancelled).2.live hook =
      if hook = cancelled then none else timers.live hook := by
  unfold live isArmed cancel
  by_cases h : hook = cancelled
  · rw [h]; simp [HookState.empty]
  · simp [h]

theorem WgTimers.pending_schedule (timers : WgTimers) (hook armed : TimerHook)
    (deadline : TimerDeadline) :
    (((timers.cancel armed).schedule armed deadline).hooks hook).pending =
      if hook = armed then true else (timers.hooks hook).pending := by
  unfold WgTimers.schedule WgTimers.cancel
  by_cases h : hook = armed
  · rw [h]; simp
  · by_cases hpend : (timers.hooks armed).pending
    · simp [h, hpend]
    · simp [h, hpend]

theorem WgTimers.pending_cancel (timers : WgTimers) (hook cancelled : TimerHook) :
    ((timers.cancel cancelled).hooks hook).pending =
      if hook = cancelled then false else (timers.hooks hook).pending := by
  unfold WgTimers.cancel
  by_cases h : hook = cancelled
  · rw [h]
    by_cases hpend : (timers.hooks cancelled).pending
    · simp [hpend]
    · simp [hpend]
  · by_cases hpend : (timers.hooks cancelled).pending
    · simp [h, hpend]
    · simp [h, hpend]

end WireguardNx.Wireguard

namespace WireguardNx.Runtime

open Wireguard PeerRuntime HandlerState TimerCoordinator RuntimeEffect List

/-! ## One effect -/

def RuntimeEffect.isArm : RuntimeEffect → Bool
  | .armProtocolTimer _ _ _ _ => true
  | _ => false

/-- An effect about a timer is for the current activation of the peer, and has no token yet. -/
def RuntimeEffect.IsOwn (s : PeerRuntime) : RuntimeEffect → Prop
  | .armProtocolTimer who _ token _ => s.isCurrentActivation who.activationGeneration = true ∧
      who.peerIndex = s.peerIndex ∧ token = .empty
  | .cancelProtocolTimer who _ _ => s.isCurrentActivation who.activationGeneration = true ∧
      who.peerIndex = s.peerIndex
  | _ => True

def RuntimeEffect.fate (hook : TimerHook) (armed : Bool) : RuntimeEffect → Bool
  | .armProtocolTimer _ which _ _ => if hook = which then true else armed
  | .cancelProtocolTimer _ which _ => if hook = which then false else armed
  | _ => armed

def fateAfter (hook : TimerHook) (effects : List RuntimeEffect) (armed : Bool) : Bool :=
  effects.foldl (RuntimeEffect.fate hook) armed

/-- The tokens and the protocol's own record of the timers agree, and every token is the current
activation's. -/
structure PeerRuntime.Timed (s : PeerRuntime) : Prop where
  mirror : s.hasProtocolPeer = true →
    ∀ hook, (s.device.peer.timers.hooks hook).pending = s.timers.isArmed hook
  peerless : s.hasProtocolPeer = false → ∀ hook, s.timers.isArmed hook = false
  owned : ∀ hook token, s.timers.live hook = some token →
    token.hook = hook ∧ token.generation ≠ 0 ∧ token.owner.peerIndex = s.peerIndex ∧
      token.owner.activationGeneration = s.lifecycle.activationGeneration ∧
      (hook ≠ .retransmitHandshake → token.owner.protocolSequence = 0)

section Effects

variable {s : PeerRuntime} {effect : RuntimeEffect} {effects : List RuntimeEffect}

theorem takeGeneration_ne_zero (next : UInt32) : (takeGeneration next).1 ≠ 0 := by
  unfold takeGeneration
  split
  · decide
  · assumption

/-- What a request for a timer comes to when the batch is finished. -/
theorem finalizeTimerEffect_cases (h : effect.IsOwn s) :
    (∃ who hook deadline, effect = .armProtocolTimer who hook .empty deadline ∧
      who.peerIndex = s.peerIndex ∧
      who.activationGeneration = s.lifecycle.activationGeneration ∧
      ((s.hasProtocolPeer = false ∧ s.finalizeTimerEffect effect = (effect, s)) ∨
        (s.hasProtocolPeer ∧
          s.finalizeTimerEffect effect =
            (.armProtocolTimer who hook (s.timers.arm hook (s.currentOwner who hook)).1 deadline,
              s.withTimers (s.timers.arm hook (s.currentOwner who hook)).2
                ((s.device.peer.timers.cancel hook).schedule hook deadline))))) ∨
      (∃ who hook token, effect = .cancelProtocolTimer who hook token ∧
        s.finalizeTimerEffect effect = (.cancelProtocolTimer who hook (s.timers.cancel hook).1,
            s.withTimers (s.timers.cancel hook).2 (if s.hasProtocolPeer then
              s.device.peer.timers.cancel hook else s.device.peer.timers))) ∨
      (effect.isTimer = false ∧ s.finalizeTimerEffect effect = (effect, s)) := by
  cases effect with
  | armProtocolTimer who hook token deadline =>
    obtain ⟨hcur, hindex, rfl⟩ := h
    have hgen := eq_of_isCurrentActivation hcur
    refine .inl ⟨who, hook, deadline, rfl, hindex, hgen, ?_⟩
    unfold finalizeTimerEffect
    by_cases hpeer : s.hasProtocolPeer
    · refine .inr ⟨hpeer, ?_⟩
      simp only
      rw [if_neg (by simp [hcur, hindex, hpeer])]
      rfl
    · rw [Bool.not_eq_true] at hpeer
      refine .inl ⟨hpeer, ?_⟩
      simp only
      rw [if_pos (.inr (.inr hpeer))]
  | cancelProtocolTimer who hook token =>
    obtain ⟨hcur, hindex⟩ := h
    refine .inr (.inl ⟨who, hook, token, rfl, ?_⟩)
    unfold finalizeTimerEffect
    simp only
    rw [if_neg (by simp [hcur, hindex])]
    by_cases hpeer : s.hasProtocolPeer
    · rw [if_pos hpeer, if_pos hpeer]
      rfl
    · rw [if_neg hpeer, if_neg hpeer]
      rfl
  | _ => exact .inr (.inr ⟨rfl, rfl⟩)

theorem RuntimeEffect.IsOwn.congr {t : PeerRuntime} (h : effect.IsOwn s)
    (hact : t.lifecycle.activationGeneration = s.lifecycle.activationGeneration)
    (hindex : t.peerIndex = s.peerIndex) : effect.IsOwn t := by
  have hcur (generation : UInt32) :
      t.isCurrentActivation generation = s.isCurrentActivation generation := by
    unfold isCurrentActivation
    rw [hact]
  cases effect with
  | armProtocolTimer who _ token _ =>
    obtain ⟨hwho, hwhoIndex, htoken⟩ := h
    exact ⟨(hcur _).trans hwho, hwhoIndex.trans hindex.symm, htoken⟩
  | cancelProtocolTimer who _ _ =>
    obtain ⟨hwho, hwhoIndex⟩ := h
    exact ⟨(hcur _).trans hwho, hwhoIndex.trans hindex.symm⟩
  | _ => exact trivial

/-- Granting a request keeps the two records in agreement. -/
theorem finalizeTimerEffect_timed (h : effect.IsOwn s) (hs : s.Timed) :
    (s.finalizeTimerEffect effect).2.Timed := by
  obtain ⟨who, hook, deadline, -, hindex, hgen, ⟨-, hfinal⟩ | ⟨hpeer, hfinal⟩⟩ |
    ⟨who, hook, token, -, hfinal⟩ | ⟨-, hfinal⟩ := finalizeTimerEffect_cases h
  · rw [hfinal]
    exact hs
  · rw [hfinal]
    refine ⟨fun _ other => ?_, fun hnone => ?_, fun other token hlive => ?_⟩
    · show (((s.device.peer.timers.cancel hook).schedule hook deadline).hooks other).pending = _
      rw [WgTimers.pending_schedule, ← live_isSome]
      show _ = ((s.timers.arm hook (s.currentOwner who hook)).2.live other).isSome
      rw [live_arm]
      split
      · rfl
      · rw [live_isSome]
        exact hs.mirror hpeer other
    · exact Bool.noConfusion (hpeer.symm.trans hnone)
    · change (s.timers.arm hook (s.currentOwner who hook)).2.live other = some token at hlive
      rw [live_arm] at hlive
      split at hlive
      · rename_i hsame
        cases hlive
        refine ⟨hsame.symm, takeGeneration_ne_zero _, hindex, hgen, fun hne => ?_⟩
        exact if_neg (hsame ▸ hne)
      · exact hs.owned other token hlive
  · rw [hfinal]
    refine ⟨fun hpeer other => ?_, fun hnone other => ?_, fun other token hlive => ?_⟩
    · have hpeer' : s.hasProtocolPeer := hpeer
      show ((if s.hasProtocolPeer = true then s.device.peer.timers.cancel hook
        else s.device.peer.timers).hooks other).pending = (s.timers.cancel hook).2.isArmed other
      rw [if_pos hpeer', WgTimers.pending_cancel, ← live_isSome,
        live_cancel]
      split
      · rfl
      · rw [live_isSome]
        exact hs.mirror hpeer' other
    · show (s.timers.cancel hook).2.isArmed other = false
      rw [← live_eq_none_iff, live_cancel]
      split
      · rfl
      · exact live_eq_none_iff.mpr (hs.peerless hnone other)
    · change (s.timers.cancel hook).2.live other = some token at hlive
      rw [live_cancel] at hlive
      split at hlive
      · cases hlive
      · exact hs.owned other token hlive
  · rw [hfinal]
    exact hs

variable {hook : TimerHook}

private theorem finalizeTimerEffect_fate (h : effect.IsOwn s) (hpeer : s.hasProtocolPeer)
    : (s.finalizeTimerEffect effect).2.timers.isArmed hook =
      effect.fate hook (s.timers.isArmed hook) := by
  obtain ⟨who, armed, deadline, rfl, -, -, ⟨hnone, -⟩ | ⟨-, hfinal⟩⟩ |
    ⟨who, cancelled, token, rfl, hfinal⟩ | ⟨hother, hfinal⟩ := finalizeTimerEffect_cases h
  · exact Bool.noConfusion (hpeer.symm.trans hnone)
  · rw [hfinal]
    show (s.timers.arm armed (s.currentOwner who armed)).2.isArmed hook =
      if hook = armed then true else s.timers.isArmed hook
    rw [← live_isSome, live_arm]
    by_cases hsame : hook = armed
    · rw [if_pos hsame, if_pos hsame]
      rfl
    · rw [if_neg hsame, if_neg hsame, live_isSome]
  · rw [hfinal]
    show (s.timers.cancel cancelled).2.isArmed hook =
      if hook = cancelled then false else s.timers.isArmed hook
    rw [← live_isSome, live_cancel]
    by_cases hsame : hook = cancelled
    · rw [if_pos hsame, if_pos hsame]
      rfl
    · rw [if_neg hsame, if_neg hsame, live_isSome]
  · rw [hfinal]
    cases effect with
    | armProtocolTimer | cancelProtocolTimer => cases hother
    | _ => rfl

/-! ## A batch -/

theorem finalizeTimerEffects_cons (effects : List RuntimeEffect) :
    finalizeTimerEffects (effect :: effects) s = ((s.finalizeTimerEffect effect).1 ::
        (finalizeTimerEffects effects (s.finalizeTimerEffect effect).2).1,
      (finalizeTimerEffects effects (s.finalizeTimerEffect effect).2).2) := rfl

/-- Granting a request changes neither the activation nor whether there is a protocol peer. -/
theorem finalizeTimerEffect_keeps (s : PeerRuntime) (effect : RuntimeEffect) :
    (s.finalizeTimerEffect effect).2.lifecycle = s.lifecycle ∧
      (s.finalizeTimerEffect effect).2.peerIndex = s.peerIndex ∧
      (s.finalizeTimerEffect effect).2.hasProtocolPeer = s.hasProtocolPeer := by
  obtain ⟨⟨timers, intent, hfinal⟩, -⟩ := finalizeTimerEffect_spec s effect
  rw [hfinal]
  exact ⟨rfl, rfl, rfl⟩

theorem RuntimeEffect.IsOwn.finalized {other : RuntimeEffect} (h : other.IsOwn s) :
    other.IsOwn (s.finalizeTimerEffect effect).2 := by
  obtain ⟨hlifecycle, hindex, -⟩ := finalizeTimerEffect_keeps s effect
  exact h.congr (congrArg (·.activationGeneration) hlifecycle) hindex

theorem finalizeTimerEffects_timed (h : ∀ effect ∈ effects, effect.IsOwn s) (hs : s.Timed) :
    (finalizeTimerEffects effects s).2.Timed := by
  induction effects generalizing s with
  | nil => exact hs
  | cons effect effects ih =>
    rw [finalizeTimerEffects_cons]
    refine ih (fun other hmem => ?_)
      (finalizeTimerEffect_timed (h effect mem_cons_self) hs)
    exact IsOwn.finalized (h other (mem_cons_of_mem _ hmem))

theorem finalizeTimerEffects_fate (h : ∀ effect ∈ effects, effect.IsOwn s)
    (hpeer : s.hasProtocolPeer) (hook : TimerHook) :
    (finalizeTimerEffects effects s).2.timers.isArmed hook =
      fateAfter hook effects (s.timers.isArmed hook) := by
  induction effects generalizing s with
  | nil => rfl
  | cons effect effects ih =>
    rw [finalizeTimerEffects_cons]
    refine (ih (fun other hmem => ?_) ?_).trans ?_
    · exact IsOwn.finalized (h other (mem_cons_of_mem _ hmem))
    · exact (finalizeTimerEffect_keeps s effect).2.2.trans hpeer
    · rw [finalizeTimerEffect_fate (h effect mem_cons_self) hpeer]
      rfl

/-- Without a request to arm, nothing is armed that was not. -/
theorem fateAfter_of_armless (h : ∀ effect ∈ effects, effect.isArm = false) :
    fateAfter hook effects false = false := by
  induction effects with
  | nil => rfl
  | cons effect effects ih =>
    have hfirst : effect.fate hook false = false := by
      cases effect with
      | armProtocolTimer => exact absurd (h _ mem_cons_self) (by simp [isArm])
      | cancelProtocolTimer _ which _ => exact ite_self false
      | _ => rfl
    unfold fateAfter
    rw [foldl_cons, hfirst]
    exact ih fun other hmem => h other (mem_cons_of_mem _ hmem)

/-- Without a request to arm, a hook that is cancelled once stays so. -/
theorem fateAfter_of_cancel {who : PeerIdentity} {token : TimerToken}
    (harmless : ∀ effect ∈ effects, effect.isArm = false)
    (hmem : .cancelProtocolTimer who hook token ∈ effects) (armed : Bool) :
    fateAfter hook effects armed = false := by
  obtain ⟨before, rest, rfl⟩ := append_of_mem hmem
  unfold fateAfter
  rw [foldl_append, foldl_cons]
  have hcancelled : fate hook
      (before.foldl (fate hook) armed) (.cancelProtocolTimer who hook token) =
        false := if_pos rfl
  rw [hcancelled]
  exact fateAfter_of_armless fun other hother =>
    harmless other (mem_append_right _ (mem_cons_of_mem _ hother))

end Effects

/-! ## Traffic -/

/-- What no step of a handler writes of a device: the record of its timers, whether it has a peer
and the keepalive interval. -/
structure WgDevice.SameRecord (device after : WgDevice) : Prop where
  hooks : after.peer.timers.hooks = device.peer.timers.hooks
  hasPeer : after.hasPeer = device.hasPeer
  interval : after.peer.persistentKeepaliveInterval = device.peer.persistentKeepaliveInterval

theorem WgDevice.SameRecord.trans {first second third : WgDevice}
    (h₁ : WgDevice.SameRecord first second) (h₂ : WgDevice.SameRecord second third) :
    WgDevice.SameRecord first third :=
  ⟨h₂.hooks.trans h₁.hooks, h₂.hasPeer.trans h₁.hasPeer, h₂.interval.trans h₁.interval⟩

/-- The number of effects that do not arm a timer. -/
def HandlerState.rest (st : HandlerState) : Nat := st.effects.countP fun effect => !effect.isArm

section Traffic

variable {c : Crypto} {p : Platform} {identity : PeerIdentity} {st mid after : HandlerState}
  {device : WgDevice}

theorem DeviceOp.sameRecord {after : WgDevice} (h : DeviceOp c p device after) :
    WgDevice.SameRecord device after := by
  obtain hstep | ⟨_, rfl⟩ := h.step
  · exact ⟨congrArg WgTimers.hooks hstep.timers, hstep.hasPeer, hstep.interval⟩
  · exact ⟨rfl, rfl, rfl⟩

theorem Looked.sameRecord {first last : WgDevice} (h : Looked c p first last) :
    WgDevice.SameRecord first last := by
  obtain ⟨hops, -, -⟩ := h
  induction hops with
  | refl => exact ⟨rfl, rfl, rfl⟩
  | tail _ hop ih => exact ih.trans hop.sameRecord

theorem beginSession_sameRecord {derived : WgDevice} {ok : Bool}
    (h : noiseHandshakeBeginSession c p device = (ok, derived)) :
    WgDevice.SameRecord device derived := by
  unfold noiseHandshakeBeginSession at h
  simp only at h
  iterate 3 (split at h; · cases h; exact ⟨rfl, rfl, rfl⟩)
  cases h
  unfold WgPeer.installKeypair
  split
  · split
    · exact ⟨rfl, rfl, rfl⟩
    · exact ⟨rfl, rfl, rfl⟩
  · exact ⟨rfl, rfl, rfl⟩

theorem DeriveOp.sameRecord {after : WgDevice} (h : DeriveOp c p device after) :
    WgDevice.SameRecord device after := by
  cases h with
  | responder hbegin => exact beginSession_sameRecord hbegin
  | initiator hbegin => exact (beginSession_sameRecord hbegin).trans ⟨rfl, rfl, rfl⟩

private theorem scrubbedDevice_sameRecord {s : PeerRuntime} :
    WgDevice.SameRecord s.device s.scrubbedDevice := by
  unfold scrubbedDevice
  split
  · exact ⟨rfl, rfl, rfl⟩
  · exact ⟨rfl, rfl, rfl⟩

theorem enterActivationError_sameRecord (st : HandlerState) (stage : PeerErrorStage)
    (code : PeerErrorCode) (now : Ktime) : WgDevice.SameRecord st.runtime.device
      (st.enterActivationError stage code now).runtime.device := by
  rw [enterActivationError_eq]
  exact scrubbedDevice_sameRecord

theorem Work.sameRecord (h : Traffic c p identity st after) :
    WgDevice.SameRecord st.runtime.device after.runtime.device := by
  induction h with
  | refl _ => exact ⟨rfl, rfl, rfl⟩
  | step _ hstep ih =>
    refine ih.trans ?_
    cases hstep with
    | emit effect _ | queue | fill bytes packetId kind _ | free | listen | zero =>
      exact ⟨rfl, rfl, rfl⟩
    | note runtime _ hwork _ _ =>
      have hdev := congrArg Prod.fst hwork
      exact ⟨congrArg (·.peer.timers.hooks) hdev, congrArg (·.hasPeer) hdev,
        congrArg (·.peer.persistentKeepaliveInterval) hdev⟩
    | operate device hop => exact hop.sameRecord
    | fail stage code now => exact enterActivationError_sameRecord _ stage code now
  | derive _ hderive _ _ ih ihRest => exact (ih.trans hderive.sameRecord).trans ihRest

/-- Traffic changes neither the activation nor the tokens. -/
theorem Work.activation (h : Traffic c p identity st after) :
    after.runtime.lifecycle.activationGeneration = st.runtime.lifecycle.activationGeneration ∧
      after.runtime.peerIndex = st.runtime.peerIndex ∧
      after.runtime.timers = st.runtime.timers ∧
      after.runtime.hasProtocolPeer = st.runtime.hasProtocolPeer := by
  have hpeer := h.sameRecord.hasPeer
  unfold hasProtocolPeer
  rw [hpeer]
  obtain hkept | hfailed := h.outcome
  · exact ⟨congrArg Setup.activationGeneration hkept.setup, congrArg Setup.peerIndex hkept.setup,
      congrArg Setup.timers hkept.setup, congrArg (Setup.instantiated · && _) hkept.setup⟩
  · exact ⟨congrArg Setup.activationGeneration hfailed.setup,
      congrArg Setup.peerIndex hfailed.setup, congrArg Setup.timers hfailed.setup,
      congrArg (Setup.instantiated · && _) hfailed.setup⟩

theorem rest_add (st : HandlerState) (effect : RuntimeEffect) :
    (st.add effect).rest = st.rest + if effect.isArm then 0 else 1 := by
  unfold rest add
  rw [countP_append, countP_singleton]
  cases effect.isArm <;> rfl

/-- Entering the error state cancels every timer. -/
theorem rest_enterActivationError {st : HandlerState} {stage : PeerErrorStage}
    {code : PeerErrorCode} {now : Ktime}
    (hact : st.runtime.lifecycle.activationGeneration ≠ 0) :
    st.rest + 5 ≤ (st.enterActivationError stage code now).rest ∧
      ∀ hook, ∃ who token, .cancelProtocolTimer who hook token ∈
        (st.enterActivationError stage code now).effects := by
  rw [enterActivationError_eq]
  unfold rest errorEffects
  rw [if_neg hact]
  refine ⟨?_, fun hook => ?_⟩
  · rw [countP_append, countP_append]
    have hcancels : (timerHooks.map fun hook => cancelProtocolTimer
        ⟨st.runtime.peerIndex, st.runtime.lifecycle.activationGeneration⟩ hook .empty).countP
          (fun effect => !effect.isArm) = 5 := rfl
    omega
  · have hhook : hook ∈ timerHooks := by cases hook <;> decide
    exact ⟨_, _, mem_append_right _ (mem_append_right _
      (mem_map.mpr ⟨hook, hhook, rfl⟩))⟩

theorem WorkStep.rest_le (h : TrafficStep c p identity st after) : st.rest ≤ after.rest := by
  cases h with
  | emit effect _ => rw [rest_add]; exact Nat.le_add_right _ _
  | note | operate | queue | free => exact Nat.le_refl _
  | fill | listen | zero => exact (rest_add _ _).symm ▸ Nat.le_add_right _ _
  | fail stage code now =>
    rw [enterActivationError_eq]
    unfold rest
    rw [countP_append]
    exact Nat.le_add_right _ _

theorem WorkStep.subset (h : TrafficStep c p identity st after) : st.effects ⊆ after.effects := by
  cases h with
  | emit effect _ | fill | listen | zero => exact subset_append_left _ _
  | note | operate | queue | free => exact Subset.refl _
  | fail stage code now =>
    rw [enterActivationError_eq]
    exact subset_append_left _ _

theorem Work.rest_le (h : Traffic c p identity st after) : st.rest ≤ after.rest := by
  induction h with
  | refl _ => exact Nat.le_refl _
  | step _ hstep ih => exact ih.trans hstep.rest_le
  | derive _ _ _ _ ih ihRest =>
    exact ih.trans (ihRest.trans ((rest_add _ _).symm ▸ Nat.le_add_right _ _))

theorem Work.subset (h : Traffic c p identity st after) : st.effects ⊆ after.effects := by
  induction h with
  | refl _ => exact Subset.refl _
  | step _ hstep ih => exact Subset.trans ih hstep.subset
  | derive _ _ _ _ ih ihRest =>
    exact Subset.trans ih (Subset.trans ihRest (subset_append_left _ _))

/-- Only a failure takes a peer to the error state. -/
theorem WorkStep.error (h : TrafficStep c p identity st after)
    (herror : after.runtime.lifecycle.state = .error) : st.runtime.lifecycle.state = .error ∨
      ∃ stage code now, after = st.enterActivationError stage code now := by
  cases h with
  | emit effect _ | operate | queue | fill | free | listen | zero => exact .inl herror
  | note runtime _ _ hstate _ =>
    obtain hsame | ⟨-, hactive⟩ := hstate
    · exact .inl (hsame.symm.trans herror)
    · exact PeerRuntimeState.noConfusion (hactive.symm.trans herror)
  | fail stage code now => exact .inr ⟨stage, code, now, rfl⟩

/-- Traffic that ends in the error state has cancelled every timer on the way. -/
theorem Work.fails (h : Traffic c p identity st after)
    (hstate : st.runtime.lifecycle.state ≠ .error)
    (hact : st.runtime.lifecycle.activationGeneration ≠ 0)
    (herror : after.runtime.lifecycle.state = .error) : st.rest + 5 ≤ after.rest ∧
      ∀ hook, ∃ who token, .cancelProtocolTimer who hook token ∈ after.effects := by
  induction h with
  | refl _ => exact absurd herror hstate
  | @step st mid after hbefore hstep ih =>
    by_cases hmid : mid.runtime.lifecycle.state = .error
    · obtain ⟨hrest, hcancels⟩ := ih hstate hact hmid
      refine ⟨hrest.trans hstep.rest_le, fun hook => ?_⟩
      obtain ⟨who, token, hmem⟩ := hcancels hook
      exact ⟨who, token, hstep.subset hmem⟩
    · obtain hsame | ⟨stage, code, now, rfl⟩ := hstep.error herror
      · exact absurd hsame hmid
      · obtain ⟨hrest, hcancels⟩ := rest_enterActivationError
          (hbefore.activation.1 ▸ hact)
        exact ⟨(Nat.add_le_add_right hbefore.rest_le 5).trans hrest, hcancels⟩
  | @derive st mid last device hbefore _ hrest deadline ih ihRest =>
    have harm : last.rest ≤ (last.arm identity .zeroKeyMaterial deadline).rest :=
      (rest_add _ _).symm ▸ Nat.le_add_right _ _
    by_cases hmid : mid.runtime.lifecycle.state = .error
    · obtain ⟨hle, hcancels⟩ := ih hstate hact hmid
      refine ⟨hle.trans (hrest.rest_le.trans harm), fun hook => ?_⟩
      obtain ⟨who, token, hmem⟩ := hcancels hook
      exact ⟨who, token, mem_append_left _ (hrest.subset hmem)⟩
    · obtain ⟨hle, hcancels⟩ := ihRest hmid (hbefore.activation.1 ▸ hact) herror
      refine ⟨(Nat.add_le_add_right hbefore.rest_le 5).trans (hle.trans harm), fun hook => ?_⟩
      obtain ⟨who, token, hmem⟩ := hcancels hook
      exact ⟨who, token, mem_append_left _ hmem⟩

end Traffic

end WireguardNx.Runtime
